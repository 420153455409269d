import ScriptHost.Proofs.Departing

/-!
Working on the script module of one game module while the game module is being initialized.
Files are added to it, it is built, gets its hooks and is asked for its listeners; it is not
discarded meanwhile, and nothing else is touched.
-/

namespace ScriptHost

namespace World

variable {held : Holdings} {before middle after world : World} {place script id : Nat}
  {module : ScriptModule}

/-- A script module is there under its number, is not discarded and has no other hooks than
those of a game module. -/
def Tended (place script id : Nat) (world : World) : Prop :=
  ∃ module, world.module? script = some module ∧ module.id = id ∧ module.state ≠ .discarded ∧
    ∀ hooks, module.hooks = some hooks → hooks = .game place

/-- What is left of a world in which a script module has been worked on. -/
structure Attends (place script id : Nat) (before after : World) : Prop where
  steady : before.Steady after
  silent : after.deliveries = before.deliveries
  changes : Scripts.Changes (Touch.working (Scripts.Alone script id)) before.scripts
    after.scripts
  tended : after.Tended place script id

theorem Tended.of_scripts (htended : before.Tended place script id)
    (hscripts : after.scripts = before.scripts) : after.Tended place script id := by
  obtain ⟨module, hmodule, hrest⟩ := htended
  exact ⟨module, (congrFun (congrArg Scripts.module? hscripts) script).trans hmodule, hrest⟩

/-- The script module is replaced, and that is all. -/
theorem Tended.of_put (htended : before.Tended place script id)
    (hmodule : before.module? script = some module) {changed : ScriptModule}
    (hscripts : after.scripts.module? script = some changed) (hid : changed.id = module.id)
    (hstate : changed.state ≠ .discarded)
    (hhooks : changed.hooks = module.hooks ∨ changed.hooks = some (.game place)) :
    after.Tended place script id := by
  obtain ⟨found, hfound, hid', -, hhooks'⟩ := htended
  rw [hmodule] at hfound
  cases hfound
  refine ⟨changed, hscripts, hid.trans hid', hstate, fun hooks hsome => ?_⟩
  rcases hhooks with hsame | hgame
  · exact hhooks' hooks (hsame ▸ hsome)
  · rw [hgame] at hsome
    exact (Option.some.inj hsome).symm

theorem Attends.trans (hfirst : Attends place script id before middle)
    (hsecond : Attends place script id middle after) : Attends place script id before after where
  steady := hfirst.steady.trans hsecond.steady
  silent := hsecond.silent.trans hfirst.silent
  changes := hfirst.changes.trans hsecond.changes
  tended := hsecond.tended

/-- Nothing is done to the script module. -/
theorem Attends.of_scripts (htended : before.Tended place script id)
    (hsteady : before.Steady after) (hsilent : after.deliveries = before.deliveries)
    (hscripts : after.scripts = before.scripts) : Attends place script id before after where
  steady := hsteady
  silent := hsilent
  changes := .of_eq hscripts
  tended := htended.of_scripts hscripts

/-- Whoever works on a script module may touch it. -/
theorem Tended.within (htended : world.Tended place script id) :
    world.Within (Touch.working (Scripts.Alone script id)) script := by
  obtain ⟨module, hmodule, rfl, -, -⟩ := htended
  intro found hfound
  rw [hmodule] at hfound
  cases hfound
  exact ⟨rfl, rfl⟩

/-- A sound world with an executor, in which a script module is worked on whose compiled
script is entered if it has one. -/
structure Ready (held : Holdings) (place script id : Nat) (world : World) : Prop where
  sound : world.Sound held
  running : world.isRunning = true
  entered : world.scripts.EntersFrom script
  tended : world.Tended place script id

theorem Ready.attends (hready : before.Ready held place script id)
    (hattends : Attends place script id before after) : after.Ready held place script id where
  sound := (hattends.steady.reaches hready.sound hattends.changes).sound
  running := hattends.steady.isRunning.trans hready.running
  entered := hattends.changes.entersFrom hready.sound.scripts hready.entered
  tended := hattends.tended

/-- A built script module that is worked on can be used. -/
theorem Ready.isCompiled (hready : world.Ready held place script id)
    (hmodule : world.module? script = some module) (hbuilt : module.state = .built) :
    ∃ compiled, module.compiled = some compiled ∧
      world.executor.isCompiled module.internalName = true := by
  have hwellFormed := hready.sound.scripts.wellFormed hmodule
  obtain ⟨compiled, hcompiled⟩ := hwellFormed.exists_compiled hbuilt
  have hentered := hready.entered hready.running (Nat.le_refl script) hmodule hcompiled
  refine ⟨compiled, hcompiled, ?_⟩
  rw [← hwellFormed.own compiled hcompiled]
  exact (Table.has_eq_true_iff _ _).mpr ⟨compiled, hentered⟩

end World

namespace Act

open World

variable {α β : Type} {held : Holdings} {world : World} {place script id : Nat}

/-- Whether an operation works on the script module of a game module. -/
structure IsTending (place script : Nat) (act : Act α) : Prop where
  attends : ∀ {held world id}, world.Ready held place script id →
    Attends place script id world (after act world)

theorem IsTending.bind {act : Act α} {next : α → Act β} (hact : IsTending place script act)
    (hnext : ∀ value, IsTending place script (next value)) :
    IsTending place script (act >>= next) where
  attends := fun hready =>
    (hact.attends hready).trans ((hnext _).attends (hready.attends (hact.attends hready)))

/-- An operation that leaves script modules alone. -/
theorem IsTending.of_scripts {act : Act α} (hsteady : IsSteady act) (hsilent : IsSilent act)
    (hscripts : ∀ world, (after act world).scripts = world.scripts) :
    IsTending place script act where
  attends := fun hready => .of_scripts hready.tended (hsteady _) (hsilent _) (hscripts _)

theorem IsTending.pure (value : α) : IsTending place script (Pure.pure value) :=
  .of_scripts (.pure value) (.pure value) fun _ => rfl

theorem warn_isTending (message : String) : IsTending place script (warn message) :=
  .of_scripts (warn_isSteady message) (warn_isSilent message) fun _ => rfl

theorem error_isTending (message : String) : IsTending place script (error message) :=
  .of_scripts (error_isSteady message) (error_isSilent message) fun _ => rfl

theorem IsTending.forM {act : α → Act PUnit} (hact : ∀ value, IsTending place script (act value)) :
    ∀ values : List α, IsTending place script (values.forM act)
  | [] => .pure _
  | value :: rest => .bind (hact value) fun _ => IsTending.forM hact rest

/-! ### Files -/

theorem addSegment_isTending {segment : Segment} (hwhole : segment.Whole) :
    IsTending place script (addSegment script segment) := by
  refine ⟨fun {held world id} hready => ?_⟩
  have hchanges := (addSegment_reaches hready.sound hready.tended.within trivial hwhole).changes
  obtain ⟨module, hmodule, -, hliving, -⟩ := hready.tended
  have hafter : after (addSegment script segment) world =
      world.withModule script fun _ => (module.addSegment segment).1 := by
    unfold addSegment
    rw [after_get_bind, hmodule]
    rfl
  have hadded : (world.withModule script fun _ => (module.addSegment segment).1).module? script =
      some (module.addSegment segment).1 := by
    rw [module?_withModule, if_pos rfl, hmodule]
    rfl
  refine ⟨addSegment_isSteady script segment world, by rw [hafter]; rfl, hchanges, ?_⟩
  rw [hafter]
  refine hready.tended.of_put hmodule hadded ?_ ?_ ?_
  · unfold ScriptModule.addSegment
    split <;> rfl
  · unfold ScriptModule.addSegment
    split
    · exact hliving
    · dsimp only
      split
      · simp
      · exact hliving
  · refine .inl ?_
    unfold ScriptModule.addSegment
    split <;> rfl

theorem addFile_isTending (path : Path) : IsTending place script (addFile script path) := by
  refine ⟨fun {held world id} hready => ?_⟩
  unfold addFile
  rw [after_get_bind]
  split
  · exact (IsTending.pure _).attends hready
  · rename_i segment hfile
    exact (IsTending.bind (addSegment_isTending (Segment.whole_of_ofFile hfile))
      fun _ => .pure _).attends hready

/-! ### Building -/

theorem compileModule_isTending {module : ScriptModule}
    (hready : world.Ready held place script id) (hmodule : world.module? script = some module)
    (hstate : module.state = .readyToBuild) :
    Attends place script id world (after (compileModule script module) world) := by
  have hchanges := (compileModule_reaches hready.sound hready.tended.within trivial hmodule hstate
    hready.running).changes
  refine ⟨compileModule_isSteady script module world, compileModule_isSilent script module world,
    hchanges, ?_⟩
  cases hcompile : (module.compile world.executor world.files).1 with
  | ok outcome =>
      have hscripts := (compileModule_of_ok hmodule hcompile).2
      have hbuilt := (congrArg (·.module? script) hscripts).trans (Scripts.module?_put_self _ _ _)
      refine hready.tended.of_put hmodule hbuilt rfl ?_ (.inl rfl)
      simp [ScriptModule.watching, ScriptModule.withBuild]
  | error err =>
      have hscripts := (compileModule_of_error hmodule hcompile).2
      have hfailed := (congrArg (·.module? script) hscripts).trans (Scripts.module?_put_self _ _ _)
      exact hready.tended.of_put hmodule hfailed rfl (by simp) (.inl rfl)

theorem build_isTending : IsTending place script (build script) := by
  refine ⟨fun {held world id} hready => ?_⟩
  obtain ⟨module, hmodule, -⟩ := hready.tended
  by_cases hbuilt : module.state = .built
  · obtain ⟨compiled, hcompiled, hentered⟩ := hready.isCompiled hmodule hbuilt
    rw [(build_of_live hmodule hcompiled hbuilt hready.running hentered).2]
    exact .of_scripts hready.tended (.refl world) rfl rfl
  · by_cases hstate : module.state = .readyToBuild
    · rw [(build_of_ready hmodule hstate hready.running).2]
      exact compileModule_isTending hready hmodule hstate
    · rw [(build_of_other hmodule hbuilt hstate).2]
      exact .of_scripts hready.tended (.refl world) rfl rfl

theorem setHooks_isTending : IsTending place script (setHooks script (.game place)) := by
  refine ⟨fun {held world id} hready => ?_⟩
  have hchanges := (setHooks_reaches hready.sound hready.tended.within (.game place)).changes
  have hsteady := setHooks_isSteady script (rfl : (Hooks.game place).objects = []) world
  refine ⟨hsteady, setHooks_isSilent script (.game place) world, hchanges, ?_⟩
  obtain ⟨module, hmodule, -, hliving, -⟩ := hready.tended
  unfold setHooks
  rw [after_get_bind, hmodule, Option.bind_some]
  split
  · exact hready.tended
  · have hhooked : (world.withModule script fun module =>
        { module with hooks := some (.game place) }).module? script =
          some { module with hooks := some (.game place) } := by
      rw [module?_withModule, if_pos rfl, hmodule]
      rfl
    exact hready.tended.of_put hmodule hhooked rfl hliving (.inr rfl)

/-! ### Listeners -/

theorem listenerIndex_isTending : IsTending place script (listenerIndex script) := by
  refine ⟨fun {held world id} hready => ?_⟩
  have hbuilding := build_reaches hready.sound hready.tended.within trivial
  refine ⟨listenerIndex_isSteady script world, listenerIndex_isSilent script world,
    (listenerIndex_reaches hready.tended.within hbuilding).changes, ?_⟩
  have hbuilt := (build_isTending.attends hready).tended
  unfold listenerIndex
  rw [after_bind]
  split
  · exact hbuilt
  · rw [after_get_bind]
    split
    · exact hbuilt
    · rename_i compiled _ _ _
      rw [after_bind, after_bind, after_onModule, after_pure]
      have hwarned := IsQuiet.forM warn_isQuiet (ListenerIndex.build compiled).2
        (after (build script) world)
      obtain ⟨module, hmodule, -, hliving, -⟩ := hbuilt.of_scripts hwarned.scripts
      have hlistening : ((after ((ListenerIndex.build compiled).2.forM warn)
          (after (build script) world)).withModule script fun module =>
            { module with listeners := some (ListenerIndex.build compiled).1 }).module? script =
          some (module.listening (some (ListenerIndex.build compiled).1)) := by
        rw [module?_withModule, if_pos rfl, hmodule]
        rfl
      exact (hbuilt.of_scripts hwarned.scripts).of_put hmodule hlistening rfl hliving (.inl rfl)

theorem listeners_isTending : IsTending place script (listeners script) :=
  .bind listenerIndex_isTending fun _ => .pure _

end Act

namespace LoadAct

open World Act

variable {α β : Type} {place script : Nat}

/-- Whether a step of a load works on the script module of a game module. -/
def IsTending (place script : Nat) (step : LoadAct α) : Prop :=
  Act.IsTending place script step.run

theorem IsTending.pure (value : α) : IsTending place script (Pure.pure value : LoadAct α) :=
  Act.IsTending.pure _

theorem IsTending.throw (err : LoadError) : IsTending place script (throw err : LoadAct α) :=
  Act.IsTending.pure _

theorem IsTending.lift {act : Act α} (hact : Act.IsTending place script act) :
    IsTending place script (liftM act : LoadAct α) := by
  refine ⟨fun {held world id} hready => ?_⟩
  rw [after_run_lift]
  exact hact.attends hready

theorem IsTending.bind {step : LoadAct α} {next : α → LoadAct β}
    (hstep : IsTending place script step) (hnext : ∀ value, IsTending place script (next value)) :
    IsTending place script (step >>= next) := by
  refine ⟨fun {held world id} hready => ?_⟩
  have hfirst := hstep.attends hready
  rw [after_run_bind]
  split
  · exact hfirst.trans ((hnext _).attends (hready.attends hfirst))
  · exact hfirst

theorem IsTending.forM {step : α → LoadAct PUnit}
    (hstep : ∀ value, IsTending place script (step value)) :
    ∀ values : List α, IsTending place script (values.forM step)
  | [] => .pure _
  | value :: rest => .bind (hstep value) fun _ => IsTending.forM hstep rest

end LoadAct

namespace Act

open World LoadAct

variable {place script : Nat}

theorem addFiles_isTending (game : String) :
    ∀ paths : List Path, LoadAct.IsTending place script (addFiles game script paths)
  | [] => .pure _
  | path :: rest => by
      refine .bind (.lift (addFile_isTending path)) fun added => ?_
      cases added with
      | ok _ => exact addFiles_isTending game rest
      | error err => exact .bind (.lift (error_isTending _)) fun _ => .throw _

theorem addExports_isTending (game : String) (dependency : Nat) :
    LoadAct.IsTending place script (addExports game script dependency) := by
  refine .bind (.lift (.of_scripts (exportPaths_isSteady dependency)
    (exportPaths_isSilent dependency) fun world => ?_)) fun paths => ?_
  · unfold exportPaths
    rw [after_get_bind]
    split <;> rfl
  · cases paths with
    | ok paths => exact addFiles_isTending game paths
    | error missing => exact .bind (.lift (error_isTending _)) fun _ => .throw _

theorem addSources_isTending (game : GameModule) :
    LoadAct.IsTending place script (addSources game script) := by
  refine ⟨fun {held world id} hready => ?_⟩
  unfold addSources
  rw [after_run_get_bind]
  split
  · exact (addFiles_isTending _ _).attends hready
  · refine IsTending.attends (LoadAct.IsTending.bind (.lift (error_isTending _))
      fun _ => .throw _) hready

theorem compileGame_isTending (game : GameModule) :
    LoadAct.IsTending place script (compileGame game place script) := by
  refine .bind (.lift build_isTending) fun compiled => ?_
  cases compiled with
  | none => exact .throw _
  | some compiled =>
      exact .bind (.lift setHooks_isTending) fun _ => .bind (.lift listeners_isTending) fun _ =>
        .forM (fun _ => .lift (warn_isTending _)) _

theorem warnings_scripts (messages : List String) (world : World) :
    (after (messages.forM fun message => (liftM (warn message) : LoadAct PUnit)).run
      world).scripts = world.scripts := by
  induction messages generalizing world with
  | nil => rfl
  | cons message rest ih =>
      have hcons : (message :: rest).forM (fun message => (liftM (warn message) : LoadAct PUnit)) =
          (liftM (warn message) : LoadAct PUnit) >>= fun _ =>
            rest.forM fun message => liftM (warn message) := rfl
      rw [hcons, after_run_lift_bind]
      exact (ih _).trans (world.scripts_warn message)

/-- Once a script module is compiled for a game module it is built and has the hooks of the
game module. -/
theorem compileGame_result {held : Holdings} {world : World} {id : Nat} {game : GameModule}
    (hready : world.Ready held place script id)
    (hresult : result (compileGame game place script).run world = .ok ()) :
    ∃ module, (after (compileGame game place script).run world).module? script = some module ∧
      module.state = .built ∧ module.hooks = some (.game place) := by
  unfold compileGame at hresult ⊢
  rw [result_run_lift_bind] at hresult
  rw [after_run_lift_bind]
  cases hcompiled : result (build script) world with
  | none =>
      rw [hcompiled] at hresult
      cases hresult
  | some compiled =>
      obtain ⟨module, hmodule, -, hbuilt, -⟩ := build_result hcompiled
      have hready₁ := hready.attends (build_isTending.attends hready)
      have hhooked : ∃ module, (after (setHooks script (.game place))
          (after (build script) world)).module? script = some module ∧
            module.state = .built ∧ module.hooks = some (.game place) := by
        unfold setHooks
        rw [after_get_bind, hmodule, Option.bind_some]
        split
        · rename_i hooks hhooks
          obtain ⟨found, hfound, -, -, hown⟩ := hready₁.tended
          rw [hmodule] at hfound
          cases hfound
          exact ⟨module, hmodule, hbuilt, hown hooks hhooks ▸ hhooks⟩
        · refine ⟨{ module with hooks := some (.game place) }, ?_, hbuilt, rfl⟩
          refine (module?_withModule _ _ _ _).trans ?_
          rw [if_pos rfl, hmodule]
          rfl
      have hready₂ := hready₁.attends (setHooks_isTending.attends hready₁)
      obtain ⟨hooked, hfound, hbuilt', hhooks⟩ := hhooked
      obtain ⟨own, hown, hentered⟩ := hready₂.isCompiled hfound hbuilt'
      obtain ⟨index, hlisteners⟩ :=
        listenerIndex_of_live hfound hown hbuilt' hready₂.running hentered
      dsimp only
      rw [after_run_lift_bind, after_run_lift_bind]
      refine ⟨hooked.listening index, ?_, hbuilt', hhooks⟩
      refine (congrArg (·.module? script) ((warnings_scripts _ _).trans hlisteners)).trans ?_
      exact Scripts.module?_put_self _ _ _

end Act

namespace World

variable {outset : Outset} {making unheard lent : List Nat} {since : List Delivery}
  {held : Holdings} {before after world : World} {place script id : Nat} {game : GameModule}
  {module : ScriptModule}

/-- The script module of a game module that has come since can be worked on. -/
theorem Grows.ready (hgrows : world.Grows outset making unheard lent since)
    (hworld : world.Sound held) (hnew : outset.New world place game)
    (hscript : game.script = some script) :
    ∃ module, world.module? script = some module ∧
      world.Ready held place script module.id := by
  obtain ⟨module, hmodule, hliving, -, -⟩ := hgrows.attached hworld hnew hscript
  have hown : outset.Has world place script := ⟨game, hnew, hscript⟩
  have hfirst := (hgrows.assigned.owned hown).1
  refine ⟨module, hmodule, hworld, hworld.running_of_game hnew.1, ?_, module, hmodule, rfl,
    hliving, fun hooks hhooks => ?_⟩
  · exact fun hrunning {_ _ _} hle => hgrows.assigned.entered hrunning (hfirst.trans hle)
  · obtain ⟨other, rfl, hother⟩ := hgrows.assigned.hooked hfirst hmodule hhooks
    rw [hgrows.assigned.apart hother hown]

/-- The script module of a game module that is being initialized is worked on. -/
theorem Grows.attends (hgrows : before.Grows outset making unheard lent since)
    (hready : before.Ready held place script id) (hnew : outset.New before place game)
    (hscript : game.script = some script) (hidle : game.initialized = false)
    (hattends : Attends place script id before after) :
    after.Grows outset making unheard lent since := by
  obtain ⟨module, hmodule, rfl, -, -⟩ := hready.tended
  obtain ⟨left, hleft, -, hliving, hhooks⟩ := hattends.tended
  have hkeeps : before.Keeps after [] := (Keeps.refl hready.sound.objects).steady hattends.steady
  refine hgrows.works hready.sound.scripts (hready.attends hattends).running hkeeps
    ⟨game, hnew, hscript⟩ hmodule hattends.changes hattends.silent hleft hliving hhooks ?_
  intro found hfound hinit
  rw [hnew.unique hfound, hidle] at hinit
  cases hinit

end World

end ScriptHost
