import ScriptHost.Proofs.Steady

/-!
Building script modules, looking for listeners in them, and discarding them. Each
operation touches one module. A module that is built holds its compiled script
afterwards, and the listeners found in it belong to that script.
-/

namespace ScriptHost

namespace World

variable {held : Holdings} {may : Touch → Prop} {world : World} {address : Nat}
  {module : ScriptModule}

/-- A change of the executor that concerns no script module. -/
theorem Sound.reaches_executor (hworld : world.Sound held)
    (change : Executor → Executor)
    (hcompiled : (change world.executor).compiled = world.executor.compiled)
    (hgrants : (change world.executor).grants = world.executor.grants)
    (hregistry : (change world.executor).registry = world.executor.registry)
    (hwatcher : (change world.executor).watcher = world.executor.watcher)
    (hnumber : (change world.executor).nextId = world.executor.nextId)
    (hrules : (change world.executor).rules = world.executor.rules) :
    world.Reaches held may (world.withExecutor change) :=
  (world.withExecutor_steady change hrules).reaches hworld
    (.of_eq (world.scripts_withExecutor_of_eq change hcompiled hgrants hregistry
      hwatcher hnumber))

/-- A module may be edited. -/
theorem Sound.reaches_edit (hworld : world.Sound held)
    (hwithin : world.Within may address) (change : ScriptModule → ScriptModule)
    (hedit : ∀ module, world.module? address = some module →
      module.Edit (change module))
    (hstate : ∀ module, world.module? address = some module →
      (change module).state = module.state ∨ may (.watch address)) :
    world.Reaches held may (world.withModule address change) := by
  refine hworld.reaches ?_ rfl (hworld.modules.modify address change)
    (Heap.next_modify world.modules address change)
    (fun other hlives => ⟨?_, Heap.strongCount_modify world.modules address other change⟩)
    rfl rfl
  case refine_2 =>
    rw [module?_withModule]
    split
    · rw [Option.isSome_map]
      exact hlives
    · exact hlives
  cases hmodule : world.module? address with
  | none => exact .of_eq (world.scripts_withModule_of_none change hmodule)
  | some module =>
      rw [scripts_withModule, hmodule]
      exact .single (.edit (change module) hmodule (hwithin module hmodule)
        (hedit module hmodule) (hstate module hmodule))

/-- A change of a module that neither its state nor its scripts depend on. -/
theorem ScriptModule.edit_of_eq {module changed : ScriptModule}
    (hid : changed.id = module.id) (hname : changed.name = module.name)
    (hinternal : changed.internalName = module.internalName)
    (hreloads : changed.reloads = module.reloads)
    (hcompiled : changed.compiled = module.compiled)
    (hstate : changed.state = module.state)
    (hlisteners : changed.listeners = module.listeners)
    (hsegments : changed.segments = module.segments)
    (hwatched : changed.watched = module.watched) : module.Edit changed :=
  ⟨hid, hname, hinternal, hreloads, hcompiled, .inl hstate, .inl hlisteners, .inl hsegments,
    .inl hwatched⟩

end World

namespace Act

open World

variable {held : Holdings} {may : Touch → Prop} {world : World} {address : Nat}
  {module : ScriptModule}

/-! ### Discarding -/

theorem tearDown_of_none (hnone : world.module? address = none) :
    after (tearDown address) world = world := by
  unfold tearDown
  simp [hnone]

theorem stopMonitoring_scripts (id : Nat)
    (hclosed : world.isRunning = false → world.scripts.watcher = none)
    (hmodule : world.module? address = some module) :
    (after (stopMonitoring address id) world).scripts =
      (world.scripts.put address (some (module.watching []))).withWatcher
        (·.unwatch id) := by
  unfold stopMonitoring
  rw [after_get_bind]
  rcases Bool.eq_false_or_eq_true world.isRunning with hrunning | hstopped
  · rw [if_pos hrunning]
    simp only [after_bind, after_onExecutor, after_onModule]
    rw [scripts_withModule, module?_withExecutor, hmodule, scripts_unwatch]
    rfl
  · rw [if_neg (by simp [hstopped]), after_onModule, scripts_withModule, hmodule]
    exact (Scripts.withWatcher_of_none (world.scripts.put address _) _
      (hclosed hstopped)).symm

/-- Taking a module down discards it, takes its compiled script out and ends the
registration under its number. -/
theorem tearDown_scripts (hclosed : world.scripts.Closed)
    (hmodule : world.module? address = some module) :
    (after (tearDown address) world).scripts =
      ((world.scripts.put address (some module.discarded)).leave
        module.compiled).withWatcher (·.unwatch module.id) := by
  have hrest : ∀ before : World, before.module? address = some module →
      (before.isRunning = false → before.scripts.watcher = none) →
      (after (do
        stopMonitoring address module.id
        onModule address ScriptModule.discarded) before).scripts =
      (before.scripts.put address (some module.discarded)).withWatcher
        (·.unwatch module.id) := by
    intro before hfound hnone
    have hscripts := stopMonitoring_scripts module.id hnone hfound
    have hnow : (after (stopMonitoring address module.id) before).module?
        address = some (module.watching []) := by
      have hget := congrFun (congrArg Scripts.module? hscripts) address
      exact hget.trans (Scripts.module?_put_self _ _ _)
    simp only [after_bind, after_onModule]
    rw [scripts_withModule, hnow, hscripts]
    simp [ScriptModule.discarded, ScriptModule.watching]
  unfold tearDown
  rw [after_get_bind, hmodule]
  dsimp only
  rcases Bool.eq_false_or_eq_true world.isRunning with hrunning | hstopped
  · rw [if_pos hrunning, after_bind, after_onExecutor,
      hrest (world.withExecutor (·.removeCompiled? module.compiled)) hmodule,
      scripts_removeCompiled?, Scripts.put_leave]
    intro hstopped
    have hstopped' : world.isRunning = false := hstopped
    simp [hrunning] at hstopped'
  · obtain ⟨hcompiled, hgrants, -, hwatcher⟩ := hclosed hstopped
    rw [if_neg (by simp [hstopped]), hrest world hmodule (fun _ => hwatcher)]
    rw [Scripts.leave_of_empty (world.scripts.put address _) _ hcompiled hgrants]

theorem tearDown_reaches (hworld : world.Sound held)
    (hwithin : world.Within may address) :
    world.Reaches held may (after (tearDown address) world) := by
  cases hmodule : world.module? address with
  | none =>
      rw [tearDown_of_none hmodule]
      exact .refl hworld
  | some module =>
      refine (tearDown_isSteady address world).reaches hworld ?_
      rw [tearDown_scripts hworld.scripts.closed hmodule]
      have hmay := hwithin module hmodule
      exact .tail (.single (.discard hmodule hmay)) (.unwatch module.id hmay)

theorem discard_scripts (address : Nat) (reason : String) (world : World) :
    (after (discard address reason) world).scripts =
      (after (tearDown address) world).scripts := by
  unfold discard
  rw [after_get_bind]
  cases hmodule : world.module? address with
  | none => rw [tearDown_of_none hmodule]; rfl
  | some module =>
      dsimp only
      rw [after_bind]
      split
      · rfl
      · rfl

theorem discard_reaches (hworld : world.Sound held)
    (hwithin : world.Within may address) (reason : String) :
    world.Reaches held may (after (discard address reason) world) := by
  refine (discard_isSteady address reason world).reaches hworld ?_
  rw [discard_scripts]
  exact (tearDown_reaches hworld hwithin).changes

/-- A module that is taken down is discarded. -/
theorem discard_module? (hworld : world.Sound held)
    (hmodule : world.module? address = some module) (reason : String) :
    (after (discard address reason) world).module? address =
      some module.discarded := by
  have hscripts := discard_scripts address reason world
  rw [tearDown_scripts hworld.scripts.closed hmodule] at hscripts
  have hget := congrFun (congrArg Scripts.module? hscripts) address
  refine hget.trans ?_
  simp [Scripts.withWatcher]

theorem clearHooks_reaches (hworld : world.Sound held)
    (hwithin : world.Within may address) :
    world.Reaches held may (after (clearHooks address) world) := by
  unfold clearHooks
  simp only [after_bind, after_onModule, after_pure]
  exact hworld.reaches_edit hwithin _ (fun module _ =>
    ScriptModule.edit_of_eq rfl rfl rfl rfl rfl rfl rfl rfl rfl) fun _ _ => .inl rfl

theorem setHooks_reaches (hworld : world.Sound held)
    (hwithin : world.Within may address) (hooks : Hooks) :
    world.Reaches held may (after (setHooks address hooks) world) := by
  unfold setHooks
  rw [after_get_bind]
  split
  · exact .refl hworld
  · exact hworld.reaches_edit hwithin _ (fun module _ =>
      ScriptModule.edit_of_eq rfl rfl rfl rfl rfl rfl rfl rfl rfl) fun _ _ => .inl rfl

/-- A released module has no hooks any more and is taken down. -/
theorem release_scripts (hclosed : world.scripts.Closed)
    (hmodule : world.module? address = some module) :
    (after (release address) world).scripts =
      ((world.scripts.put address (some module.unhooked.discarded)).leave
        module.compiled).withWatcher (·.unwatch module.id) := by
  unfold release
  rw [after_get_bind, after_bind, after_bind, after_onModule, after_pure]
  have hfound : (world.withModule address fun module =>
      { module with hooks := none }).module? address = some module.unhooked := by
    rw [module?_withModule, if_pos rfl, hmodule]
    rfl
  have hstill : (world.withModule address fun module =>
      { module with hooks := none }).scripts.Closed := hclosed
  rw [tearDown_scripts hstill hfound, scripts_withModule, hmodule]
  simp only [Option.map_some, Scripts.put_put]
  rfl

theorem release_reaches (hworld : world.Sound held)
    (hwithin : world.Within may address) :
    world.Reaches held may (after (release address) world) := by
  unfold release
  simp only [after_bind, after_onModule, after_pure]
  have hcleared : world.Reaches held may
      (world.withModule address fun module => { module with hooks := none }) :=
    hworld.reaches_edit hwithin _ (fun module _ =>
      ScriptModule.edit_of_eq rfl rfl rfl rfl rfl rfl rfl rfl rfl) fun _ _ => .inl rfl
  exact hcleared.trans (tearDown_reaches hcleared.sound (hwithin.of_reaches hcleared))

theorem addSegment_reaches (hworld : world.Sound held)
    (hwithin : world.Within may address) (hwatch : may (.watch address))
    {segment : Segment} (hwhole : segment.Whole) :
    world.Reaches held may (after (addSegment address segment) world) := by
  unfold addSegment
  rw [after_get_bind]
  cases hmodule : world.module? address with
  | none => exact .refl hworld
  | some module =>
      dsimp only
      rw [after_bind, after_onModule, after_pure]
      refine hworld.reaches_edit hwithin _ (fun found hfound => ?_) fun _ _ => .inr hwatch
      rw [hmodule] at hfound
      cases hfound
      unfold ScriptModule.addSegment
      split
      · exact ScriptModule.edit_of_eq rfl rfl rfl rfl rfl rfl rfl rfl rfl
      · rename_i hnew
        refine ⟨rfl, rfl, rfl, rfl, rfl, ?_, .inl rfl,
          .inr ⟨segment, hwhole, Bool.eq_false_iff.mpr hnew, rfl⟩, .inl rfl⟩
        by_cases hempty : module.state = .empty
        · exact .inr (.inl ⟨hempty, by simp [hempty], by simp⟩)
        · exact .inl (by simp [hempty])

theorem addFile_reaches (hworld : world.Sound held)
    (hwithin : world.Within may address) (hwatch : may (.watch address)) (path : Path) :
    world.Reaches held may (after (addFile address path) world) := by
  unfold addFile
  rw [after_get_bind]
  split
  · exact .refl hworld
  · rename_i segment hfile
    exact addSegment_reaches hworld hwithin hwatch (Segment.whole_of_ofFile hfile)

/-! ### Building -/

theorem startMonitoring_scripts (id : Nat) (files : List Path)
    (hmodule : world.module? address = some module) :
    (after (startMonitoring address id files) world).scripts =
      (world.scripts.put address (some (module.watching files))).withWatcher
        fun watcher => (watcher.watch world.files id address files).1 := by
  unfold startMonitoring
  rw [after_get_bind]
  cases hwatcher : world.executor.watcher with
  | none =>
      dsimp only
      rw [after_onModule, scripts_withModule, hmodule]
      exact (Scripts.withWatcher_of_none (world.scripts.put address _) _
        hwatcher).symm
  | some watcher =>
      dsimp only
      have hwatched : (world.withExecutor fun executor =>
          { executor with
            watcher := some (watcher.watch world.files id address files).1 }).scripts =
          world.scripts.withWatcher
            fun watcher => (watcher.watch world.files id address files).1 := by
        have hsome : world.scripts.watcher = some watcher := hwatcher
        rw [scripts_withExecutor, Scripts.withWatcher, hsome]
        rfl
      rw [after_bind, after_onExecutor]
      split
      · rw [after_onModule, scripts_withModule, module?_withExecutor, hmodule,
          hwatched]
        rfl
      · rw [after_bind, after_onModule, scripts_withModule, after_warn,
          scripts_warn, module?_warn, module?_withExecutor, hmodule, hwatched]
        rfl

/-- A module that compiles is entered and registered for the files it was
compiled from. -/
theorem compileModule_of_ok (hmodule : world.module? address = some module)
    {compiled : Compiled} {files : List Path}
    (hcompile : (module.compile world.executor world.files).1 =
      .ok (compiled, files)) :
    result (compileModule address module) world = some compiled ∧
      (after (compileModule address module) world).scripts =
        ((world.scripts.put address
          (some ((module.withBuild compiled).watching files))).enter
            compiled).withWatcher
              fun watcher => (watcher.watch world.files module.id address files).1 := by
  obtain ⟨builds, hexecutor⟩ := module.compile_executor world.executor world.files
  have hsame : (world.withExecutor fun _ =>
      (module.compile world.executor world.files).2).scripts = world.scripts := by
    rw [hexecutor]
    rfl
  unfold compileModule
  rw [after_get_bind, result_get_bind]
  generalize module.compile world.executor world.files = outcome at hcompile hsame
  obtain ⟨built, executor⟩ := outcome
  dsimp only at hcompile hsame
  subst hcompile
  refine ⟨rfl, ?_⟩
  dsimp only
  simp only [after_bind, after_onExecutor, after_onModule, after_pure]
  have hfound : ((world.withExecutor fun _ => executor).withExecutor
      (·.registerCompiled compiled)).module? address = some module := hmodule
  have hbuilt : (((world.withExecutor fun _ => executor).withExecutor
      (·.registerCompiled compiled)).withModule address fun module =>
        { module with compiled := some compiled, listeners := none, state := .built }).module?
          address = some (module.withBuild compiled) := by
    rw [module?_withModule, if_pos rfl, hfound]
    rfl
  rw [startMonitoring_scripts module.id files hbuilt, scripts_withModule, hfound,
    scripts_registerCompiled, hsame, Scripts.put_put, Scripts.put_enter]
  rfl

/-- A module that does not compile has failed. -/
theorem compileModule_of_error (hmodule : world.module? address = some module)
    {err : BuildError}
    (hcompile : (module.compile world.executor world.files).1 = .error err) :
    result (compileModule address module) world = none ∧
      (after (compileModule address module) world).scripts =
        world.scripts.put address (some { module with state := .failed }) := by
  obtain ⟨builds, hexecutor⟩ := module.compile_executor world.executor world.files
  have hsame : (world.withExecutor fun _ =>
      (module.compile world.executor world.files).2).scripts = world.scripts := by
    rw [hexecutor]
    rfl
  unfold compileModule
  rw [after_get_bind, result_get_bind]
  generalize module.compile world.executor world.files = outcome at hcompile hsame
  obtain ⟨built, executor⟩ := outcome
  dsimp only at hcompile hsame
  subst hcompile
  refine ⟨rfl, ?_⟩
  dsimp only
  simp only [after_bind, after_onExecutor, after_onModule, after_pure, after_error]
  rw [scripts_withModule, module?_error, module?_withExecutor, hmodule,
    scripts_error, hsame]
  rfl

theorem compileModule_reaches (hworld : world.Sound held)
    (hwithin : world.Within may address) (hwatch : may (.watch address))
    (hmodule : world.module? address = some module)
    (hready : module.state = .readyToBuild) (hrunning : world.isRunning = true) :
    world.Reaches held may (after (compileModule address module) world) := by
  have hmay := hwithin module hmodule
  refine (compileModule_isSteady address module world).reaches hworld ?_
  cases hcompile : (module.compile world.executor world.files).1 with
  | error err =>
      rw [(compileModule_of_error hmodule hcompile).2]
      refine .single (.edit _ hmodule hmay ?_ (.inr hwatch))
      exact ⟨rfl, rfl, rfl, rfl, rfl, .inr (.inr ⟨hready, rfl⟩), .inl rfl, .inl rfl,
        .inl rfl⟩
  | ok built =>
      obtain ⟨compiled, files⟩ := built
      obtain ⟨prepared, -, hparsed, -⟩ := ScriptModule.compile_ok hcompile
      have hname := (ScriptModule.parsePrepared_ok hparsed).1
      rw [(compileModule_of_ok hmodule hcompile).2]
      have hbuild : Scripts.Change may world.scripts
          ((world.scripts.put address (some (module.withBuild compiled))).enter
            compiled) :=
        .build compiled hmodule hmay hready hrunning hname hwatch
      have hput : ((world.scripts.put address (some (module.withBuild compiled))).enter
          compiled).module? address = some (module.withBuild compiled) :=
        Scripts.module?_put_self _ _ _
      have hfollow : Scripts.Change may
          ((world.scripts.put address (some (module.withBuild compiled))).enter
            compiled)
          ((world.scripts.put address
            (some ((module.withBuild compiled).watching files))).enter compiled) := by
        have hedit : Scripts.Change may _
            (((world.scripts.put address (some (module.withBuild compiled))).enter
              compiled).put address
                (some ((module.withBuild compiled).watching files))) :=
          .edit _ hput hmay ⟨rfl, rfl, rfl, rfl, rfl, .inl rfl, .inl rfl, .inl rfl,
            .inr (.inr rfl)⟩ (.inl rfl)
        rw [Scripts.put_enter, Scripts.put_put] at hedit
        exact hedit
      have hput' : ((world.scripts.put address
          (some ((module.withBuild compiled).watching files))).enter
            compiled).module? address =
              some ((module.withBuild compiled).watching files) :=
        Scripts.module?_put_self _ _ _
      have hwatched : Scripts.Change may
          ((world.scripts.put address
            (some ((module.withBuild compiled).watching files))).enter compiled)
          (((world.scripts.put address
            (some ((module.withBuild compiled).watching files))).enter
              compiled).withWatcher fun watcher =>
                (watcher.watch world.files
                  ((module.withBuild compiled).watching files).id address files).1) :=
        .watch world.files files hput' hmay hwatch
      exact .tail (.tail (.single hbuild) hfollow) hwatched

/-- A built module whose compiled script is still entered is used as it is. -/
theorem build_of_live (hmodule : world.module? address = some module)
    {compiled : Compiled} (hcompiled : module.compiled = some compiled)
    (hbuilt : module.state = .built) (hrunning : world.isRunning = true)
    (hentered : world.executor.isCompiled module.internalName = true) :
    result (build address) world = some compiled ∧
      after (build address) world = world := by
  unfold build
  rw [after_get_bind, result_get_bind, hmodule]
  simp [hbuilt, hcompiled, hrunning, hentered]

/-- A built module whose compiled script is gone is discarded at its next use. -/
theorem build_of_invalid (hmodule : world.module? address = some module)
    (hbuilt : module.state = .built)
    (hgone : world.isRunning = false ∨
      world.executor.isCompiled module.internalName = false) :
    result (build address) world = none ∧
      after (build address) world =
        after (discard address "compiled module was invalidated") world := by
  have hlive : (world.isRunning &&
      world.executor.isCompiled module.internalName) = false := by
    rcases hgone with hgone | hgone <;> simp [hgone]
  unfold build
  rw [after_get_bind, result_get_bind, hmodule]
  simp only [hbuilt, hlive]
  split
  · rename_i heq
    cases heq
  · exact ⟨rfl, rfl⟩

/-- A module that is ready is compiled. -/
theorem build_of_ready (hmodule : world.module? address = some module)
    (hready : module.state = .readyToBuild) (hrunning : world.isRunning = true) :
    result (build address) world = result (compileModule address module) world ∧
      after (build address) world = after (compileModule address module) world := by
  unfold build
  rw [after_get_bind, result_get_bind, hmodule]
  simp only [hready, hrunning, if_true, and_self]

/-- A module that is neither built nor ready is left alone. -/
theorem build_of_other (hmodule : world.module? address = some module)
    (hbuilt : module.state ≠ .built) (hready : module.state ≠ .readyToBuild) :
    result (build address) world = none ∧ after (build address) world = world := by
  unfold build
  rw [after_get_bind, result_get_bind, hmodule]
  cases hstate : module.state with
  | built => exact absurd hstate hbuilt
  | readyToBuild => exact absurd hstate hready
  | empty => simp
  | failed => simp
  | discarded => simp

/-- Building a module that is built already registers nothing. -/
theorem build_reaches_of_built (hworld : world.Sound held)
    (hwithin : world.Within may address)
    (hbuilt : ∀ module, world.module? address = some module →
      module.state = .built) :
    world.Reaches held may (after (build address) world) := by
  cases hmodule : world.module? address with
  | none =>
      unfold build
      rw [after_get_bind, hmodule]
      exact .refl hworld
  | some module =>
      unfold build
      rw [after_get_bind, hmodule]
      simp only [hbuilt module hmodule]
      split
      · exact .refl hworld
      · exact discard_reaches hworld hwithin _

theorem build_reaches (hworld : world.Sound held)
    (hwithin : world.Within may address) (hwatch : may (.watch address)) :
    world.Reaches held may (after (build address) world) := by
  unfold build
  rw [after_get_bind]
  cases hmodule : world.module? address with
  | none => exact .refl hworld
  | some module =>
      dsimp only
      split
      · split
        · exact .refl hworld
        · exact discard_reaches hworld hwithin _
      · rename_i hready
        split
        · rename_i hrunning
          exact compileModule_reaches hworld hwithin hwatch hmodule hready hrunning
        · exact discard_reaches hworld hwithin _
      · exact .refl hworld

/-- Whoever gets a compiled script gets the one that the module holds. -/
theorem build_result {compiled : Compiled}
    (hresult : result (build address) world = some compiled) :
    ∃ module, (after (build address) world).module? address = some module ∧
      module.compiled = some compiled ∧ module.state = .built ∧
      (after (build address) world).isRunning = true := by
  have hstill := (build_isSteady address world).isRunning
  cases hmodule : world.module? address with
  | none =>
      unfold build at hresult
      rw [result_get_bind, hmodule] at hresult
      cases hresult
  | some module =>
      by_cases hbuilt : module.state = .built
      · rcases Bool.eq_false_or_eq_true (world.isRunning &&
            world.executor.isCompiled module.internalName) with hlive | hdead
        · obtain ⟨hrunning, hentered⟩ := Bool.and_eq_true_iff.mp hlive
          rw [hstill]
          cases hcompiled : module.compiled with
          | none =>
              unfold build at hresult
              rw [result_get_bind, hmodule] at hresult
              simp [hbuilt, hcompiled] at hresult
          | some own =>
              obtain ⟨hown, hafter⟩ :=
                build_of_live hmodule hcompiled hbuilt hrunning hentered
              rw [hown] at hresult
              cases hresult
              rw [hafter]
              exact ⟨module, hmodule, hcompiled, hbuilt, hrunning⟩
        · have hgone : world.isRunning = false ∨
              world.executor.isCompiled module.internalName = false := by
            exact Bool.and_eq_false_iff.mp hdead
          rw [(build_of_invalid hmodule hbuilt hgone).1] at hresult
          cases hresult
      · by_cases hready : module.state = .readyToBuild
        · rcases Bool.eq_false_or_eq_true world.isRunning with hrunning | hstopped
          · obtain ⟨hown, hafter⟩ := build_of_ready hmodule hready hrunning
            rw [hown] at hresult
            rw [hstill, hafter]
            cases hcompile : (module.compile world.executor world.files).1 with
            | error err =>
                rw [(compileModule_of_error hmodule hcompile).1] at hresult
                cases hresult
            | ok built =>
                obtain ⟨parsed, files⟩ := built
                obtain ⟨hparsed, hscripts⟩ := compileModule_of_ok hmodule hcompile
                rw [hparsed] at hresult
                cases hresult
                have hget := congrFun (congrArg Scripts.module? hscripts) address
                refine ⟨(module.withBuild compiled).watching files,
                  hget.trans ?_, rfl, rfl, hrunning⟩
                simp [Scripts.withWatcher, Scripts.enter]
          · unfold build at hresult
            rw [result_get_bind, hmodule] at hresult
            simp [hready, hstopped] at hresult
        · rw [(build_of_other hmodule hbuilt hready).1] at hresult
          cases hresult

end Act

end ScriptHost
