import ScriptHost.Proofs.Ordinary

/-!
Loading game modules keeps worlds sound. A game module that is made holds the
executor; it takes the handle of its script module over, and a load that fails
drops what it has made.
-/

namespace ScriptHost

namespace LoadAct

variable {α β : Type}

/-- Whether a step of a load, however it ends, can be put together freely with
others. -/
structure IsOrdinary (step : LoadAct α) : Prop where
  run : Act.IsOrdinary step.run

theorem IsOrdinary.pure (value : α) : IsOrdinary (Pure.pure value : LoadAct α) :=
  ⟨.pure _⟩

theorem IsOrdinary.throw (err : LoadError) : IsOrdinary (throw err : LoadAct α) :=
  ⟨.pure _⟩

/-- What is left of two steps, of which the second is taken if the first one has
worked. -/
theorem after_run_bind (step : LoadAct α) (next : α → LoadAct β) (world : World) :
    Act.after (step >>= next).run world =
      match Act.result step.run world with
      | .ok value => Act.after (next value).run (Act.after step.run world)
      | .error _ => Act.after step.run world := by
  have hbind : (step >>= next).run = (step.run >>= ExceptT.bindCont next) := rfl
  rw [hbind, Act.after_bind]
  cases Act.result step.run world with
  | ok value => rfl
  | error err => rfl

/-- What two steps give, of which the second is taken if the first one has worked. -/
theorem result_run_bind (step : LoadAct α) (next : α → LoadAct β) (world : World) :
    Act.result (step >>= next).run world =
      match Act.result step.run world with
      | .ok value => Act.result (next value).run (Act.after step.run world)
      | .error err => .error err := by
  have hbind : (step >>= next).run = (step.run >>= ExceptT.bindCont next) := rfl
  rw [hbind, Act.result_bind]
  cases Act.result step.run world with
  | ok value => rfl
  | error err => rfl

theorem IsOrdinary.bind {step : LoadAct α} {next : α → LoadAct β}
    (hstep : IsOrdinary step) (hnext : ∀ value, IsOrdinary (next value)) :
    IsOrdinary (step >>= next) := by
  refine ⟨⟨fun {held world} hworld => ?_⟩⟩
  have hfirst := hstep.run.reaches hworld
  rw [after_run_bind]
  split
  · rename_i value _
    exact hfirst.trans ((hnext value).run.reaches hfirst.sound)
  · exact hfirst

theorem IsOrdinary.lift {act : Act α} (hact : Act.IsOrdinary act) :
    IsOrdinary (liftM act : LoadAct α) :=
  ⟨.bind hact fun _ => .pure _⟩

theorem IsOrdinary.get : IsOrdinary (MonadState.get : LoadAct World) :=
  .lift .get

theorem IsOrdinary.attempt {step : LoadAct α} (hstep : IsOrdinary step) :
    IsOrdinary (Act.attempt step) :=
  .lift hstep.run

/-- An operation that is taken as a step of a load. -/
theorem after_run_lift (act : Act α) (world : World) :
    Act.after (liftM act : LoadAct α).run world = Act.after act world := rfl

theorem result_run_lift (act : Act α) (world : World) :
    Act.result (liftM act : LoadAct α).run world = .ok (Act.result act world) := rfl

/-- A step whose end is handed out does not fail. -/
theorem after_run_attempt (step : LoadAct α) (world : World) :
    Act.after (Act.attempt step).run world = Act.after step.run world := rfl

theorem result_run_attempt (step : LoadAct α) (world : World) :
    Act.result (Act.attempt step).run world = .ok (Act.result step.run world) := rfl

theorem after_run_pure (value : α) (world : World) :
    Act.after (pure value : LoadAct α).run world = world := rfl

theorem result_run_pure (value : α) (world : World) :
    Act.result (pure value : LoadAct α).run world = .ok value := rfl

theorem after_run_throw (err : LoadError) (world : World) :
    Act.after (throw err : LoadAct α).run world = world := rfl

theorem result_run_throw (err : LoadError) (world : World) :
    Act.result (throw err : LoadAct α).run world = .error err := rfl

/-- A step that begins by looking at the world. -/
theorem after_run_get_bind (next : World → LoadAct β) (world : World) :
    Act.after (MonadState.get >>= next).run world = Act.after (next world).run world :=
  rfl

theorem result_run_get_bind (next : World → LoadAct β) (world : World) :
    Act.result (MonadState.get >>= next).run world = Act.result (next world).run world :=
  rfl

/-- A step that begins with an operation. -/
theorem after_run_lift_bind (act : Act α) (next : α → LoadAct β) (world : World) :
    Act.after ((liftM act : LoadAct α) >>= next).run world =
      Act.after (next (Act.result act world)).run (Act.after act world) := by
  rw [after_run_bind, result_run_lift, after_run_lift]

theorem result_run_lift_bind (act : Act α) (next : α → LoadAct β) (world : World) :
    Act.result ((liftM act : LoadAct α) >>= next).run world =
      Act.result (next (Act.result act world)).run (Act.after act world) := by
  rw [result_run_bind, result_run_lift, after_run_lift]

/-- A step that begins with one whose end is looked at. -/
theorem after_run_attempt_bind (step : LoadAct α)
    (next : Except LoadError α → LoadAct β) (world : World) :
    Act.after (Act.attempt step >>= next).run world =
      Act.after (next (Act.result step.run world)).run (Act.after step.run world) := by
  rw [after_run_bind, result_run_attempt, after_run_attempt]

theorem result_run_attempt_bind (step : LoadAct α)
    (next : Except LoadError α → LoadAct β) (world : World) :
    Act.result (Act.attempt step >>= next).run world =
      Act.result (next (Act.result step.run world)).run (Act.after step.run world) := by
  rw [result_run_bind, result_run_attempt, after_run_attempt]

end LoadAct

namespace World

variable {held : Holdings} {world : World}

/-- The world with a new game module, which holds the executor. -/
def withNewGame (world : World) (game : GameModule) : World :=
  { world with
    objects := (world.objects.alloc (.game game)).2
    holders := world.holders + 1 }

theorem game?_withNewGame (world : World) (game : GameModule) (address : Nat) :
    (world.withNewGame game).game? address =
      if world.objects.next = address then some game else world.game? address := by
  unfold game? withNewGame
  rw [Heap.get?_alloc]
  by_cases ha : world.objects.next = address
  · simp [ha]
  · simp [ha]

/-- Where the executor is there already, another holder makes no difference to scripts. -/
theorem scripts_withNewGame (hrunning : world.isRunning = true) (game : GameModule) :
    (world.withNewGame game).scripts = world.scripts := by
  ext1 <;> try rfl
  show (world.withNewGame game).isRunning = world.isRunning
  rw [hrunning]
  simp [World.withNewGame, isRunning]

/-- A game module that is made gets an address of its own. -/
theorem issues_withNewGame (world : World) (game : GameModule) :
    world.Issues (world.withNewGame game) := by
  refine ⟨Nat.le_succ _, fun {address found} hfound => ?_⟩
  rw [game?_withNewGame] at hfound
  split at hfound
  · rename_i haddress
    exact .inr (Nat.le_of_eq haddress)
  · exact .inl ⟨found, hfound⟩

/-- A game module without script module can be made as long as the executor is
there. -/
theorem Sound.withNewGame (hworld : world.Sound held)
    (hrunning : world.isRunning = true) {game : GameModule}
    (hscript : game.script = none) :
    world.Reaches held Touch.ordinary (world.withNewGame game) := by
  have hscripts := scripts_withNewGame hrunning game
  have hthere : (world.withNewGame game).isRunning = world.isRunning :=
    congrArg Scripts.running hscripts
  refine ⟨.of_eq hscripts, ?_, issues_withNewGame world game, hworld.objects.alloc _,
    hworld.modules, hscripts ▸ hworld.scripts, ?_, ?_⟩
  · intro address found hfound
    rw [game?_withNewGame] at hfound
    split at hfound
    · exact .inr trivial
    · exact .inl hfound
  · intro games hnodup hgames
    have hcount := hworld.holders (games.erase world.objects.next)
      (hnodup.erase _) fun other hother => by
        obtain ⟨hne, hmem⟩ := hnodup.mem_erase_iff.mp hother
        have hthere := hgames other hmem
        rw [game?_withNewGame, if_neg (Ne.symm hne)] at hthere
        exact hthere
    have hlength : games.length ≤ (games.erase world.objects.next).length + 1 := by
      rw [List.length_erase]
      split <;> omega
    have hloader : (world.withNewGame game).loaderHold = world.loaderHold := rfl
    have hholders : (world.withNewGame game).holders = world.holders + 1 := rfl
    rw [hloader, hholders]
    omega
  · intro hstill address ids games howners
    have hearlier : world.Owners address ids games :=
      howners.earlier (fun _ hid => hid) fun {other found} hfound howns => by
        rw [game?_withNewGame] at hfound
        split at hfound
        · cases hfound
          rw [hscript] at howns
          cases howns
        · exact ⟨found, hfound, howns⟩
    exact hworld.handles (hthere ▸ hstill) hearlier

/-- A game module takes over the handle of the script module that it is given. -/
theorem Sound.giveScript {script : Nat} (hworld : world.Sound (held.taking [script]))
    (address : Nat) :
    world.Reaches held Touch.ordinary
      (world.withGame address fun game => { game with script := some script }) := by
  refine withGame_reaches _ trivial ?_
  cases hgame : world.game? address with
  | none =>
      refine (hworld.withGame_of_none hgame _).forget (Nat.le_refl _) fun other => ?_
      simp only [Holdings.taking, List.count_append]
      omega
  | some game =>
      refine hworld.withGame hgame _ (Nat.le_refl _) fun other => ?_
      simp only [Holdings.taking, List.count_append, Option.toList_some]
      omega

end World

namespace Act

open LoadAct

variable {held : Holdings} {world : World} {load : String → String → LoadAct Nat}

/-! ### Finding and making game modules -/

theorem loadedModule_isQuiet (name : String) : IsQuiet (loadedModule name) := by
  intro world
  unfold loadedModule
  rw [after_get_bind]
  split
  · exact .refl world
  · split
    · exact .refl world
    · rename_i objects hupgrade
      exact World.upgrade_quiet hupgrade

/-- Looking for a game module that is not there changes nothing. -/
theorem loadedModule_of_none {name : String}
    (hnone : result (loadedModule name) world = none) :
    after (loadedModule name) world = world := by
  unfold loadedModule at hnone ⊢
  rw [result_get_bind] at hnone
  rw [after_get_bind]
  split
  · rfl
  · rename_i address haddress
    rw [haddress] at hnone
    dsimp only at hnone
    split
    · rfl
    · rename_i objects hupgrade
      rw [hupgrade] at hnone
      cases hnone

theorem liveInstance_isOrdinary (name requestedBy : String) :
    LoadAct.IsOrdinary (liveInstance name requestedBy) := by
  unfold liveInstance
  refine .bind (.lift (loadedModule_isQuiet name).ordinary) fun found => ?_
  split
  · exact .pure _
  · rename_i address
    refine .bind (.lift (.bind .get fun _ => .pure _)) fun initializing => ?_
    split
    · exact .bind (.lift (dropObjects_isOrdinary _)) fun _ => .throw _
    · exact .pure _

theorem liveInstance_of_none {name requestedBy : String}
    (hnone : result (liveInstance name requestedBy).run world = .ok none) :
    after (liveInstance name requestedBy).run world = world := by
  unfold liveInstance at hnone ⊢
  rw [result_run_bind, result_run_lift] at hnone
  rw [after_run_bind, result_run_lift]
  cases hfound : result (loadedModule name) world with
  | none => exact loadedModule_of_none hfound
  | some address =>
      rw [hfound] at hnone
      dsimp only at hnone
      rw [result_run_bind, result_run_lift] at hnone
      dsimp only at hnone
      split at hnone
      · rw [result_run_bind, result_run_lift] at hnone
        cases hnone
      · cases hnone

/-- A game module is made while there is a loader, which holds the executor. -/
theorem makeGame_reaches (hworld : world.Sound held) (hrunning : world.isRunning = true)
    (loader : Loader) (description : Description) (requestedBy : String) :
    world.Reaches held Touch.ordinary
      (after (makeGame loader description requestedBy) world) := by
  have hmade : world.Reaches held Touch.ordinary (world.withNewGame (.create description
      requestedBy loader.serial (loader.arena.allocate description.name).1)) :=
    hworld.withNewGame hrunning rfl
  exact hmade.trans ((onLoader_isOrdinary _).reaches hmade.sound)

/-! ### Sources, imports and listeners -/

theorem addFiles_isOrdinary (game : String) (script : Nat) :
    ∀ paths : List Path, LoadAct.IsOrdinary (addFiles game script paths)
  | [] => .pure _
  | path :: rest => by
      unfold addFiles
      refine .bind (.lift (addFile_isOrdinary script path)) fun added => ?_
      split
      · exact addFiles_isOrdinary game script rest
      · exact .bind (.lift (error_isQuiet _).ordinary) fun _ => .throw _

theorem exportPaths_isOrdinary (address : Nat) : IsOrdinary (exportPaths address) := by
  refine .bind .get fun world => ?_
  split
  · exact .pure _
  · exact .pure _

theorem addExports_isOrdinary (game : String) (script dependency : Nat) :
    LoadAct.IsOrdinary (addExports game script dependency) := by
  unfold addExports
  refine .bind (.lift (exportPaths_isOrdinary dependency)) fun paths => ?_
  split
  · exact addFiles_isOrdinary game script _
  · exact .bind (.lift (error_isQuiet _).ordinary) fun _ => .throw _

theorem takeImports_isOrdinary
    (hload : ∀ name requestedBy, LoadAct.IsOrdinary (load name requestedBy))
    (address script : Nat) (game : String) :
    ∀ names : List String,
      LoadAct.IsOrdinary (takeImports load address script game names)
  | [] => .pure _
  | name :: rest => by
      unfold takeImports
      refine .bind (hload name game) fun dependency => ?_
      refine .bind (.attempt (addExports_isOrdinary game script dependency)) fun added => ?_
      split
      · exact .bind (.lift (onGame_isOrdinary address _ fun _ => rfl)) fun _ =>
          takeImports_isOrdinary hload address script game rest
      · exact .bind (.lift (dropObjects_isOrdinary _)) fun _ => .throw _

theorem addSources_isOrdinary (game : GameModule) (script : Nat) :
    LoadAct.IsOrdinary (addSources game script) := by
  unfold addSources
  refine .bind .get fun world => ?_
  split
  · exact addFiles_isOrdinary _ script _
  · exact .bind (.lift (error_isQuiet _).ordinary) fun _ => .throw _

theorem forM_isOrdinary {α : Type} {step : α → LoadAct PUnit}
    (hstep : ∀ value, LoadAct.IsOrdinary (step value)) :
    ∀ values : List α, LoadAct.IsOrdinary (values.forM step)
  | [] => .pure _
  | value :: rest => .bind (hstep value) fun _ => forM_isOrdinary hstep rest

theorem compileGame_isOrdinary (game : GameModule) (address script : Nat) :
    LoadAct.IsOrdinary (compileGame game address script) := by
  unfold compileGame
  refine .bind (.lift (build_isOrdinary script)) fun compiled => ?_
  split
  · exact .throw _
  · exact .bind (.lift (setHooks_isOrdinary script _)) fun _ =>
      .bind (.lift (listeners_isOrdinary script)) fun entries =>
        forM_isOrdinary (fun _ => .lift (warn_isQuiet _).ordinary) _

/-! ### Initializing -/

/-- A script module is made for a game module that is there. -/
theorem prepareScript_reaches
    (hload : ∀ name requestedBy, LoadAct.IsOrdinary (load name requestedBy))
    (hworld : world.Sound held) (hrunning : world.isRunning = true) (address : Nat)
    (game : GameModule) :
    world.Reaches held Touch.ordinary
      (after (prepareScript load address game).run world) := by
  have hcreated := createModule_reaches hworld hrunning game.name
    game.description.path.text
  unfold prepareScript
  rw [after_run_bind, result_run_lift, after_run_lift]
  dsimp only
  generalize result (createModule game.name game.description.path.text) world = script
    at hcreated
  have hallowed := hcreated.trans ((setAccess_isOrdinary script fun _ =>
    AccessMask.moduleDefault.union game.description.extraAccess).reaches hcreated.sound)
  have hgiven := hallowed.trans (hallowed.sound.giveScript address)
  refine hgiven.trans ?_
  have hrest : LoadAct.IsOrdinary (do
      addSources game script
      takeImports load address script game.name game.description.imports
      compileGame game address script) :=
    .bind (addSources_isOrdinary game script) fun _ =>
      .bind (takeImports_isOrdinary hload address script _ _) fun _ =>
        compileGame_isOrdinary game address script
  exact hrest.run.reaches hgiven.sound

theorem noteInit_isQuiet (address : Nat) : IsQuiet (noteInit address) := by
  refine .bind .get fun world => ?_
  split
  · exact .pure _
  · exact note_isQuiet address _ .init

theorem fireInit_isOrdinary (address : Nat) : IsOrdinary (fireInit address) := by
  refine ⟨fun {held world} hworld => ?_⟩
  let noted := after (noteInit address) world
  have hnoted : world.Reaches held Touch.ordinary noted :=
    (noteInit_isQuiet address).ordinary.reaches hworld
  have hfired : world.Reaches held Touch.ordinary
      (after (fire address (.plain .init)) noted) :=
    hnoted.trans (fire_reaches hnoted.sound _)
  have hmodules := fire_modules address (.plain .init) noted
  have hdropped : world.Reaches held Touch.ordinary
      (after (dropAll (result (fire address (.plain .init)) noted).2)
        (after (fire address (.plain .init)) noted)) := by
    refine hfired.trans (dropAll_reaches ?_)
    rw [hmodules]
    exact hfired.sound
  unfold fireInit
  rw [after_bind, after_bind]
  dsimp only
  rw [after_bind]
  refine hdropped.trans ?_
  split
  · exact .refl hdropped.sound
  · exact (error_isQuiet _).ordinary.reaches hdropped.sound

/-- The end of an initialization: a game module that cannot be initialized loses its
script module again. -/
private theorem makeReady_rest (address : Nat) (result : Except LoadError Unit) :
    LoadAct.IsOrdinary (do
      onGame address fun game => { game with initializing := false }
      match result with
      | .ok _ =>
        onGame address fun game => { game with initialized := true }
        fireInit address
      | .error err =>
        error s!"initialization failed: {err.message}"
        dropAll (← detachGame address false)
        throw err) := by
  refine .bind (.lift (onGame_isOrdinary address _ fun _ => rfl)) fun _ => ?_
  cases result with
  | ok value =>
      exact .bind (.lift (onGame_isOrdinary address _ fun _ => rfl)) fun _ =>
        .lift (fireInit_isOrdinary address)
  | error err =>
      refine .bind (.lift (error_isQuiet _).ordinary) fun _ => ?_
      refine ⟨⟨fun {held world} hworld => ?_⟩⟩
      have hdetached := detachGame_reaches hworld address false
      exact hdetached.trans (dropAll_reaches hdetached.sound)

theorem makeReady_isOrdinary
    (hload : ∀ name requestedBy, LoadAct.IsOrdinary (load name requestedBy))
    (address : Nat) : LoadAct.IsOrdinary (makeReady load address) := by
  refine ⟨⟨fun {held world} hworld => ?_⟩⟩
  unfold makeReady
  rw [after_run_get_bind]
  split
  · exact .refl hworld
  · rename_i game hgame
    split
    · exact .refl hworld
    · split
      · exact .refl hworld
      · have hready : world.Reaches held Touch.ordinary
            (world.withGame address fun game => { game with initializing := true }) :=
          hworld.reaches_game trivial _ fun _ => rfl
        have hrunning : (world.withGame address fun game =>
            { game with initializing := true }).isRunning = true :=
          hworld.running_of_game hgame
        have hprepared := hready.trans
          (prepareScript_reaches hload hready.sound hrunning address game)
        exact hprepared.trans
          ((makeReady_rest address _).run.reaches hprepared.sound)

/-! ### Loads -/

theorem loadDescription_reaches
    (hload : ∀ name requestedBy, LoadAct.IsOrdinary (load name requestedBy))
    (hworld : world.Sound held) (hrunning : world.isRunning = true) (loader : Loader)
    (description : Description) (requestedBy : String) :
    world.Reaches held Touch.ordinary
      (after (loadDescription load loader description requestedBy).run world) := by
  have hmade := makeGame_reaches hworld hrunning loader description requestedBy
  unfold loadDescription
  rw [after_run_bind, result_run_lift, after_run_lift]
  dsimp only
  generalize result (makeGame loader description requestedBy) world = made
  obtain ⟨address, slot⟩ := made
  refine hmade.trans (IsOrdinary.reaches (LoadAct.IsOrdinary.run ?_) hmade.sound)
  refine .bind (.attempt (makeReady_isOrdinary hload address)) fun ready => ?_
  split
  · exact .pure _
  · exact .bind (.lift (onLoader_isOrdinary _)) fun _ =>
      .bind (.lift (dropObjects_isOrdinary _)) fun _ => .throw _

/-- The part of a load that makes a game module if there is none of the name yet. -/
private theorem loadNew_reaches
    (hload : ∀ name requestedBy, LoadAct.IsOrdinary (load name requestedBy))
    (hworld : world.Sound held) {loader : Loader} (hloader : world.loader = some loader)
    (description : Description) (requestedBy : String) :
    world.Reaches held Touch.ordinary (after (ExceptT.run (do
      match ← liveInstance description.name requestedBy with
      | some address => return address
      | none => loadDescription load loader description requestedBy)) world) := by
  have hfound := (liveInstance_isOrdinary description.name requestedBy).run.reaches
    hworld
  rw [after_run_bind]
  cases hresult : result (liveInstance description.name requestedBy).run world with
  | error err => exact hfound
  | ok found =>
      cases found with
      | some address => exact hfound
      | none =>
          rw [liveInstance_of_none hresult]
          exact loadDescription_reaches hload hworld (hworld.running_of_loader hloader)
            loader description requestedBy

theorem loadWith_isOrdinary
    (hload : ∀ name requestedBy, LoadAct.IsOrdinary (load name requestedBy))
    (name requestedBy : String) :
    LoadAct.IsOrdinary (loadWith load name requestedBy) := by
  unfold loadWith
  refine .bind (.lift (onLoader_isOrdinary _)) fun _ => ?_
  refine .bind (liveInstance_isOrdinary name requestedBy) fun found => ?_
  split
  · exact .pure _
  · refine ⟨⟨fun {held world} hworld => ?_⟩⟩
    rw [after_run_get_bind]
    split
    · exact .refl hworld
    · rename_i loader hloader
      split
      · exact .refl hworld
      · split
        · exact .refl hworld
        · exact loadNew_reaches hload hworld hloader _ requestedBy

theorem loadNested_isOrdinary (depth : Nat) :
    ∀ name requestedBy, LoadAct.IsOrdinary (loadNested depth name requestedBy) := by
  induction depth with
  | zero => exact fun _ _ => .throw _
  | succ depth ih => exact fun name requestedBy => loadWith_isOrdinary ih name requestedBy

theorem load_isOrdinary (name requestedBy : String) :
    IsOrdinary (Act.load name requestedBy) :=
  .bind .get fun _ => (loadNested_isOrdinary _ name requestedBy).run

theorem initializeGame_isOrdinary (address : Nat) :
    IsOrdinary (initializeGame address) := by
  refine .bind .get fun world => ?_
  refine .bind (makeReady_isOrdinary (loadNested_isOrdinary _) address).run fun ready => ?_
  split
  · exact .pure _
  · exact .pure _

/-! ### Loaders -/

theorem scan_isOrdinary : IsOrdinary scan := by
  refine .bind .get fun world => ?_
  split
  · exact .pure _
  · exact .bind (onLoader_isOrdinary _) fun _ =>
      .bind (IsQuiet.forM warn_isQuiet _).ordinary fun _ => .pure _

theorem loadedCount_isOrdinary : IsOrdinary loadedCount :=
  .bind (onLoader_isOrdinary _) fun _ => .bind .get fun _ => .pure _

theorem loadedModules_isOrdinary : IsOrdinary loadedModules :=
  .bind (onLoader_isOrdinary _) fun _ => .bind .get fun _ => .pure _

end Act

namespace World

variable {held : Holdings} {world : World}

/-- The world with another loader. The hold on the executor is that of the loader
before it, if there was one. -/
def withLoader (world : World) (loader : Loader) : World :=
  { world with
    loader := some loader
    loaders := world.loaders + 1
    holders := world.holders + if world.loader.isSome then 0 else 1 }

/-- The world without a loader, whose hold on the executor is held from outside. -/
def withoutLoader (world : World) : World :=
  { world with loader := none }

theorem Sound.withLoader (hworld : world.Sound held)
    (hrunning : world.isRunning = true) (loader : Loader) :
    world.Reaches held Touch.ordinary (world.withLoader loader) := by
  have hthere : (world.withLoader loader).isRunning = world.isRunning := by
    rw [hrunning]
    rw [isRunning_iff] at hrunning ⊢
    exact Nat.lt_of_lt_of_le hrunning (Nat.le_add_right _ _)
  have hscripts : (world.withLoader loader).scripts = world.scripts := by
    ext1 <;> try rfl
    exact hthere
  refine ⟨.of_eq hscripts, .inl, .of_games (Nat.le_refl _) fun hgame => hgame,
    hworld.objects, hworld.modules, hscripts ▸ hworld.scripts, ?_, ?_⟩
  · intro games hnodup hgames
    have hcount := hworld.holders games hnodup hgames
    simp only [World.withLoader, loaderHold, Option.isSome_some, if_true] at hcount ⊢
    split at hcount
    · rename_i hsome
      rw [if_pos hsome]
      omega
    · rename_i hnone
      rw [if_neg hnone]
      omega
  · intro hstill address ids games howners
    have hearlier : world.Owners address ids games :=
      howners.earlier (fun _ hid => hid) fun {other game} hgame hscript =>
        ⟨game, hgame, hscript⟩
    exact hworld.handles (hthere ▸ hstill) hearlier

theorem Sound.withoutLoader (hworld : world.Sound held) {loader : Loader}
    (hloader : world.loader = some loader) :
    world.Reaches held.holding Touch.ordinary world.withoutLoader := by
  refine ⟨.refl, .inl, .of_games (Nat.le_refl _) fun hgame => hgame, hworld.objects,
    hworld.modules, hworld.scripts, ?_, ?_⟩
  · intro games hnodup hgames
    have hcount := hworld.holders games hnodup hgames
    simp only [loaderHold, hloader, Option.isSome_some, if_true] at hcount
    simp only [World.withoutLoader, loaderHold, Holdings.holding, Option.isSome_none,
      Bool.false_eq_true, if_false]
    omega
  · intro hstill address ids games howners
    have hearlier : world.Owners address ids games :=
      howners.earlier (fun _ hid => hid) fun {other game} hgame hscript =>
        ⟨game, hgame, hscript⟩
    exact hworld.handles hstill hearlier

end World

namespace Act

variable {held : Holdings} {world : World}

/-- A loader is made while the host holds the executor, so that no handles come
up. -/
theorem makeLoader_eq (hworld : world.Sound held) (hheld : 0 < held.executor)
    (search : SourceSearch) (moduleExtension : String) :
    result (makeLoader search moduleExtension) world = [] ∧
      after (makeLoader search moduleExtension) world =
        world.withLoader (.create world.loaders search moduleExtension) := by
  unfold makeLoader
  rw [after_get_bind, result_get_bind]
  dsimp only
  cases hloader : world.loader with
  | none =>
      refine ⟨rfl, ?_⟩
      simp [World.withLoader, hloader]
  | some loader =>
      have hcount := hworld.holders [] List.nodup_nil (by simp)
      simp only [World.loaderHold, hloader, Option.isSome_some, if_true] at hcount
      have hmore : world.holders - 1 ≠ 0 := by omega
      have hreleased : result releaseExecutor world = [] ∧
          after releaseExecutor world =
            { world with holders := world.holders - 1 } := by
        unfold releaseExecutor
        rw [after_get_bind, result_get_bind]
        dsimp only
        rw [if_neg (by simp [hmore])]
        exact ⟨rfl, rfl⟩
      rw [if_pos (by rfl), after_bind, result_bind, hreleased.1, hreleased.2]
      refine ⟨rfl, ?_⟩
      have hholders : world.holders - 1 + 1 = world.holders := by omega
      simp [World.withLoader, hloader, hholders]

/-- Whoever lets the executor go drops what comes up with it. -/
theorem dropExecutor_reaches (hworld : world.Sound held.holding) :
    world.Reaches held Touch.ordinary
      (after (dropAll (result releaseExecutor world)) (after releaseExecutor world)) := by
  have hreleased : world.Reaches _ Touch.ordinary (after releaseExecutor world) :=
    (releaseExecutor_reaches hworld).1
  exact hreleased.trans (dropAll_reaches hreleased.sound)

end Act

end ScriptHost
