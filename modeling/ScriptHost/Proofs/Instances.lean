import ScriptHost.Proofs.Arranging
import ScriptHost.Proofs.Reachable

/-!
Game modules by name. Whatever has been loaded, dropped, reported and changed in files so
far, the loader has at most one living game module of each name, and its arena says where
it is. A load of a name whose game module lives hands out that module. The invariant
behind it is that the world of the session is orderly, and every step that is taken of the
loader and of files keeps it.
-/

namespace ScriptHost

namespace World

variable {world : World} {name : String} {address : Nat} {game : GameModule}

/-- The loader has an arena that is sound, and it knows of each living game module. -/
structure KeepsInstances (world : World) : Prop where
  /-- No two living game modules of the loader have the same name. -/
  unique : ∀ {name address other game found}, world.IsInstance name address game →
    world.IsInstance name other found → address = other
  /-- A load of a game module that lives and is not being initialized, by its name or by a
  description file that declares it, gives a handle of it and does nothing else but deal
  with the reports. -/
  found : ∀ {name request address game}, world.IsInstance name address game →
    game.initializing = false → world.Denotes name request → ∀ requestedBy,
      (Act.load request requestedBy).run world = (.ok address, world.finding address)
  /-- The free slots are there once each, and none of them is in use. -/
  free : ∀ {loader}, world.loader = some loader → loader.arena.free.Nodup ∧
    ∀ {key entry}, loader.arena.Holds key entry → key.index ∉ loader.arena.free
  /-- A name stands for a slot in use whose entry has the name and the generation. -/
  named : ∀ {loader}, world.loader = some loader → ∀ {name key},
    loader.arena.byName.get? name = some key →
      ∃ address, loader.arena.Holds key ⟨name, address⟩
  /-- However many of the reports have been dealt with, the living game modules have
  their slots. -/
  kept : ∀ {loader}, world.loader = some loader → ∀ {dealt left},
    loader.reports = dealt ++ left → ∀ {name address game},
      world.IsInstance name address game →
        (dealt.foldl Arena.freeSlot loader.arena).Holds game.slot ⟨name, address⟩
  /-- A report of an old generation frees nothing. -/
  stale : ∀ {loader}, world.loader = some loader → ∀ {dealt key left},
    loader.reports = dealt ++ key :: left → ∀ {slot},
      (dealt.foldl Arena.freeSlot loader.arena).slots[key.index]? = some slot →
        slot.generation ≠ key.generation →
          (dealt.foldl Arena.freeSlot loader.arena).freeSlot key =
            dealt.foldl Arena.freeSlot loader.arena
  /-- Once all reports are dealt with, the slots in use are those of the living game
  modules. -/
  exact : ∀ {loader}, world.loader = some loader → ∀ {key entry},
    loader.drained.arena.Holds key entry ↔
      ∃ game, world.IsInstance entry.name entry.address game ∧ game.slot = key

theorem Orderly.keepsInstances (hworld : world.Orderly [] [] []) :
    world.KeepsInstances where
  unique := hworld.instance_unique
  found := fun hfound hmarked hrequest requestedBy =>
    Act.load_of_instance hworld hfound hmarked hrequest requestedBy
  free := fun hloader =>
    ⟨(hworld.houses hloader).free, fun hholds => (hworld.houses hloader).not_free hholds⟩
  named := fun hloader => (hworld.houses hloader).named
  kept := by
    intro loader hloader dealt left hreports name address game hfound
    have hhouses := hworld.houses hloader
    rw [hreports] at hhouses
    exact (hhouses.drainedUpTo.seated (hfound.seat hloader)).1
  stale := fun _ => fun _ => fun hslot hstale => Arena.freeSlot_of_stale hslot hstale
  exact := by
    intro loader hloader key entry
    have hhouses := (hworld.houses hloader).drained
    constructor
    · intro hholds
      exact isInstance_of_seat hloader
        ((hhouses.entered hholds).2.resolve_right List.not_mem_nil)
    · rintro ⟨game, hfound, rfl⟩
      exact (hhouses.seated (hfound.seat hloader)).1

/-! ### Worlds that change otherwise -/

/-- The executor, the host and the files may change. -/
theorem Orderly.of_eq {before after : World} (hbefore : before.Orderly [] [] [])
    (hobjects : after.objects = before.objects) (hmodules : after.modules = before.modules)
    (hloader : after.loader = before.loader) (hloaders : after.loaders = before.loaders) :
    after.Orderly [] [] [] := by
  have hhooked : ∀ {target}, after.Hooked target → before.Hooked target := by
    rintro target ⟨place, module, hmodule, hmem⟩
    refine ⟨place, module, ?_, hmem⟩
    rw [World.module?, ← hmodules]
    exact hmodule
  refine hbefore.of_games (hobjects ▸ hbefore.objects) (hmodules ▸ hbefore.modules)
    (Nat.le_of_eq (congrArg Heap.next hobjects.symm)) ?_ (fun address => ?_) hloader hloaders
    (by simp)
  · rintro target (⟨place, body, hget, hmem⟩ | hsome)
    · exact .inl ⟨place, body, hobjects ▸ hget, hmem⟩
    · exact .inr (hhooked hsome)
  · rw [World.game?, World.game?, hobjects]

theorem Orderly.write (hworld : world.Orderly [] [] []) (path : Path) (node : FileNode) :
    (world.write path node).Orderly [] [] [] := by
  unfold World.write
  dsimp only
  split
  · exact hworld.of_eq rfl rfl rfl rfl
  · exact hworld.of_eq rfl rfl rfl rfl

/-- More handles of script modules are held. -/
theorem Orderly.retainModules (hworld : world.Orderly [] [] []) (addresses : List Nat) :
    { world with modules := addresses.foldl Heap.retain world.modules }.Orderly
      [] [] [] := by
  induction addresses generalizing world with
  | nil => exact hworld
  | cons address rest ih =>
      refine @ih { world with modules := world.modules.retain address } ?_
      refine hworld.of_games hworld.objects (hworld.modules.retain address) (Nat.le_refl _)
        ?_ (fun _ => rfl) rfl rfl (by simp)
      rintro target (hobject | ⟨place, module, hmodule, hmem⟩)
      · exact .inl hobject
      · refine .inr ⟨place, module, ?_, hmem⟩
        rw [← hmodule]
        exact (hworld.modules.get?_retain address place).symm

/-- A new loader has made no game modules. -/
theorem Orderly.withLoader (hworld : world.Orderly [] [] []) (search : SourceSearch)
    (moduleExtension : String) :
    (world.withLoader (.create world.loaders search moduleExtension)).Orderly [] [] [] where
  objects := hworld.objects
  modules := hworld.modules
  bounded := hworld.bounded
  serials := fun hgame => Nat.lt_succ_of_lt (hworld.serials hgame)
  loader := by
    intro loader hloader
    cases hloader
    exact Nat.lt_succ_self world.loaders
  houses := by
    intro loader hloader
    cases hloader
    have hnone : (world.withLoader (.create world.loaders search moduleExtension)).seats
        world.loaders [] = fun _ => none := by
      funext address
      refine Option.eq_none_iff_forall_ne_some.mpr fun seat hseat => ?_
      obtain ⟨-, game, hgame, hserial, -⟩ := seats_eq_some_iff.mp hseat
      exact Nat.ne_of_lt (hworld.serials hgame) hserial
    have hempty := Arena.empty_houses world.objects.next
    rw [← hnone] at hempty
    exact hempty
  filled := by
    intro loader hloader key entry game hholds
    cases hloader
    cases hholds
  outer := by simp
  kept := by simp

theorem Orderly.withoutLoader (hworld : world.Orderly [] [] []) :
    world.withoutLoader.Orderly [] [] [] where
  objects := hworld.objects
  modules := hworld.modules
  bounded := hworld.bounded
  serials := hworld.serials
  loader := nofun
  houses := nofun
  filled := nofun
  outer := nofun
  kept := by simp

end World

namespace Act

open World

variable {α β : Type} {world : World}

/-- Whether an operation keeps worlds orderly in which nothing is being initialized. -/
structure IsOrderly (act : Act α) : Prop where
  run : ∀ {world : World}, world.Orderly [] [] [] → (after act world).Orderly [] [] []

theorem IsOrderly.pure (value : α) : IsOrderly (Pure.pure value) :=
  ⟨id⟩

theorem IsOrderly.get : IsOrderly MonadState.get :=
  ⟨id⟩

theorem IsOrderly.bind {act : Act α} {next : α → Act β} (hact : IsOrderly act)
    (hnext : ∀ value, IsOrderly (next value)) : IsOrderly (act >>= next) :=
  ⟨fun hworld => (hnext _).run (hact.run hworld)⟩

theorem IsSteady.orderly {act : Act α} (hact : IsSteady act) : IsOrderly act :=
  ⟨fun hworld => hworld.steady (hact _)⟩

/-- The executor, the host and the files may change. -/
theorem modify_isOrderly {change : World → World}
    (hobjects : ∀ world, (change world).objects = world.objects)
    (hmodules : ∀ world, (change world).modules = world.modules)
    (hloader : ∀ world, (change world).loader = world.loader)
    (hloaders : ∀ world, (change world).loaders = world.loaders) :
    IsOrderly (modify change) :=
  ⟨fun hworld => hworld.of_eq (hobjects _) (hmodules _) (hloader _) (hloaders _)⟩

theorem onExecutor_isOrderly (change : Executor → Executor) :
    IsOrderly (onExecutor change) :=
  modify_isOrderly (fun _ => rfl) (fun _ => rfl) (fun _ => rfl) fun _ => rfl

/-- All handles may be dropped. -/
theorem dropAll_isOrderly (handles : List Owned) : IsOrderly (dropAll handles) :=
  ⟨fun hworld => (dropAll_orderly handles (hworld.relend _ (by simp))).1⟩

theorem dropObjects_isOrderly (refs : List ObjectRef) : IsOrderly (dropObjects refs) :=
  dropAll_isOrderly _

theorem load_isOrderly (name requestedBy : String) :
    IsOrderly (Act.load name requestedBy) :=
  ⟨load_orderly name requestedBy⟩

theorem drained_isOrderly : IsOrderly (onLoader Loader.drained) :=
  ⟨fun hworld => hworld.drained⟩

theorem loadedCount_isOrderly : IsOrderly loadedCount :=
  .bind drained_isOrderly fun _ => .bind .get fun _ => .pure _

theorem loadedModules_isOrderly : IsOrderly loadedModules :=
  .bind drained_isOrderly fun _ => .bind .get fun _ => .pure _

theorem retain_isOrderly (address : Nat) :
    IsOrderly (Act.retain [⟨.gameModule, address⟩]) :=
  ⟨fun hworld => (hworld.retain address).relend _ (by simp)⟩

theorem releaseExecutor_orderly (hworld : world.Orderly [] [] []) :
    (after releaseExecutor world).Orderly [] [] [] := by
  have hkeeps := (releaseExecutor_keeps (World.Keeps.refl hworld.objects)).1
  exact hworld.keeps hkeeps

/-- What is found out by a scan says nothing of slots. -/
theorem scan_isOrderly : IsOrderly scan := by
  refine ⟨fun {world} hworld => ?_⟩
  unfold scan
  rw [after_get_bind]
  split
  · exact hworld
  · rename_i loader hloader
    have hscanned : (world.changingLoader fun _ =>
        (loader.scan world.files).1).Orderly [] [] [] := by
      refine hworld.onLoader (fun hsome => ?_) (fun hsome => ?_) fun hsome => ?_
      · rw [hloader] at hsome
        cases hsome
        rfl
      · rw [hloader] at hsome
        cases hsome
        have hhouses := hworld.houses hloader
        exact hhouses
      · rw [hloader] at hsome
        cases hsome
        exact id
    have hcomplained : IsOrderly (do
        (loader.scan world.files).2.forM warn
        return (loader.scan world.files).1.known.length) :=
      .bind (IsSteady.forM warn_isSteady _).orderly fun _ => .pure _
    exact hcomplained.run hscanned

theorem makeLoader_isOrderly (search : SourceSearch) (moduleExtension : String) :
    IsOrderly (makeLoader search moduleExtension) := by
  have hmade : ∀ {world : World}, world.Orderly [] [] [] → World.Orderly [] [] []
      { world with
        loader := some (.create world.loaders search moduleExtension)
        loaders := world.loaders + 1
        holders := world.holders + 1 } := fun hworld =>
    (hworld.withLoader search moduleExtension).of_eq rfl rfl rfl rfl
  refine ⟨fun {world} hworld => ?_⟩
  unfold makeLoader
  rw [after_get_bind]
  dsimp only
  split
  · exact hmade (releaseExecutor_orderly hworld)
  · exact hmade hworld

/-- A reload gives back the handles it hands out. -/
theorem reloadTargets_isOrderly (addresses : List Nat) :
    IsOrderly (reloadTargets addresses) := by
  induction addresses with
  | nil => exact .pure 0
  | cons address rest ih =>
      refine ⟨fun {world} hworld => ?_⟩
      obtain ⟨refs, hrefs, hkeeps⟩ := reload_keeps address (World.Keeps.refl hworld.objects)
      have hreloaded := (hworld.keeps hkeeps).relend [] (by simp)
      have hrest : IsOrderly (do
          dropAll ((result (reload address) world).2 ++ [.module address])
          let more ← reloadTargets rest
          return if (result (reload address) world).1 then more + 1 else more) :=
        .bind (dropAll_isOrderly _) fun _ => .bind ih fun _ => .pure _
      exact hrest.run hreloaded

theorem handleChanges_isOrderly (paths : List Path) : IsOrderly (handleChanges paths) := by
  refine ⟨fun {world} hworld => ?_⟩
  unfold handleChanges
  rw [after_get_bind]
  split
  · exact hworld
  · rename_i watcher hwatcher
    have hheld := hworld.retainModules
      ((watcher.collectTargets world.files (fun address =>
        (world.module? address).map ScriptModule.id) paths).2.map
          fun target => target.2.target)
    dsimp only
    rw [after_bind, after_set, after_bind, after_onExecutor]
    exact (reloadTargets_isOrderly _).run (hheld.of_eq rfl rfl rfl rfl)

theorem poll_isOrderly : IsOrderly poll := by
  refine .bind .get fun world => ?_
  refine .bind (modify_isOrderly (fun _ => rfl) (fun _ => rfl) (fun _ => rfl)
    fun _ => rfl) fun _ => ?_
  exact handleChanges_isOrderly _

theorem watchFiles_isOrderly (id address : Nat) (files : List Path) :
    IsOrderly (watchFiles id address files) := by
  refine .bind .get fun world => ?_
  split
  · exact .pure _
  · exact .bind (onExecutor_isOrderly _) fun _ => .pure _

end Act

namespace SessionAct

variable {α β : Type}

/-- Whether a part of a step keeps worlds orderly in which nothing is being initialized. -/
structure IsOrderly (act : SessionAct α) : Prop where
  run : ∀ {session : Session}, session.world.Orderly [] [] [] →
    (after act session).world.Orderly [] [] []

theorem IsOrderly.pure (value : α) : IsOrderly (Pure.pure value : SessionAct α) :=
  ⟨id⟩

theorem IsOrderly.throw (absent : Missing) : IsOrderly (throw absent : SessionAct α) :=
  ⟨id⟩

theorem IsOrderly.get : IsOrderly (MonadState.get : SessionAct Session) :=
  ⟨id⟩

theorem IsOrderly.bind {act : SessionAct α} {next : α → SessionAct β}
    (hact : IsOrderly act) (hnext : ∀ value, IsOrderly (next value)) :
    IsOrderly (act >>= next) := by
  refine ⟨fun {session} hsession => ?_⟩
  have hfirst := hact.run hsession
  rw [after_bind]
  split
  · exact (hnext _).run hfirst
  · exact hfirst

theorem act_isOrderly {operation : Act α} (hoperation : operation.IsOrderly) :
    IsOrderly (act operation) :=
  ⟨fun hsession => hoperation.run hsession⟩

/-- A change of names. -/
theorem modify_isOrderly {change : Session → Session}
    (hworld : ∀ session, (change session).world = session.world) :
    IsOrderly (modify change : SessionAct PUnit) := by
  refine ⟨fun {session} hsession => ?_⟩
  have hafter : after (modify change : SessionAct PUnit) session = change session := rfl
  rw [hafter, hworld]
  exact hsession

theorem world_isOrderly : IsOrderly world :=
  .bind .get fun _ => .pure _

theorem found_isOrderly (name : String) (value : Option α) :
    IsOrderly (found name value) := by
  cases value with
  | some value => exact .pure value
  | none => exact .throw _

theorem needExecutor_isOrderly : IsOrderly needExecutor := by
  refine .bind .get fun session => ?_
  split
  · exact .pure _
  · exact .throw _

theorem needLoader_isOrderly : IsOrderly needLoader :=
  .bind world_isOrderly fun _ => found_isOrderly _ _

theorem moduleNamed_isOrderly (name : String) : IsOrderly (moduleNamed name) :=
  .bind .get fun _ => found_isOrderly _ _

theorem gameNamed_isOrderly (name : String) : IsOrderly (gameNamed name) :=
  .bind .get fun _ => found_isOrderly _ _

theorem gameState_isOrderly (name : String) : IsOrderly (gameState name) :=
  .bind (gameNamed_isOrderly name) fun _ =>
    .bind world_isOrderly fun _ => found_isOrderly _ _

/-- All handles may be dropped. -/
theorem dropAll_isOrderly (handles : List Owned) : IsOrderly (act (Act.dropAll handles)) :=
  act_isOrderly (Act.dropAll_isOrderly handles)

theorem dropObjects_isOrderly (refs : List ObjectRef) :
    IsOrderly (act (Act.dropObjects refs)) :=
  act_isOrderly (Act.dropObjects_isOrderly refs)

theorem bindGame_isOrderly (name : Option String) (address : Nat) :
    IsOrderly (bindGame name address) := by
  unfold bindGame
  split
  · exact dropObjects_isOrderly _
  · exact .bind .get fun _ => .bind (modify_isOrderly fun _ => rfl) fun _ =>
      dropObjects_isOrderly _

theorem bindModule_isOrderly (name : Option String) (address : Nat) :
    IsOrderly (bindModule name address) := by
  unfold bindModule
  split
  · exact dropAll_isOrderly _
  · exact .bind .get fun _ => .bind (modify_isOrderly fun _ => rfl) fun _ =>
      dropAll_isOrderly _

end SessionAct

namespace GameStep

open SessionAct

/-- Whether a step loads, finds or looks at game modules, so that none of them is called
or initialized again by the host. -/
def isLoading : GameStep → Bool
  | .fire .. | .execute .. | .makeReady .. | .releaseScript .. => false
  | _ => true

theorem loadAnswer_isOrderly (name requestedBy : String) (target : Option String) :
    IsOrderly (loadAnswer name requestedBy target) := by
  refine .bind needLoader_isOrderly fun _ =>
    .bind (act_isOrderly (Act.load_isOrderly name requestedBy)) fun loaded => ?_
  split
  · exact .pure _
  · exact .bind world_isOrderly fun _ => .bind (bindGame_isOrderly _ _) fun _ => .pure _

theorem scriptAnswer_isOrderly (name : String) (target : Option String) :
    IsOrderly (scriptAnswer name target) := by
  refine .bind (gameState_isOrderly name) fun game => ?_
  split
  · exact .pure _
  · rename_i address _
    exact .bind (act_isOrderly ⟨fun hworld => hworld.retainModules [address]⟩) fun _ =>
      .bind (bindModule_isOrderly _ _) fun _ => .pure _

theorem dependencyAnswer_isOrderly (name : String) (place : Nat) (target : Option String) :
    IsOrderly (dependencyAnswer name place target) := by
  refine .bind (gameState_isOrderly name) fun game => ?_
  split
  · exact .pure _
  · exact .bind (act_isOrderly (Act.retain_isOrderly _)) fun _ =>
      .bind world_isOrderly fun _ => .bind (bindGame_isOrderly _ _) fun _ => .pure _

theorem subscriptions_isSteady (address : Nat) : Act.IsSteady (Act.subscriptions address) := by
  refine .bind .get fun world => ?_
  split
  · exact .pure _
  · exact .bind (Act.listeners_isSteady _) fun _ => .pure _

theorem perform_isOrderly (step : GameStep) (hstep : step.isLoading = true) :
    IsOrderly step.perform := by
  cases step with
  | loader search moduleExtension =>
      exact .bind needExecutor_isOrderly fun _ =>
        .bind (act_isOrderly (Act.makeLoader_isOrderly _ moduleExtension)) fun _ =>
          .bind (dropAll_isOrderly _) fun _ => .pure _
  | scan =>
      exact .bind needLoader_isOrderly fun _ =>
        .bind (act_isOrderly Act.scan_isOrderly) fun _ => .pure _
  | known => exact .bind needLoader_isOrderly fun _ => .pure _
  | load name requestedBy target => exact loadAnswer_isOrderly name requestedBy target
  | loaded name =>
      exact .bind needLoader_isOrderly fun _ => .bind world_isOrderly fun _ => .pure _
  | loadedCount =>
      exact .bind needLoader_isOrderly fun _ =>
        .bind (act_isOrderly Act.loadedCount_isOrderly) fun _ => .pure _
  | loadedModules =>
      exact .bind needLoader_isOrderly fun _ =>
        .bind (act_isOrderly Act.loadedModules_isOrderly) fun _ => .pure _
  | drain =>
      exact .bind needLoader_isOrderly fun _ =>
        .bind (act_isOrderly Act.drained_isOrderly) fun _ => .pure _
  | loaderStats =>
      exact .bind needLoader_isOrderly fun _ => .bind world_isOrderly fun _ => .pure _
  | game name =>
      exact .bind (gameState_isOrderly name) fun _ =>
        .bind world_isOrderly fun _ => .pure _
  | refs name =>
      exact .bind world_isOrderly fun _ => .bind (gameNamed_isOrderly name) fun _ => .pure _
  | same a b =>
      exact .bind (gameNamed_isOrderly a) fun _ =>
        .bind (gameNamed_isOrderly b) fun _ => .pure _
  | script name target => exact scriptAnswer_isOrderly name target
  | dependency name place target => exact dependencyAnswer_isOrderly name place target
  | exportPaths name =>
      refine .bind (gameNamed_isOrderly name) fun _ =>
        .bind (act_isOrderly (Act.exportPaths_isSteady _).orderly) fun paths => ?_
      split
      · exact .pure _
      · exact .pure _
  | subscriptions name =>
      exact .bind (gameNamed_isOrderly name) fun _ =>
        .bind (act_isOrderly (subscriptions_isSteady _).orderly) fun _ => .pure _
  | isSubscribed name event =>
      exact .bind (gameNamed_isOrderly name) fun _ =>
        .bind (act_isOrderly (subscriptions_isSteady _).orderly) fun _ => .pure _
  | fire => cases hstep
  | execute => cases hstep
  | makeReady => cases hstep
  | releaseScript => cases hstep

end GameStep

namespace FileStep

open SessionAct

theorem dropName_isOrderly (kind : NameKind) (name : String) :
    IsOrderly (dropName kind name) := by
  cases kind with
  | callback =>
      exact .bind .get fun _ => .bind (modify_isOrderly fun _ => rfl) fun _ =>
        .bind (dropObjects_isOrderly _) fun _ => .pure _
  | function => exact .bind .get fun _ => .bind (modify_isOrderly fun _ => rfl) fun _ => .pure _
  | compiled => exact .bind .get fun _ => .bind (modify_isOrderly fun _ => rfl) fun _ => .pure _
  | game =>
      exact .bind .get fun _ => .bind (modify_isOrderly fun _ => rfl) fun _ =>
        .bind (dropObjects_isOrderly _) fun _ => .pure _
  | module =>
      exact .bind .get fun _ => .bind (modify_isOrderly fun _ => rfl) fun _ =>
        .bind (dropAll_isOrderly _) fun _ => .pure _
  | object =>
      exact .bind .get fun _ => .bind (modify_isOrderly fun _ => rfl) fun _ =>
        .bind (dropObjects_isOrderly _) fun _ => .pure _
  | loader =>
      refine .bind world_isOrderly fun world => ?_
      split
      · exact .pure _
      · exact .bind (act_isOrderly ⟨fun hworld => hworld.withoutLoader⟩) fun _ =>
          .bind (act_isOrderly ⟨Act.releaseExecutor_orderly⟩) fun _ =>
            .bind (dropAll_isOrderly _) fun _ => .pure _
  | executor =>
      refine ⟨fun {session} hsession => ?_⟩
      unfold dropName dropExecutor
      rw [after_get_bind]
      have hreleased : IsOrderly (do
          act (Act.dropAll (← act Act.releaseExecutor))
          return session.hasExecutor) :=
        .bind (act_isOrderly ⟨Act.releaseExecutor_orderly⟩) fun _ =>
          .bind (dropAll_isOrderly _) fun _ => .pure _
      split
      · exact @IsOrderly.run _ _ hreleased { session with hasExecutor := false } hsession
      · exact hsession

theorem watchAnswer_isOrderly (module : String) (files : List Path) (id : Option Nat) :
    IsOrderly (watchAnswer module files id) := by
  refine .bind (moduleNamed_isOrderly module) fun _ => .bind needExecutor_isOrderly
    fun executor => .bind world_isOrderly fun world => ?_
  dsimp only
  split
  · exact .pure _
  · refine .bind (act_isOrderly (Act.watchFiles_isOrderly _ _ files)) fun watched => ?_
    split
    · exact .pure _
    · exact .pure _

theorem perform_isOrderly (step : FileStep) : IsOrderly step.perform := by
  cases step with
  | write path node =>
      exact .bind (act_isOrderly ⟨fun hworld => hworld.write path node⟩) fun _ => .pure _
  | remove path =>
      exact .bind (act_isOrderly (Act.modify_isOrderly (fun _ => rfl) (fun _ => rfl)
        (fun _ => rfl) fun _ => rfl)) fun _ => .pure _
  | changed paths =>
      exact .bind needExecutor_isOrderly fun _ =>
        .bind (act_isOrderly (Act.handleChanges_isOrderly paths)) fun _ => .pure _
  | poll =>
      exact .bind needExecutor_isOrderly fun _ =>
        .bind (act_isOrderly Act.poll_isOrderly) fun _ => .pure _
  | watch module files id => exact watchAnswer_isOrderly module files id
  | unwatch id =>
      exact .bind needExecutor_isOrderly fun _ =>
        .bind (act_isOrderly (Act.onExecutor_isOrderly _)) fun _ => .pure _
  | isWatching id => exact .bind needExecutor_isOrderly fun _ => .pure _
  | watchedFiles => exact .bind needExecutor_isOrderly fun _ => .pure _
  | drop kind name => exact .bind (dropName_isOrderly kind name) fun _ => .pure _

end FileStep

/-- Whether a step loads, finds or looks at game modules, or deals with files or drops a
name. -/
def Step.isLoading : Step → Bool
  | .onGames step => step.isLoading
  | .onFiles _ => true
  | .onModules _ | .onCalls _ => false

namespace Session

variable {session : Session}

theorem step_orderly (hsession : session.world.Orderly [] [] []) {step : Step}
    (hstep : step.isLoading = true) : (session.step step).2.world.Orderly [] [] [] := by
  have hperformed : (SessionAct.after (perform step) session).world.Orderly [] [] [] := by
    cases step with
    | onModules step => cases hstep
    | onCalls step => cases hstep
    | onGames step => exact (step.perform_isOrderly hstep).run hsession
    | onFiles step => exact step.perform_isOrderly.run hsession
  exact hperformed.of_eq rfl rfl rfl rfl

theorem run_orderly (hsession : session.world.Orderly [] [] []) (steps : List Step)
    (hsteps : ∀ step ∈ steps, step.isLoading = true) :
    (session.run steps).world.Orderly [] [] [] := by
  induction steps generalizing session with
  | nil => exact hsession
  | cons step rest ih =>
      exact ih (step_orderly hsession (hsteps step List.mem_cons_self))
        fun other hother => hsteps other (List.mem_cons_of_mem step hother)

theorem begin_orderly (files : FileTree) (plan : ExecutorPlan) :
    (begin files plan).world.Orderly [] [] [] where
  objects := Heap.empty_sound
  modules := Heap.empty_sound
  bounded := by
    rintro address (⟨place, body, hget, -⟩ | ⟨place, module, hmodule, -⟩)
    · cases hget
    · cases hmodule
  serials := nofun
  loader := nofun
  houses := nofun
  filled := nofun
  outer := nofun
  kept := by simp

/-- A description file with one source file. -/
def describing (name imported source : String) : FileNode :=
  .file (.text ("\x7b\"objects\": [\x7b\"name\": \"" ++ name ++
    "\", \"properties\": \x7b\"Imports\": [" ++ imported ++
    "]\x7d, \"sourcefiles\": [\"" ++ source ++ "\"]\x7d]\x7d"))

/-- One game module is loaded by its file and by its name. Another one cannot be
initialized for want of its source file, which leaves a report whose slot is free
already. -/
def loadingSteps : List Step :=
  [.onFiles (.write ⟨"/game.json"⟩ (describing "game" "" "game.src")),
    .onFiles (.write ⟨"/game.src"⟩ (.file (.text ""))),
    .onFiles (.write ⟨"/lost.json"⟩ (describing "lost" "" "lost.src")),
    .onGames (.loader none "json"),
    .onGames (.load "/game.json" "host" (some "g")),
    .onGames (.load "game" "host" none),
    .onGames (.load "/lost.json" "host" none)]

end Session

end ScriptHost
