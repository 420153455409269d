import ScriptHost.Proofs.Housing
import ScriptHost.Proofs.Loading

/-!
Loading keeps worlds orderly. A game module gets a slot when it is made and stays the
only one of its name; while it is being initialized nobody comes by a handle of it, for
a load that finds it is refused. If its initialization fails, its slot is freed and its
one handle is dropped, so that the report of its destruction is stale.
-/

namespace ScriptHost

namespace World

variable {kept : List (Nat × GameModule)} {outside lent : List Nat}
  {before after world : World} {address : Nat} {game : GameModule}

/-! ### Game modules and loaders that change -/

/-- The world with a changed loader. -/
def changingLoader (world : World) (change : Loader → Loader) : World :=
  { world with loader := world.loader.map change }

theorem continues_withGame (address : Nat) (change : GameModule → GameModule) :
    world.Continues (world.withGame address change) :=
  ⟨rfl, rfl, rfl⟩

/-- A game module need not be kept. -/
theorem Orderly.forget (hworld : world.Orderly ((address, game) :: kept) outside lent) :
    world.Orderly kept outside lent where
  objects := hworld.objects
  modules := hworld.modules
  bounded := hworld.bounded
  serials := hworld.serials
  loader := hworld.loader
  houses := hworld.houses
  filled := hworld.filled
  outer := hworld.outer
  kept := fun hmem => hworld.kept (List.mem_cons_of_mem _ hmem)

theorem claimed_withGame {change : GameModule → GameModule} {target : Nat}
    (hgame : world.game? address = some game)
    (hclaimed : (world.withGame address change).Claimed target) :
    world.Claimed target ∨ target ∈ (change game).dependencies := by
  rcases hclaimed with ⟨place, body, hget, hmem⟩ | hhooked
  · unfold World.withGame at hget
    rw [Heap.get?_modify] at hget
    split at hget
    · rename_i hplace
      subst hplace
      rw [get?_of_game? hgame] at hget
      cases hget
      exact .inr hmem
    · exact .inl (.inl ⟨place, body, hget, hmem⟩)
  · exact .inl (.inr hhooked)

/-- A game module that is kept changes. It may come by handles of modules that are not
kept. -/
theorem Orderly.withGame (hworld : world.Orderly ((address, game) :: kept) outside lent)
    (hothers : ∀ entry ∈ kept, entry.1 ≠ address) (change : GameModule → GameModule)
    (hname : (change game).name = game.name)
    (hloader : (change game).loader = game.loader) (hslot : (change game).slot = game.slot)
    (hdependencies : ∀ target ∈ (change game).dependencies, target ∈ game.dependencies ∨
      target < world.objects.next ∧ ∀ entry ∈ (address, game) :: kept, entry.1 ≠ target) :
    (world.withGame address change).Orderly ((address, change game) :: kept) outside
      lent := by
  obtain ⟨hgame, -, hcount⟩ := hworld.kept List.mem_cons_self
  have hnext : (world.withGame address change).objects.next = world.objects.next :=
    Heap.next_modify world.objects address _
  have hfound := game?_withGame world address
  have hgames : ∀ {place found}, (world.withGame address change).game? place = some found →
      ∃ earlier, world.game? place = some earlier ∧ found.name = earlier.name ∧
        found.loader = earlier.loader ∧ found.slot = earlier.slot := by
    intro place found hsome
    rw [hfound] at hsome
    split at hsome
    · rename_i hplace
      subst hplace
      rw [hgame] at hsome
      cases hsome
      exact ⟨game, hgame, hname, hloader, hslot⟩
    · exact ⟨found, hsome, rfl, rfl, rfl⟩
  have hseats : ∀ serial,
      (world.withGame address change).seats serial outside = world.seats serial outside := by
    intro serial
    funext place
    simp only [seats, hfound]
    by_cases hplace : address = place
    · subst hplace
      simp [hgame, hname, hloader, hslot]
    · simp [hplace]
  have hold : ∀ {target}, world.Claimed target ∨ target ∈ (change game).dependencies →
      world.Claimed target ∨ target < world.objects.next ∧
        ∀ entry ∈ (address, game) :: kept, entry.1 ≠ target := by
    intro target hsome
    rcases hsome with hclaimed | hmem
    · exact .inl hclaimed
    · rcases hdependencies target hmem with hearlier | hnew
      · exact .inl (.inl ⟨address, .game game, get?_of_game? hgame, hearlier⟩)
      · exact .inr hnew
  refine ⟨hworld.objects.modify address _, hworld.modules, ?_, ?_, hworld.loader, ?_, ?_, ?_, ?_⟩
  · intro target hclaimed
    rw [hnext]
    rcases hold (claimed_withGame hgame hclaimed) with hearlier | ⟨hbelow, -⟩
    · exact hworld.bounded hearlier
    · exact hbelow
  · intro place found hsome
    obtain ⟨earlier, hearlier, -, hsame, -⟩ := hgames hsome
    rw [hsame]
    exact hworld.serials hearlier
  · intro loader hsome
    rw [hnext, hseats]
    exact hworld.houses hsome
  · intro loader hsome key entry found hholds hstill
    obtain ⟨earlier, hearlier, hsame, hmade, -⟩ := hgames hstill
    rw [hsame, hmade]
    exact hworld.filled hsome hholds hearlier
  · intro loader hsome place found hmem hstill hserial
    obtain ⟨earlier, hearlier, -, hsame, hkey⟩ := hgames hstill
    rw [hseats, hkey]
    exact hworld.outer hsome hmem hearlier (hsame ▸ hserial)
  · intro place found hmem
    have hunclaimed : ∀ entry ∈ (address, game) :: kept,
        ¬ (world.withGame address change).Claimed entry.1 := by
      intro entry hentry hclaimed
      rcases hold (claimed_withGame hgame hclaimed) with hearlier | ⟨-, hne⟩
      · exact (hworld.of_entry hentry).2.1 hearlier
      · exact hne entry hentry rfl
    have hcounts : (world.withGame address change).objects.strongCount place =
        world.objects.strongCount place := Heap.strongCount_modify _ _ _ _
    rw [hfound, hcounts]
    rcases List.mem_cons.mp hmem with hfirst | hrest
    · cases hfirst
      rw [if_pos rfl, hgame]
      exact ⟨rfl, hunclaimed _ List.mem_cons_self, hcount⟩
    · have hplace : address ≠ place := Ne.symm (hothers _ hrest)
      obtain ⟨hsome, -, hother⟩ := hworld.kept (List.mem_cons_of_mem _ hrest)
      rw [if_neg hplace]
      exact ⟨hsome, hunclaimed _ (List.mem_cons_of_mem _ hrest), hother⟩

/-- The loader may change as long as it houses the game modules. -/
theorem Orderly.onLoader (hworld : world.Orderly kept [] lent) {change : Loader → Loader}
    (hserial : ∀ {loader}, world.loader = some loader →
      (change loader).serial = loader.serial)
    (hhouses : ∀ {loader}, world.loader = some loader →
      (change loader).arena.Houses (change loader).reports
        (world.seats loader.serial []) world.objects.next)
    (hholds : ∀ {loader}, world.loader = some loader → ∀ {key entry},
      (change loader).arena.Holds key entry → loader.arena.Holds key entry) :
    (world.changingLoader change).Orderly kept [] lent where
  objects := hworld.objects
  modules := hworld.modules
  bounded := hworld.bounded
  serials := hworld.serials
  loader := by
    intro loader hsome
    obtain ⟨earlier, hearlier, rfl⟩ := Option.map_eq_some_iff.mp hsome
    rw [hserial hearlier]
    exact hworld.loader hearlier
  houses := by
    intro loader hsome
    obtain ⟨earlier, hearlier, rfl⟩ := Option.map_eq_some_iff.mp hsome
    rw [hserial hearlier]
    exact hhouses hearlier
  filled := by
    intro loader hsome key entry game hentered hgame
    obtain ⟨earlier, hearlier, rfl⟩ := Option.map_eq_some_iff.mp hsome
    rw [hserial hearlier]
    exact hworld.filled hearlier (hholds hearlier hentered) hgame
  outer := by simp
  kept := hworld.kept

/-- All reports are dealt with. -/
theorem Orderly.drained (hworld : world.Orderly kept [] lent) :
    (world.changingLoader Loader.drained).Orderly kept [] lent :=
  hworld.onLoader (fun _ => rfl) (fun hloader => (hworld.houses hloader).drained)
    fun _ => Arena.holds_of_drained

/-- A game module that cannot be initialized loses its slot. -/
theorem Orderly.freeSlot (hworld : world.Orderly ((address, game) :: kept) [] lent)
    (hserial : world.loader.map Loader.serial = some game.loader) :
    (world.changingLoader fun loader =>
        { loader with arena := loader.arena.freeSlot game.slot }).Orderly
      ((address, game) :: kept) [address] lent := by
  obtain ⟨loader, hloader, hmade⟩ := Option.map_eq_some_iff.mp hserial
  have hgame := (hworld.kept List.mem_cons_self).1
  have hhouses := hworld.houses hloader
  have hown : world.seats loader.serial [] address = some ⟨game.name, game.slot⟩ :=
    seats_eq_some_iff.mpr ⟨List.not_mem_nil, game, hgame, hmade.symm, rfl⟩
  have hissued : loader.arena.Issued game.slot := .inl ⟨_, (hhouses.seated hown).1⟩
  have hbelow : loader.serial < world.loaders := hworld.loader hloader
  have hstaying : ∀ place seat, world.seats loader.serial [address] place = some seat ↔
      world.seats loader.serial [] place = some seat ∧ seat.key ≠ game.slot := by
    intro place seat
    rw [seats_eq_some_iff, List.mem_singleton]
    constructor
    · rintro ⟨hne, found, hfound, hserial, rfl⟩
      have hseat : world.seats loader.serial [] place = some ⟨found.name, found.slot⟩ :=
        seats_eq_some_iff.mpr ⟨List.not_mem_nil, found, hfound, hserial, rfl⟩
      exact ⟨hseat, hhouses.key_ne hseat hown hne⟩
    · rintro ⟨hseat, hkey⟩
      obtain ⟨-, found, hfound, hserial, rfl⟩ := seats_eq_some_iff.mp hseat
      refine ⟨?_, found, hfound, hserial, rfl⟩
      rintro rfl
      rw [hgame] at hfound
      cases hfound
      exact hkey rfl
  have hfreed : (loader.arena.freeSlot game.slot).Houses loader.reports
      (world.seats loader.serial [address]) world.objects.next :=
    hhouses.freeSlot hissued (fun _ => id) (fun _ => .inr) hstaying
  refine ⟨hworld.objects, hworld.modules, hworld.bounded, hworld.serials, ?_, ?_, ?_, ?_,
    hworld.kept⟩
  · intro other hsome
    rw [changingLoader, hloader] at hsome
    cases hsome
    exact hbelow
  · intro other hsome
    rw [changingLoader, hloader] at hsome
    cases hsome
    exact hfreed
  · intro other hsome key entry found hholds hfound
    rw [changingLoader, hloader] at hsome
    cases hsome
    exact hworld.filled hloader (Arena.holds_of_freeSlot hholds) hfound
  · intro other hsome place found hmem hfound hserial
    rw [changingLoader, hloader] at hsome
    cases hsome
    rw [List.mem_singleton] at hmem
    subst hmem
    have hsame : found = game := Option.some.inj (hfound.symm.trans hgame)
    subst hsame
    exact ⟨hissued.freeSlot, fun hseat => ((hstaying _ _).mp hseat).2⟩

/-- A game module without slot is gone. -/
theorem Orderly.inside (hworld : world.Orderly kept [address] lent)
    (hgone : world.game? address = none) : world.Orderly kept [] lent where
  objects := hworld.objects
  modules := hworld.modules
  bounded := hworld.bounded
  serials := hworld.serials
  loader := hworld.loader
  houses := by
    intro loader hloader
    have hsame : world.seats loader.serial [] = world.seats loader.serial [address] := by
      funext place
      by_cases hplace : place = address
      · simp [seats, hplace, hgone]
      · simp [seats, hplace]
    rw [hsame]
    exact hworld.houses hloader
  filled := hworld.filled
  outer := by simp
  kept := hworld.kept

/-- A script module is made without hooks. -/
theorem Orderly.made (hworld : world.Orderly kept outside lent) (counter id : Nat)
    (name source : String) :
    (world.made counter (.create id name source)).Orderly kept outside lent := by
  refine hworld.of_games hworld.objects ((hworld.modules.alloc _).retain _)
    (Nat.le_refl _) ?_ (fun _ => rfl) rfl rfl fun hmem => (hworld.kept hmem).2.2
  rintro target (hobject | ⟨place, module, hmodule, hmem⟩)
  · exact .inl hobject
  · rw [module?_made hworld.modules] at hmodule
    split at hmodule
    · cases hmodule
      simp [ScriptModule.hookRefs, ScriptModule.create] at hmem
    · exact .inr ⟨place, module, hmodule, hmem⟩

/-- A game module that is made gets a slot, if no living one has its name. -/
theorem Orderly.admitted (hworld : world.Orderly kept [] []) {loader : Loader}
    (hloader : world.loader = some loader) {known : Table String Path}
    (hmade : game.loader = loader.serial) (hbare : game.dependencies = [])
    (hslot : game.slot = (loader.arena.allocate game.name).1)
    (hname : ∀ {other seat}, world.seats loader.serial [] other = some seat →
      seat.name ≠ game.name) :
    ((world.withNewGame game).changingLoader fun loader' =>
      { loader' with
        known := known
        arena := (loader.arena.allocate game.name).2.occupy game.slot
          ⟨game.name, world.objects.next⟩ }).Orderly
      ((world.objects.next, game) :: kept) [] [] := by
  have hgame := world.game?_withNewGame game
  have hget : ∀ place, (world.withNewGame game).objects.get? place =
      if world.objects.next = place then some (.game game) else world.objects.get? place :=
    Heap.get?_alloc world.objects (.game game)
  have hclaimed : ∀ {target}, (world.withNewGame game).Claimed target →
      world.Claimed target := by
    rintro target (⟨place, body, hbody, hmem⟩ | hhooked)
    · rw [hget] at hbody
      split at hbody
      · cases hbody
        simp [ObjectBody.owned, hbare] at hmem
      · exact .inl ⟨place, body, hbody, hmem⟩
    · exact .inr hhooked
  have hfresh : ∀ {place found}, world.game? place = some found →
      world.objects.next ≠ place := fun hfound => Nat.ne_of_gt (hworld.lt_next hfound)
  have hseats : (world.withNewGame game).seats loader.serial [] = fun place =>
      if place = world.objects.next then some ⟨game.name, game.slot⟩
      else world.seats loader.serial [] place := by
    funext place
    simp only [seats, hgame]
    by_cases hplace : world.objects.next = place
    · simp [hplace, hmade]
    · simp [hplace, Ne.symm hplace]
  have hserial := hworld.loader hloader
  have hadmitted := (hworld.houses hloader).admitted (Nat.le_refl _) hname
  rw [← hslot, ← hseats] at hadmitted
  refine ⟨hworld.objects.alloc _, hworld.modules, ?_, ?_, ?_, ?_, ?_, by simp, ?_⟩
  · exact fun hmem => Nat.lt_succ_of_lt (hworld.bounded (hclaimed hmem))
  · intro place found hfound
    have hcase : (world.withNewGame game).game? place = some found := hfound
    rw [hgame] at hcase
    split at hcase
    · cases hcase
      exact hmade ▸ hserial
    · exact hworld.serials hcase
  · intro other hsome
    rw [changingLoader, withNewGame, hloader] at hsome
    cases hsome
    exact hserial
  · intro other hsome
    rw [changingLoader, withNewGame, hloader] at hsome
    cases hsome
    exact hadmitted
  · intro other hsome key entry found hholds hfound
    rw [changingLoader, withNewGame, hloader] at hsome
    cases hsome
    have hcase : (world.withNewGame game).game? entry.address = some found := hfound
    rw [hgame] at hcase
    have hadmits := (hworld.houses hloader).toSound.admits game.name world.objects.next
    rw [← hslot] at hadmits
    rcases hadmits.holds hholds with rfl | hearlier
    · rw [if_pos rfl, Option.some.injEq] at hcase
      subst hcase
      exact ⟨rfl, hmade⟩
    · have hbelow := ((hworld.houses hloader).entered hearlier).1
      rw [if_neg (Nat.ne_of_gt hbelow)] at hcase
      exact hworld.filled hloader hearlier hcase
  · intro place found hmem
    have hcounts : (world.withNewGame game).objects.strongCount place =
        if world.objects.next = place then 1 else world.objects.strongCount place :=
      Heap.strongCount_alloc world.objects (.game game) place
    have hfound : (world.withNewGame game).game? place =
        if world.objects.next = place then some game else world.game? place := hgame place
    rcases List.mem_cons.mp hmem with hfirst | hrest
    · cases hfirst
      refine ⟨hfound.trans (if_pos rfl), fun hclaim => ?_, hcounts.trans (if_pos rfl)⟩
      exact Nat.lt_irrefl _ (hworld.bounded (hclaimed hclaim))
    · obtain ⟨hearlier, hunclaimed, hcount⟩ := hworld.kept hrest
      have hplace := hfresh hearlier
      exact ⟨hfound.trans ((if_neg hplace).trans hearlier),
        fun hclaim => hunclaimed (hclaimed hclaim),
        hcounts.trans ((if_neg hplace).trans hcount)⟩

end World

namespace LoadAct

variable {α β : Type}

/-- Whether a step of a load makes and drops no handles. -/
def IsSteady (step : LoadAct α) : Prop :=
  Act.IsSteady step.run

theorem IsSteady.pure (value : α) : IsSteady (Pure.pure value : LoadAct α) :=
  Act.IsSteady.pure _

theorem IsSteady.throw (err : LoadError) : IsSteady (throw err : LoadAct α) :=
  Act.IsSteady.pure _

theorem IsSteady.lift {act : Act α} (hact : Act.IsSteady act) :
    IsSteady (liftM act : LoadAct α) :=
  fun world => hact world

theorem IsSteady.bind {step : LoadAct α} {next : α → LoadAct β} (hstep : IsSteady step)
    (hnext : ∀ value, IsSteady (next value)) : IsSteady (step >>= next) := by
  intro world
  rw [after_run_bind]
  split
  · exact (hstep world).trans (hnext _ _)
  · exact hstep world

theorem IsSteady.forM {step : α → LoadAct PUnit} (hstep : ∀ value, IsSteady (step value)) :
    ∀ values : List α, IsSteady (values.forM step)
  | [] => .pure _
  | value :: rest => .bind (hstep value) fun _ => IsSteady.forM hstep rest

end LoadAct

namespace Act

open World LoadAct

variable {kept : List (Nat × GameModule)} {outside lent : List Nat}
  {world : World} {address : Nat} {game : GameModule}

/-! ### Steps that are no loads -/

theorem createModuleWithId_orderly (name source : String) (id : Nat)
    (hworld : world.Orderly kept outside lent) :
    (after (createModuleWithId name source id) world).Orderly kept outside lent ∧
      world.Continues (after (createModuleWithId name source id) world) := by
  have hmade := hworld.made world.executor.nextId id name source
  have hbegun : world.Continues
      (world.made world.executor.nextId (.create id name source)) := ⟨rfl, rfl, rfl⟩
  cases hregistered : world.executor.registry.get? id with
  | none =>
      rw [createModuleWithId_of_free name source hregistered]
      exact ⟨hmade, hbegun⟩
  | some old =>
      -- The module that had the number is released, and its registration ends.
      have hreplaced : after (createModuleWithId name source id) world =
          after (do
            warn "module id reused, previous module released"
            let owned ← release old
            dropAll (owned ++ [.module old]))
            (world.made world.executor.nextId (.create id name source)) := by
        unfold createModuleWithId
        rw [after_get_bind, hregistered]
        rfl
      rw [hreplaced]
      generalize world.made world.executor.nextId (.create id name source) = made
        at hmade hbegun
      have hwarned := warn_isSteady "module id reused, previous module released" made
      have hreleased := hwarned.trans (release_isSteady old _)
      have hhooked : ∀ target ∈ Owned.objects (result (release old)
          (made.warn "module id reused, previous module released") ++ [.module old]),
          made.Claimed target := by
        intro target hmem
        rw [Owned.objects_append, List.mem_append] at hmem
        exact .inr (hwarned.hooked (release_hooked old (hmem.resolve_right (by simp))))
      have hready : (after (release old)
          (made.warn "module id reused, previous module released")).Orderly kept outside
            (Owned.objects (result (release old) (made.warn
              "module id reused, previous module released") ++ [.module old]) ++ lent) :=
        (hmade.steady hreleased).relend _ fun hmem => by
          rw [List.count_append, hmade.count_claimed hhooked hmem, Nat.zero_add]
      obtain ⟨hdropped, hsheds⟩ := dropAll_orderly _ hready
      exact ⟨hdropped, hbegun.trans (hreleased.continues.trans hsheds.toContinues)⟩

theorem createModule_orderly (name source : String)
    (hworld : world.Orderly kept outside lent) :
    (after (createModule name source) world).Orderly kept outside lent ∧
      world.Continues (after (createModule name source) world) := by
  have hcounted := onExecutor_isSteady (fun executor =>
    { executor with nextId := world.executor.nextId + 1 }) (fun _ => rfl) world
  obtain ⟨hcreated, hcontinues⟩ := createModuleWithId_orderly name source
    world.executor.nextId (hworld.steady hcounted)
  exact ⟨hcreated, hcounted.continues.trans hcontinues⟩

theorem addFiles_isSteady (game : String) (script : Nat) :
    ∀ paths : List Path, LoadAct.IsSteady (addFiles game script paths)
  | [] => .pure _
  | path :: rest => by
      unfold addFiles
      refine .bind (.lift (addFile_isSteady script path)) fun added => ?_
      split
      · exact addFiles_isSteady game script rest
      · exact .bind (.lift (error_isSteady _)) fun _ => .throw _

theorem exportPaths_isSteady (address : Nat) : IsSteady (exportPaths address) := by
  refine .bind .get fun world => ?_
  split
  · exact .pure _
  · exact .pure _

theorem addExports_isSteady (game : String) (script dependency : Nat) :
    LoadAct.IsSteady (addExports game script dependency) := by
  unfold addExports
  refine .bind (.lift (exportPaths_isSteady dependency)) fun paths => ?_
  split
  · exact addFiles_isSteady game script _
  · exact .bind (.lift (error_isSteady _)) fun _ => .throw _

theorem addSources_isSteady (game : GameModule) (script : Nat) :
    LoadAct.IsSteady (addSources game script) := by
  unfold addSources
  refine .bind (.lift .get) fun world => ?_
  split
  · exact addFiles_isSteady _ script _
  · exact .bind (.lift (error_isSteady _)) fun _ => .throw _

theorem compileGame_isSteady (game : GameModule) (address script : Nat) :
    LoadAct.IsSteady (compileGame game address script) := by
  unfold compileGame
  refine .bind (.lift (build_isSteady script)) fun compiled => ?_
  split
  · exact .throw _
  · exact .bind (.lift (setHooks_isSteady script rfl)) fun _ =>
      .bind (.lift (listeners_isSteady script)) fun entries =>
        .forM (fun _ => .lift (warn_isSteady _)) _

end Act

/-! ### A module that is being initialized -/

/-- The game module at an address, which has been made as `start`, has its one handle on
the stack, and so have those that are `kept`. The module may be marked as initializing. -/
structure World.Undergoes (kept : List (Nat × GameModule)) (address : Nat)
    (start : GameModule) (marked : Bool) (world : World) : Prop where
  state : ∃ game : GameModule, game.description = start.description ∧
    game.loader = start.loader ∧ game.slot = start.slot ∧ game.initializing = marked ∧
      world.Orderly ((address, game) :: kept) [] []
  others : ∀ entry ∈ kept, entry.1 ≠ address

/-- Whether a step of a load, however it ends, keeps a world orderly, and finds a game
module that is not marked as initializing if it works. -/
structure LoadAct.Places (kept : List (Nat × GameModule)) (world : World)
    (step : LoadAct Nat) : Prop where
  orderly : (Act.after step.run world).Orderly kept [] []
  continues : world.Continues (Act.after step.run world)
  found : ∀ address, Act.result step.run world = .ok address →
    ∃ game, (Act.after step.run world).game? address = some game ∧
      game.initializing = false

/-- Whether a load keeps worlds orderly in which all modules that are kept are marked as
initializing. -/
structure LoadAct.Arranges (load : String → String → LoadAct Nat) : Prop where
  run : ∀ {kept : List (Nat × GameModule)} {world : World} (name requestedBy : String),
    world.Orderly kept [] [] → (∀ entry ∈ kept, entry.2.initializing = true) →
      LoadAct.Places kept world (load name requestedBy)

namespace World

variable {kept : List (Nat × GameModule)} {before after world : World} {address : Nat}
  {start : GameModule} {marked : Bool}

theorem Undergoes.steady (hbefore : before.Undergoes kept address start marked)
    (hsteady : before.Steady after) : after.Undergoes kept address start marked := by
  obtain ⟨⟨game, hdescription, hloader, hslot, hmarked, horderly⟩, hothers⟩ := hbefore
  exact ⟨⟨game, hdescription, hloader, hslot, hmarked, horderly.steady hsteady⟩, hothers⟩

/-- The module changes. It may come by handles of modules that are not kept. -/
theorem Undergoes.withGame (hworld : world.Undergoes kept address start marked)
    (change : GameModule → GameModule) {mark : Bool}
    (hsame : ∀ game, (change game).description = game.description ∧
      (change game).loader = game.loader ∧ (change game).slot = game.slot)
    (hmark : ∀ game, game.initializing = marked → (change game).initializing = mark)
    (hdependencies : ∀ game, ∀ target ∈ (change game).dependencies,
      target ∈ game.dependencies ∨ target < world.objects.next ∧ target ≠ address ∧
        ∀ entry ∈ kept, entry.1 ≠ target) :
    (world.withGame address change).Undergoes kept address start mark := by
  obtain ⟨⟨game, hdescription, hloader, hslot, hmarked, horderly⟩, hothers⟩ := hworld
  obtain ⟨hdescription', hloader', hslot'⟩ := hsame game
  refine ⟨⟨change game, hdescription'.trans hdescription, hloader'.trans hloader,
    hslot'.trans hslot, hmark game hmarked, ?_⟩, hothers⟩
  refine horderly.withGame hothers change (congrArg Description.name hdescription') hloader'
    hslot' fun target hmem => (hdependencies game target hmem).imp_right ?_
  rintro ⟨hbelow, hne, hkept⟩
  refine ⟨hbelow, fun entry hentry => ?_⟩
  rcases List.mem_cons.mp hentry with rfl | hrest
  · exact Ne.symm hne
  · exact hkept entry hrest

/-- Handles of modules that are not kept are dropped. -/
theorem Undergoes.dropObjects (hworld : world.Undergoes kept address start marked)
    {refs : List ObjectRef} (hrefs : ∀ ref ∈ refs, ref.address ≠ address ∧
      ∀ entry ∈ kept, entry.1 ≠ ref.address) :
    (Act.after (Act.dropObjects refs) world).Undergoes kept address start marked ∧
      world.Continues (Act.after (Act.dropObjects refs) world) := by
  obtain ⟨⟨game, hdescription, hloader, hslot, hmarked, horderly⟩, hothers⟩ := hworld
  have hlent : world.Orderly ((address, game) :: kept) []
      (refs.map ObjectRef.address ++ []) := by
    refine horderly.relend _ fun {target found} hmem => ?_
    rw [List.append_nil, List.count_nil]
    refine List.count_eq_zero_of_not_mem fun htarget => ?_
    obtain ⟨ref, href, rfl⟩ := List.mem_map.mp htarget
    rcases List.mem_cons.mp hmem with hfirst | hrest
    · exact (hrefs ref href).1 (congrArg Prod.fst hfirst)
    · exact (hrefs ref href).2 _ hrest rfl
  obtain ⟨hdropped, hsheds⟩ := Act.dropObjects_orderly refs hlent
  exact ⟨⟨⟨game, hdescription, hloader, hslot, hmarked, hdropped⟩, hothers⟩,
    hsheds.toContinues⟩

end World

namespace LoadAct

open World

variable {α β : Type} {kept : List (Nat × GameModule)} {world : World} {address : Nat}
  {start : GameModule} {load : String → String → LoadAct Nat}

/-- Whether a step of a load, however it ends, leaves a module to its initialization. -/
structure Sustains (kept : List (Nat × GameModule)) (address : Nat) (start : GameModule)
    (step : LoadAct α) : Prop where
  run : ∀ {world : World}, world.Undergoes kept address start true →
    (Act.after step.run world).Undergoes kept address start true ∧
      world.Continues (Act.after step.run world)

theorem Sustains.bind {step : LoadAct α} {next : α → LoadAct β}
    (hstep : Sustains kept address start step)
    (hnext : ∀ value, Sustains kept address start (next value)) :
    Sustains kept address start (step >>= next) := by
  refine ⟨fun {world} hworld => ?_⟩
  obtain ⟨hfirst, hcontinues⟩ := hstep.run hworld
  rw [after_run_bind]
  split
  · obtain ⟨hlast, hcontinues'⟩ := (hnext _).run hfirst
    exact ⟨hlast, hcontinues.trans hcontinues'⟩
  · exact ⟨hfirst, hcontinues⟩

theorem IsSteady.sustains {step : LoadAct α} (hstep : IsSteady step) :
    Sustains kept address start step :=
  ⟨fun {world} hworld => ⟨hworld.steady (hstep world), (hstep world).continues⟩⟩

/-- A load hands out a module that nobody initializes, which is not one of those that
are kept. -/
theorem Arranges.undergoes (hload : Arranges load)
    (hkept : ∀ entry ∈ kept, entry.2.initializing = true)
    (hworld : world.Undergoes kept address start true) (name requestedBy : String) :
    (Act.after (load name requestedBy).run world).Undergoes kept address start true ∧
      world.Continues (Act.after (load name requestedBy).run world) ∧
      ∀ found, Act.result (load name requestedBy).run world = .ok found →
        found < (Act.after (load name requestedBy).run world).objects.next ∧
          found ≠ address ∧ ∀ entry ∈ kept, entry.1 ≠ found := by
  obtain ⟨⟨game, hdescription, hloader, hslot, hmarked, horderly⟩, hothers⟩ := hworld
  obtain ⟨hloaded, hcontinues, hfound⟩ := hload.run name requestedBy horderly (by
    intro entry hentry
    rcases List.mem_cons.mp hentry with rfl | hrest
    · exact hmarked
    · exact hkept entry hrest)
  refine ⟨⟨⟨game, hdescription, hloader, hslot, hmarked, hloaded⟩, hothers⟩, hcontinues,
    fun found hresult => ?_⟩
  obtain ⟨other, hother, hunmarked⟩ := hfound found hresult
  have hne : ∀ entry ∈ (address, game) :: kept, entry.2.initializing = true →
      entry.1 ≠ found := by
    rintro entry hentry hinitializing rfl
    have hsame := (hloaded.of_entry hentry).1
    rw [hother, Option.some.injEq] at hsame
    rw [hsame, hinitializing] at hunmarked
    cases hunmarked
  exact ⟨hloaded.lt_next hother, Ne.symm (hne _ List.mem_cons_self hmarked),
    fun entry hentry => hne entry (List.mem_cons_of_mem _ hentry) (hkept entry hentry)⟩

end LoadAct

namespace Act

open World LoadAct

variable {kept : List (Nat × GameModule)} {world : World} {address script : Nat}
  {start : GameModule} {load : String → String → LoadAct Nat}

/-- An import is loaded and its exported files are added. -/
theorem loadExports_undergoes (hload : LoadAct.Arranges load)
    (hkept : ∀ entry ∈ kept, entry.2.initializing = true)
    (hworld : world.Undergoes kept address start true) (name requestedBy : String)
    {dependency : Nat} (hresult : result (load name requestedBy).run world = .ok dependency)
    {added : World} (hadded : added = after (addExports requestedBy script dependency).run
      (after (load name requestedBy).run world)) :
    added.Undergoes kept address start true ∧ world.Continues added ∧
      dependency < added.objects.next ∧ dependency ≠ address ∧
        ∀ entry ∈ kept, entry.1 ≠ dependency := by
  obtain ⟨hloaded, hcontinues, hfound⟩ := hload.undergoes hkept hworld name requestedBy
  obtain ⟨hbelow, hne, hothers⟩ := hfound dependency hresult
  have hsteady := addExports_isSteady requestedBy script dependency
    (after (load name requestedBy).run world)
  subst hadded
  refine ⟨hloaded.steady hsteady, hcontinues.trans hsteady.continues, ?_, hne, hothers⟩
  rw [hsteady.objects]
  exact hbelow

/-- A module holds on to an import. -/
theorem push_undergoes {dependency : Nat} (hworld : world.Undergoes kept address start true)
    (hbelow : dependency < world.objects.next) (hne : dependency ≠ address)
    (hothers : ∀ entry ∈ kept, entry.1 ≠ dependency) :
    (world.withGame address fun game => { game with
      dependencies := game.dependencies ++ [dependency] }).Undergoes kept address start
        true := by
  refine hworld.withGame _ (fun game => ⟨rfl, rfl, rfl⟩) (fun game => id)
    fun game target hmem => ?_
  rcases List.mem_append.mp hmem with hearlier | hlast
  · exact .inl hearlier
  · rw [List.mem_singleton] at hlast
    subst hlast
    exact .inr ⟨hbelow, hne, hothers⟩

/-- The imports are loaded and held on to. -/
theorem takeImports_sustains (hload : LoadAct.Arranges load)
    (hkept : ∀ entry ∈ kept, entry.2.initializing = true) (requestedBy : String)
    (names : List String) :
    LoadAct.Sustains kept address start
      (takeImports load address script requestedBy names) := by
  induction names with
  | nil => exact LoadAct.IsSteady.sustains (.pure _)
  | cons name rest ih =>
      refine ⟨fun {world} hworld => ?_⟩
      unfold takeImports
      rw [after_run_bind]
      cases hresult : result (load name requestedBy).run world with
      | error err =>
          obtain ⟨hloaded, hcontinues, -⟩ :=
            hload.undergoes hkept hworld name requestedBy
          exact ⟨hloaded, hcontinues⟩
      | ok dependency =>
          dsimp only
          rw [after_run_attempt_bind]
          obtain ⟨hready, hcontinues, hbelow, hne, hothers⟩ :=
            @loadExports_undergoes kept world address script start load hload hkept hworld
              name requestedBy dependency hresult _ rfl
          generalize after (addExports requestedBy script dependency).run
            (after (load name requestedBy).run world) = added at hready hcontinues hbelow
          cases result (addExports requestedBy script dependency).run
              (after (load name requestedBy).run world) with
          | ok value =>
              dsimp only
              rw [after_run_lift_bind, after_onGame]
              obtain ⟨hrest, hcontinues'⟩ :=
                ih.run (push_undergoes hready hbelow hne hothers)
              exact ⟨hrest, (hcontinues.trans (continues_withGame _ _)).trans hcontinues'⟩
          | error err =>
              dsimp only
              rw [after_run_lift_bind]
              have hdependency : ∀ ref ∈ [(⟨.gameModule, dependency⟩ : ObjectRef)],
                  ref.address ≠ address ∧ ∀ entry ∈ kept, entry.1 ≠ ref.address := by
                intro ref href
                rw [List.mem_singleton] at href
                subst href
                exact ⟨hne, hothers⟩
              obtain ⟨hdropped, hcontinues'⟩ := hready.dropObjects hdependency
              exact ⟨hdropped, hcontinues.trans hcontinues'⟩

theorem createModule_sustains (name source : String) :
    LoadAct.Sustains kept address start (createModule name source : LoadAct Nat) := by
  refine ⟨fun {world} hworld => ?_⟩
  obtain ⟨⟨game, hdescription, hloader, hslot, hmarked, horderly⟩, hothers⟩ := hworld
  obtain ⟨hcreated, hcontinues⟩ := createModule_orderly name source horderly
  exact ⟨⟨⟨game, hdescription, hloader, hslot, hmarked, hcreated⟩, hothers⟩, hcontinues⟩

theorem prepareScript_sustains (hload : LoadAct.Arranges load)
    (hkept : ∀ entry ∈ kept, entry.2.initializing = true) (game : GameModule) :
    LoadAct.Sustains kept address start (prepareScript load address game) := by
  unfold prepareScript
  refine .bind (createModule_sustains game.name _) fun script => ?_
  refine .bind (LoadAct.IsSteady.sustains (.lift (onModule_isSteady script
    fun _ => List.Subset.refl _))) fun _ => ?_
  refine .bind ⟨fun {world} hworld => ⟨hworld.withGame _ (fun _ => ⟨rfl, rfl, rfl⟩)
    (fun _ => id) fun _ _ => .inl, rfl, rfl, rfl⟩⟩ fun _ => ?_
  exact .bind (addSources_isSteady game script).sustains fun _ =>
    .bind (takeImports_sustains hload hkept game.name _) fun _ =>
      (compileGame_isSteady game address script).sustains

/-! ### The end of an initialization -/

variable {outside lent : List Nat} {game : GameModule}

theorem noteInit_isSteady (address : Nat) : IsSteady (noteInit address) := by
  refine .bind .get fun world => ?_
  split
  · exact .pure _
  · exact note_isSteady address _ .init

/-- The init event comes up for handles that are given back. -/
theorem fireInit_orderly (hworld : world.Orderly kept outside lent) (address : Nat) :
    (after (fireInit address) world).Orderly kept outside lent ∧
      world.Continues (after (fireInit address) world) := by
  have hnote := noteInit_isSteady address world
  have hnoted := hworld.steady hnote
  obtain ⟨refs, hrefs, hkeeps⟩ := fire_keeps address
    (rfl : (Event.plain .init).payload = []) (World.Keeps.refl hnoted.objects)
  have hfired := hnoted.keeps hkeeps
  rw [List.append_nil] at hfired
  unfold fireInit
  rw [after_bind, after_bind]
  dsimp only
  rw [after_bind, hrefs]
  obtain ⟨hdropped, hsheds⟩ := dropObjects_orderly refs hfired
  have hcontinues := (hnote.continues.trans hkeeps.continues).trans hsheds.toContinues
  split
  · exact ⟨hdropped, hcontinues⟩
  · have herror := error_isSteady
    exact ⟨hdropped.steady (herror _ _), hcontinues.trans (herror _ _).continues⟩

/-- A game module that is kept gives up its script module and its imports. -/
theorem detaching_orderly (hworld : world.Orderly ((address, game) :: kept) outside lent)
    (hothers : ∀ entry ∈ kept, entry.1 ≠ address) :
    (world.detaching address).Orderly
      ((address, { game with script := none, dependencies := [] }) :: kept) outside
        lent :=
  hworld.withGame hothers (fun game => { game with script := none, dependencies := [] })
    rfl rfl rfl fun _ hmem => absurd hmem List.not_mem_nil

theorem detachGame_orderly (wanted : Bool)
    (hworld : world.Orderly ((address, game) :: kept) [] [])
    (hothers : ∀ entry ∈ kept, entry.1 ≠ address) :
    (after (detachGame address wanted) world).Orderly
        ((address, { game with script := none, dependencies := [], initialized := false })
          :: kept) []
        (Owned.objects (result (detachGame address wanted) world)) ∧
      world.Continues (after (detachGame address wanted) world) := by
  have hgame := (hworld.kept List.mem_cons_self).1
  have hdetaching := detaching_orderly hworld hothers
  have hself := selfValue_keeps address (World.Keeps.refl hdetaching.objects)
  obtain ⟨refs, rest, hresult, hkeeps, hrest⟩ := detachScript_keeps address game wanted
    (result (selfValue address) (world.detaching address)) hself
  have hclaimed : ∀ target ∈ Owned.objects rest, world.Claimed target := by
    intro target hmem
    rcases hrest target hmem with hhooked | hdependency
    · exact .inr hhooked
    · exact .inl ⟨address, .game game, get?_of_game? hgame, hdependency⟩
  have hfinished := (hdetaching.keeps hkeeps).withGame hothers
    (fun game => { game with initialized := false }) rfl rfl rfl fun _ => .inl
  have hcontinues : world.Continues (after (detachScript address game wanted
      (result (selfValue address) (world.detaching address)))
        (after (selfValue address) (world.detaching address))) :=
    ⟨hkeeps.continues.files, hkeeps.continues.rules, hkeeps.continues.serial⟩
  unfold detachGame
  rw [after_get_bind, result_get_bind, hgame]
  dsimp only
  simp only [after_bind, result_bind, after_onGame, after_pure, result_pure]
  refine ⟨?_, hcontinues.files, hcontinues.rules, hcontinues.serial⟩
  refine hfinished.relend _ fun {target found} hmem => ?_
  have hkept : ∃ found, (target, found) ∈ (address, game) :: kept := by
    rcases List.mem_cons.mp hmem with hfirst | hrest
    · cases hfirst
      exact ⟨game, List.mem_cons_self⟩
    · exact ⟨found, List.mem_cons_of_mem _ hrest⟩
  obtain ⟨earlier, hearlier⟩ := hkept
  have hdetached : result (detachScript address game wanted (result (selfValue address)
      (world.withGame address fun game => { game with script := none, dependencies := [] })))
        (after (selfValue address) (world.withGame address fun game =>
          { game with script := none, dependencies := [] })) =
      refs.map Owned.object ++ rest := hresult
  rw [hdetached]
  simp only [Owned.objects_append, Owned.objects_objects, List.count_append,
    hworld.count_claimed hclaimed hearlier, List.append_nil, Nat.add_zero]
  rfl

/-- A module that is prepared hears the init event. -/
theorem initialized_undergoes {marked : Bool}
    (hworld : world.Undergoes kept address start marked) :
    (after (do
        onGame address fun game => { game with initialized := true }
        fireInit address) world).Undergoes kept address start marked ∧
      world.Continues (after (do
        onGame address fun game => { game with initialized := true }
        fireInit address) world) := by
  obtain ⟨⟨game, hdescription, hloader, hslot, hmarked, horderly⟩, hothers⟩ :=
    hworld.withGame (fun game => { game with initialized := true })
      (fun _ => ⟨rfl, rfl, rfl⟩) (fun _ => id) fun _ _ => .inl
  obtain ⟨hfired, hcontinues⟩ := fireInit_orderly horderly address
  rw [after_bind, after_onGame]
  generalize after (fireInit address) _ = fired at *
  exact ⟨⟨⟨game, hdescription, hloader, hslot, hmarked, hfired⟩, hothers⟩,
    hcontinues.files, hcontinues.rules, hcontinues.serial⟩

/-- A module that cannot be prepared gives up what it has. -/
theorem abandoned_undergoes {marked : Bool} (message : String)
    (hworld : world.Undergoes kept address start marked) :
    (after (do
        error message
        dropAll (← detachGame address false)) world).Undergoes kept address start marked ∧
      world.Continues (after (do
        error message
        dropAll (← detachGame address false)) world) := by
  have hreported := error_isSteady message world
  obtain ⟨⟨game, hdescription, hloader, hslot, hmarked, horderly⟩, hothers⟩ :=
    hworld.steady hreported
  obtain ⟨hdetached, hcontinues⟩ := detachGame_orderly false horderly hothers
  rw [← List.append_nil (Owned.objects _)] at hdetached
  obtain ⟨hdropped, hsheds⟩ := dropAll_orderly _ hdetached
  exact ⟨⟨⟨{ game with script := none, dependencies := [], initialized := false },
    hdescription, hloader, hslot, hmarked, hdropped⟩, hothers⟩,
    (hreported.continues.trans hcontinues).trans hsheds.toContinues⟩

/-- The initialization of a module ends, one way or the other. -/
theorem makeReady_undergoes (hload : LoadAct.Arranges load)
    (hkept : ∀ entry ∈ kept, entry.2.initializing = true)
    (hworld : world.Orderly ((address, game) :: kept) [] [])
    (hothers : ∀ entry ∈ kept, entry.1 ≠ address) (hinitialized : game.initialized = false)
    (hinitializing : game.initializing = false) :
    (after (makeReady load address).run world).Undergoes kept address game false ∧
      world.Continues (after (makeReady load address).run world) := by
  have hgame := (hworld.kept List.mem_cons_self).1
  have hbegun : (world.withGame address fun game =>
      { game with initializing := true }).Undergoes kept address game true :=
    ⟨⟨{ game with initializing := true }, rfl, rfl, rfl, rfl,
      hworld.withGame hothers (fun game => { game with initializing := true }) rfl rfl rfl
        fun _ => .inl⟩, hothers⟩
  obtain ⟨hprepared, hcontinues⟩ :=
    (prepareScript_sustains hload hkept game).run hbegun
  have hunmarked := hprepared.withGame (fun game => { game with initializing := false })
    (fun _ => ⟨rfl, rfl, rfl⟩) (fun _ _ => (rfl : false = false)) fun _ _ => .inl
  have hbefore : world.Continues ((after (prepareScript load address game).run
      (world.withGame address fun game => { game with initializing := true })).withGame
        address fun game => { game with initializing := false }) :=
    ⟨hcontinues.files, hcontinues.rules, hcontinues.serial⟩
  unfold makeReady
  rw [after_run_get_bind, hgame]
  dsimp only
  rw [hinitialized, hinitializing]
  simp only [Bool.false_eq_true, if_false]
  rw [after_run_lift_bind, after_onGame, after_run_attempt_bind, after_run_lift_bind,
    after_onGame]
  cases result (prepareScript load address game).run (world.withGame address fun game =>
      { game with initializing := true }) with
  | ok value =>
      obtain ⟨hended, hcontinues'⟩ := initialized_undergoes hunmarked
      rw [after_bind, after_onGame] at hended hcontinues'
      dsimp only
      rw [after_run_lift_bind, after_onGame, after_run_lift]
      exact ⟨hended, hbefore.trans hcontinues'⟩
  | error err =>
      obtain ⟨hended, hcontinues'⟩ :=
        abandoned_undergoes s!"initialization failed: {err.message}" hunmarked
      rw [after_bind, after_bind] at hended hcontinues'
      dsimp only
      rw [after_run_lift_bind, after_run_lift_bind, after_run_lift_bind, after_run_throw]
      exact ⟨hended, hbefore.trans hcontinues'⟩

end Act

end ScriptHost
