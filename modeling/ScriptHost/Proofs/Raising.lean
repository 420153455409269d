import ScriptHost.Proofs.Arranging
import ScriptHost.Proofs.Falling
import ScriptHost.Proofs.Tending

/-!
What a load brings into being. However a load ends, what has grown since some time is still
accounted for: the handle of the game module that is loaded is that of whoever has asked for
it, and what a failed load has made is gone but for what others have got hold of. A game
module that is handed out has heard the init event.
-/

namespace ScriptHost

namespace World

open Delivery

variable {outset : Outset} {making unheard lent : List Nat} {since more : List Delivery}
  {held : Holdings} {before after world : World} {place script : Nat} {game : GameModule}

/-- A game module changes in anything that its slot does not depend on. -/
theorem Orderly.edit (hworld : world.Orderly [] [] []) (hgame : world.game? place = some game)
    (change : GameModule → GameModule) (hname : (change game).name = game.name)
    (hloader : (change game).loader = game.loader) (hslot : (change game).slot = game.slot)
    (hdependencies : ∀ target ∈ (change game).dependencies,
      target ∈ game.dependencies ∨ target < world.objects.next) :
    (world.withGame place change).Orderly [] [] [] := by
  have hnext : (world.withGame place change).objects.next = world.objects.next :=
    Heap.next_modify world.objects place _
  have hfound := game?_withGame world place
  have hseats : ∀ serial,
      (world.withGame place change).seats serial [] = world.seats serial [] := by
    intro serial
    funext other
    simp only [seats, hfound]
    by_cases hplace : place = other
    · subst hplace
      simp [hgame, hname, hloader, hslot]
    · simp [hplace]
  refine ⟨hworld.objects.modify place _, hworld.modules, ?_, ?_, hworld.loader, ?_, ?_, ?_, ?_⟩
  · intro target hclaimed
    rw [hnext]
    rcases claimed_withGame hgame hclaimed with hearlier | hmem
    · exact hworld.bounded hearlier
    · exact (hdependencies target hmem).elim
        (fun hold => hworld.bounded (.inl ⟨place, .game game, get?_of_game? hgame, hold⟩)) id
  · intro other found hsome
    rw [hfound] at hsome
    split at hsome
    · rename_i hplace
      rw [← hplace, hgame] at hsome
      cases hsome
      exact hloader ▸ hworld.serials hgame
    · exact hworld.serials hsome
  · intro loader hsome
    rw [hnext, hseats]
    exact hworld.houses hsome
  · intro loader hsome key entry found hholds hstill
    rw [hfound] at hstill
    split at hstill
    · rename_i hplace
      rw [← hplace, hgame] at hstill
      cases hstill
      rw [hname, hloader]
      exact hworld.filled hsome hholds (hplace ▸ hgame)
    · exact hworld.filled hsome hholds hstill
  · intro loader _ address found hmem
    exact absurd hmem List.not_mem_nil
  · intro address found hmem
    exact absurd hmem List.not_mem_nil

/-- Game modules that are being initialized. -/
def Marks (world : World) (places : List Nat) : Prop :=
  ∀ place ∈ places, ∃ game, world.game? place = some game ∧ game.initializing = true

/-- A world in which game modules come into being, between two steps of a load. -/
structure Brings (held : Holdings) (outset : Outset) (making unheard lent : List Nat)
    (since : List Delivery) (world : World) : Prop where
  sound : world.Sound held
  /-- The executor is held by others than game modules. -/
  holds : 0 < held.executor + world.loaderHold
  orderly : world.Orderly [] [] []
  grows : world.Grows outset making unheard lent since
  lives : ∀ place ∈ lent, ∃ game, world.game? place = some game
  kept : making ⊆ lent

/-- The handle that a load hands out. -/
def loaded : Except LoadError Nat → List Nat
  | .ok place => [place]
  | .error _ => []

/-- Nothing but init events has been delivered, and whoever has heard one lives. -/
def Hatches (more : List Delivery) (world : World) : Prop :=
  ∀ delivery ∈ more, delivery.event = .init ∧ ∃ game, world.game? delivery.game = some game

/-- What a load has made of a world, which has delivered the events `more` meanwhile. -/
structure Raised (held : Holdings) (outset : Outset) (making unheard lent : List Nat)
    (since more : List Delivery) (outcome : Except LoadError Nat × World) : Prop where
  brings : outcome.2.Brings held outset making unheard (loaded outcome.1 ++ lent)
    (more ++ since)
  found : ∀ place, outcome.1 = .ok place →
    (∃ game, outcome.2.game? place = some game ∧ game.initializing = false) ∧
      (outset.objects.get? place ≠ none ∨ Began (more ++ since) place) ∧
        Hatches more outcome.2

/-- The loader stays, and with it its hold on the executor. -/
theorem Brings.holds_of_continues (hbrings : before.Brings held outset making unheard lent since)
    (hcontinues : before.Continues after) : 0 < held.executor + after.loaderHold := by
  rw [Act.loaderHold_of_continues hcontinues]
  exact hbrings.holds

/-- Nothing has been brought into being yet. -/
theorem Brings.refl (hworld : world.Sound held) (hholds : 0 < held.executor + world.loaderHold)
    (horderly : world.Orderly [] [] []) (hnumbered : world.scripts.Numbered) :
    world.Brings held world.outset [] [] [] [] where
  sound := hworld
  holds := hholds
  orderly := horderly
  grows := .refl hworld hnumbered
  lives := by simp
  kept := by simp

end World

/-- Whether a load accounts for what it brings into being. -/
structure LoadAct.Raises (load : String → String → LoadAct Nat) : Prop where
  run : ∀ {held outset making unheard lent since world} (name requestedBy : String),
    World.Brings held outset making unheard lent since world → world.Marks making →
      unheard ⊆ making → ∃ more, World.Raised held outset making unheard lent since more
        (Act.result (load name requestedBy).run world, Act.after (load name requestedBy).run world)

namespace LoadAct

open World Delivery

variable {outset : Outset} {making unheard lent : List Nat} {since : List Delivery}
  {held : Holdings} {world : World} {load : String → String → LoadAct Nat}

/-- Game modules that live already do not notice a load. -/
theorem Raises.frames (hload : Raises load)
    (hbrings : world.Brings held outset making unheard lent since) (hmarks : world.Marks making)
    (hunheard : unheard ⊆ making) (name requestedBy : String) :
    ∃ more, World.Raised held outset making unheard lent since more
        (Act.result (load name requestedBy).run world,
          Act.after (load name requestedBy).run world) ∧
      (∀ {place game}, world.game? place = some game →
        (Act.after (load name requestedBy).run world).game? place = some game) ∧
      ∀ delivery ∈ more, world.objects.get? delivery.game = none := by
  obtain ⟨more, hraised⟩ := hload.run name requestedBy hbrings hmarks hunheard
  have hstart : world.Brings held world.outset [] [] [] [] :=
    .refl hbrings.sound hbrings.holds hbrings.orderly hbrings.grows.assigned.numbered
  obtain ⟨found, hfound⟩ := hload.run name requestedBy hstart (by simp [World.Marks])
    (List.Subset.refl [])
  have hsame : found = more := by
    have hfirst := hraised.brings.grows.voiced.recorded
    have hsecond := hfound.brings.grows.voiced.recorded
    rw [List.append_nil] at hsecond
    rw [List.append_assoc, ← hbrings.grows.voiced.recorded] at hfirst
    exact List.append_cancel_right (hsecond.symm.trans hfirst)
  subst hsame
  refine ⟨found, hraised, fun hgame => ?_, fun delivery hmem => ?_⟩
  · exact hfound.brings.grows.old (get?_of_game? hgame)
  · have haddressed := hfound.brings.grows.voiced.addressed delivery
    rw [List.append_nil] at haddressed
    exact (haddressed hmem).1

end LoadAct

namespace World

open Delivery

variable {outset : Outset} {making unheard lent : List Nat} {since more : List Delivery}
  {held : Holdings} {before after world : World} {place script id : Nat} {game : GameModule}

/-- Handles of objects, and of script modules that have come since, are dropped. -/
theorem Grows.drops {handles : List Owned}
    (hgrows : world.Grows outset making unheard (Owned.objects handles ++ lent) since)
    (hsound : world.Sound (held.taking (Owned.modules handles)))
    (hholds : 0 < held.executor + world.loaderHold) (horderly : world.Orderly [] [] [])
    (hlives : ∀ place ∈ lent, ∃ game, world.game? place = some game) (hmaking : making ⊆ lent)
    (hfirst : ∀ script ∈ Owned.modules handles, outset.scripts.next ≤ script) :
    ∃ more, (Act.after (Act.dropAll handles) world).Brings held outset making unheard lent
        (more ++ since) ∧
      world.Falls more (Act.after (Act.dropAll handles) world) ∧
      ∀ place ∈ lent, (Act.after (Act.dropAll handles) world).game? place =
        world.game? place := by
  obtain ⟨⟨more, hgrows, hfalls⟩, hstays⟩ :=
    Act.dropAll_grows handles hgrows hsound hholds hmaking hfirst
  have horderly : world.Orderly [] [] (Owned.objects handles ++ []) := horderly.relend _ nofun
  refine ⟨more, ⟨(Act.dropAll_reaches hsound).sound, ?_, (Act.dropAll_orderly handles horderly).1,
    hgrows, fun place hmem => ?_, hmaking⟩, hfalls, hstays⟩
  · rw [Act.loaderHold_of_continues hfalls.toContinues]
    exact hholds
  · rw [hstays place hmem]
    exact hlives place hmem

/-- Handles of objects are dropped. -/
theorem Grows.dropsObjects {refs : List ObjectRef}
    (hgrows : world.Grows outset making unheard (refs.map ObjectRef.address ++ lent) since)
    (hsound : world.Sound held) (hholds : 0 < held.executor + world.loaderHold)
    (horderly : world.Orderly [] [] [])
    (hlives : ∀ place ∈ lent, ∃ game, world.game? place = some game) (hmaking : making ⊆ lent) :
    ∃ more, (Act.after (Act.dropObjects refs) world).Brings held outset making unheard lent
        (more ++ since) ∧
      world.Falls more (Act.after (Act.dropObjects refs) world) ∧
      ∀ place ∈ lent, (Act.after (Act.dropObjects refs) world).game? place =
        world.game? place := by
  have hmodules : Owned.modules (refs.map Owned.object) = [] := Owned.modules_objects refs
  have hsound : world.Sound (held.taking (Owned.modules (refs.map Owned.object))) := by
    rw [hmodules]
    exact hsound
  rw [← Owned.objects_objects] at hgrows
  exact hgrows.drops hsound hholds horderly hlives hmaking (by simp [hmodules])

/-- A game module that is being initialized changes. -/
theorem Brings.edits {given : List Nat}
    (hbrings : world.Brings held outset making unheard given since) {making' : List Nat}
    (hnew : outset.New world place game) (change : GameModule → GameModule)
    (hidle : game.initialized = false) (hidle' : (change game).initialized = false)
    (hname : (change game).name = game.name)
    (hloader : (change game).loader = game.loader) (hslot : (change game).slot = game.slot)
    (hscript : ∀ game, (change game).script = game.script)
    (hgiven : ∀ target, lent.count target + (change game).dependencies.count target =
      given.count target + game.dependencies.count target)
    (hlent : lent ⊆ given)
    (hmaking : ∀ other, other ∉ making' → other ∉ making) (hlent' : making' ⊆ lent)
    (hplace : place ∉ making' →
      (change game).script = none ∧ (change game).dependencies = [])
    (htargets : ∀ target ∈ (change game).dependencies, target ∈ game.dependencies ∨
      (∃ found, world.game? target = some found) ∧
        (outset.objects.get? target ≠ none ∨ Began since target)) :
    (world.withGame place change).Brings held outset making' unheard lent since where
  sound := (hbrings.sound.reaches_game trivial change hscript :
    world.Reaches held Touch.anything _).sound
  holds := hbrings.holds
  orderly := hbrings.orderly.edit hnew.1 change hname hloader hslot fun target htarget =>
    (htargets target htarget).imp_right fun ⟨⟨found, hfound⟩, _⟩ =>
      hbrings.orderly.lt_next hfound
  grows := hbrings.grows.edits hbrings.sound.scripts hnew change hidle hidle' (hscript game) hgiven
    hmaking hplace htargets
  lives := by
    intro other hmem
    obtain ⟨found, hfound⟩ := hbrings.lives other (hlent hmem)
    rw [game?_withGame, hfound]
    split
    · exact ⟨_, rfl⟩
    · exact ⟨_, rfl⟩
  kept := hlent'

/-- An operation that leaves game modules and script modules alone. -/
theorem Brings.steady (hbrings : before.Brings held outset making unheard lent since)
    (hsteady : before.Steady after) (hsilent : after.deliveries = before.deliveries)
    (hscripts : after.scripts = before.scripts) :
    after.Brings held outset making unheard lent since where
  sound := (hsteady.reaches hbrings.sound (.of_eq hscripts) :
    before.Reaches held Touch.anything after).sound
  holds := hbrings.holds_of_continues hsteady.continues
  orderly := hbrings.orderly.steady hsteady
  grows := hbrings.grows.of_tallies hbrings.sound.scripts
    (hsteady.objects ▸ hbrings.grows.tallies) (by rw [hsteady.objects]) hsteady.game? hscripts
    hsilent
  lives := fun place hmem => hsteady.game? place ▸ hbrings.lives place hmem
  kept := hbrings.kept

/-- The script module of a game module that is being initialized is worked on. -/
theorem Brings.attends (hbrings : before.Brings held outset making unheard lent since)
    (hnew : outset.New before place game) (hidle : game.initialized = false)
    (hscript : game.script = some script)
    (hattends : ∀ {id}, before.Ready held place script id → Attends place script id before after) :
    after.Brings held outset making unheard lent since ∧
      ∀ other, after.game? other = before.game? other := by
  obtain ⟨module, hmodule, hready⟩ := hbrings.grows.ready hbrings.sound hnew hscript
  have hdone := hattends hready
  have hgames := hdone.steady.game?
  exact ⟨⟨(hready.attends hdone).sound, hbrings.holds_of_continues hdone.steady.continues,
    hbrings.orderly.steady hdone.steady,
    hbrings.grows.attends hready hnew hscript hidle hdone,
    fun other hmem => hgames other ▸ hbrings.lives other hmem, hbrings.kept⟩, hgames⟩

/-! ### A game module that is being initialized -/

/-- A world in which a game module has got a script module and `count` of its imports. -/
structure Rears (held : Holdings) (outset : Outset) (making unheard lent : List Nat)
    (since : List Delivery) (place script : Nat) (start : GameModule) (count : Nat)
    (world : World) : Prop
    extends Brings held outset (place :: making) unheard lent since world where
  own : ∃ game, outset.New world place game ∧ game.description = start.description ∧
    game.initialized = false ∧ game.initializing = true ∧ game.script = some script ∧
      game.dependencies.length = count
  marks : world.Marks making
  anew : ∀ delivery ∈ since, delivery.game = place → delivery.script ≠ script

variable {start : GameModule} {count : Nat}

/-- Its script module is worked on. -/
theorem Rears.attends
    (hrears : before.Rears held outset making unheard lent since place script start count)
    (hattends : ∀ {id}, before.Ready held place script id → Attends place script id before after) :
    after.Rears held outset making unheard lent since place script start count := by
  obtain ⟨game, hnew, hdescription, hidle, hmarked, hscript, hcount⟩ := hrears.own
  obtain ⟨hbrings, hgames⟩ := hrears.toBrings.attends hnew hidle hscript hattends
  refine ⟨hbrings, ⟨game, hnew.of_eq (hgames place), hdescription, hidle, hmarked, hscript,
    hcount⟩, fun other hmem => ?_, hrears.anew⟩
  rw [hgames]
  exact hrears.marks other hmem

/-- It gets a handle of an import. -/
theorem Rears.push {target : Nat} {found : GameModule}
    (hrears : world.Rears held outset making unheard (target :: lent) since place script start
      count) (hkept : place :: making ⊆ lent) (hfound : world.game? target = some found)
    (hbegan : outset.objects.get? target ≠ none ∨ Began since target) :
    (world.withGame place fun game => { game with
      dependencies := game.dependencies ++ [target] }).Rears held outset making unheard lent since
        place script start (count + 1) := by
  obtain ⟨game, hnew, hdescription, hidle, hmarked, hscript, hcount⟩ := hrears.own
  have hbrings : (world.withGame place fun game => { game with
      dependencies := game.dependencies ++ [target] }).Brings held outset (place :: making)
        unheard lent since := by
    refine hrears.toBrings.edits hnew _ hidle hidle rfl rfl rfl (fun _ => rfl) (fun other => ?_)
      (List.subset_cons_self _ _) (fun _ => id) hkept
      (fun hout => absurd List.mem_cons_self hout) (fun other hmem => ?_)
    · simp only [List.count_append, List.count_cons, List.count_nil]
      omega
    · rcases List.mem_append.mp hmem with hold | hlast
      · exact .inl hold
      · rw [List.mem_singleton.mp hlast]
        exact .inr ⟨⟨found, hfound⟩, hbegan⟩
  refine ⟨hbrings, ⟨{ game with dependencies := game.dependencies ++ [target] },
    ⟨?_, hnew.2⟩, hdescription, hidle, hmarked, hscript, ?_⟩, fun other hmem => ?_, hrears.anew⟩
  · rw [game?_withGame, if_pos rfl, hnew.1]
    rfl
  · simp [hcount]
  · obtain ⟨marked, hother, hinitializing⟩ := hrears.marks other hmem
    rw [game?_withGame, hother]
    split
    · exact ⟨_, rfl, hinitializing⟩
    · exact ⟨_, rfl, hinitializing⟩

end World

namespace Act

open World LoadAct Delivery

variable {outset : Outset} {making unheard lent : List Nat} {since : List Delivery}
  {held : Holdings} {world : World} {place script : Nat} {start : GameModule} {count : Nat}
  {load : String → String → LoadAct Nat}

/-- An import is loaded. -/
theorem load_rears (hload : Raises load)
    (hrears : world.Rears held outset making unheard lent since place script start count)
    (hunheard : unheard ⊆ place :: making) (name requestedBy : String) :
    ∃ more, (after (load name requestedBy).run world).Rears held outset making unheard
        (loaded (result (load name requestedBy).run world) ++ lent) (more ++ since) place script
          start count ∧
      (∀ delivery ∈ more, delivery.game ≠ place) ∧
      (∀ {other game}, world.game? other = some game →
        (after (load name requestedBy).run world).game? other = some game) ∧
      ∀ found, result (load name requestedBy).run world = .ok found →
        (∃ game, (after (load name requestedBy).run world).game? found = some game) ∧
          (outset.objects.get? found ≠ none ∨ Began (more ++ since) found) ∧
            Hatches more (after (load name requestedBy).run world) := by
  obtain ⟨game, hnew, hdescription, hidle, hmarked, hscript, hcount⟩ := hrears.own
  have hmarks : world.Marks (place :: making) := by
    intro other hmem
    rcases List.mem_cons.mp hmem with rfl | hrest
    · exact ⟨game, hnew.1, hmarked⟩
    · exact hrears.marks other hrest
  obtain ⟨more, hraised, hframe, haddressed⟩ :=
    hload.frames hrears.toBrings hmarks hunheard name requestedBy
  have hothers : ∀ delivery ∈ more, delivery.game ≠ place := by
    rintro delivery hmem rfl
    have hnone := haddressed delivery hmem
    rw [get?_of_game? hnew.1] at hnone
    cases hnone
  refine ⟨more, ⟨hraised.brings, ⟨game, ⟨hframe hnew.1, hnew.2⟩, hdescription, hidle, hmarked,
    hscript, hcount⟩, fun other hmem => ?_, fun delivery hmem hgame => ?_⟩, hothers, hframe,
      fun found hfound => ?_⟩
  · obtain ⟨marked, hother, hinitializing⟩ := hrears.marks other hmem
    exact ⟨marked, hframe hother, hinitializing⟩
  · rcases List.mem_append.mp hmem with hmore | hold
    · exact absurd hgame (hothers delivery hmore)
    · exact hrears.anew delivery hold hgame
  · obtain ⟨⟨other, hother, -⟩, hbegan, hhatches⟩ := hraised.found found hfound
    exact ⟨⟨other, hother⟩, hbegan, hhatches⟩

end Act

end ScriptHost
