import ScriptHost.Proofs.Returning
import Mathlib.Data.Finset.Card

/-!
Cascades of destruction come to an end. Dropping a handle brings nothing to life that
owns handles, and whenever it hands out further handles something is gone that owned
them. So the handles that are dropped together with those that come up meanwhile are
all dropped in the end.
-/

namespace ScriptHost

/-- The objects that an object has handles of. -/
def ObjectBody.owned : ObjectBody → List Nat
  | .thing _ => []
  | .event occasion =>
    (occasion.payload.flatMap fun item => item.2.objects).map ObjectRef.address
  | .game module => module.dependencies

instance (body : ObjectBody) : Decidable body.IsBare :=
  match body with
  | .thing _ => .isTrue trivial
  | .event occasion =>
    inferInstanceAs (Decidable ((occasion.payload.flatMap fun item => item.2.objects) = []))
  | .game _ => .isFalse id

theorem ObjectBody.IsBare.owned {body : ObjectBody} (hbare : body.IsBare) :
    body.owned = [] := by
  cases body with
  | thing label => rfl
  | event occasion =>
      have hpayload : (occasion.payload.flatMap fun item => item.2.objects) = [] := hbare
      simp [ObjectBody.owned, hpayload]
  | game game => exact hbare.elim

namespace Loader

theorem serial_take (loader : Loader) (game : GameModule) :
    (loader.take game).serial = loader.serial := by
  unfold take
  split <;> rfl

theorem arena_take (loader : Loader) (game : GameModule) :
    (loader.take game).arena = loader.arena := by
  unfold take
  split <;> rfl

theorem reports_take (loader : Loader) (game : GameModule) :
    (loader.take game).reports = if game.loader = loader.serial
      then loader.reports ++ [game.slot] else loader.reports := by
  unfold take
  split <;> rfl

end Loader

namespace World

variable {before middle after world : World}

/-- The files stay as they are, and so do the rules of the executor and the loader apart
from what it knows of modules. -/
structure Continues (before after : World) : Prop where
  files : after.files = before.files
  rules : after.executor.rules = before.executor.rules
  serial : after.loader.map Loader.serial = before.loader.map Loader.serial

theorem Continues.refl (world : World) : world.Continues world :=
  ⟨rfl, rfl, rfl⟩

theorem Continues.trans (hfirst : before.Continues middle)
    (hsecond : middle.Continues after) : before.Continues after where
  files := hsecond.files.trans hfirst.files
  rules := hsecond.rules.trans hfirst.rules
  serial := hsecond.serial.trans hfirst.serial

theorem Keeps.continues {lent : List Nat} (hkeeps : before.Keeps after lent) :
    before.Continues after :=
  ⟨hkeeps.files, hkeeps.rules, congrArg (Option.map Loader.serial) hkeeps.loader⟩

theorem Steady.continues (hsteady : before.Steady after) : before.Continues after :=
  ⟨hsteady.files, hsteady.rules, congrArg (Option.map Loader.serial) hsteady.loader⟩

/-- What only goes: no object that owns handles and no script module comes to live. -/
structure Sheds (before after : World) : Prop extends before.Continues after where
  bodies : ∀ {address body}, after.objects.get? address = some body →
    before.objects.get? address = some body ∨ body.IsBare
  lives : ∀ {address}, (after.module? address).isSome = true →
    (before.module? address).isSome = true

theorem Sheds.refl (world : World) : world.Sheds world :=
  ⟨.refl world, .inl, id⟩

theorem Sheds.trans (hfirst : before.Sheds middle) (hsecond : middle.Sheds after) :
    before.Sheds after where
  toContinues := hfirst.toContinues.trans hsecond.toContinues
  bodies := by
    intro address body hget
    rcases hsecond.bodies hget with hmiddle | hbare
    · exact hfirst.bodies hmiddle
    · exact .inr hbare
  lives := fun hlives => hfirst.lives (hsecond.lives hlives)

theorem Keeps.sheds {lent : List Nat} (hkeeps : before.Keeps after lent) :
    before.Sheds after :=
  ⟨hkeeps.continues, fun hget => (hkeeps.objects.fresh hget).imp_right And.left, hkeeps.lives⟩

/-- Game modules only go. -/
theorem Sheds.game? (hsheds : before.Sheds after) {address : Nat} {game : GameModule}
    (hgame : after.game? address = some game) : before.game? address = some game := by
  rw [game?_eq_some_iff] at hgame ⊢
  exact (hsheds.bodies hgame).resolve_right id

/-- The living objects that may own handles. -/
def owners (world : World) : Finset Nat :=
  (world.objects.cells.map Prod.fst).toFinset.filter fun address =>
    ∃ body ∈ world.objects.get? address, ¬ body.IsBare

/-- The living script modules. -/
def livings (world : World) : Finset Nat :=
  (world.modules.cells.map Prod.fst).toFinset.filter fun address =>
    (world.module? address).isSome = true

/-- The number of things that may own handles. -/
def population (world : World) : Nat :=
  world.owners.card + world.livings.card

end World

theorem Heap.mem_cells_of_get? {α : Type} {heap : Heap α} {address : Nat} {content : α}
    (hget : heap.get? address = some content) :
    address ∈ heap.cells.map Prod.fst := by
  obtain ⟨cell, hcell, -, -⟩ := (Heap.get?_eq_some_iff heap address content).mp hget
  exact List.mem_map.mpr ⟨_, Table.mem_of_get? _ hcell, rfl⟩

namespace World

variable {before middle after world : World}

theorem mem_owners {address : Nat} : address ∈ world.owners ↔
    ∃ body, world.objects.get? address = some body ∧ ¬ body.IsBare := by
  unfold owners
  rw [Finset.mem_filter, List.mem_toFinset]
  constructor
  · exact And.right
  · rintro ⟨body, hget, hbare⟩
    exact ⟨Heap.mem_cells_of_get? hget, body, hget, hbare⟩

theorem mem_livings {address : Nat} :
    address ∈ world.livings ↔ (world.module? address).isSome = true := by
  unfold livings
  rw [Finset.mem_filter, List.mem_toFinset]
  constructor
  · exact And.right
  · intro hlives
    obtain ⟨module, hmodule⟩ := Option.isSome_iff_exists.mp hlives
    exact ⟨Heap.mem_cells_of_get? hmodule, hlives⟩

/-- There are cells enough for whatever owns handles. -/
theorem population_le (world : World) :
    world.population ≤ world.objects.cells.length + world.modules.cells.length := by
  have hbound : ∀ {α : Type} (cells : Table Nat α),
      (cells.map Prod.fst).toFinset.card ≤ cells.length := fun cells =>
    (List.toFinset_card_le _).trans (Nat.le_of_eq (List.length_map _))
  exact Nat.add_le_add ((Finset.card_filter_le _ _).trans (hbound _))
    ((Finset.card_filter_le _ _).trans (hbound _))

theorem Sheds.owners_subset (hsheds : before.Sheds after) :
    after.owners ⊆ before.owners := by
  intro address hmem
  obtain ⟨body, hget, hbare⟩ := mem_owners.mp hmem
  exact mem_owners.mpr ⟨body, (hsheds.bodies hget).resolve_right hbare, hbare⟩

theorem Sheds.livings_subset (hsheds : before.Sheds after) :
    after.livings ⊆ before.livings :=
  fun _ hmem => mem_livings.mpr (hsheds.lives (mem_livings.mp hmem))

theorem Sheds.population_le (hsheds : before.Sheds after) :
    after.population ≤ before.population :=
  Nat.add_le_add (Finset.card_le_card hsheds.owners_subset)
    (Finset.card_le_card hsheds.livings_subset)

/-- An object that owned handles is gone. -/
theorem Sheds.population_lt_of_object (hsheds : before.Sheds after) {address : Nat}
    {body : ObjectBody} (hget : before.objects.get? address = some body)
    (hbare : ¬ body.IsBare)
    (hgone : ∀ {other}, after.objects.get? address = some other → other.IsBare) :
    after.population < before.population := by
  have hlost : address ∉ after.owners := by
    intro hmem
    obtain ⟨other, hother, hstill⟩ := mem_owners.mp hmem
    exact hstill (hgone hother)
  exact Nat.add_lt_add_of_lt_of_le
    (Finset.card_lt_card ((Finset.ssubset_iff_of_subset hsheds.owners_subset).mpr
      ⟨address, mem_owners.mpr ⟨body, hget, hbare⟩, hlost⟩))
    (Finset.card_le_card hsheds.livings_subset)

/-- A script module is gone. -/
theorem Sheds.population_lt_of_module (hsheds : before.Sheds after) {address : Nat}
    (hlives : (before.module? address).isSome = true)
    (hgone : after.module? address = none) :
    after.population < before.population := by
  have hlost : address ∉ after.livings := by
    intro hmem
    have hstill := mem_livings.mp hmem
    rw [hgone] at hstill
    cases hstill
  exact Nat.add_lt_add_of_le_of_lt (Finset.card_le_card hsheds.owners_subset)
    (Finset.card_lt_card ((Finset.ssubset_iff_of_subset hsheds.livings_subset).mpr
      ⟨address, mem_livings.mpr hlives, hlost⟩))

/-- The world once the last handle of an object is gone and a game module has reported
its destruction. -/
def without (world : World) (address : Nat) (body : ObjectBody) : World :=
  { world with
    objects := (world.objects.release address).1
    loader := match body with
      | .game module => world.loader.map (·.take module)
      | _ => world.loader }

theorem objects_without (world : World) (address : Nat) (body : ObjectBody) :
    (world.without address body).objects = (world.objects.release address).1 := rfl

theorem serial_without (world : World) (address : Nat) (body : ObjectBody) :
    (world.without address body).loader.map Loader.serial =
      world.loader.map Loader.serial := by
  cases body with
  | thing label => rfl
  | event occasion => rfl
  | game module =>
      unfold without
      rw [Option.map_map]
      exact congrArg (world.loader.map ·) (funext fun loader => loader.serial_take module)

end World

namespace Act

open World

variable {world : World}

/-! ### Single handles -/

theorem releaseExecutor_keeps {base : World} {lent : List Nat}
    (hkeeps : base.Keeps world lent) :
    base.Keeps (after releaseExecutor world) lent ∧
      Owned.objects (result releaseExecutor world) = [] := by
  unfold releaseExecutor
  rw [after_get_bind, result_get_bind]
  dsimp only
  split
  · refine ⟨hkeeps.of_eq hkeeps.objects rfl rfl rfl rfl rfl, ?_⟩
    simp [Owned.objects, List.filterMap_map]
  · exact ⟨hkeeps.of_eq hkeeps.objects rfl rfl rfl rfl rfl, rfl⟩

/-- What the destruction of an object hands out: handles that come up meanwhile, those
that hooks have had, and those that the object has had. -/
structure HandsOut (world : World) (address : Nat) (body : ObjectBody)
    (outcome : List Owned × World) : Prop where
  gone : ∃ (refs : List ObjectRef) (rest : List Owned),
    outcome.1 = refs.map Owned.object ++ rest ∧
      (world.without address body).Keeps outcome.2 (refs.map ObjectRef.address) ∧
        ∀ target ∈ Owned.objects rest, world.Hooked target ∨ target ∈ body.owned
  bare : body.IsBare → outcome.1 = []

theorem destroyObject_handsOut {address : Nat} {body : ObjectBody}
    (hworld : world.objects.Sound) :
    HandsOut world address body (result (destroyObject address body)
        { world with objects := (world.objects.release address).1 },
      after (destroyObject address body)
        { world with objects := (world.objects.release address).1 }) := by
  have hgone : (world.without address body).objects.Sound := hworld.release address
  cases body with
  | thing label => exact ⟨⟨[], [], rfl, .refl hgone, by simp⟩, fun _ => rfl⟩
  | event occasion =>
      refine ⟨⟨[], (occasion.payload.flatMap fun item => item.2.objects).map Owned.object,
        rfl, .refl hgone, ?_⟩, ?_⟩
      · intro target hmem
        rw [Owned.objects_objects] at hmem
        exact .inr hmem
      · intro hbare
        have hpayload : (occasion.payload.flatMap fun item => item.2.objects) = [] := hbare
        simp [destroyObject, hpayload]
  | game module =>
      refine ⟨?_, False.elim⟩
      obtain ⟨refs, rest, hresult, hkeeps, hrest⟩ :=
        detachScript_keeps address module true .void (World.Keeps.refl hgone)
      obtain ⟨hreleased, hmodules⟩ := releaseExecutor_keeps hkeeps
      refine ⟨refs, rest ++ result releaseExecutor (after (detachScript address module true .void)
        (world.without address (.game module))), ?_, ?_, ?_⟩
      · rw [← List.append_assoc, ← hresult]
        rfl
      · rw [List.append_nil] at hreleased
        exact hreleased
      · intro target hmem
        rw [Owned.objects_append, hmodules, List.append_nil] at hmem
        exact hrest target hmem

theorem dropOne_of_none {ref : ObjectRef}
    (hnone : (world.objects.release ref.address).2 = none) :
    result (dropOne (.object ref)) world = [] ∧
      after (dropOne (.object ref)) world =
        { world with objects := (world.objects.release ref.address).1 } := by
  unfold dropOne
  rw [after_get_bind, result_get_bind]
  dsimp only
  rw [after_bind, after_set, result_bind, after_set, hnone]
  exact ⟨rfl, rfl⟩

theorem dropOne_handsOut {ref : ObjectRef} {body : ObjectBody}
    (hworld : world.objects.Sound)
    (hsome : (world.objects.release ref.address).2 = some body) :
    HandsOut world ref.address body
      (result (dropOne (.object ref)) world, after (dropOne (.object ref)) world) := by
  obtain ⟨⟨refs, rest, hresult, hkeeps, hrest⟩, hbare⟩ :=
    @destroyObject_handsOut world ref.address body hworld
  unfold dropOne
  rw [after_get_bind, result_get_bind]
  dsimp only
  rw [after_bind, after_set, result_bind, after_set, hsome]
  exact ⟨⟨refs, rest, hresult,
    hkeeps.of_objects (hkeeps.objects.finish ref.address), hrest⟩, hbare⟩

/-- A handle of a script module. What it hands out are handles that hooks have had. -/
theorem dropOne_module (address : Nat) (hworld : world.objects.Sound)
    (hmodules : world.modules.Sound) :
    world.Keeps (after (dropOne (.module address)) world) [] ∧
      (∀ target ∈ Owned.objects (result (dropOne (.module address)) world),
        world.Hooked target) ∧
      (result (dropOne (.module address)) world ≠ [] →
        (world.module? address).isSome = true ∧
          (after (dropOne (.module address)) world).module? address = none) := by
  have hreleased : world.Keeps
      { world with modules := (world.modules.release address).1 } [] := by
    have hearlier : ∀ {place module}, (world.modules.release address).1.get? place =
        some module → world.module? place = some module := by
      intro place module hmodule
      rw [hmodules.get?_release] at hmodule
      split at hmodule
      · cases hmodule
      · exact hmodule
    refine ⟨hworld.holds, rfl, rfl, rfl, rfl, ?_, ?_, fun _ => hmodules.release address⟩
    · rintro target ⟨place, module, hmodule, hmem⟩
      exact ⟨place, module, hearlier hmodule, hmem⟩
    · intro place hlives
      obtain ⟨module, hmodule⟩ := Option.isSome_iff_exists.mp hlives
      rw [hearlier hmodule]
      rfl
  unfold dropOne
  rw [after_get_bind, result_get_bind]
  dsimp only
  rw [after_bind, after_set, result_bind, after_set]
  cases hmodule : (world.modules.release address).2 with
  | none => exact ⟨hreleased, by simp, by simp⟩
  | some module =>
      obtain ⟨hget, hgone⟩ := hmodules.get?_release_of_some hmodule
      have hsteady := destroyModule_isSteady module
        { world with modules := (world.modules.release address).1 }
      have hdestroyed := hreleased.steady hsteady
      dsimp only
      rw [after_bind, result_bind, after_bind, after_pure, result_bind, result_pure,
        after_modify]
      generalize after (destroyModule module) _ = destroyed at hsteady hdestroyed ⊢
      refine ⟨?_, ?_, fun _ => ⟨?_, ?_⟩⟩
      · refine ⟨hdestroyed.objects, hdestroyed.loader, hdestroyed.loaders,
          hdestroyed.files, hdestroyed.rules, ?_, ?_, fun hsound =>
            (hdestroyed.modules hsound).finish address⟩
        · rintro target ⟨place, found, hfound, hmem⟩
          rw [World.module?, Heap.get?_finish] at hfound
          exact hdestroyed.hooked ⟨place, found, hfound, hmem⟩
        · intro place hlives
          rw [World.module?, Heap.get?_finish] at hlives
          exact hdestroyed.lives hlives
      · intro target hmem
        refine ⟨address, module, hget, ?_⟩
        rw [destroyModule_result, Owned.objects_objects] at hmem
        exact hmem
      · rw [World.module?, hget]
        rfl
      · have hnone := hsteady.lives address
        rw [World.module?, World.module?, hgone, if_pos rfl, Option.isSome_none,
          Option.isSome_eq_false_iff, Option.isNone_iff_eq_none] at hnone
        rw [World.module?, Heap.get?_finish]
        exact hnone

/-- Dropping a handle brings nothing to life that owns handles, and takes something
away that did so where further handles come up. -/
theorem dropOne_sheds (handle : Owned) (hworld : world.objects.Sound)
    (hmodules : world.modules.Sound) :
    world.Sheds (after (dropOne handle) world) ∧
      (result (dropOne handle) world ≠ [] →
        (after (dropOne handle) world).population < world.population) := by
  cases handle with
  | module address =>
      obtain ⟨hkeeps, -, hgone⟩ := dropOne_module address hworld hmodules
      exact ⟨hkeeps.sheds, fun hsome => hkeeps.sheds.population_lt_of_module
        (hgone hsome).1 (hgone hsome).2⟩
  | object ref =>
      cases hbody : (world.objects.release ref.address).2 with
      | none =>
          obtain ⟨hresult, hafter⟩ := dropOne_of_none hbody
          rw [hresult, hafter]
          refine ⟨⟨⟨rfl, rfl, rfl⟩, fun hget => .inl ?_, id⟩, fun hsome => absurd rfl hsome⟩
          rw [← hworld.get?_release_of_none hbody]
          exact hget
      | some body =>
          obtain ⟨⟨refs, rest, -, hkeeps, -⟩, hbare⟩ := dropOne_handsOut hworld hbody
          obtain ⟨hget, hgone⟩ := hworld.get?_release_of_some hbody
          have hsheds : world.Sheds (after (dropOne (.object ref)) world) := by
            have hcontinues := hkeeps.continues
            refine ⟨⟨hcontinues.files, hcontinues.rules, hcontinues.serial.trans
              (world.serial_without ref.address body)⟩, fun hstill => ?_, hkeeps.lives⟩
            refine (hkeeps.objects.fresh hstill).imp (fun hearlier => ?_) And.left
            rw [objects_without, hgone] at hearlier
            split at hearlier
            · cases hearlier
            · exact hearlier
          refine ⟨hsheds, fun hsome =>
            hsheds.population_lt_of_object hget (fun h => hsome (hbare h)) ?_⟩
          intro other hother
          refine ((hkeeps.objects.fresh hother).resolve_left fun hearlier => ?_).1
          rw [objects_without, hgone, if_pos rfl] at hearlier
          cases hearlier

/-! ### Cascades -/

/-- An account of a world from which handles are lent, which can be kept up when one of
these is dropped: whatever comes up then is lent. -/
structure Drains (account : List Nat → World → Prop) : Prop where
  objects : ∀ {lent world}, account lent world → world.objects.Sound
  modules : ∀ {lent world}, account lent world → world.modules.Sound
  step : ∀ {lent world} (handle : Owned), account (Owned.objects [handle] ++ lent) world →
    account (Owned.objects (result (dropOne handle) world) ++ lent) (after (dropOne handle) world)

variable {account : List Nat → World → Prop} {lent : List Nat}

theorem Drains.dropSome (hdrains : Drains account) (handles : List Owned)
    (hworld : account (Owned.objects handles ++ lent) world) :
    account (Owned.objects (result (dropSome handles) world) ++ lent)
        (after (Act.dropSome handles) world) ∧
      world.Sheds (after (Act.dropSome handles) world) ∧
      (result (Act.dropSome handles) world ≠ [] →
        (after (Act.dropSome handles) world).population < world.population) := by
  induction handles generalizing world with
  | nil => exact ⟨hworld, .refl world, fun hsome => absurd rfl hsome⟩
  | cons handle rest ih =>
      obtain ⟨hsheds, hless⟩ :=
        dropOne_sheds handle (hdrains.objects hworld) (hdrains.modules hworld)
      have hsplit : account (Owned.objects [handle] ++ (Owned.objects rest ++ lent)) world := by
        rw [← List.append_assoc, ← Owned.objects_append]
        exact hworld
      have hfirst := hdrains.step handle hsplit
      cases howned : result (dropOne handle) world with
      | nil =>
          obtain ⟨hresult, hafter⟩ : result (Act.dropSome (handle :: rest)) world = _ ∧ _ :=
            dropSome_cons howned
          rw [howned] at hfirst
          obtain ⟨hrest, hsheds', hless'⟩ := ih hfirst
          rw [hresult, hafter]
          exact ⟨hrest, hsheds.trans hsheds', fun hsome =>
            Nat.lt_of_lt_of_le (hless' hsome) hsheds.population_le⟩
      | cons owned more =>
          have hdrop : Act.dropSome (handle :: rest) = (do
              let owned ← dropOne handle
              if owned.isEmpty then Act.dropSome rest else return owned ++ rest) := rfl
          rw [hdrop, after_bind, result_bind, howned]
          rw [howned] at hfirst
          refine ⟨?_, hsheds, fun _ => hless (by simp [howned])⟩
          simpa only [List.isEmpty_cons, Bool.false_eq_true, if_false, result_pure,
            after_pure, Owned.objects_append, List.append_assoc] using hfirst

/-- Enough rounds drop all handles. -/
theorem Drains.dropUpTo (hdrains : Drains account) (owners : Nat) (handles : List Owned)
    (henough : world.population ≤ owners)
    (hworld : account (Owned.objects handles ++ lent) world) :
    account lent (after (dropUpTo owners handles) world) ∧
      world.Sheds (after (Act.dropUpTo owners handles) world) := by
  induction owners generalizing world handles with
  | zero =>
      obtain ⟨hsome, hsheds, hless⟩ := hdrains.dropSome handles hworld
      have hnone : result (Act.dropSome handles) world = [] := by
        by_contra hleft
        have hlt := hless hleft
        omega
      rw [hnone] at hsome
      exact ⟨hsome, hsheds⟩
  | succ owners ih =>
      obtain ⟨hsome, hsheds, hless⟩ := hdrains.dropSome handles hworld
      unfold Act.dropUpTo
      rw [after_bind]
      split
      · rename_i hnone
        rw [hnone] at hsome
        exact ⟨hsome, hsheds⟩
      · rename_i hleft
        have hlt := hless hleft
        obtain ⟨hrest, hsheds'⟩ := ih _ (by omega) hsome
        exact ⟨hrest, hsheds.trans hsheds'⟩

/-- All handles are dropped in the end, and the account is kept up. -/
theorem Drains.dropAll (hdrains : Drains account) (handles : List Owned)
    (hworld : account (Owned.objects handles ++ lent) world) :
    account lent (after (dropAll handles) world) ∧
      world.Sheds (after (Act.dropAll handles) world) := by
  unfold Act.dropAll
  rw [after_get_bind]
  exact hdrains.dropUpTo _ handles world.population_le hworld

theorem Drains.dropObjects (hdrains : Drains account) (refs : List ObjectRef)
    (hworld : account (refs.map ObjectRef.address ++ lent) world) :
    account lent (after (dropObjects refs) world) ∧
      world.Sheds (after (Act.dropObjects refs) world) := by
  refine hdrains.dropAll _ ?_
  rw [Owned.objects_objects]
  exact hworld

end Act

end ScriptHost
