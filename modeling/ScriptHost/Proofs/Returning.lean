import ScriptHost.Proofs.Dropping

/-!
Handing back. Handles that an operation has handed out can be dropped without
destroying anything that was there before.
-/

namespace ScriptHost

namespace Act

variable {base : World} {lent : List Nat} {world : World}

theorem dropOne_keeps {ref : ObjectRef}
    (hkeeps : base.Keeps world (ref.address :: lent)) :
    result (dropOne (.object ref)) world = [] ∧
      world.Quiet (after (dropOne (.object ref)) world) ∧
      base.Keeps (after (dropOne (.object ref)) world) lent := by
  obtain ⟨hholds, hbare⟩ := hkeeps.objects.release
  have hreleased := hkeeps.of_objects hholds
  have hfinished := hkeeps.of_objects (hholds.finish ref.address)
  unfold dropOne
  rw [after_get_bind, result_get_bind]
  dsimp only
  rw [after_bind, after_set, result_bind, after_set]
  have hfinish := World.finishObject_quiet
    { world with objects := (world.objects.release ref.address).1 } ref.address
  cases hbody : (world.objects.release ref.address).2 with
  | none => exact ⟨rfl, world.releaseObject_quiet hbody, hreleased⟩
  | some body =>
      have hgone := world.destroyObject_quiet hbody
      cases body with
      | thing label => exact ⟨rfl, hgone.trans hfinish, hfinished⟩
      | event occasion =>
          have hpayload : (occasion.payload.flatMap fun item => item.2.objects) = [] :=
            hbare _ hbody
          refine ⟨?_, hgone.trans hfinish, hfinished⟩
          dsimp only
          simp only [result_bind, result_pure, destroyObject, hpayload, List.map_nil]
      | game game => exact (hbare _ hbody).elim

/-- A handle that takes nothing along is out of the way. -/
theorem dropSome_cons {handle : Owned} {rest : List Owned}
    (hnone : result (dropOne handle) world = []) :
    result (dropSome (handle :: rest)) world =
        result (dropSome rest) (after (dropOne handle) world) ∧
      after (dropSome (handle :: rest)) world =
        after (dropSome rest) (after (dropOne handle) world) := by
  have hdrop : dropSome (handle :: rest) = (do
      let owned ← dropOne handle
      if owned.isEmpty then dropSome rest else return owned ++ rest) := rfl
  rw [hdrop, result_bind, after_bind, hnone]
  exact ⟨rfl, rfl⟩

theorem dropSome_keeps {refs : List ObjectRef}
    (hkeeps : base.Keeps world (refs.map ObjectRef.address ++ lent)) :
    result (dropSome (refs.map Owned.object)) world = [] ∧
      world.Quiet (after (dropSome (refs.map Owned.object)) world) ∧
      base.Keeps (after (dropSome (refs.map Owned.object)) world) lent := by
  induction refs generalizing world with
  | nil => exact ⟨rfl, .refl world, hkeeps⟩
  | cons ref refs ih =>
      obtain ⟨hresult, hquiet, hfirst⟩ := dropOne_keeps hkeeps
      obtain ⟨hresult', hquiet', hrest⟩ := ih hfirst
      obtain ⟨hnone, hafter⟩ := dropSome_cons hresult
      rw [List.map_cons, hnone, hafter]
      exact ⟨hresult', hquiet.trans hquiet', hrest⟩

/-- Where nothing that is dropped owned handles, all handles are dropped in one
go. -/
theorem dropAll_of_dropSome {handles : List Owned}
    (hnone : result (dropSome handles) world = []) :
    after (dropAll handles) world = after (dropSome handles) world := by
  unfold dropAll
  rw [after_get_bind]
  cases world.objects.cells.length + world.modules.cells.length with
  | zero => rfl
  | succ owners =>
      unfold dropUpTo
      rw [after_bind, hnone]
      rfl

theorem dropSome_append {first rest : List Owned}
    (hnone : result (dropSome first) world = []) :
    result (dropSome (first ++ rest)) world =
        result (dropSome rest) (after (dropSome first) world) ∧
      after (dropSome (first ++ rest)) world =
        after (dropSome rest) (after (dropSome first) world) := by
  induction first generalizing world with
  | nil => exact ⟨rfl, rfl⟩
  | cons handle first ih =>
      cases howned : result (dropOne handle) world with
      | nil =>
          obtain ⟨hresult, hafter⟩ := dropSome_cons howned
          obtain ⟨hresult', hafter'⟩ := dropSome_cons howned
          rw [List.cons_append, hresult', hafter', hafter]
          exact ih (hresult ▸ hnone)
      | cons owned more =>
          have hdrop : dropSome (handle :: first) = (do
              let owned ← dropOne handle
              if owned.isEmpty then dropSome first else return owned ++ first) := rfl
          rw [hdrop, result_bind, howned] at hnone
          cases hnone

/-- Handles that were handed out can be dropped without effect on script
modules. -/
theorem dropAll_keeps {refs : List ObjectRef}
    (hkeeps : base.Keeps world (refs.map ObjectRef.address ++ lent)) :
    world.Quiet (after (dropAll (refs.map Owned.object)) world) ∧
      base.Keeps (after (dropAll (refs.map Owned.object)) world) lent := by
  obtain ⟨hresult, hquiet, hrest⟩ := dropSome_keeps hkeeps
  rw [dropAll_of_dropSome hresult]
  exact ⟨hquiet, hrest⟩

/-- Dropping what a reload hands out has no effect on script modules. -/
theorem reload_drop_quiet (hworld : world.objects.Sound) (address : Nat) :
    (after (reload address) world).Quiet
      (after (dropAll (result (reload address) world).2)
        (after (reload address) world)) := by
  obtain ⟨refs, hrefs, hkeeps⟩ := reload_keeps address (.refl hworld)
  rw [hrefs]
  exact (dropAll_keeps hkeeps).1

end Act

end ScriptHost
