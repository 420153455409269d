import ScriptHost.Proofs.Heap

/-!
The handles of one object, in any order of operations. The books say which
handles are out: the strong ones, the weak ones, and the weak ones the object
holds to itself, which it drops while it is destroyed. A destruction is a
stretch of its own between the drop of the last strong handle and its end, and
handles are used in between. The heap is asked what becomes of the object, the
books only say who may ask: every operation needs a handle of its kind.
-/

namespace ScriptHost

/-- How far the life of an object has got, and how many weak handles to itself
it holds. -/
inductive Life where
  | living (own : Nat)
  | dying (own : Nat)
  | gone
deriving DecidableEq

/-- The weak handles an object holds to itself. -/
def Life.own : Life → Nat
  | .living own | .dying own => own
  | .gone => 0

/-- The weak reference that all strong handles share until the destruction is
over. -/
def Life.shared : Life → Nat
  | .living _ | .dying _ => 1
  | .gone => 0

/-- The content of a living object is the number of its own weak handles. -/
def Life.content : Life → Option Nat
  | .living own => some own
  | .dying _ | .gone => none

theorem Life.living_iff (life : Life) :
    (∃ own, life = .living own) ↔ life.content.isSome = true := by
  cases life with
  | living own => simp [Life.content]
  | dying own => simp [Life.content]
  | gone => simp [Life.content]

/-- What is done with a handle. -/
inductive HandleUse where
  /-- A strong handle is cloned. -/
  | clone
  /-- A strong handle is dropped; the last one starts the destruction. -/
  | drop
  /-- A weak handle is made from a strong one. -/
  | downgrade
  /-- A weak handle is cloned. -/
  | weakClone
  /-- A weak handle is dropped. -/
  | weakDrop
  /-- A weak handle is upgraded, if that works. -/
  | upgrade
  /-- A weak handle is moved into the object. -/
  | keep
  /-- A weak handle is moved out of the object. -/
  | handOut
  /-- The object that is destroyed drops a weak handle of its own. -/
  | shed
  /-- The destruction ends. -/
  | finish
deriving DecidableEq

/-- An object, the handles to it that are out, and how often it was destroyed
and its cell was freed. -/
structure Holding where
  heap : Heap Nat
  address : Nat
  strong : Nat
  weak : Nat
  life : Life
  destroyed : Nat
  freed : Nat

namespace Holding

/-- A new object with its first handle. -/
def new (heap : Heap Nat) : Holding :=
  let (address, heap) := heap.alloc 0
  ⟨heap, address, 1, 0, .living 0, 0, 0⟩

/-- Whether the cell of the object is there. -/
def present (held : Holding) : Bool :=
  (held.heap.cell? held.address).isSome

/-- Goes on with another heap and counts the cell if it was freed. -/
def onHeap (held : Holding) (heap : Heap Nat) : Holding :=
  let freed := held.present && (heap.cell? held.address).isNone
  { held with heap := heap, freed := held.freed + freed.toNat }

/-- One operation, provided there is a handle for it. The object itself is
reached through a strong handle, or from its own destruction. -/
def step (held : Holding) : HandleUse → Option Holding
  | .clone =>
    if held.strong = 0 then none
    else some ({ held with strong := held.strong + 1 }.onHeap (held.heap.retain held.address))
  | .drop =>
    if held.strong = 0 then none
    else
      let dropped := { held with strong := held.strong - 1 }
      match held.heap.release held.address with
      | (heap, none) => some (dropped.onHeap heap)
      | (heap, some own) =>
        some ({ dropped with life := .dying own, destroyed := held.destroyed + 1 }.onHeap heap)
  | .downgrade =>
    if held.strong = 0 then none
    else some ({ held with weak := held.weak + 1 }.onHeap (held.heap.retainWeak held.address))
  | .weakClone =>
    if held.weak + held.life.own = 0 then none
    else some ({ held with weak := held.weak + 1 }.onHeap (held.heap.retainWeak held.address))
  | .weakDrop =>
    if held.weak = 0 then none
    else some ({ held with weak := held.weak - 1 }.onHeap (held.heap.releaseWeak held.address))
  | .upgrade =>
    if held.weak + held.life.own = 0 then none
    else
      match held.heap.upgrade held.address with
      | none => some held
      | some heap => some ({ held with strong := held.strong + 1 }.onHeap heap)
  | .keep =>
    match held.life with
    | .living own =>
      if held.strong = 0 ∨ held.weak = 0 then none
      else
        some ({ held with weak := held.weak - 1, life := .living (own + 1) }.onHeap
          (held.heap.modify held.address (· + 1)))
    | _ => none
  | .handOut =>
    match held.life with
    | .living (own + 1) =>
      if held.strong = 0 then none
      else
        some ({ held with weak := held.weak + 1, life := .living own }.onHeap
          (held.heap.modify held.address (· - 1)))
    | .dying (own + 1) => some { held with weak := held.weak + 1, life := .dying own }
    | _ => none
  | .shed =>
    match held.life with
    | .dying (own + 1) =>
      some ({ held with life := .dying own }.onHeap (held.heap.releaseWeak held.address))
    | _ => none
  | .finish =>
    match held.life with
    | .dying 0 => some ({ held with life := .gone }.onHeap (held.heap.finish held.address))
    | _ => none

/-- A sequence of operations, each of which there is a handle for. -/
def run (held : Holding) (uses : List HandleUse) : Option Holding :=
  uses.foldlM step held

/-- The weak references to the object: the weak handles that are out, its own
ones and the one that the strong handles share. -/
def weakRefs (held : Holding) : Nat :=
  held.weak + held.life.own + held.life.shared

/-- The cell that the books ask for. -/
def cell (held : Holding) : Option (Cell Nat) :=
  if held.strong = 0 ∧ held.weakRefs = 0 then none
  else some ⟨held.strong, held.weakRefs, held.life.content⟩

/-- The heap and the books agree. -/
structure Counted (held : Holding) : Prop where
  cell : held.heap.cell? held.address = held.cell
  living : 0 < held.strong ↔ ∃ own, held.life = .living own
  destroyed : held.destroyed = if held.strong = 0 then 1 else 0
  freed : held.freed = if held.life = .gone ∧ held.weak = 0 then 1 else 0

theorem new_counted (heap : Heap Nat) : (new heap).Counted := by
  constructor
  · simp [new, Heap.alloc, Heap.cell?, cell, weakRefs, Life.own, Life.shared, Life.content]
  · simp [new]
  · simp [new]
  · simp [new]

theorem weakRefs_eq_zero_iff (held : Holding) :
    held.weakRefs = 0 ↔ held.life = .gone ∧ held.weak = 0 := by
  unfold weakRefs
  cases held.life with
  | living own => simp [Life.shared]
  | dying own => simp [Life.shared]
  | gone => simp [Life.shared, Life.own]

/-- An object that is not gone, or that a weak handle is out to, has its cell. -/
theorem Counted.cell_of_weakRefs {held : Holding} (hheld : held.Counted)
    (hrefs : held.weakRefs ≠ 0) :
    held.heap.cell? held.address =
      some ⟨held.strong, held.weakRefs, held.life.content⟩ := by
  rw [hheld.cell, Holding.cell, if_neg]
  exact fun hnone => hrefs hnone.2

theorem Counted.weakRefs_of_strong {held : Holding} (hheld : held.Counted)
    (hstrong : held.strong ≠ 0) : held.weakRefs ≠ 0 := by
  rw [ne_eq, weakRefs_eq_zero_iff]
  rintro ⟨hgone, -⟩
  obtain ⟨own, hlife⟩ := hheld.living.mp (Nat.pos_of_ne_zero hstrong)
  rw [hlife] at hgone
  cases hgone

/-- Every operation finds the cell there. -/
theorem Counted.weakRefs_of_step {held next : Holding} {use : HandleUse}
    (hheld : held.Counted) (hstep : held.step use = some next) :
    held.weakRefs ≠ 0 := by
  cases use with
  | clone | drop | downgrade =>
      apply hheld.weakRefs_of_strong
      intro hnone
      simp [Holding.step, hnone] at hstep
  | weakClone | weakDrop | upgrade =>
      intro hnone
      obtain ⟨hgone, hweak⟩ := held.weakRefs_eq_zero_iff.mp hnone
      simp [Holding.step, hgone, hweak, Life.own] at hstep
  | keep | handOut | shed | finish =>
      intro hnone
      obtain ⟨hgone, -⟩ := held.weakRefs_eq_zero_iff.mp hnone
      simp [Holding.step, hgone] at hstep

/-- The books are changed, the heap is not yet. -/
structure SameCell (held next : Holding) : Prop where
  heap : next.heap = held.heap
  address : next.address = held.address
  freed : next.freed = held.freed

/-- A heap that has the cell the books ask for leaves the books right, the
freed cell included. -/
theorem Counted.onHeap {held next : Holding} {heap : Heap Nat}
    (hheld : held.Counted) (hrefs : held.weakRefs ≠ 0) (hsame : held.SameCell next)
    (hcell : heap.cell? held.address = next.cell)
    (hliving : 0 < next.strong ↔ ∃ own, next.life = .living own)
    (hdestroyed : next.destroyed = if next.strong = 0 then 1 else 0) :
    (next.onHeap heap).Counted := by
  have hzero : held.freed = 0 := by
    rw [hheld.freed, if_neg]
    rwa [← weakRefs_eq_zero_iff]
  have hthere : next.present = true := by
    simp [present, hsame.heap, hsame.address, hheld.cell_of_weakRefs hrefs]
  refine ⟨?_, hliving, hdestroyed, ?_⟩
  · simp only [Holding.onHeap, hsame.address]
    exact hcell
  · simp only [Holding.onHeap, hsame.freed, hzero, hthere, hsame.address, hcell,
      Holding.cell, weakRefs_eq_zero_iff]
    by_cases hgone : next.life = .gone ∧ next.weak = 0
    · have hstrong : next.strong = 0 := by
        rw [hgone.1] at hliving
        simpa using hliving
      simp [hgone, hstrong]
    · simp [hgone]

/-- The same for an operation that replaces the cell. -/
theorem Counted.setCell {held next : Holding} {cell : Cell Nat}
    (hheld : held.Counted) (hrefs : held.weakRefs ≠ 0) (hsame : held.SameCell next)
    (hcell : cell = ⟨next.strong, next.weakRefs, next.life.content⟩)
    (hliving : 0 < next.strong ↔ ∃ own, next.life = .living own)
    (hdestroyed : next.destroyed = if next.strong = 0 then 1 else 0) :
    (next.onHeap (held.heap.setCell held.address cell)).Counted := by
  refine hheld.onHeap hrefs hsame ?_ hliving hdestroyed
  rw [Heap.cell?_setCell, if_pos rfl, hcell]
  rfl

/-! ### One operation -/

/-- A strong handle more. -/
theorem Counted.retain {held : Holding} (hheld : held.Counted)
    (hstrong : held.strong ≠ 0) :
    ({ held with strong := held.strong + 1 }.onHeap
      (held.heap.retain held.address)).Counted := by
  have hrefs := hheld.weakRefs_of_strong hstrong
  obtain ⟨own, hlife⟩ := hheld.living.mp (Nat.pos_of_ne_zero hstrong)
  simp only [Heap.retain, hheld.cell_of_weakRefs hrefs]
  apply hheld.setCell hrefs
  · exact ⟨rfl, rfl, rfl⟩
  · rfl
  · simp [hlife]
  · simpa [hstrong] using hheld.destroyed

/-- A weak handle more. -/
theorem Counted.retainWeak {held : Holding} (hheld : held.Counted)
    (hrefs : held.weakRefs ≠ 0) :
    ({ held with weak := held.weak + 1 }.onHeap
      (held.heap.retainWeak held.address)).Counted := by
  have hmore : held.weakRefs + 1 = { held with weak := held.weak + 1 }.weakRefs := by
    simp only [weakRefs]
    omega
  simp only [Heap.retainWeak, hheld.cell_of_weakRefs hrefs, hmore]
  apply hheld.setCell hrefs
  · exact ⟨rfl, rfl, rfl⟩
  · rfl
  · exact hheld.living
  · exact hheld.destroyed

/-- A weak reference less: a handle that was out, one of the object's own, or the
one that the strong handles shared. -/
theorem Counted.releaseWeak {held : Holding} {weak : Nat} {life : Life}
    (hheld : held.Counted)
    (hless : held.weakRefs = { held with weak := weak, life := life }.weakRefs + 1)
    (hcontent : life.content = held.life.content) :
    ({ held with weak := weak, life := life }.onHeap
      (held.heap.releaseWeak held.address)).Counted := by
  have hrefs : held.weakRefs ≠ 0 := by omega
  simp only [Heap.releaseWeak, hheld.cell_of_weakRefs hrefs]
  apply hheld.setCell hrefs
  · exact ⟨rfl, rfl, rfl⟩
  · simp [hless, hcontent]
  · simp only [hheld.living, Life.living_iff, hcontent]
  · exact hheld.destroyed

/-- A strong handle less. The last one leaves the object to its destruction. -/
theorem Counted.drop {held next : Holding} (hheld : held.Counted)
    (hstep : held.step .drop = some next) : next.Counted := by
  have hrefs := hheld.weakRefs_of_step hstep
  have hstrong : held.strong ≠ 0 := by
    intro hnone
    simp [Holding.step, hnone] at hstep
  have hzero : held.destroyed = 0 := by
    simpa [hstrong] using hheld.destroyed
  obtain ⟨own, hlife⟩ := hheld.living.mp (Nat.pos_of_ne_zero hstrong)
  by_cases hlast : held.strong = 1
  · simp only [Holding.step, Heap.release, hheld.cell_of_weakRefs hrefs, hlast, hlife,
      Life.content, Nat.one_ne_zero, if_true, if_false, Option.some.injEq] at hstep
    subst hstep
    apply hheld.setCell hrefs
    · exact ⟨rfl, rfl, rfl⟩
    · simp [weakRefs, hlife, Life.own, Life.shared, Life.content]
    · simp
    · simp [hzero]
  · simp only [Holding.step, Heap.release, hheld.cell_of_weakRefs hrefs, hlast, hstrong,
      if_false, Option.some.injEq] at hstep
    subst hstep
    apply hheld.setCell hrefs
    · exact ⟨rfl, rfl, rfl⟩
    · rfl
    · simp only [hlife]
      simp
      omega
    · have hleft : held.strong - 1 ≠ 0 := by omega
      simp [hzero, hleft]

/-- Weak handles move into the object and out of it. -/
theorem Counted.move {held : Holding} {weak own kept : Nat} {change : Nat → Nat}
    (hheld : held.Counted) (hlife : held.life = .living own)
    (hchange : change own = kept) (hsame : weak + kept = held.weak + own) :
    ({ held with weak := weak, life := .living kept }.onHeap
      (held.heap.modify held.address change)).Counted := by
  have hpos := hheld.living.mpr ⟨own, hlife⟩
  have hrefs := hheld.weakRefs_of_strong (Nat.ne_of_gt hpos)
  apply hheld.onHeap hrefs
  · exact ⟨rfl, rfl, rfl⟩
  · rw [Heap.cell?_modify, if_pos rfl, hheld.cell_of_weakRefs hrefs]
    have hstrong : held.strong ≠ 0 := by omega
    simp [Holding.cell, weakRefs, hlife, hchange, hsame, hstrong, Life.own, Life.shared,
      Life.content]
  · simpa using hpos
  · exact hheld.destroyed

/-- While it is destroyed, an object may give a weak handle of its own away. -/
theorem Counted.moveOut {held : Holding} {own : Nat} (hheld : held.Counted)
    (hlife : held.life = .dying (own + 1)) :
    { held with weak := held.weak + 1, life := .dying own }.Counted := by
  have hsame : { held with weak := held.weak + 1, life := .dying own }.weakRefs =
      held.weakRefs := by
    simp only [weakRefs, hlife, Life.own, Life.shared]
    omega
  have hliving := hheld.living
  have hfreed := hheld.freed
  rw [hlife] at hliving hfreed
  constructor
  · rw [Holding.cell, hsame]
    simpa [Holding.cell, hlife, Life.content] using hheld.cell
  · simpa using hliving
  · exact hheld.destroyed
  · simpa using hfreed

/-- Every operation keeps the books right. -/
theorem Counted.step {held next : Holding} {use : HandleUse} (hheld : held.Counted)
    (hstep : held.step use = some next) : next.Counted := by
  have hrefs := hheld.weakRefs_of_step hstep
  cases use with
  | clone =>
      simp only [Holding.step, Option.ite_none_left_eq_some, Option.some.injEq] at hstep
      obtain ⟨hstrong, rfl⟩ := hstep
      exact hheld.retain hstrong
  | drop => exact hheld.drop hstep
  | downgrade | weakClone =>
      simp only [Holding.step, Option.ite_none_left_eq_some, Option.some.injEq] at hstep
      obtain ⟨-, rfl⟩ := hstep
      exact hheld.retainWeak hrefs
  | weakDrop =>
      simp only [Holding.step, Option.ite_none_left_eq_some, Option.some.injEq] at hstep
      obtain ⟨hweak, rfl⟩ := hstep
      apply hheld.releaseWeak
      · simp only [weakRefs]
        omega
      · rfl
  | upgrade =>
      simp only [Holding.step, Option.ite_none_left_eq_some] at hstep
      obtain ⟨-, hstep⟩ := hstep
      cases hupgrade : held.heap.upgrade held.address with
      | none =>
          rw [hupgrade] at hstep
          cases hstep
          exact hheld
      | some heap =>
          rw [hupgrade] at hstep
          cases hstep
          have hstrong : held.strong ≠ 0 := by
            intro hnone
            simp [Heap.upgrade, Heap.isAlive, Heap.strongCount,
              hheld.cell_of_weakRefs hrefs, hnone] at hupgrade
          rw [Heap.eq_retain_of_upgrade hupgrade]
          exact hheld.retain hstrong
  | keep =>
      cases hlife : held.life with
      | living own =>
          simp only [Holding.step, hlife, Option.ite_none_left_eq_some,
            Option.some.injEq, not_or] at hstep
          obtain ⟨⟨-, hweak⟩, rfl⟩ := hstep
          exact hheld.move hlife rfl (by omega)
      | dying own => simp [Holding.step, hlife] at hstep
      | gone => simp [Holding.step, hlife] at hstep
  | handOut =>
      cases hlife : held.life with
      | living own =>
          cases own with
          | zero => simp [Holding.step, hlife] at hstep
          | succ own =>
              simp only [Holding.step, hlife, Option.ite_none_left_eq_some,
                Option.some.injEq] at hstep
              obtain ⟨-, rfl⟩ := hstep
              exact hheld.move hlife rfl (by omega)
      | dying own =>
          cases own with
          | zero => simp [Holding.step, hlife] at hstep
          | succ own =>
              simp only [Holding.step, hlife, Option.some.injEq] at hstep
              subst hstep
              exact hheld.moveOut hlife
      | gone => simp [Holding.step, hlife] at hstep
  | shed =>
      cases hlife : held.life with
      | living own => simp [Holding.step, hlife] at hstep
      | dying own =>
          cases own with
          | zero => simp [Holding.step, hlife] at hstep
          | succ own =>
              simp only [Holding.step, hlife, Option.some.injEq] at hstep
              subst hstep
              apply hheld.releaseWeak
              · simp only [weakRefs, hlife, Life.own, Life.shared]
                omega
              · simp [hlife, Life.content]
      | gone => simp [Holding.step, hlife] at hstep
  | finish =>
      cases hlife : held.life with
      | living own => simp [Holding.step, hlife] at hstep
      | dying own =>
          cases own with
          | succ own => simp [Holding.step, hlife] at hstep
          | zero =>
              simp only [Holding.step, hlife, Option.some.injEq] at hstep
              subst hstep
              apply hheld.releaseWeak
              · simp [weakRefs, hlife, Life.own, Life.shared]
              · simp [hlife, Life.content]
      | gone => simp [Holding.step, hlife] at hstep

/-- Every sequence of operations keeps the books right. -/
theorem Counted.run {held next : Holding} {uses : List HandleUse} (hheld : held.Counted)
    (hrun : held.run uses = some next) : next.Counted := by
  induction uses generalizing held with
  | nil =>
      cases hrun
      exact hheld
  | cons use uses ih =>
      obtain ⟨between, hstep, hrest⟩ := Option.bind_eq_some_iff.mp hrun
      exact ih (hheld.step hstep) hrest

/-! ### What the counts say -/

theorem Counted.strongCount {held : Holding} (hheld : held.Counted) :
    held.heap.strongCount held.address = held.strong := by
  unfold Heap.strongCount
  rw [hheld.cell, Holding.cell]
  by_cases hnone : held.strong = 0 ∧ held.weakRefs = 0
  · simp [hnone]
  · simp [hnone]

theorem Counted.weakCount {held : Holding} (hheld : held.Counted) :
    held.heap.weakCount held.address = held.weakRefs := by
  unfold Heap.weakCount
  rw [hheld.cell, Holding.cell]
  by_cases hnone : held.strong = 0 ∧ held.weakRefs = 0
  · simp [hnone]
  · simp [hnone]

theorem Counted.strong_of_gone {held : Holding} (hheld : held.Counted)
    (hgone : held.life = .gone) : held.strong = 0 := by
  have hliving := hheld.living
  rw [hgone] at hliving
  simpa using hliving

theorem Counted.present_iff {held : Holding} (hheld : held.Counted) :
    held.present = true ↔ held.freed = 0 := by
  unfold present
  simp only [hheld.cell, hheld.freed, Holding.cell, weakRefs_eq_zero_iff]
  by_cases hgone : held.life = .gone ∧ held.weak = 0
  · simp [hgone, hheld.strong_of_gone hgone.1]
  · simp [hgone]

theorem Counted.upgrade_isSome_iff {held : Holding} (hheld : held.Counted) :
    (held.heap.upgrade held.address).isSome = true ↔ 0 < held.strong := by
  simp [Heap.upgrade, Heap.isAlive, hheld.strongCount]

/-- Only a drop takes a strong handle away, and only a living object gets one. -/
theorem Counted.strong_of_step {held next : Holding} {use : HandleUse}
    (hheld : held.Counted) (hstep : held.step use = some next) :
    (use = .drop ∧ next.strong + 1 = held.strong) ∨
      (use ≠ .drop ∧ (next.strong = held.strong ∨
        0 < held.strong ∧ next.strong = held.strong + 1)) := by
  cases use with
  | drop =>
      simp only [Holding.step, Option.ite_none_left_eq_some] at hstep
      obtain ⟨hstrong, hstep⟩ := hstep
      have hless : next.strong = held.strong - 1 := by
        split at hstep <;> exact (Option.some.inj hstep) ▸ rfl
      exact .inl ⟨rfl, by omega⟩
  | clone =>
      simp only [Holding.step, Option.ite_none_left_eq_some, Option.some.injEq] at hstep
      obtain ⟨hstrong, rfl⟩ := hstep
      exact .inr ⟨by decide, .inr ⟨Nat.pos_of_ne_zero hstrong, rfl⟩⟩
  | upgrade =>
      simp only [Holding.step, Option.ite_none_left_eq_some] at hstep
      obtain ⟨-, hstep⟩ := hstep
      refine .inr ⟨by decide, ?_⟩
      cases hupgrade : held.heap.upgrade held.address with
      | none =>
          rw [hupgrade] at hstep
          cases hstep
          exact .inl rfl
      | some heap =>
          have halive : (held.heap.upgrade held.address).isSome = true := by
            rw [hupgrade]
            rfl
          rw [hupgrade] at hstep
          cases hstep
          exact .inr ⟨hheld.upgrade_isSome_iff.mp halive, rfl⟩
  | downgrade | weakClone | weakDrop =>
      simp only [Holding.step, Option.ite_none_left_eq_some, Option.some.injEq] at hstep
      obtain ⟨-, rfl⟩ := hstep
      exact .inr ⟨by decide, .inl rfl⟩
  | keep | handOut | shed | finish =>
      refine .inr ⟨by decide, .inl ?_⟩
      simp only [Holding.step] at hstep
      repeat' split at hstep
      all_goals cases hstep
      all_goals rfl

/-- The object is destroyed at the drop of its last strong handle and at no other
step. -/
theorem Counted.destroyed_of_step {held next : Holding} {use : HandleUse}
    (hheld : held.Counted) (hstep : held.step use = some next) :
    next.destroyed =
      held.destroyed + if use = .drop ∧ held.strong = 1 then 1 else 0 := by
  have hbefore := hheld.destroyed
  have hafter := (hheld.step hstep).destroyed
  rcases hheld.strong_of_step hstep with ⟨rfl, hless⟩ | ⟨hother, hsame⟩
  · by_cases hlast : held.strong = 1
    · have hnone : next.strong = 0 := by omega
      simp [hbefore, hafter, hlast, hnone]
    · have hstrong : held.strong ≠ 0 := by omega
      have hleft : next.strong ≠ 0 := by omega
      simp [hbefore, hafter, hlast, hstrong, hleft]
  · have hzero : next.strong = 0 ↔ held.strong = 0 := by omega
    simp [hbefore, hafter, hother, hzero]

/-- Whatever is done with the handles of a new object, in whatever order: the
counts are the numbers of the handles that are out, the object is destroyed once,
when its last strong handle is dropped, no weak handle can be upgraded from then
on, and its cell is freed once, when the destruction is over and the last weak
handle gone, so that every operation finds the cell there. -/
theorem counts_exact (heap : Heap Nat) {uses : List HandleUse} {held : Holding}
    (hrun : (new heap).run uses = some held) :
    held.heap.strongCount held.address = held.strong ∧
    held.heap.weakCount held.address =
      held.weak + held.life.own + (if held.life = .gone then 0 else 1) ∧
    held.destroyed = (if held.strong = 0 then 1 else 0) ∧
    ((held.heap.upgrade held.address).isSome = true ↔
      0 < held.heap.strongCount held.address) ∧
    (0 < held.destroyed → held.heap.upgrade held.address = none) ∧
    held.freed =
      (if held.destroyed = 1 ∧ held.life = .gone ∧ held.weak = 0 then 1 else 0) ∧
    (held.present = true ↔ held.freed = 0) ∧
    ∀ use next, held.step use = some next →
      held.present = true ∧
      next.destroyed =
        held.destroyed +
          (if use = .drop ∧ held.heap.strongCount held.address = 1 then 1 else 0) ∧
      (held.destroyed < next.destroyed → next.heap.strongCount next.address = 0) := by
  have hheld := (new_counted heap).run hrun
  have hweak := hheld.weakCount
  have hfreed := hheld.freed
  refine ⟨hheld.strongCount, ?_, hheld.destroyed, ?_, ?_, ?_, hheld.present_iff, ?_⟩
  · rw [hweak, weakRefs]
    cases held.life <;> simp [Life.shared]
  · rw [hheld.strongCount]
    exact hheld.upgrade_isSome_iff
  · intro hdestroyed
    rw [hheld.destroyed] at hdestroyed
    have hnone : held.strong = 0 := by
      split at hdestroyed
      · assumption
      · omega
    simp [Heap.upgrade, Heap.isAlive, hheld.strongCount, hnone]
  · rw [hfreed]
    by_cases hgone : held.life = .gone
    · simp [hgone, hheld.destroyed, hheld.strong_of_gone hgone]
    · simp [hgone]
  · intro use next hstep
    have hnext := hheld.step hstep
    refine ⟨?_, ?_, ?_⟩
    · simp [present, hheld.cell_of_weakRefs (hheld.weakRefs_of_step hstep)]
    · rw [hheld.strongCount]
      exact hheld.destroyed_of_step hstep
    · intro hmore
      rw [hnext.strongCount]
      have hafter := hnext.destroyed
      split at hafter
      · assumption
      · omega

/-- An object that keeps two weak handles to itself and gives one of them away
while it is destroyed. -/
def ownHandles : List HandleUse :=
  [.downgrade, .keep, .downgrade, .keep, .downgrade, .clone, .drop, .upgrade, .drop, .drop,
    .upgrade, .weakDrop, .handOut, .upgrade, .shed, .finish, .weakClone, .weakDrop, .weakDrop]

theorem counts_exact_own_handles :
    ∃ held, (new .empty).run ownHandles = some held ∧
      held.heap.weakCount held.address =
        held.weak + held.life.own + (if held.life = .gone then 0 else 1) ∧
      held.destroyed = 1 ∧ held.freed = 1 ∧ held.present = false := by
  have hends : ((new .empty).run ownHandles).map
      (fun held => (held.destroyed, held.freed)) = some (1, 1) := by decide
  obtain ⟨held, hrun, hcounts⟩ := Option.map_eq_some_iff.mp hends
  obtain ⟨hdestroyed, hfreed⟩ := Prod.mk.inj hcounts
  obtain ⟨-, hweak, -, -, -, -, hpresent, -⟩ := counts_exact .empty hrun
  refine ⟨held, hrun, hweak, hdestroyed, hfreed, ?_⟩
  rw [← Bool.not_eq_true, hpresent]
  omega

end Holding

end ScriptHost
