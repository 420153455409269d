import ScriptHost.Handle.Heap
import ScriptHost.Proofs.Table

/-!
Counted objects, operation by operation: what becomes of the contents and of the
numbers of strong handles. A heap is sound if every cell lies below the address
that comes next and a cell without strong handles has no content; every
operation keeps a heap sound.
-/

namespace ScriptHost

namespace Heap

variable {α : Type}

/-- Every address in use was handed out, and what has no strong handle is
destroyed. -/
structure Sound (heap : Heap α) : Prop where
  below : ∀ {address : Nat} {cell : Cell α},
    heap.cell? address = some cell → address < heap.next
  dead : ∀ {address : Nat} {cell : Cell α},
    heap.cell? address = some cell → cell.strong = 0 → cell.content = none

theorem empty_sound : (Heap.empty : Heap α).Sound :=
  ⟨by simp [Heap.empty, Heap.cell?], by simp [Heap.empty, Heap.cell?]⟩

/-- A living object is found in a cell that has strong handles. -/
theorem get?_eq_some_iff (heap : Heap α) (address : Nat) (content : α) :
    heap.get? address = some content ↔
      ∃ cell, heap.cell? address = some cell ∧ cell.strong ≠ 0 ∧
        cell.content = some content := by
  unfold Heap.get?
  cases hc : heap.cell? address with
  | none => simp
  | some cell =>
      by_cases hs : cell.strong = 0
      · simp [hs]
      · simp [hs]

theorem lt_next_of_get? {heap : Heap α} (hheap : heap.Sound)
    {address : Nat} {content : α}
    (hget : heap.get? address = some content) : address < heap.next := by
  obtain ⟨cell, hcell, -, -⟩ := (get?_eq_some_iff heap address content).mp hget
  exact hheap.below hcell

theorem strongCount_pos_of_get? {heap : Heap α} {address : Nat} {content : α}
    (hget : heap.get? address = some content) :
    0 < heap.strongCount address := by
  obtain ⟨cell, hcell, hstrong, -⟩ :=
    (get?_eq_some_iff heap address content).mp hget
  simp only [Heap.strongCount, hcell, Option.map_some, Option.getD_some]
  omega

/-- In a sound heap the content of a cell is there exactly as long as the object
lives. -/
theorem Sound.get?_of_cell {heap : Heap α} (hheap : heap.Sound)
    {address : Nat} {cell : Cell α} (hcell : heap.cell? address = some cell) :
    heap.get? address = cell.content := by
  unfold Heap.get?
  rw [hcell]
  by_cases hs : cell.strong = 0
  · simp [hs, hheap.dead hcell hs]
  · simp [hs]

theorem strongCount_of_cell {heap : Heap α} {address : Nat} {cell : Cell α}
    (hcell : heap.cell? address = some cell) :
    heap.strongCount address = cell.strong := by
  simp [Heap.strongCount, hcell]

/-! ### Replacing a cell -/

theorem cell?_setCell (heap : Heap α) (address other : Nat) (cell : Cell α) :
    (heap.setCell address cell).cell? other =
      if address = other then
        if cell.strong = 0 ∧ cell.weak = 0 then none else some cell
      else heap.cell? other := by
  unfold Heap.setCell Heap.cell?
  split
  · rw [Table.get?_erase]
  · rw [Table.get?_set]

@[simp]
theorem next_setCell (heap : Heap α) (address : Nat) (cell : Cell α) :
    (heap.setCell address cell).next = heap.next := by
  unfold Heap.setCell
  split <;> rfl

theorem get?_setCell (heap : Heap α) (address other : Nat) (cell : Cell α) :
    (heap.setCell address cell).get? other =
      if address = other then
        if cell.strong = 0 then none else cell.content
      else heap.get? other := by
  unfold Heap.get?
  rw [cell?_setCell]
  by_cases ha : address = other
  · by_cases hs : cell.strong = 0
    · by_cases hw : cell.weak = 0 <;> simp [ha, hs, hw]
    · simp [ha, hs]
  · simp [ha]

theorem strongCount_setCell (heap : Heap α) (address other : Nat)
    (cell : Cell α) :
    (heap.setCell address cell).strongCount other =
      if address = other then cell.strong else heap.strongCount other := by
  unfold Heap.strongCount
  rw [cell?_setCell]
  by_cases ha : address = other
  · by_cases hs : cell.strong = 0
    · by_cases hw : cell.weak = 0 <;> simp [ha, hs, hw]
    · simp [ha, hs]
  · simp [ha]

theorem Sound.setCell {heap : Heap α} (hheap : heap.Sound) {address : Nat}
    (hbelow : address < heap.next) (cell : Cell α)
    (hdead : cell.strong = 0 → cell.content = none) :
    (heap.setCell address cell).Sound := by
  constructor
  · intro other found hfound
    rw [cell?_setCell] at hfound
    rw [next_setCell]
    by_cases ha : address = other
    · exact ha ▸ hbelow
    · rw [if_neg ha] at hfound
      exact hheap.below hfound
  · intro other found hfound hstrong
    rw [cell?_setCell] at hfound
    by_cases ha : address = other
    · rw [if_pos ha] at hfound
      split at hfound
      · cases hfound
      · cases hfound
        exact hdead hstrong
    · rw [if_neg ha] at hfound
      exact hheap.dead hfound hstrong

/-! ### Allocating -/

theorem get?_alloc (heap : Heap α) (content : α) (address : Nat) :
    (heap.alloc content).2.get? address =
      if heap.next = address then some content else heap.get? address := by
  simp only [Heap.alloc, Heap.get?, Heap.cell?, Table.get?_set]
  by_cases ha : heap.next = address
  · simp [ha]
  · simp [ha]

theorem strongCount_alloc (heap : Heap α) (content : α) (address : Nat) :
    (heap.alloc content).2.strongCount address =
      if heap.next = address then 1 else heap.strongCount address := by
  simp only [Heap.alloc, Heap.strongCount, Heap.cell?, Table.get?_set]
  by_cases ha : heap.next = address
  · simp [ha]
  · simp [ha]

theorem Sound.alloc {heap : Heap α} (hheap : heap.Sound) (content : α) :
    (heap.alloc content).2.Sound := by
  constructor
  · intro address cell hcell
    simp only [Heap.alloc, Heap.cell?, Table.get?_set] at hcell ⊢
    by_cases ha : heap.next = address
    · omega
    · rw [if_neg ha] at hcell
      have hlt := hheap.below hcell
      omega
  · intro address cell hcell hstrong
    simp only [Heap.alloc, Heap.cell?, Table.get?_set] at hcell
    by_cases ha : heap.next = address
    · rw [if_pos ha] at hcell
      cases hcell
      simp at hstrong
    · rw [if_neg ha] at hcell
      exact hheap.dead hcell hstrong

/-- A fresh address denotes no object yet. -/
theorem Sound.get?_next {heap : Heap α} (hheap : heap.Sound) {address : Nat}
    (hfresh : heap.next ≤ address) : heap.get? address = none := by
  cases hget : heap.get? address with
  | none => rfl
  | some content =>
      have hlt := lt_next_of_get? hheap hget
      omega

/-! ### Changing a content -/

theorem cell?_modify (heap : Heap α) (address other : Nat) (change : α → α) :
    (heap.modify address change).cell? other =
      if address = other then
        (heap.cell? other).map fun cell =>
          { cell with content := cell.content.map change }
      else heap.cell? other := by
  unfold Heap.modify
  cases hc : heap.cell? address with
  | none =>
      by_cases ha : address = other
      · subst ha
        simp [hc]
      · simp [ha]
  | some cell =>
      simp only [Heap.cell?, Table.get?_set]
      by_cases ha : address = other
      · subst ha
        have hc' : heap.cells.get? address = some cell := hc
        simp [hc']
      · simp [ha]

@[simp]
theorem next_modify (heap : Heap α) (address : Nat) (change : α → α) :
    (heap.modify address change).next = heap.next := by
  unfold Heap.modify
  split <;> rfl

theorem get?_modify (heap : Heap α) (address other : Nat) (change : α → α) :
    (heap.modify address change).get? other =
      if address = other then (heap.get? other).map change
      else heap.get? other := by
  unfold Heap.get?
  rw [cell?_modify]
  by_cases ha : address = other
  · rw [if_pos ha, if_pos ha]
    cases hc : heap.cell? other with
    | none => rfl
    | some cell =>
        by_cases hs : cell.strong = 0
        · simp [hs]
        · simp [hs]
  · rw [if_neg ha, if_neg ha]

@[simp]
theorem strongCount_modify (heap : Heap α) (address other : Nat)
    (change : α → α) :
    (heap.modify address change).strongCount other =
      heap.strongCount other := by
  unfold Heap.strongCount
  rw [cell?_modify]
  by_cases ha : address = other
  · rw [if_pos ha]
    cases heap.cell? other <;> rfl
  · rw [if_neg ha]

theorem Sound.modify {heap : Heap α} (hheap : heap.Sound) (address : Nat)
    (change : α → α) : (heap.modify address change).Sound := by
  constructor
  · intro other found hfound
    rw [cell?_modify] at hfound
    rw [next_modify]
    by_cases ha : address = other
    · rw [if_pos ha] at hfound
      obtain ⟨cell, hcell, -⟩ := Option.map_eq_some_iff.mp hfound
      exact hheap.below hcell
    · rw [if_neg ha] at hfound
      exact hheap.below hfound
  · intro other found hfound hstrong
    rw [cell?_modify] at hfound
    by_cases ha : address = other
    · rw [if_pos ha] at hfound
      obtain ⟨cell, hcell, hchanged⟩ := Option.map_eq_some_iff.mp hfound
      subst hchanged
      simp [hheap.dead hcell hstrong]
    · rw [if_neg ha] at hfound
      exact hheap.dead hfound hstrong

/-! ### Strong handles -/

@[simp]
theorem next_retain (heap : Heap α) (address : Nat) :
    (heap.retain address).next = heap.next := by
  unfold Heap.retain
  split
  · rfl
  · simp

theorem Sound.retain {heap : Heap α} (hheap : heap.Sound) (address : Nat) :
    (heap.retain address).Sound := by
  unfold Heap.retain
  cases hc : heap.cell? address with
  | none => exact hheap
  | some cell => exact hheap.setCell (hheap.below hc) _ (by simp)

/-- A further handle changes no content; what is destroyed stays so. -/
theorem Sound.get?_retain {heap : Heap α} (hheap : heap.Sound)
    (address other : Nat) :
    (heap.retain address).get? other = heap.get? other := by
  unfold Heap.retain
  cases hc : heap.cell? address with
  | none => rfl
  | some cell =>
      simp only [get?_setCell]
      by_cases ha : address = other
      · subst ha
        simp [hheap.get?_of_cell hc]
      · simp [ha]

theorem strongCount_retain (heap : Heap α) {address : Nat} {content : α}
    (hget : heap.get? address = some content) (other : Nat) :
    (heap.retain address).strongCount other =
      heap.strongCount other + if address = other then 1 else 0 := by
  obtain ⟨cell, hcell, -, -⟩ := (get?_eq_some_iff heap address content).mp hget
  simp only [Heap.retain, hcell, strongCount_setCell]
  by_cases ha : address = other
  · subst ha
    simp [Heap.strongCount, hcell]
  · simp [ha]

theorem strongCount_retain_of_ne (heap : Heap α) {address other : Nat}
    (hne : address ≠ other) :
    (heap.retain address).strongCount other = heap.strongCount other := by
  unfold Heap.retain
  cases heap.cell? address with
  | none => rfl
  | some cell => rw [strongCount_setCell, if_neg hne]

/-- A clone of a handle that is there counts once more, whatever the handles are of. -/
theorem strongCount_retain_of_alive (heap : Heap α) {address : Nat}
    (halive : heap.isAlive address = true) (other : Nat) :
    (heap.retain address).strongCount other =
      heap.strongCount other + if address = other then 1 else 0 := by
  unfold Heap.isAlive at halive
  unfold Heap.retain
  cases hc : heap.cell? address with
  | none => simp [Heap.strongCount, hc] at halive
  | some cell =>
      simp only [strongCount_setCell]
      by_cases ha : address = other
      · subst ha
        simp [strongCount_of_cell hc]
      · simp [ha]

/-- A clone of whatever handle counts once at most. -/
theorem strongCount_retain_le (heap : Heap α) (address other : Nat) :
    (heap.retain address).strongCount other ≤
      heap.strongCount other + if address = other then 1 else 0 := by
  unfold Heap.retain
  cases hc : heap.cell? address with
  | none => exact Nat.le_add_right _ _
  | some cell =>
      simp only [strongCount_setCell]
      by_cases ha : address = other
      · subst ha
        simp [strongCount_of_cell hc]
      · simp [ha]

theorem isAlive_retain (heap : Heap α) {address other : Nat}
    (halive : heap.isAlive address = true) (hother : heap.isAlive other = true) :
    (heap.retain address).isAlive other = true := by
  unfold Heap.isAlive at hother ⊢
  rw [heap.strongCount_retain_of_alive halive]
  simp only [decide_eq_true_eq] at hother ⊢
  omega

/-- A cloned handle that is dropped again leaves no trace, since another one is
there. -/
theorem release_retain (heap : Heap α) {address : Nat}
    (halive : heap.isAlive address = true) :
    (heap.retain address).release address = (heap, none) := by
  unfold Heap.isAlive at halive
  cases hc : heap.cell? address with
  | none => simp [Heap.strongCount, hc] at halive
  | some cell =>
      have hstrong : cell.strong ≠ 0 := by
        rw [strongCount_of_cell hc, decide_eq_true_eq] at halive
        omega
      have hset : heap.cells.set address cell = heap.cells := Table.set_of_get? _ hc
      have hcell : (heap.retain address).cell? address =
          some { cell with strong := cell.strong + 1 } := by
        simp only [Heap.retain, hc, cell?_setCell]
        simp
      simp only [Heap.release, hcell, Nat.add_eq_right, hstrong, if_false, Nat.add_sub_cancel]
      simp [Heap.retain, hc, Heap.setCell, hstrong, Table.set_set, hset]

@[simp]
theorem next_release (heap : Heap α) (address : Nat) :
    (heap.release address).1.next = heap.next := by
  unfold Heap.release
  cases heap.cell? address with
  | none => rfl
  | some cell =>
      by_cases hs : cell.strong = 1
      · simp [hs]
      · simp [hs]

theorem Sound.release {heap : Heap α} (hheap : heap.Sound) (address : Nat) :
    (heap.release address).1.Sound := by
  unfold Heap.release
  cases hc : heap.cell? address with
  | none => exact hheap
  | some cell =>
      by_cases hs : cell.strong = 1
      · simp only [hs, if_true]
        exact hheap.setCell (hheap.below hc) _ (by simp)
      · simp only [hs, if_false]
        refine hheap.setCell (hheap.below hc) _ ?_
        intro hzero
        have hstrong : cell.strong - 1 = 0 := hzero
        have hcontent : cell.content = none := hheap.dead hc (by omega)
        exact hcontent

/-- What a dropped handle destroys is the living object whose only handle it
was. -/
theorem Sound.release_snd {heap : Heap α} (hheap : heap.Sound) (address : Nat) :
    (heap.release address).2 =
      if heap.strongCount address = 1 then heap.get? address else none := by
  unfold Heap.release Heap.strongCount
  cases hc : heap.cell? address with
  | none => simp
  | some cell =>
      by_cases hs : cell.strong = 1
      · simp [hs, hheap.get?_of_cell hc]
      · simp [hs]

theorem Sound.get?_release {heap : Heap α} (hheap : heap.Sound)
    (address other : Nat) :
    (heap.release address).1.get? other =
      if address = other ∧ heap.strongCount address = 1 then none
      else heap.get? other := by
  unfold Heap.release Heap.strongCount
  cases hc : heap.cell? address with
  | none => simp
  | some cell =>
      by_cases hs : cell.strong = 1
      · by_cases ha : address = other
        · simp [hs, ha, get?_setCell]
        · simp [hs, ha, get?_setCell]
      · by_cases ha : address = other
        · subst ha
          have hcontent := hheap.get?_of_cell hc
          by_cases hz : cell.strong - 1 = 0
          · have hzero : cell.strong = 0 := by omega
            simp [hs, get?_setCell, hz, hcontent, hheap.dead hc hzero]
          · simp [hs, get?_setCell, hz, hcontent]
        · simp [hs, ha, get?_setCell]

theorem strongCount_release (heap : Heap α) (address other : Nat) :
    (heap.release address).1.strongCount other =
      heap.strongCount other - if address = other then 1 else 0 := by
  unfold Heap.release
  cases hc : heap.cell? address with
  | none =>
      by_cases ha : address = other
      · subst ha
        simp [Heap.strongCount, hc]
      · simp [ha]
  | some cell =>
      have hcount := strongCount_of_cell hc
      by_cases hs : cell.strong = 1
      · simp only [hs, if_true, strongCount_setCell]
        by_cases ha : address = other
        · subst ha
          simp [hcount, hs]
        · simp [ha]
      · simp only [hs, if_false, strongCount_setCell]
        by_cases ha : address = other
        · subst ha
          simp [hcount]
        · simp [ha]

/-- A dropped handle that destroys nothing changes no content. -/
theorem Sound.get?_release_of_none {heap : Heap α} (hheap : heap.Sound)
    {address : Nat} (hnone : (heap.release address).2 = none) (other : Nat) :
    (heap.release address).1.get? other = heap.get? other := by
  rw [hheap.get?_release]
  split
  · rename_i hlast
    obtain ⟨rfl, hcount⟩ := hlast
    rw [hheap.release_snd, if_pos hcount] at hnone
    exact hnone.symm
  · rfl

/-- The last handle of an object takes this object and no other. -/
theorem Sound.get?_release_of_some {heap : Heap α} (hheap : heap.Sound)
    {address : Nat} {content : α}
    (hsome : (heap.release address).2 = some content) :
    heap.get? address = some content ∧
      ∀ other, (heap.release address).1.get? other =
        if address = other then none else heap.get? other := by
  rw [hheap.release_snd] at hsome
  by_cases hcount : heap.strongCount address = 1
  · rw [if_pos hcount] at hsome
    refine ⟨hsome, fun other => ?_⟩
    rw [hheap.get?_release]
    simp [hcount]
  · rw [if_neg hcount] at hsome
    cases hsome

/-! ### The end of a destruction, and upgrades -/

@[simp]
theorem next_finish (heap : Heap α) (address : Nat) :
    (heap.finish address).next = heap.next := by
  unfold Heap.finish Heap.releaseWeak
  split
  · rfl
  · simp

theorem Sound.finish {heap : Heap α} (hheap : heap.Sound) (address : Nat) :
    (heap.finish address).Sound := by
  unfold Heap.finish Heap.releaseWeak
  cases hc : heap.cell? address with
  | none => exact hheap
  | some cell =>
      have hdead : cell.strong = 0 → cell.content = none := hheap.dead hc
      exact hheap.setCell (hheap.below hc) _ hdead

theorem get?_finish (heap : Heap α) (address other : Nat) :
    (heap.finish address).get? other = heap.get? other := by
  unfold Heap.finish Heap.releaseWeak
  cases hc : heap.cell? address with
  | none => rfl
  | some cell =>
      simp only [get?_setCell]
      by_cases ha : address = other
      · subst ha
        simp [Heap.get?, hc]
      · simp [ha]

theorem strongCount_finish (heap : Heap α) (address other : Nat) :
    (heap.finish address).strongCount other = heap.strongCount other := by
  unfold Heap.finish Heap.releaseWeak
  cases hc : heap.cell? address with
  | none => rfl
  | some cell =>
      simp only [strongCount_setCell]
      by_cases ha : address = other
      · subst ha
        simp [Heap.strongCount, hc]
      · simp [ha]

theorem eq_retain_of_upgrade {heap upgraded : Heap α} {address : Nat}
    (hupgrade : heap.upgrade address = some upgraded) :
    upgraded = heap.retain address := by
  unfold Heap.upgrade at hupgrade
  split at hupgrade
  · exact (Option.some.inj hupgrade).symm
  · cases hupgrade

/-- A living object can be upgraded. -/
theorem upgrade_of_get? {heap : Heap α} {address : Nat} {content : α}
    (hget : heap.get? address = some content) :
    heap.upgrade address = some (heap.retain address) :=
  if_pos (decide_eq_true (strongCount_pos_of_get? hget))

end Heap

end ScriptHost
