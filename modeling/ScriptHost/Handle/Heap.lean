import ScriptHost.Table

/-!
Counted objects. An object is allocated with one strong handle. It is destroyed when its last strong
handle goes, and its cell is freed when the last weak handle is gone too. All strong handles together
hold one weak reference, which goes when the destruction is over. Addresses are never used twice, so
the address of a freed cell never comes to denote another object.
-/

namespace ScriptHost

/-- The counts and the content of one object; the content is gone once the object is destroyed. -/
structure Cell (α : Type) where
  strong : Nat
  weak : Nat
  content : Option α

/-- The objects in existence and the address the next one gets. -/
structure Heap (α : Type) where
  next : Nat
  cells : Table Nat (Cell α)

namespace Heap

variable {α : Type}

/-- The heap without objects. -/
def empty : Heap α := ⟨1, []⟩

/-- The cell at an address. -/
def cell? (heap : Heap α) (address : Nat) : Option (Cell α) :=
  heap.cells.get? address

/-- Replaces the cell at an address; a cell with no reference of either kind is freed. -/
def setCell (heap : Heap α) (address : Nat) (cell : Cell α) : Heap α :=
  if cell.strong = 0 ∧ cell.weak = 0 then { heap with cells := heap.cells.erase address }
  else { heap with cells := heap.cells.set address cell }

/-- Allocates an object with one strong handle. -/
def alloc (heap : Heap α) (content : α) : Nat × Heap α :=
  (heap.next, ⟨heap.next + 1, heap.cells.set heap.next ⟨1, 1, some content⟩⟩)

/-- The number of strong handles to an object. -/
def strongCount (heap : Heap α) (address : Nat) : Nat :=
  ((heap.cell? address).map Cell.strong).getD 0

/-- The number of weak references to an object, that of its strong handles included. -/
def weakCount (heap : Heap α) (address : Nat) : Nat :=
  ((heap.cell? address).map Cell.weak).getD 0

/-- Whether an object has strong handles. -/
def isAlive (heap : Heap α) (address : Nat) : Bool :=
  0 < heap.strongCount address

/-- The content of a living object. -/
def get? (heap : Heap α) (address : Nat) : Option α :=
  (heap.cell? address).bind fun cell => if cell.strong = 0 then none else cell.content

/-- Changes the content of an object. -/
def modify (heap : Heap α) (address : Nat) (change : α → α) : Heap α :=
  match heap.cell? address with
  | none => heap
  | some cell =>
    { heap with cells := heap.cells.set address { cell with content := cell.content.map change } }

/-- Clones a strong handle. -/
def retain (heap : Heap α) (address : Nat) : Heap α :=
  match heap.cell? address with
  | none => heap
  | some cell => heap.setCell address { cell with strong := cell.strong + 1 }

/-- Drops a strong handle. If it was the last one, the object is being destroyed from now on: its
content is handed out, and `finish` ends the destruction. -/
def release (heap : Heap α) (address : Nat) : Heap α × Option α :=
  match heap.cell? address with
  | none => (heap, none)
  | some cell =>
    if cell.strong = 1 then
      (heap.setCell address { cell with strong := 0, content := none }, cell.content)
    else (heap.setCell address { cell with strong := cell.strong - 1 }, none)

/-- Drops a weak reference. -/
def releaseWeak (heap : Heap α) (address : Nat) : Heap α :=
  match heap.cell? address with
  | none => heap
  | some cell => heap.setCell address { cell with weak := cell.weak - 1 }

/-- Ends the destruction of an object: the weak reference of the strong handles goes. -/
def finish (heap : Heap α) (address : Nat) : Heap α :=
  heap.releaseWeak address

/-- Makes a weak handle, from a handle of either kind. -/
def retainWeak (heap : Heap α) (address : Nat) : Heap α :=
  match heap.cell? address with
  | none => heap
  | some cell => heap.setCell address { cell with weak := cell.weak + 1 }

/-- Takes a strong handle of an object that is still alive. -/
def upgrade (heap : Heap α) (address : Nat) : Option (Heap α) :=
  if heap.isAlive address then some (heap.retain address) else none

/-- Drops a strong handle of an object whose destruction has no effect of its own. -/
def drop (heap : Heap α) (address : Nat) : Heap α × Option α :=
  match heap.release address with
  | (heap, some content) => (heap.finish address, some content)
  | (heap, none) => (heap, none)

end Heap

end ScriptHost
