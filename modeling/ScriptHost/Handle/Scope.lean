import ScriptHost.Handle.Heap

/-!
A scope of named handles. Each name holds one strong or one weak handle; binding a name again drops
what it held. The scope counts the objects destroyed so far.
-/

namespace ScriptHost

/-- Named handles to objects that carry a label. -/
structure HandleScope where
  heap : Heap String
  strong : Table String Nat
  weak : Table String Nat
  destroyed : Nat

/-- One operation on the named handles of a scope. -/
inductive HandleStep
  | new (name : String)
  | clone (source target : String)
  | drop (name : String)
  | count (name : String)
  | downgrade (source target : String)
  | weakClone (source target : String)
  | weakDrop (name : String)
  | alive (name : String)
  | upgrade (source target : String)
  | equal (a b : String)
  | weakEqual (weak strong : String)
  | show (name : String)
  | weakShow (name : String)

/-- What a handle operation answers. -/
inductive HandleAnswer
  | nothing | missing
  | flag (value : Bool)
  | flags (values : List Bool)
  | number (value : Nat)
  | text (value : String)

namespace HandleScope

/-- The scope without handles. -/
def empty : HandleScope := ⟨.empty, [], [], 0⟩

/-- Drops a strong handle and counts the object if that destroys it. -/
def dropStrong (scope : HandleScope) (address : Nat) : HandleScope :=
  match scope.heap.drop address with
  | (heap, some _) => { scope with heap := heap, destroyed := scope.destroyed + 1 }
  | (heap, none) => { scope with heap := heap }

/-- Binds a name to a strong handle that is held already, and tells whether it was bound. -/
def bind (scope : HandleScope) (name : String) (address : Nat) : HandleScope × Bool :=
  match scope.strong.get? name with
  | some old => ({ scope with strong := scope.strong.set name address }.dropStrong old, true)
  | none => ({ scope with strong := scope.strong.set name address }, false)

/-- Binds a name to a weak handle that is held already, and tells whether it was bound. -/
def bindWeak (scope : HandleScope) (name : String) (address : Nat) : HandleScope × Bool :=
  match scope.weak.get? name with
  | some old =>
    ({ scope with weak := scope.weak.set name address, heap := scope.heap.releaseWeak old }, true)
  | none => ({ scope with weak := scope.weak.set name address }, false)

/-- Runs one operation. -/
def step (scope : HandleScope) : HandleStep → HandleScope × HandleAnswer
  | .new name =>
    let (address, heap) := scope.heap.alloc name
    let (scope, bound) := { scope with heap := heap }.bind name address
    (scope, .flag bound)
  | .clone source target =>
    match scope.strong.get? source with
    | none => (scope, .missing)
    | some address =>
      let (scope, bound) := { scope with heap := scope.heap.retain address }.bind target address
      (scope, .flag bound)
  | .drop name =>
    match scope.strong.get? name with
    | none => (scope, .flag false)
    | some address =>
      ({ scope with strong := scope.strong.erase name }.dropStrong address, .flag true)
  | .count name =>
    match scope.strong.get? name with
    | none => (scope, .nothing)
    | some address => (scope, .number (scope.heap.strongCount address))
  | .downgrade source target =>
    match scope.strong.get? source with
    | none => (scope, .missing)
    | some address =>
      let (scope, bound) :=
        { scope with heap := scope.heap.retainWeak address }.bindWeak target address
      (scope, .flag bound)
  | .weakClone source target =>
    match scope.weak.get? source with
    | none => (scope, .missing)
    | some address =>
      let (scope, bound) :=
        { scope with heap := scope.heap.retainWeak address }.bindWeak target address
      (scope, .flag bound)
  | .weakDrop name =>
    match scope.weak.get? name with
    | none => (scope, .flag false)
    | some address =>
      ({ scope with weak := scope.weak.erase name, heap := scope.heap.releaseWeak address },
        .flag true)
  | .alive name =>
    match scope.weak.get? name with
    | none => (scope, .nothing)
    | some address => (scope, .flag (scope.heap.isAlive address))
  | .upgrade source target =>
    match scope.weak.get? source with
    | none => (scope, .missing)
    | some address =>
      match scope.heap.upgrade address with
      | none => (scope, .flag false)
      | some heap => (({ scope with heap := heap }.bind target address).1, .flag true)
  | .equal a b =>
    match scope.strong.get? a, scope.strong.get? b with
    | some a, some b => (scope, .flags [a == b, a == b])
    | _, _ => (scope, .missing)
  | .weakEqual weak strong =>
    match scope.weak.get? weak, scope.strong.get? strong with
    | some a, some b => (scope, .flag (a == b))
    | _, _ => (scope, .missing)
  | .show name =>
    match (scope.strong.get? name).bind scope.heap.get? with
    | none => (scope, .nothing)
    | some label => (scope, .text s!"probe:{label}")
  | .weakShow name =>
    match scope.weak.get? name with
    | none => (scope, .nothing)
    | some address => (scope, .text s!"WeakHandle(alive: {scope.heap.isAlive address})")

end HandleScope

end ScriptHost
