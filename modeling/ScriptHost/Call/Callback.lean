import ScriptHost.Module.Compiled
import ScriptHost.Script.Value

/-!
Callbacks: a script function, and perhaps an object that it is a method of. A callback does not keep
the object alive if its type can be held weakly; any other target it keeps.
-/

namespace ScriptHost

/-- What a callback is bound to. -/
inductive BoundTarget
  /-- An object that the callback holds weakly. -/
  | weak (ref : ObjectRef)
  /-- A value whose objects the callback holds handles of. -/
  | strong (value : ScriptValue)

/-- A callback, which may be empty. -/
structure Callback where
  function : Option FunctionRef
  target : Option BoundTarget

namespace Callback

/-- The callback without function. -/
def empty : Callback := ⟨none, none⟩

/-- Whether there is a function to call. -/
def hasFunction (callback : Callback) : Bool :=
  callback.function.isSome

/-- Whether the function is called as a method. -/
def isMethod (callback : Callback) : Bool :=
  callback.target.isSome

/-- Whether a weakly held target is still there. -/
def isTargetAlive (callback : Callback) (alive : Nat → Bool) : Bool :=
  match callback.target with
  | some (.weak ref) => alive ref.address
  | _ => true

/-- The objects that a callback holds handles of. -/
def objects (callback : Callback) : List ObjectRef :=
  match callback.target with
  | some (.strong value) => value.objects
  | _ => []

/-- The dump of a callback. -/
def text (callback : Callback) : String :=
  let function := match callback.function with
    | some function => s!"Some({function.text})"
    | none => "None"
  let target := match callback.target with
    | none => "none"
    | some (.weak _) => "weak"
    | some (.strong _) => "strong"
  s!"NonOwningCallback \x7b function: {function}, object: {Text.quoted target} \x7d"

end Callback

end ScriptHost
