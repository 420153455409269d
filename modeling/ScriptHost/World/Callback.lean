import ScriptHost.Call.Callback
import ScriptHost.World.Ownership

/-!
Setting and invoking callbacks. A weakly held target is kept alive for the duration of a call only.
A callback whose target is found gone is empty from then on.
-/

namespace ScriptHost

namespace Act

/-- The callback of a function that is bound to a value. If the target can be held weakly, its handle
is dropped. -/
def bindCallback (function : FunctionRef) (target : Option ScriptValue) : Act Callback := do
  match target with
  | none => return ⟨some function, none⟩
  | some value =>
    match value, (← get).executor.supportsWeak value with
    | .object ref, true =>
      dropObjects [ref]
      return ⟨some function, some (.weak ref)⟩
    | _, _ =>
      warn "bound object has no weak reference support, holding it strongly"
      return ⟨some function, some (.strong value)⟩

/-- Gives up what a callback has. It is empty afterwards. -/
def resetCallback (callback : Callback) : Act Callback := do
  dropObjects callback.objects
  return .empty

/-- Sets a callback to a function, which may be bound to a value, or to nothing. What it had is given
up before. -/
def setCallback (callback : Callback) (wanted : Option (FunctionRef × Option ScriptValue)) :
    Act Callback := do
  let empty ← resetCallback callback
  match wanted with
  | none => return empty
  | some (function, target) => bindCallback function target

/-- Takes hold of the function of a callback, and of handles of its target for the duration of a call.
The callback afterwards comes first. -/
def takeTarget (callback : Callback) :
    Act (Callback × Except InvokeError (FunctionRef × Option ScriptValue)) := do
  match callback.function with
  | none => return (callback, .error .emptyCallback)
  | some function =>
    match callback.target with
    | none => return (callback, .ok (function, none))
    | some (.strong value) =>
      retain value.objects
      return (callback, .ok (function, some value))
    | some (.weak ref) =>
      let world ← get
      match world.objects.upgrade ref.address with
      | none => return (.empty, .error .targetGone)
      | some objects =>
        set { world with objects := objects }
        return (callback, .ok (function, some (.object ref)))

/-- Calls a function, as a method of a target if there is one, whose handles are dropped then. -/
def callTaken (function : FunctionRef) (target : Option ScriptValue) (args : List NativeValue)
    (setup : RunSetup) (wanted : ReturnType) : Act (Except InvokeError (Option NativeValue)) := do
  match target with
  | none => invoke function args setup wanted
  | some target =>
    let (result, after) ← call function (some target) args setup wanted
    dropObjects ((after.map ScriptValue.objects).getD [])
    dropObjects target.objects
    return result

/-- Invokes a callback. The callback afterwards comes first, and the handles of the result are the
caller's. -/
def invokeCallback (callback : Callback) (args : List NativeValue) (setup : RunSetup)
    (wanted : ReturnType) : Act (Callback × Except InvokeError (Option NativeValue)) := do
  match ← takeTarget callback with
  | (left, .error err) => return (left, .error err)
  | (left, .ok (function, target)) => return (left, ← callTaken function target args setup wanted)

end Act

end ScriptHost
