import ScriptHost.Call.Active
import ScriptHost.Call.Exception
import ScriptHost.Module.Basic
import ScriptHost.Native.Marshal

/-! The reasons why a call from the host into a script gives no value, and their wording. -/

namespace ScriptHost

/-- Why a call gives no value. -/
inductive InvokeError
  | functionNotFound (name : String)
  | moduleUnusable (module : String) (state : BuildState)
  | argumentCount (function : String) (expected provided : Nat)
  | typeMismatch (function : String) (index : Nat) (cause : MarshalError)
  | returnMismatch (function : String) (cause : MarshalError)
  | exception (exception : ScriptException)
  | aborted (function : String) (reason : AbortReason)
  | emptyCallback
  | targetGone
  | executorGone
  deriving DecidableEq, Repr

/-- The wording of a call error. -/
def InvokeError.message : InvokeError → String
  | .functionNotFound name => s!"script function '{name}' not found"
  | .moduleUnusable module state => s!"module '{module}' is not usable ({state.name})"
  | .argumentCount function expected provided =>
    s!"'{function}' takes {expected} argument(s), {provided} provided"
  | .typeMismatch function index cause => s!"argument {index} of '{function}': {cause.message}"
  | .returnMismatch function cause => s!"return value of '{function}': {cause.message}"
  | .exception raised => raised.text
  | .aborted function reason => s!"call to '{function}' {reason.text}"
  | .emptyCallback => "callback is empty"
  | .targetGone => "callback target has been destroyed"
  | .executorGone => "script executor is no longer available"

/-- How a call is made. -/
structure RunSetup where
  /-- The time limit in milliseconds, in place of the executor's. -/
  timeout : Option Nat
  /-- The name of the abort switch. -/
  abort : Option String
  /-- Whether exceptions are reported. -/
  printErrors : Bool
  /-- Whether a missing function is reported. -/
  errorOnMissing : Bool
  deriving DecidableEq, Repr

/-- The way calls are made unless the host says otherwise. -/
def RunSetup.standard : RunSetup := ⟨none, none, true, true⟩

end ScriptHost
