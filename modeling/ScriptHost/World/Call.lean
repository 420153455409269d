import ScriptHost.Call.Error
import ScriptHost.Native.Marshal
import ScriptHost.Script.Eval
import ScriptHost.World.Basic

/-!
Calls from the host into scripts. Arguments are taken over all together or the call does not happen.
While the script runs, its call has a frame with the deadline and the abort switch; a call whose frame
has tripped, or whose run was ended, is an aborted one, whatever the script made of it.
-/

namespace ScriptHost

/-- The fuel of a run. Runs end for other reasons long before it is used up. -/
def runFuel : Nat := 1000000000

/-- What a run of a script function leaves. -/
structure RunOutcome where
  result : Except Script.Signal ScriptValue
  /-- The object of a method call afterwards. -/
  this : Option ScriptValue
  host : Host
  /-- The reason that the frame of the call has tripped for. -/
  tripped : Option AbortReason

/-- Why a call gives no value, if the run has ended by an error. -/
def InvokeError.ofRun (function : FunctionRef) (err : Script.RuntimeError)
    (tripped : Option AbortReason) : InvokeError :=
  let terminated := match err.cause with
    | .terminated => some AbortReason.requested
    | _ => none
  match tripped.or terminated with
  | some reason => .aborted function.name reason
  | none => .exception (.ofError function err)

namespace World

/-- What the functions of a compiled script find around them. -/
def surroundings (world : World) (compiled : Compiled) : Surroundings where
  program := compiled.program
  source := compiled.internalName
  types := world.executor.types
  look := world.look
  files := world.files
  granted := world.executor.granted (some compiled.internalName)
  guarded := world.executor.guarded
  maxCallLevels := world.executor.maxCallLevels

/-- Runs a script function in a frame of its own. -/
def runFunction (world : World) (function : FunctionRef) (this : Option ScriptValue)
    (args : List ScriptValue) (limit : Option Nat) (switch : Option String) : RunOutcome :=
  let depth := world.host.calls.length
  let entered := world.host.enterCall limit switch
  match function.compiled.program.function? function.name function.arity with
  | none => ⟨.ok .unit, this, world.host, none⟩
  | some code =>
    let run := Script.callFunction runFuel code this args none (world.surroundings function.compiled)
    let (result, state) := run.run ⟨entered, 0, 0, [], none⟩
    let tripped := state.host.trippedAt depth
    let host := state.host.leaveCall depth
    match result with
    | .ok (result, after) => ⟨result, this.bind fun _ => after, host, tripped⟩
    | .error signal => ⟨.error signal, this, host, tripped⟩

end World

namespace Act

/-- Reads the value of a call as the type the caller wants. No value at all is reported unless none is
wanted. -/
def readResult (function : FunctionRef) (value : ScriptValue) (wanted : ReturnType) :
    Act (Except InvokeError (Option NativeValue)) := do
  if value.isUnit then
    if wanted ≠ .unit then
      warn s!"script returned nothing but {wanted.nativeName} was expected"
    return .ok none
  else
    match value.toReturn wanted with
    | .error cause => return .error (.returnMismatch function.name cause)
    | .ok result => return .ok (some result)

/-- Reports a failed call and gives the reason. -/
def reportFailure (function : FunctionRef) (err : Script.RuntimeError)
    (tripped : Option AbortReason) (setup : RunSetup) : Act InvokeError := do
  let failure := InvokeError.ofRun function err tripped
  match failure with
  | .aborted _ reason => warn s!"script call {reason.text}"
  | .exception raised => if setup.printErrors then error raised.report
  | _ => pure ()
  return failure

/-- Calls a script function with values that are in script form, and gives what has become of the
object of a method call. The script's own handles of all of these are gone afterwards; the result
has handles of its own, and so has the object. -/
def callWith (function : FunctionRef) (this : Option ScriptValue) (values : List ScriptValue)
    (setup : RunSetup) (wanted : ReturnType) :
    Act (Except InvokeError (Option NativeValue) × Option ScriptValue) := do
  let world ← get
  let outcome := world.runFunction function this values
    (setup.timeout.or world.executor.timeout) setup.abort
  set { world with host := outcome.host }
  let result ← match outcome.result with
    | .ok value => readResult function value wanted
    | .error (.error err) =>
      Except.error <$> reportFailure function err outcome.tripped setup
    | .error _ => pure (.ok none)
  retain (match result with
    | .ok (some value) => value.objects
    | _ => [])
  retain ((outcome.this.map ScriptValue.objects).getD [])
  modify (·.release (values.flatMap ScriptValue.objects))
  return (result, outcome.this)

/-- Calls a script function, as a method of `this` if there is one. Arguments beyond the number of its
parameters are left out. -/
def call (function : FunctionRef) (this : Option ScriptValue) (args : List NativeValue)
    (setup : RunSetup) (wanted : ReturnType) :
    Act (Except InvokeError (Option NativeValue) × Option ScriptValue) := do
  let keep : Act Unit := retain ((this.map ScriptValue.objects).getD [])
  if args.length < function.arity then
    keep
    return (.error (.argumentCount function.name function.arity args.length), this)
  else
    let world ← get
    match marshalArgs world.executor.types world.objects (args.take function.arity) with
    | .error (index, cause) =>
      keep
      return (.error (.typeMismatch function.name index cause), this)
    | .ok (values, objects) =>
      set { world with
        objects := objects
        executor := { world.executor with invocations := world.executor.invocations + 1 } }
      callWith function this values setup wanted

/-- Calls a script function and forgets all about an object. -/
def invoke (function : FunctionRef) (args : List NativeValue) (setup : RunSetup)
    (wanted : ReturnType) : Act (Except InvokeError (Option NativeValue)) := do
  return (← call function none args setup wanted).1

/-- The objects that the result of a call has handles of. -/
def resultObjects (result : Except InvokeError (Option NativeValue)) : List Owned :=
  match result with
  | .ok (some value) => value.objects.map Owned.object
  | _ => []

end Act

end ScriptHost
