import ScriptHost.Session.Answer
import ScriptHost.Session.Basic
import ScriptHost.World.Callback
import ScriptHost.World.Entry

/-! The steps of a session that make calls, and that deal with objects, callbacks and abort switches. -/

namespace ScriptHost

/-- What a step does to an abort switch. -/
inductive SwitchAction
  | set | reset | get
  deriving DecidableEq, Repr

/-- A step that makes a call, or deals with objects, callbacks or abort switches. -/
inductive CallStep
  | run (module entry : String) (call : GivenCall)
  | invoke (function : String) (call : GivenCall)
  | invokeMethod (function : String) (this : GivenScript) (call : GivenCall)
  | abort (switch : String) (action : SwitchAction)
  | object (target : String) (given : GivenObject)
  | refs (object : String)
  | hold (object target : String)
  | isAlive (weak : String)
  | setCallback (callback : String) (function : Option String) (this : Option GivenScript)
  | resetCallback (callback : String)
  | callbackState (callback : String)
  | invokeCallback (callback : String) (call : GivenCall)

namespace SessionAct

/-- The outcome of a call as it is shown. The handles of its value are dropped. -/
def closeCall (wanted : ReturnType) (result : Except InvokeError (Option NativeValue)) :
    SessionAct CallAnswer := do
  let world ← world
  let answer : CallAnswer := ⟨wanted, result.map fun value => value.map (NativeValue.shown world)⟩
  act (Act.dropAll (Act.resultObjects result))
  return answer

/-- The callback of a name; a name that stands for none gives the empty one. -/
def callbackNamed (name : String) : SessionAct Callback := do
  return ((← get).callbacks.get? name).getD .empty

/-- Puts a callback under a name, in place of one whose handles have been given up. -/
def putCallback (name : String) (callback : Callback) : SessionAct Unit :=
  modify fun session => { session with callbacks := session.callbacks.set name callback }

/-- Takes the function and the target of a callback away. -/
def emptyCallback (name : String) : SessionAct Unit := do
  putCallback name (← act (Act.resetCallback (← callbackNamed name)))

/-- What is told of a callback. -/
def callbackAnswer (callback : Callback) : SessionAct CallbackAnswer := do
  let world ← world
  return ⟨callback.hasFunction, callback.isMethod, callback.isTargetAlive world.objects.isAlive,
    callback.text⟩

/-- A script value that a step may give, with handles of its objects. -/
def takeScript? : Option GivenScript → SessionAct (Option ScriptValue)
  | some given => return some (← takeScript given)
  | none => return none

end SessionAct

namespace CallStep

open SessionAct

/-- Runs an entry point of a script module. -/
def runAnswer (module entry : String) (call : GivenCall) : SessionAct Answer := do
  let address ← moduleNamed module
  let _ ← needExecutor
  let args ← takeNatives call.args
  let (result, existed) ← act (Act.runEntry address entry args call.setup call.wanted)
  let answer ← closeCall call.wanted result
  dropNatives args
  return .run answer existed

/-- Invokes a function. -/
def invokeAnswer (function : String) (call : GivenCall) : SessionAct Answer := do
  let callee ← functionNamed function
  let _ ← needExecutor
  let args ← takeNatives call.args
  let result ← act (Act.invoke callee args call.setup call.wanted)
  let answer ← closeCall call.wanted result
  dropNatives args
  return .call answer

/-- Invokes a function as a method. -/
def methodAnswer (function : String) (this : GivenScript) (call : GivenCall) :
    SessionAct Answer := do
  let callee ← functionNamed function
  let _ ← needExecutor
  let args ← takeNatives call.args
  let before ← takeScript this
  let (result, after) ← act (Act.call callee (some before) args call.setup call.wanted)
  let shown := (← world).shown (after.getD before)
  let answer ← closeCall call.wanted result
  act (Act.dropObjects ((after.map ScriptValue.objects).getD []))
  act (Act.dropObjects before.objects)
  dropNatives args
  return .method answer shown

/-- Does something to an abort switch and tells its state. -/
def switchAnswer (switch : String) (action : SwitchAction) : SessionAct Answer := do
  let change : Host → Host := match action with
    | .set => fun host => host.setSwitch switch true
    | .reset => fun host => host.setSwitch switch false
    | .get => id
  act (modify fun world => { world with host := change world.host })
  return .flag ((← world).host.switches.isSet switch)

/-- What is told of an object: its handles and its value, or its label if it has no value. -/
def objectAnswer (name : String) : SessionAct Answer := do
  let ref ← objectNamed name
  let world ← world
  let value : ShownValue := match ref.type with
    | .sprite => .string (world.label ref)
    | _ => .int (world.host.valueOf ref.address)
  return .object (world.objects.strongCount ref.address) value

/-- Sets a callback. -/
def setAnswer (callback : String) (function : Option String) (this : Option GivenScript) :
    SessionAct Answer := do
  let _ ← needExecutor
  let callee ← match function with
    | some function => some <$> functionNamed function
    | none => pure none
  let target ← takeScript? this
  let before ← callbackNamed callback
  putCallback callback (← act (Act.setCallback before (callee.map fun callee => (callee, target))))
  if callee.isNone then act (Act.dropObjects ((target.map ScriptValue.objects).getD []))
  return .callback (← callbackAnswer (← callbackNamed callback))

/-- Invokes a callback. -/
def invokeCallbackAnswer (callback : String) (call : GivenCall) : SessionAct Answer := do
  let _ ← needExecutor
  let args ← takeNatives call.args
  let before ← callbackNamed callback
  let (after, result) ← act (Act.invokeCallback before args call.setup call.wanted)
  putCallback callback after
  let answer ← closeCall call.wanted result
  dropNatives args
  return .invoked answer (← callbackAnswer after)

/-- Takes a step. -/
def perform : CallStep → SessionAct Answer
  | .run module entry call => runAnswer module entry call
  | .invoke function call => invokeAnswer function call
  | .invokeMethod function this call => methodAnswer function this call
  | .abort switch action => switchAnswer switch action
  | .object target given => do
    bindObject target (← takeObject given)
    return .nothing
  | .refs name => objectAnswer name
  | .hold name target => do
    let ref ← objectNamed name
    modify fun session => { session with weak := session.weak.set target ref }
    return .nothing
  | .isAlive weak => do
    let ref ← found weak ((← get).weak.get? weak)
    return .flag ((← world).objects.isAlive ref.address)
  | .setCallback callback function this => setAnswer callback function this
  | .resetCallback callback => do
    emptyCallback callback
    return .callback (← callbackAnswer (← callbackNamed callback))
  | .callbackState callback => do
    match (← get).callbacks.get? callback with
    | some callback => return .callback (← callbackAnswer callback)
    | none => return .nothing
  | .invokeCallback callback call => invokeCallbackAnswer callback call

end CallStep

end ScriptHost
