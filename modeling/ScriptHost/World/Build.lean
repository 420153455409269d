import ScriptHost.Module.Compile
import ScriptHost.World.Call

/-!
Building script modules and looking for listeners in them. A module is built when it is first used.
Once built it is used as it is, as long as the executor has its compiled script; a module whose
compiled script is gone from there is discarded at its next use.
-/

namespace ScriptHost

namespace Act

/-- Ends the watching of a module's files. -/
def stopMonitoring (address : Nat) (id : Nat) : Act Unit := do
  if (← get).isRunning then onExecutor (·.unwatch id)
  onModule address fun module => { module with watched := [] }

/-- Takes the compiled script of a module, its listeners and its watches away. -/
def tearDown (address : Nat) : Act Unit := do
  let world ← get
  match world.module? address with
  | none => pure ()
  | some module =>
    if world.isRunning then onExecutor (·.removeCompiled? module.compiled)
    stopMonitoring address module.id
    onModule address ScriptModule.discarded

/-- Discards a module for a reason. -/
def discard (address : Nat) (reason : String) : Act Unit := do
  let world ← get
  match world.module? address with
  | none => pure ()
  | some module =>
    tearDown address
    if module.state ≠ .discarded then warn s!"module discarded: {reason}"

/-- Discards a module because the host says so. -/
def markDiscarded (address : Nat) : Act Unit :=
  discard address "discarded by host"

/-- Begins to watch the files of a module. A module whose files cannot be watched is none the less
built. -/
def startMonitoring (address : Nat) (id : Nat) (files : List Path) : Act Unit := do
  let world ← get
  match world.executor.watcher with
  | none => pure ()
  | some watcher =>
    let (watcher, result) := watcher.watch world.files id address files
    onExecutor fun executor => { executor with watcher := some watcher }
    match result with
    | .ok _ => pure ()
    | .error err => warn s!"cannot watch module sources: {err.message}"
  onModule address fun module => { module with watched := files }

/-- Compiles a module that is ready for it. -/
def compileModule (address : Nat) (module : ScriptModule) : Act (Option Compiled) := do
  let world ← get
  let (result, executor) := module.compile world.executor world.files
  onExecutor fun _ => executor
  match result with
  | .ok (compiled, files) =>
    onExecutor (·.registerCompiled compiled)
    onModule address fun module =>
      { module with compiled := some compiled, listeners := none, state := .built }
    startMonitoring address module.id files
    return some compiled
  | .error err =>
    error err.report
    onModule address fun module => { module with state := .failed }
    return none

/-- The compiled script of a module, which is built if it has not been yet. -/
def build (address : Nat) : Act (Option Compiled) := do
  let world ← get
  match world.module? address with
  | none => return none
  | some module =>
    match module.state with
    | .built =>
      let live := world.isRunning && world.executor.isCompiled module.internalName
      match module.compiled, live with
      | some compiled, true => return some compiled
      | _, _ =>
        discard address "compiled module was invalidated"
        return none
    | .readyToBuild =>
      if world.isRunning then compileModule address module
      else
        discard address "script executor is gone"
        return none
    | _ => return none

/-- The listeners of a module, which is built if it has not been yet. -/
def listenerIndex (address : Nat) : Act (Option ListenerIndex) := do
  match ← build address with
  | none => return none
  | some compiled =>
    match ((← get).module? address).bind ScriptModule.listeners with
    | some index => return some index
    | none =>
      let (index, complaints) := ListenerIndex.build compiled
      complaints.forM warn
      onModule address fun module => { module with listeners := some index }
      return some index

/-- The listener of a module with a name and type. -/
def findListener (address : Nat) (name : String) (genericType : Option String) :
    Act (Option ListenerEntry) := do
  return (← listenerIndex address).bind (·.find? name genericType)

/-- All listeners of a module. -/
def listeners (address : Nat) : Act (List ListenerEntry) := do
  return ((← listenerIndex address).map ListenerIndex.list).getD []

/-- The function of a module to call with a number of arguments. -/
def function (address : Nat) (name : String) (count : Nat) :
    Act (Except InvokeError FunctionRef) := do
  if !(← get).isRunning then return .error .executorGone
  match ← build address with
  | none =>
    match (← get).module? address with
    | none => return .error .executorGone
    | some module => return .error (.moduleUnusable module.name module.state)
  | some compiled =>
    match compiled.resolve? name count with
    | some function => return .ok function
    | none => return .error (.functionNotFound name)

/-- Adds a segment to a module unless it repeats one, and tells whether it did. -/
def addSegment (address : Nat) (segment : Segment) : Act Bool := do
  match (← get).module? address with
  | none => return false
  | some module =>
    let (module, added) := module.addSegment segment
    onModule address fun _ => module
    return added

/-- Adds a file to a module unless it repeats a segment, and tells whether it did. -/
def addFile (address : Nat) (path : Path) : Act (Except BuildError Bool) := do
  match Segment.ofFile (← get).files path with
  | .error cause => return .error (.read path cause)
  | .ok segment => return .ok (← addSegment address segment)

/-- Releases a module: it cannot be used any more. The handles that its hooks had are to be dropped. -/
def release (address : Nat) : Act (List Owned) := do
  let hooks := ((← get).module? address).bind ScriptModule.hooks
  onModule address fun module => { module with hooks := none }
  tearDown address
  return ((hooks.map Hooks.objects).getD []).map Owned.object

/-- Gives a module hooks unless it has some, and tells whether it did. -/
def setHooks (address : Nat) (hooks : Hooks) : Act Bool := do
  match ((← get).module? address).bind ScriptModule.hooks with
  | some _ => return false
  | none =>
    onModule address fun module => { module with hooks := some hooks }
    return true

/-- Takes the hooks of a module away. The handles that they had are to be dropped. -/
def clearHooks (address : Nat) : Act (List Owned) := do
  let hooks := ((← get).module? address).bind ScriptModule.hooks
  onModule address fun module => { module with hooks := none }
  return ((hooks.map Hooks.objects).getD []).map Owned.object

end Act

end ScriptHost
