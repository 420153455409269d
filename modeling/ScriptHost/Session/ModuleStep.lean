import ScriptHost.Session.Answer
import ScriptHost.Session.Basic
import ScriptHost.World.Reload

/-! The steps of a session that deal with script modules, compiled scripts and the registry. -/

namespace ScriptHost

/-- A step that deals with script modules. -/
inductive ModuleStep
  | create (target : Option String) (name source : String) (id : Option Nat)
  | addSegment (module file : String) (line : Nat) (code : String)
  | addFile (module : String) (path : Path)
  | segments (module : String)
  | build (module : String) (target : Option String)
  | sameBuild (a b : String)
  | locate (compiled : String) (lines : List Nat)
  | hasFunction (compiled name : String)
  | resolve (compiled name : String) (count : Nat)
  | function (module name : String) (count : Nat) (target : Option String)
  | state (module : String)
  | setAccess (module : String) (mask : AccessMask)
  | addAccess (module : String) (mask : AccessMask)
  | listeners (module : String)
  | listenerCount (module : String)
  | findListener (module name : String) (genericType target : Option String)
  | hasListener (module name : String) (genericType : Option String)
  | index (compiled name : String) (genericType : Option String)
  | reload (module : String)
  | markDiscarded (module : String)
  | release (module : String)
  | setHooks (module : String) (release init : List GivenNative)
  | clearHooks (module : String)
  | discardCompiled (internalName : String)
  | delete (id : Nat)
  | deleteUnreferenced (id : Nat)
  | registered (id : Nat)
  | stats
  | granted (source : Option String)
  | resolveType (name : String)
  | executor

namespace ModuleStep

open SessionAct

/-- What is told of a line of a combined text. -/
def placeOf (lines : LineMap) (line : Nat) : Option (String × Nat) × Option String :=
  (lines.locate line, lines.sourceLine line)

/-- Gives a module hooks. Handles of hooks that it does not take are dropped. -/
def hook (address : Nat) (release init : List NativeValue) : SessionAct Bool := do
  let taken ← act (Act.setHooks address (.given release init))
  if !taken then dropNatives (release ++ init)
  return taken

/-- What is told of the registered module of a number. -/
def registeredAnswer (world : World) (id : Nat) : Answer :=
  match world.executor.registry.get? id with
  | none => .nothing
  | some address =>
    match world.module? address with
    | none => .nothing
    | some module => .registered module.text (world.modules.strongCount address)

/-- Builds a module. -/
def buildAnswer (module : String) (target : Option String) : SessionAct Answer := do
  let address ← moduleNamed module
  let compiled ← act (Act.build address)
  bindCompiled target compiled
  match compiled with
  | some compiled => return .compiled compiled
  | none => return .nothing

/-- Looks for a function of a module. -/
def functionAnswer (module name : String) (count : Nat) (target : Option String) :
    SessionAct Answer := do
  let address ← moduleNamed module
  match ← act (Act.function address name count) with
  | .ok found =>
    bindFunction target found
    return .function found
  | .error cause => return .refused cause

/-- Looks for a listener of a module. -/
def findAnswer (module name : String) (genericType target : Option String) :
    SessionAct Answer := do
  let address ← moduleNamed module
  let entry ← act (Act.findListener address name genericType)
  match entry with
  | some entry => bindFunction target entry.function
  | none => pure ()
  return .listener entry

/-- Looks for a listener of a compiled script. -/
def indexAnswer (compiled name : String) (genericType : Option String) : SessionAct Answer := do
  let (built, complaints) := ListenerIndex.build (← compiledNamed compiled)
  act (complaints.forM Act.warn)
  return .index built.size (built.find? name genericType)

/-- Takes a step. -/
def perform : ModuleStep → SessionAct Answer
  | .create target name source id => do
    let _ ← needExecutor
    let address ← act (match id with
      | some id => Act.createModuleWithId name source id
      | none => Act.createModule name source)
    let id := (((← world).module? address).map ScriptModule.id).getD 0
    bindModule target address
    return .number id
  | .addSegment module file line code => do
    return .flag (← act (Act.addSegment (← moduleNamed module) (.inline file line code)))
  | .addFile module path => do
    return .added (← act (Act.addFile (← moduleNamed module) path))
  | .segments module => return .segments (← moduleState module).segments
  | .build module target => buildAnswer module target
  | .sameBuild a b => do
    return .flag ((← compiledNamed a).serial == (← compiledNamed b).serial)
  | .locate compiled lines => do
    let compiled ← compiledNamed compiled
    return .places (lines.map (placeOf compiled.lines))
  | .hasFunction compiled name => return .flag ((← compiledNamed compiled).hasFunction name)
  | .resolve compiled name count => do
    match (← compiledNamed compiled).resolve? name count with
    | some found => return .function found
    | none => return .nothing
  | .function module name count target => functionAnswer module name count target
  | .state module => return .module (← moduleState module)
  | .setAccess module mask => do
    act (Act.onModule (← moduleNamed module) fun module => { module with access := mask })
    return .nothing
  | .addAccess module mask => do
    act (Act.onModule (← moduleNamed module) fun module =>
      { module with access := module.access.union mask })
    return .nothing
  | .listeners module => return .listeners (← act (Act.listeners (← moduleNamed module)))
  | .listenerCount module => do
    return .number (← act (Act.listeners (← moduleNamed module))).length
  | .findListener module name genericType target => findAnswer module name genericType target
  | .hasListener module name genericType => do
    return .flag (← act (Act.findListener (← moduleNamed module) name genericType)).isSome
  | .index compiled name genericType => indexAnswer compiled name genericType
  | .reload module => return .flag (← actDropping (Act.reload (← moduleNamed module)))
  | .markDiscarded module => do
    act (Act.markDiscarded (← moduleNamed module))
    return .nothing
  | .release module => do
    let owned ← act (Act.release (← moduleNamed module))
    act (Act.dropAll owned)
    return .nothing
  | .setHooks module givenRelease givenInit => do
    let address ← moduleNamed module
    let forRelease ← takeNatives givenRelease
    let forInit ← takeNatives givenInit
    return .flag (← hook address forRelease forInit)
  | .clearHooks module => do
    let owned ← act (Act.clearHooks (← moduleNamed module))
    act (Act.dropAll owned)
    return .nothing
  | .discardCompiled internalName => do
    let _ ← needExecutor
    return .flag (← act (Act.discardCompiled internalName))
  | .delete id => do
    let _ ← needExecutor
    return .flag (← actDropping (Act.deleteModule id))
  | .deleteUnreferenced id => do
    let _ ← needExecutor
    return .flag (← actDropping (Act.deleteUnreferenced id))
  | .registered id => do
    let _ ← needExecutor
    return registeredAnswer (← world) id
  | .stats => return .stats (← needExecutor).stats
  | .granted source => return .text ((← needExecutor).granted source).text
  | .resolveType name => do
    match (← needExecutor).types.resolve? name with
    | some entry => return .type entry
    | none => return .nothing
  | .executor => do
    let executor ← needExecutor
    return .executor ⟨executor.types.size, executor.search, executor.watcher.isSome,
      executor.maxCallLevels⟩

end ModuleStep

end ScriptHost
