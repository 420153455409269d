import ScriptHost.Session.CallStep
import ScriptHost.World.Load

/-! The steps of a session that deal with the loader and with game modules. -/

namespace ScriptHost

/-- A step that deals with the loader or with game modules. -/
inductive GameStep
  /-- Makes a loader; without a search it uses that of the executor. -/
  | loader (search : Option SourceSearch) (moduleExtension : String)
  | scan
  | known
  | load (name requestedBy : String) (target : Option String)
  | loaded (name : String)
  | loadedCount
  | loadedModules
  | drain
  | loaderStats
  | game (game : String)
  | refs (game : String)
  | same (a b : String)
  | script (game : String) (target : Option String)
  | dependency (game : String) (index : Nat) (target : Option String)
  | exportPaths (game : String)
  | subscriptions (game : String)
  | isSubscribed (game : String) (event : EventKind)
  | fire (game : String) (event : EventKind) (payload : List (String × GivenScript))
  | execute (game entry : String) (passSelf existed : Bool) (call : GivenCall)
  | makeReady (game : String)
  | releaseScript (game : String)

namespace GameStep

open SessionAct

/-- Loads a game module. -/
def loadAnswer (name requestedBy : String) (target : Option String) : SessionAct Answer := do
  let _ ← needLoader
  match ← act (Act.load name requestedBy) with
  | .error cause => return .notLoaded cause
  | .ok address =>
    let answer := match (← world).game? address with
      | some module => Answer.loaded module.name module.owner
      | none => .nothing
    bindGame target address
    return answer

/-- The text of the living game module of a name. -/
def loadedAnswer (loader : Loader) (world : World) (name : String) : Answer :=
  match (loader.arena.address? name).bind world.game? with
  | some module => .text module.text
  | none => .nothing

/-- The names of the game modules at some addresses. -/
def namesOf (world : World) (addresses : List Nat) : List String :=
  addresses.filterMap fun address => (world.game? address).map GameModule.name

/-- What is told of a game module. -/
def gameAnswer (name : String) : SessionAct Answer := do
  let state ← gameState name
  let world ← world
  let script := (state.script.bind world.module?).map ScriptModule.text
  return .game ⟨state, script, namesOf world state.dependencies⟩

/-- Names the script module of a game module, and tells whether it has one. -/
def scriptAnswer (name : String) (target : Option String) : SessionAct Answer := do
  match (← gameState name).script with
  | none => return .flag false
  | some address =>
    act (modify fun world => { world with modules := world.modules.retain address })
    bindModule target address
    return .flag true

/-- Names an imported game module. -/
def dependencyAnswer (name : String) (place : Nat) (target : Option String) :
    SessionAct Answer := do
  match (← gameState name).dependencies[place]? with
  | none => return .nothing
  | some address =>
    act (Act.retain [⟨.gameModule, address⟩])
    let answer := match (← world).game? address with
      | some imported => Answer.text imported.name
      | none => .nothing
    bindGame target address
    return answer

/-- Fires an event at a game module. -/
def fireAnswer (name : String) (kind : EventKind) (payload : List (String × GivenScript)) :
    SessionAct Answer := do
  let address ← gameNamed name
  let entries ← takeEntries payload
  let outcome ← actDropping (Act.fire address ⟨kind, entries⟩)
  act (Act.dropObjects (entries.flatMap fun entry => entry.2.objects))
  match outcome with
  | .ok outcome => return .fired outcome
  | .error cause => return .refused cause

/-- Runs an entry point of a game module's script. -/
def executeAnswer (name entry : String) (passSelf existed : Bool) (call : GivenCall) :
    SessionAct Answer := do
  let address ← gameNamed name
  let args ← takeNatives call.args
  let (result, existed, owned) ←
    act (Act.runOnGame address entry passSelf args call.setup existed call.wanted)
  let answer ← closeCall call.wanted result
  act (Act.dropAll owned)
  dropNatives args
  return .run answer existed

/-- Takes a step. -/
def perform : GameStep → SessionAct Answer
  | .loader search moduleExtension => do
    let executor ← needExecutor
    let owned ← act (Act.makeLoader (search.getD executor.search) moduleExtension)
    act (Act.dropAll owned)
    return .nothing
  | .scan => do
    let _ ← needLoader
    return .number (← act Act.scan)
  | .known => return .known (← needLoader).known
  | .load name requestedBy target => loadAnswer name requestedBy target
  | .loaded name => return loadedAnswer (← needLoader) (← world) name
  | .loadedCount => do
    let _ ← needLoader
    return .number (← act Act.loadedCount)
  | .loadedModules => do
    let _ ← needLoader
    return .texts (← act Act.loadedModules)
  | .drain => do
    let _ ← needLoader
    act (Act.onLoader Loader.drained)
    return .nothing
  | .loaderStats => do
    let _ ← needLoader
    return .number (← world).executor.builds
  | .game name => gameAnswer name
  | .refs name => return .number ((← world).objects.strongCount (← gameNamed name))
  | .same a b => return .flag ((← gameNamed a) == (← gameNamed b))
  | .script name target => scriptAnswer name target
  | .dependency name place target => dependencyAnswer name place target
  | .exportPaths name => do
    match ← act (Act.exportPaths (← gameNamed name)) with
    | .ok paths => return .paths paths
    | .error missing => return .missingExport missing
  | .subscriptions name => do
    return .subscriptions (← act (Act.subscriptions (← gameNamed name)))
  | .isSubscribed name event => do
    let found ← act (Act.subscriptions (← gameNamed name))
    return .flag (found.any fun subscription => subscription.event == event)
  | .fire name event payload => fireAnswer name event payload
  | .execute name entry passSelf existed call => executeAnswer name entry passSelf existed call
  | .makeReady name => do
    let address ← gameNamed name
    let _ ← needLoader
    return .flag (← act (Act.initializeGame address))
  | .releaseScript name => do
    let address ← gameNamed name
    let owned ← act (Act.detachGame address true)
    act (Act.dropAll owned)
    return .nothing

end GameStep

end ScriptHost
