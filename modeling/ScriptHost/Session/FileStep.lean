import ScriptHost.Session.Answer
import ScriptHost.Session.Basic
import ScriptHost.World.Changes

/-! The steps of a session that deal with files and their changes, and that drop names. -/

namespace ScriptHost

/-- What kind of thing a dropped name stands for. -/
inductive NameKind
  | callback | function | compiled | game | module | object | loader | executor
  deriving DecidableEq, Repr

/-- A step that deals with files and their changes, or drops a name. -/
inductive FileStep
  | write (path : Path) (node : FileNode)
  | remove (path : Path)
  | changed (paths : List Path)
  | poll
  | watch (module : String) (files : List Path) (id : Option Nat)
  | unwatch (id : Nat)
  | isWatching (id : Nat)
  | watchedFiles
  | drop (kind : NameKind) (name : String)

namespace FileStep

open SessionAct

/-- Registers files for a module, under its own number or another one. -/
def watchAnswer (module : String) (files : List Path) (id : Option Nat) : SessionAct Answer := do
  let address ← moduleNamed module
  let executor ← needExecutor
  let own := (((← world).module? address).map ScriptModule.id).getD 0
  if executor.watcher.isNone then return .nothing
  match ← act (Act.watchFiles (id.getD own) address files) with
  | .ok _ => return .flag true
  | .error cause => return .unwatched cause

/-- Drops the callback of a name. -/
def dropCallback (name : String) : SessionAct Bool := do
  let callback := (← get).callbacks.get? name
  modify fun session => { session with callbacks := session.callbacks.erase name }
  act (Act.dropObjects ((callback.map Callback.objects).getD []))
  return callback.isSome

/-- Drops the function of a name. -/
def dropFunction (name : String) : SessionAct Bool := do
  let function := (← get).functions.get? name
  modify fun session => { session with functions := session.functions.erase name }
  return function.isSome

/-- Drops the compiled script of a name. -/
def dropCompiled (name : String) : SessionAct Bool := do
  let compiled := (← get).compiled.get? name
  modify fun session => { session with compiled := session.compiled.erase name }
  return compiled.isSome

/-- Drops the game module of a name. -/
def dropGame (name : String) : SessionAct Bool := do
  let address := (← get).games.get? name
  modify fun session => { session with games := session.games.erase name }
  act (Act.dropObjects (address.toList.map fun address => ⟨.gameModule, address⟩))
  return address.isSome

/-- Drops the script module of a name. -/
def dropModule (name : String) : SessionAct Bool := do
  let address := (← get).modules.get? name
  modify fun session => { session with modules := session.modules.erase name }
  act (Act.dropAll (address.toList.map Owned.module))
  return address.isSome

/-- Drops the object of a name. -/
def dropObject (name : String) : SessionAct Bool := do
  let ref := (← get).objects.get? name
  modify fun session => { session with objects := session.objects.erase name }
  act (Act.dropObjects ref.toList)
  return ref.isSome

/-- Drops the loader. -/
def dropLoader : SessionAct Bool := do
  match (← world).loader with
  | none => return false
  | some _ =>
    act (modify fun world => { world with loader := none })
    act (Act.dropAll (← act Act.releaseExecutor))
    return true

/-- Drops the host's hold on the executor. -/
def dropExecutor : SessionAct Bool := do
  let session ← get
  if session.hasExecutor then
    set { session with hasExecutor := false }
    act (Act.dropAll (← act Act.releaseExecutor))
  return session.hasExecutor

/-- Drops a name, and tells whether it stood for something. -/
def dropName (kind : NameKind) (name : String) : SessionAct Bool :=
  match kind with
  | .callback => dropCallback name
  | .function => dropFunction name
  | .compiled => dropCompiled name
  | .game => dropGame name
  | .module => dropModule name
  | .object => dropObject name
  | .loader => dropLoader
  | .executor => dropExecutor

/-- Takes a step. -/
def perform : FileStep → SessionAct Answer
  | .write path node => do
    act (modify fun world => world.write path node)
    return .nothing
  | .remove path => do
    act (modify fun world => world.remove path)
    return .nothing
  | .changed paths => do
    let _ ← needExecutor
    return .number (← act (Act.handleChanges paths))
  | .poll => do
    let _ ← needExecutor
    return .number (← act Act.poll)
  | .watch module files id => watchAnswer module files id
  | .unwatch id => do
    let _ ← needExecutor
    act (Act.onExecutor fun executor => executor.unwatch id)
    return .nothing
  | .isWatching id => do
    return .flag (((← needExecutor).watcher.map (·.isWatching id)).getD false)
  | .watchedFiles => do
    return .paths (((← needExecutor).watcher.map (·.watchedFiles)).getD [])
  | .drop kind name => return .flag (← dropName kind name)

end FileStep

end ScriptHost
