import ScriptHost.World.Reload
import ScriptHost.World.Ownership

/-!
Changes of files. A write is noticed if the directory of the file is watched at that time. The watcher
says which modules changed paths concern; these are reloaded one after another, and each is kept alive
until its turn is over.
-/

namespace ScriptHost

namespace World

/-- Whether changes in the directory of a file are noticed. -/
def notices (world : World) (file : Path) : Bool :=
  match world.executor.watcher, file.parent? with
  | some watcher, some directory => watcher.directories.has directory.components
  | _, _ => false

/-- The world with a file or directory written. -/
def write (world : World) (path : Path) (node : FileNode) : World :=
  let world := { world with files := world.files.put path node }
  let file := world.files.normalize path
  if world.notices file then { world with pending := world.pending ++ [file] } else world

/-- The world with a file or directory removed, which no module is reloaded for. -/
def remove (world : World) (path : Path) : World :=
  { world with files := world.files.remove path }

end World

namespace Act

/-- Reloads the modules at the given addresses, of each of which a handle is held for this. Gives the
number of those that are built again. -/
def reloadTargets : List Nat → Act Nat
  | [] => return 0
  | address :: rest => do
    let (reloaded, owned) ← reload address
    dropAll (owned ++ [.module address])
    let more ← reloadTargets rest
    return if reloaded then more + 1 else more

/-- Reloads every module that reads one of the changed `paths`, and gives the number of those that are
built again. -/
def handleChanges (paths : List Path) : Act Nat := do
  let world ← get
  match world.executor.watcher with
  | none => return 0
  | some watcher =>
    let idOf := fun address => (world.module? address).map ScriptModule.id
    let (watcher, targets) := watcher.collectTargets world.files idOf paths
    let addresses := targets.map fun target => target.2.target
    set { world with modules := addresses.foldl Heap.retain world.modules }
    onExecutor fun executor => { executor with watcher := some watcher }
    reloadTargets addresses

/-- Handles the changes that have been noticed since the last time. -/
def poll : Act Nat := do
  let paths := (← get).pending
  modify fun world => { world with pending := [] }
  handleChanges paths

/-- Registers files for a module under a number. -/
def watchFiles (id address : Nat) (files : List Path) : Act (Except WatchError Unit) := do
  let world ← get
  match world.executor.watcher with
  | none => return .ok ()
  | some watcher =>
    let (watcher, result) := watcher.watch world.files id address files
    onExecutor fun executor => { executor with watcher := some watcher }
    return result

end Act

end ScriptHost
