import ScriptHost.FileTree
import ScriptHost.Table

/-!
Watching source files. A registration says which files a module reads. The watcher counts, for each
directory, the registered files in it, and keeps the last content it has seen of each file. A changed
path concerns the modules registered for it if its content is not the last one seen.
-/

namespace ScriptHost

/-- The files that a module reads. -/
structure Registration where
  /-- The number of the module. -/
  id : Nat
  /-- The address of the module. -/
  target : Nat
  files : List Path

/-- Whether a file is among those of a registration. -/
def Registration.reads (registration : Registration) (file : Path) : Bool :=
  registration.files.any (·.same file)

/-- The registrations, the number of registered files in each directory, and the content of files as
last seen. Directories and files are told apart by their components. -/
structure Watcher where
  registrations : List Registration
  directories : Table (List Path.Component) Nat
  contents : Table (List Path.Component) FileContent

/-- Why files cannot be watched. -/
inductive WatchError
  | missingDirectory (directory : Path)
  deriving DecidableEq, Repr

/-- The wording of a watch error. -/
def WatchError.message : WatchError → String
  | .missingDirectory directory => s!"watch {directory}"

namespace Watcher

/-- The watcher without registrations. -/
def empty : Watcher := ⟨[], [], []⟩

/-- Counts one more file in a directory. A directory that is not counted yet has to be one that the
system accepts to watch. -/
def retainDirectory (accepts : Path → Bool) (watcher : Watcher) (directory : Path) :
    Except WatchError Watcher :=
  match watcher.directories.get? directory.components with
  | some count =>
    .ok { watcher with directories := watcher.directories.set directory.components (count + 1) }
  | none =>
    if accepts directory then
      .ok { watcher with directories := watcher.directories.set directory.components 1 }
    else .error (.missingDirectory directory)

/-- Counts one file less in a directory; the last one takes the directory with it. -/
def releaseDirectory (watcher : Watcher) (directory : Path) : Watcher :=
  match watcher.directories.get? directory.components with
  | none => watcher
  | some count =>
    if count ≤ 1 then
      { watcher with directories := watcher.directories.erase directory.components }
    else { watcher with directories := watcher.directories.set directory.components (count - 1) }

/-- Whether some registration reads a file. -/
def isRead (watcher : Watcher) (file : Path) : Bool :=
  watcher.registrations.any (·.reads file)

/-- Forgets a file of a registration that is gone. -/
def forget (watcher : Watcher) (file : Path) : Watcher :=
  let watcher := match file.parent? with
    | some directory => watcher.releaseDirectory directory
    | none => watcher
  if watcher.isRead file then watcher
  else { watcher with contents := watcher.contents.erase file.components }

/-- Takes the element at a place out of a list; the last element moves to its place. -/
def swapRemove {α : Type} (list : List α) (place : Nat) : List α :=
  match list.getLast? with
  | none => []
  | some last => ((list.set place last).dropLast)

/-- Ends the registration of a module. -/
def unwatch (watcher : Watcher) (id : Nat) : Watcher :=
  match watcher.registrations.findIdx? (·.id == id) with
  | none => watcher
  | some place =>
    let files := (watcher.registrations[place]?.map Registration.files).getD []
    files.foldl forget
      { watcher with registrations := swapRemove watcher.registrations place }

/-- Takes in one file of a new registration. What is counted stays counted when it fails. -/
def takeFile (accepts : Path → Bool) (tree : FileTree) (watcher : Watcher) (file : Path) :
    Watcher × Except WatchError Unit :=
  let result := match file.parent? with
    | some directory => watcher.retainDirectory accepts directory
    | none => .ok watcher
  match result with
  | .error err => (watcher, .error err)
  | .ok watcher =>
    match tree.read file with
    | .ok content =>
      ({ watcher with contents := watcher.contents.set file.components content }, .ok ())
    | .error _ => (watcher, .ok ())

/-- Takes in the files of a new registration up to the first one that fails. -/
def takeFiles (accepts : Path → Bool) (tree : FileTree) (watcher : Watcher) :
    List Path → Watcher × Except WatchError Unit
  | [] => (watcher, .ok ())
  | file :: rest =>
    match takeFile accepts tree watcher file with
    | (watcher, .ok _) => takeFiles accepts tree watcher rest
    | (watcher, .error err) => (watcher, .error err)

/-- Registers the files of a module in place of those it was registered for. The system may refuse to
watch any directory; `accepts` tells what it does. -/
def register (accepts : Path → Bool) (watcher : Watcher) (tree : FileTree) (id target : Nat)
    (files : List Path) : Watcher × Except WatchError Unit :=
  let files := files.map tree.normalize
  match takeFiles accepts tree (watcher.unwatch id) files with
  | (watcher, .ok _) =>
    ({ watcher with registrations := watcher.registrations ++ [⟨id, target, files⟩] }, .ok ())
  | (watcher, .error err) => (watcher, .error err)

/-- Registers the files of a module where the system accepts to watch whatever exists. -/
def watch (watcher : Watcher) (tree : FileTree) (id target : Nat) (files : List Path) :
    Watcher × Except WatchError Unit :=
  watcher.register (fun directory => (tree.node directory).toBool) tree id target files

/-- Whether a module is registered. -/
def isWatching (watcher : Watcher) (id : Nat) : Bool :=
  watcher.registrations.any (·.id == id)

/-- Leaves out each path that has the components of the one before it. -/
def dedupFiles : List Path → List Path
  | [] => []
  | [path] => [path]
  | a :: b :: rest => if a.same b then dedupFiles (a :: rest) else a :: dedupFiles (b :: rest)

/-- All registered files, in their order and once each. -/
def watchedFiles (watcher : Watcher) : List Path :=
  dedupFiles ((watcher.registrations.flatMap Registration.files).mergeSort fun a b => !b.less a)

/-- The modules that changed paths concern, with the path for each, and the numbers of registered
modules that are gone. -/
structure Changes where
  targets : List (Path × Registration)
  stale : List Nat

/-- Adds a registration that reads the changed file `path`, unless the module of its number counts
already. `idOf` gives the number of the living module at an address. -/
def Changes.add (idOf : Nat → Option Nat) (path : Path) (changes : Changes)
    (registration : Registration) : Changes :=
  if changes.targets.any fun target => idOf target.2.target == some registration.id then changes
  else if (idOf registration.target).isSome then
    { changes with targets := changes.targets ++ [(path, registration)] }
  else { changes with stale := changes.stale ++ [registration.id] }

/-- Looks at one changed path. If its content is a new one, that is the last one seen from now on. -/
def lookAt (tree : FileTree) (idOf : Nat → Option Nat) (state : Watcher × Changes) (path : Path) :
    Watcher × Changes :=
  let (watcher, changes) := state
  let path := tree.normalize path
  if !watcher.isRead path then (watcher, changes)
  else
    match tree.read path with
    | .error _ => (watcher, changes)
    | .ok content =>
      if watcher.contents.get? path.components = some content then (watcher, changes)
      else
        let watcher := { watcher with contents := watcher.contents.set path.components content }
        (watcher, (watcher.registrations.filter (·.reads path)).foldl (Changes.add idOf path) changes)

/-- The modules to reload after changes of `paths`. Registrations of modules that are gone end. -/
def collectTargets (watcher : Watcher) (tree : FileTree) (idOf : Nat → Option Nat)
    (paths : List Path) : Watcher × List (Path × Registration) :=
  let (watcher, changes) := paths.foldl (lookAt tree idOf) (watcher, ⟨[], []⟩)
  (changes.stale.foldl unwatch watcher, changes.targets)

end Watcher

end ScriptHost
