import ScriptHost.Handle.Heap
import ScriptHost.Listener.Index
import ScriptHost.Native.Value

/-!
Script modules: units of source that are compiled when they are first used. A module goes from
`empty` over `readyToBuild` to `built` or `failed`, and may become `discarded` at any time, which is
final.
-/

namespace ScriptHost

/-- How far the build of a module is. -/
inductive BuildState
  | empty | readyToBuild | built | failed | discarded
  deriving DecidableEq, Repr

namespace BuildState

/-- The name of a state. -/
def name : BuildState → String
  | .empty => "Empty"
  | .readyToBuild => "ReadyToBuild"
  | .built => "Built"
  | .failed => "Failed"
  | .discarded => "Discarded"

/-- Whether the module has to be made anew to run again. -/
def isTerminal : BuildState → Bool
  | .failed => true
  | .discarded => true
  | _ => false

end BuildState

/-- Where the arguments of the lifecycle listeners come from when a module is reloaded. -/
inductive Hooks
  /-- Values that the host has given for either listener. -/
  | given (release init : List NativeValue)
  /-- An event and the game module at an address, if it still lives. -/
  | game (address : Nat)

/-- The objects that hooks hold handles of. -/
def Hooks.objects : Hooks → List ObjectRef
  | .given release init => (release ++ init).flatMap NativeValue.objects
  | .game _ => []

/-- A script module. -/
structure ScriptModule where
  id : Nat
  name : String
  /-- Who asked for the module. -/
  source : String
  state : BuildState
  /-- The name of the compiled script among all of the executor. -/
  internalName : String
  segments : List Segment
  access : AccessMask
  compiled : Option Compiled
  listeners : Option ListenerIndex
  /-- The files whose changes the module follows. -/
  watched : List Path
  hooks : Option Hooks
  reloads : Nat

namespace ScriptModule

/-- A module without source. -/
def create (id : Nat) (name source : String) : ScriptModule where
  id := id
  name := name
  source := source
  state := .empty
  internalName := s!"{name}-{id}"
  segments := []
  access := .moduleDefault
  compiled := none
  listeners := none
  watched := []
  hooks := none
  reloads := 0

/-- Whether a segment would repeat one that the module has. -/
def overlaps (module : ScriptModule) (segment : Segment) : Bool :=
  module.segments.any fun existing => existing.overlaps segment.file segment.startLine

/-- Adds a segment unless it repeats one, and tells whether it did. -/
def addSegment (module : ScriptModule) (segment : Segment) : ScriptModule × Bool :=
  if module.overlaps segment then (module, false)
  else
    ({ module with
        segments := module.segments ++ [segment]
        state := if module.state = .empty then .readyToBuild else module.state },
      true)

/-- The module once it cannot be used any more. Its files are not watched from then on, which is the
business of the watcher. -/
def discarded (module : ScriptModule) : ScriptModule :=
  { module with compiled := none, listeners := none, watched := [], state := .discarded }

/-- The segment with the present text of its file. A text from elsewhere stays as it is, and so does
one whose file cannot be read, which is complained about. -/
def rereadSegment (tree : FileTree) (segment : Segment) : Segment × List String :=
  if segment.fromDisk then
    match tree.readText ⟨segment.file⟩ with
    | .ok code => ({ segment with code := code }, [])
    | .error err => (segment, [s!"keeping previous source, re-read failed: {err.message}"])
  else (segment, [])

/-- The module ready to be built again, from the present texts of its files and under a new internal
name. -/
def renewed (module : ScriptModule) (tree : FileTree) : ScriptModule :=
  { module with
    compiled := none
    listeners := none
    watched := []
    reloads := module.reloads + 1
    internalName := module.internalName ++ "R"
    segments := module.segments.map fun segment => (rereadSegment tree segment).1
    state := .readyToBuild }

/-- The files that could not be read when the texts of a module were renewed. -/
def rereadComplaints (module : ScriptModule) (tree : FileTree) : List String :=
  module.segments.flatMap fun segment => (rereadSegment tree segment).2

/-- The module in words. -/
def text (module : ScriptModule) : String :=
  s!"ScriptModule({module.id}) {module.name}, from: {module.source}"

/-- The dump of a module. -/
def debugText (module : ScriptModule) : String :=
  let name := Text.quoted module.name
  let source := Text.quoted module.source
  s!"ScriptModule \x7b id: ModuleId({module.id}), name: {name}, source: {source} \x7d"

end ScriptModule

end ScriptHost
