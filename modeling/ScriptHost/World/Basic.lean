import ScriptHost.Executor
import ScriptHost.Game.Arena
import ScriptHost.Module.Basic
import ScriptHost.Native.Marshal
import ScriptHost.Script.Surroundings

/-!
The world that script modules live in: the files, the part of the host that scripts can change, the
executor, the objects and the script modules with the counts of their handles, and the loader of game
modules. The executor lasts as long as someone holds it: the host, the loader, and every game module
do.
-/

namespace ScriptHost

/-- What an object is. -/
inductive ObjectBody
  /-- A plain object with a label. -/
  | thing (label : String)
  | event (event : Event)
  | game (game : GameModule)

/-- What a script sees of an object. -/
def ObjectBody.view : ObjectBody → ObjectView
  | .thing text => .thing text
  | .event e => .event e
  | .game g => .game g.view

/-- A lifecycle event of a game module: it hears the init event once it is initialized or its
script module is built again, and the release event before that script is given up. The
compiled script is the one that the listener for the event is looked for in, if there is
one. -/
structure Delivery where
  game : Nat
  script : Nat
  event : EventType
  compiled : Option Compiled

/-- The state of the world. -/
structure World where
  files : FileTree
  host : Host
  executor : Executor
  /-- How many hold the executor. -/
  holders : Nat
  objects : Heap ObjectBody
  modules : Heap ScriptModule
  loader : Option Loader
  /-- The number of loaders made so far. -/
  loaders : Nat
  /-- The paths written in watched directories since the watcher has last been polled. -/
  pending : List Path
  /-- The lifecycle events that game modules have got so far, the latest first. -/
  deliveries : List Delivery

/-- A handle that something owns. -/
inductive Owned
  | object (ref : ObjectRef)
  | module (address : Nat)

/-- An operation on the world. -/
abbrev Act := StateM World

namespace World

/-- The world with an executor that the host holds, and nothing else but files. -/
def create (files : FileTree) (executor : Executor) : World where
  files := files
  host := .initial
  executor := executor
  holders := 1
  objects := .empty
  modules := .empty
  loader := none
  loaders := 0
  pending := []
  deliveries := []

/-- Whether the executor is there. -/
def isRunning (world : World) : Bool :=
  0 < world.holders

/-- What a script sees of an object. -/
def look (world : World) (ref : ObjectRef) : Option ObjectView :=
  (world.objects.get? ref.address).map ObjectBody.view

/-- The label of an object. -/
def label (world : World) (ref : ObjectRef) : String :=
  ((world.look ref).map ObjectView.label).getD ""

/-- The game module at an address. -/
def game? (world : World) (address : Nat) : Option GameModule :=
  match world.objects.get? address with
  | some (.game game) => some game
  | _ => none

/-- The script module at an address. -/
def module? (world : World) (address : Nat) : Option ScriptModule :=
  world.modules.get? address

/-- The compiled script of a module that can be used as it is. -/
def usable? (world : World) (address : Nat) : Option Compiled :=
  (world.module? address).bind fun module =>
    if module.state = .built && world.isRunning &&
        world.executor.isCompiled module.internalName then module.compiled
    else none

/-- The world in which a game module gets a lifecycle event from its script module. -/
def noting (world : World) (game script : Nat) (event : EventType) : World :=
  { world with
    deliveries := ⟨game, script, event, world.usable? script⟩ :: world.deliveries }

/-- A value as it is shown outside. -/
def shown (world : World) (value : ScriptValue) : ShownValue :=
  value.shown world.label

/-- The world with another executor state. -/
def withExecutor (world : World) (change : Executor → Executor) : World :=
  { world with executor := change world.executor }

/-- The world with a changed script module. -/
def withModule (world : World) (address : Nat) (change : ScriptModule → ScriptModule) : World :=
  { world with modules := world.modules.modify address change }

/-- The world with a changed game module. -/
def withGame (world : World) (address : Nat) (change : GameModule → GameModule) : World :=
  { world with
    objects := world.objects.modify address fun
      | .game game => .game (change game)
      | body => body }

/-- The world with a report. -/
def warn (world : World) (message : String) : World :=
  { world with host := world.host.warn message }

/-- The world with a report of an error. -/
def error (world : World) (message : String) : World :=
  { world with host := world.host.error message }

/-- The world with one more handle of each of the objects. -/
def retain (world : World) (refs : List ObjectRef) : World :=
  { world with objects := retainAll world.objects refs }

/-- The world with one handle less of each of the objects, other handles of which remain. -/
def release (world : World) (refs : List ObjectRef) : World :=
  { world with
    objects := refs.foldl (fun objects ref => (objects.release ref.address).1) world.objects }

end World

namespace Act

/-- Reports a warning. -/
def warn (message : String) : Act Unit := modify (·.warn message)

/-- Reports an error. -/
def error (message : String) : Act Unit := modify (·.error message)

/-- Notes that a game module gets a lifecycle event from its script module. -/
def note (game script : Nat) (event : EventType) : Act Unit := modify (·.noting game script event)

/-- Changes the executor. -/
def onExecutor (change : Executor → Executor) : Act Unit := modify (·.withExecutor change)

/-- Changes a script module. -/
def onModule (address : Nat) (change : ScriptModule → ScriptModule) : Act Unit :=
  modify (·.withModule address change)

/-- Changes a game module. -/
def onGame (address : Nat) (change : GameModule → GameModule) : Act Unit :=
  modify (·.withGame address change)

/-- Makes an object with one handle. -/
def allocate (type : ObjectType) (body : ObjectBody) : Act ObjectRef := do
  let world ← get
  let (address, objects) := world.objects.alloc body
  set { world with objects := objects }
  return ⟨type, address⟩

/-- Makes a further handle of each of the objects. -/
def retain (refs : List ObjectRef) : Act Unit := modify (·.retain refs)

end Act

end ScriptHost
