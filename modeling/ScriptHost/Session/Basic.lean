import ScriptHost.Call.Callback
import ScriptHost.Session.Given
import ScriptHost.World.Ownership

/-!
Sessions: a world, and names for the things in it that the host holds. Each name of a script module,
game module or object holds one handle, and naming something else drops it.
-/

namespace ScriptHost

/-- The state of a session. -/
structure Session where
  world : World
  /-- Whether the host still holds the executor. -/
  hasExecutor : Bool
  modules : Table String Nat
  compiled : Table String Compiled
  functions : Table String FunctionRef
  games : Table String Nat
  objects : Table String ObjectRef
  /-- Objects that are held weakly. -/
  weak : Table String ObjectRef
  callbacks : Table String Callback

/-- A name that stands for nothing. -/
structure Missing where
  name : String
  deriving DecidableEq, Repr

/-- A part of a step of a session. -/
abbrev SessionAct := ExceptT Missing (StateM Session)

namespace Session

/-- The session on a world, without names. -/
def create (world : World) : Session where
  world := world
  hasExecutor := true
  modules := []
  compiled := []
  functions := []
  games := []
  objects := []
  weak := []
  callbacks := []

end Session

namespace SessionAct

/-- Runs an operation on the world. -/
def act {α : Type} (operation : Act α) : SessionAct α := do
  let session ← get
  let (result, world) := operation.run session.world
  set { session with world := world }
  return result

/-- Runs an operation that tells which handles are to be dropped after it, and drops them. -/
def actDropping {α : Type} (operation : Act (α × List Owned)) : SessionAct α := act do
  let (result, owned) ← operation
  Act.dropAll owned
  return result

/-- The state of the world. -/
def world : SessionAct World := do
  return (← get).world

/-- What a name stands for, or the complaint that it stands for nothing. -/
def found {α : Type} (name : String) : Option α → SessionAct α
  | some value => return value
  | none => throw ⟨name⟩

/-- Complains unless the host holds the executor. -/
def needExecutor : SessionAct Executor := do
  let session ← get
  if session.hasExecutor then return session.world.executor else throw ⟨"executor"⟩

/-- Complains unless there is a loader. -/
def needLoader : SessionAct Loader := do
  found "loader" (← world).loader

/-- The address of the script module of a name. -/
def moduleNamed (name : String) : SessionAct Nat := do
  found name ((← get).modules.get? name)

/-- The script module of a name. -/
def moduleState (name : String) : SessionAct ScriptModule := do
  let address ← moduleNamed name
  found name ((← world).module? address)

/-- The compiled script of a name. -/
def compiledNamed (name : String) : SessionAct Compiled := do
  found name ((← get).compiled.get? name)

/-- The function of a name. -/
def functionNamed (name : String) : SessionAct FunctionRef := do
  found name ((← get).functions.get? name)

/-- The address of the game module of a name. -/
def gameNamed (name : String) : SessionAct Nat := do
  found name ((← get).games.get? name)

/-- The game module of a name. -/
def gameState (name : String) : SessionAct GameModule := do
  let address ← gameNamed name
  found name ((← world).game? address)

/-- The object of a name. -/
def objectNamed (name : String) : SessionAct ObjectRef := do
  found name ((← get).objects.get? name)

/-- Gives a script module a name, for which the caller has a handle. Without a name the handle is
dropped. -/
def bindModule (name : Option String) (address : Nat) : SessionAct Unit := do
  match name with
  | none => act (Act.dropAll [.module address])
  | some name =>
    let old := (← get).modules.get? name
    modify fun session => { session with modules := session.modules.set name address }
    act (Act.dropAll (old.toList.map Owned.module))

/-- Gives a game module a name, for which the caller has a handle. Without a name the handle is
dropped. -/
def bindGame (name : Option String) (address : Nat) : SessionAct Unit := do
  match name with
  | none => act (Act.dropObjects [⟨.gameModule, address⟩])
  | some name =>
    let old := (← get).games.get? name
    modify fun session => { session with games := session.games.set name address }
    act (Act.dropObjects (old.toList.map fun address => ⟨.gameModule, address⟩))

/-- Gives an object a name, for which the caller has a handle. -/
def bindObject (name : String) (ref : ObjectRef) : SessionAct Unit := do
  let old := (← get).objects.get? name
  modify fun session => { session with objects := session.objects.set name ref }
  act (Act.dropObjects old.toList)

/-- Gives a compiled script a name, if there are both. -/
def bindCompiled (name : Option String) (compiled : Option Compiled) : SessionAct Unit := do
  match name, compiled with
  | some name, some compiled =>
    modify fun session => { session with compiled := session.compiled.set name compiled }
  | _, _ => return ()

/-- Gives a function a name, if there is one. -/
def bindFunction (name : Option String) (function : FunctionRef) : SessionAct Unit := do
  match name with
  | some name =>
    modify fun session => { session with functions := session.functions.set name function }
  | none => return ()

/-- A handle of an object that a step gives. -/
def takeObject (given : GivenObject) : SessionAct ObjectRef := do
  match given with
  | .named name =>
    let ref ← objectNamed name
    act (Act.retain [ref])
    return ref
  | .fresh type text value => act do
    let ref ← Act.allocate type (.thing text)
    modify fun world => { world with host := world.host.setValue ref.address value }
    return ref

mutual

/-- A script value that a step gives, with handles of its objects. -/
def takeScript : GivenScript → SessionAct ScriptValue
  | .unit => return .unit
  | .bool value => return .bool value
  | .int value => return .int value
  | .float value => return .float value
  | .char value => return .char value
  | .string value => return .string value
  | .array items => return .array (← takeItems items)
  | .map entries => return .map (← takeEntries entries)
  | .object given => return .object (← takeObject given)

/-- The items of an array that a step gives. -/
def takeItems : List GivenScript → SessionAct (List ScriptValue)
  | [] => return []
  | item :: rest => do
    let value ← takeScript item
    return value :: (← takeItems rest)

/-- The entries of a map that a step gives, in the order of their keys. -/
def takeEntries : List (String × GivenScript) → SessionAct (Table String ScriptValue)
  | [] => return []
  | (key, item) :: rest => do
    let value ← takeScript item
    let entries ← takeEntries rest
    return entries.setSorted key value

end

/-- A value of the host that a step gives, with handles of its objects. -/
def takeNative : GivenNative → SessionAct NativeValue
  | .plain value => return value
  | .object given => return .object (← takeObject given)
  | .script given => return .script (← takeScript given)

/-- The values of the host that a step gives, with handles of their objects. -/
def takeNatives : List GivenNative → SessionAct (List NativeValue)
  | [] => return []
  | given :: rest => do
    let value ← takeNative given
    return value :: (← takeNatives rest)

/-- Drops the handles of values. -/
def dropNatives (values : List NativeValue) : SessionAct Unit :=
  act (Act.dropObjects (values.flatMap NativeValue.objects))

end SessionAct

end ScriptHost
