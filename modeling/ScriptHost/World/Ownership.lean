import ScriptHost.World.Fire

/-!
Dropping handles. The last handle of an object takes the object with it, and the object drops the
handles it owns: an event those in its payload; a script module those of its hooks; a game module its
script module and its imports, after a last release event; and whoever is the last to hold the
executor takes the registered modules along. Handles are dropped one after another, and those that a
destroyed object owned come before the rest.
-/

namespace ScriptHost

namespace Act

/-- One holder of the executor less. The handles of the registered modules are to be dropped if it was
the last one. -/
def releaseExecutor : Act (List Owned) := do
  let world ← get
  let holders := world.holders - 1
  if holders = 0 && world.isRunning then
    set { world with holders := holders, executor := world.executor.closed }
    return world.executor.registry.map fun entry => .module entry.2
  else
    set { world with holders := holders }
    return []

/-- Destroys a game module whose last handle is gone. -/
def destroyGame (place : Nat) (game : GameModule) : Act (List Owned) := do
  modify fun world => { world with loader := world.loader.map (·.take game) }
  let owned ← detachScript place game true .void
  return owned ++ (← releaseExecutor)

/-- Destroys an object whose last handle is gone. The handles it owned are to be dropped. -/
def destroyObject (place : Nat) (body : ObjectBody) : Act (List Owned) := do
  match body with
  | .thing _ => return []
  | .event event => return (event.payload.flatMap fun item => item.2.objects).map Owned.object
  | .game game => destroyGame place game

/-- Destroys a script module whose last handle is gone. The handles it owned are to be dropped. -/
def destroyModule (module : ScriptModule) : Act (List Owned) := do
  if (← get).isRunning then
    onExecutor (·.removeCompiled? module.compiled)
    if !module.watched.isEmpty then onExecutor (·.unwatch module.id)
  return ((module.hooks.map Hooks.objects).getD []).map Owned.object

/-- Drops one handle. The handles that are to be dropped with it come back. -/
def dropOne (handle : Owned) : Act (List Owned) := do
  match handle with
  | .object ref =>
    let world ← get
    let (objects, body) := world.objects.release ref.address
    set { world with objects := objects }
    match body with
    | none => return []
    | some body =>
      let owned ← destroyObject ref.address body
      modify fun world => { world with objects := world.objects.finish ref.address }
      return owned
  | .module address =>
    let world ← get
    let (modules, module) := world.modules.release address
    set { world with modules := modules }
    match module with
    | none => return []
    | some module =>
      let owned ← destroyModule module
      modify fun world => { world with modules := world.modules.finish address }
      return owned

/-- Drops handles one after another up to one that destroys something which owned handles. What is
left to drop comes back, with those handles first. -/
def dropSome : List Owned → Act (List Owned)
  | [] => return []
  | handle :: rest => do
    let owned ← dropOne handle
    if owned.isEmpty then dropSome rest else return owned ++ rest

/-- Drops handles, where no more than `owners` of the things that are destroyed own handles. -/
def dropUpTo : Nat → List Owned → Act Unit
  | 0, handles => do
    let _ ← dropSome handles
  | owners + 1, handles => do
    match ← dropSome handles with
    | [] => return ()
    | rest => dropUpTo owners rest

/-- Drops handles. Everything that owns handles is there already: what comes into being while game
modules are destroyed are events without payload. -/
def dropAll (handles : List Owned) : Act Unit := do
  let world ← get
  dropUpTo (world.objects.cells.length + world.modules.cells.length) handles

/-- Drops the handles of objects. -/
def dropObjects (refs : List ObjectRef) : Act Unit :=
  dropAll (refs.map Owned.object)

end Act

end ScriptHost
