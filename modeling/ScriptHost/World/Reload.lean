import ScriptHost.World.Build

/-!
Reloading a module: its release listener runs, the compiled script goes, the texts of its files are
read again, the module is built under a new internal name, and its init listener runs. Only a built
module is reloaded. The arguments of the listeners are kept to the end, and their handles are then
dropped by whoever has asked for the reload.
-/

namespace ScriptHost

namespace Act

/-- The arguments that hooks give a lifecycle listener. -/
def hookArgs (hooks : Hooks) (event : EventType) : Act (List NativeValue) := do
  match hooks with
  | .given release init =>
    let values := if event = .release then release else init
    retain (values.flatMap NativeValue.objects)
    return values
  | .game address =>
    let occasion ← allocate .event (.event (.plain event))
    let world ← get
    match world.objects.upgrade address with
    | some objects =>
      set { world with objects := objects }
      return [.object occasion, .object ⟨.gameModule, address⟩]
    | none => return [.object occasion, .void]

/-- Runs the lifecycle listener of a module, if it has one. The handles of the result are to be
dropped. -/
def fireLifecycle (address : Nat) (kind : ListenerKind) (args : List NativeValue) :
    Act (List Owned) := do
  match ← findListener address kind.name none with
  | none => return []
  | some entry =>
    let result ← invoke entry.function args .standard .script
    match result with
    | .ok _ => pure ()
    | .error err => error s!"{kind.name} listener failed: {err.message}"
    return resultObjects result

/-- Notes the lifecycle event of the game module that hooks are of. -/
def noteHooks (address : Nat) (hooks : Hooks) (event : EventType) : Act Unit :=
  match hooks with
  | .given _ _ => return ()
  | .game place => note place address event

/-- Runs the lifecycle listener that hooks are for. All handles that come up are to be dropped. -/
def fireHooks (address : Nat) (hooks : Option Hooks) (event : EventType) : Act (List Owned) := do
  match hooks with
  | none => return []
  | some hooks =>
    noteHooks address hooks event
    let args ← hookArgs hooks event
    let owned ← fireLifecycle address event.listener args
    return owned ++ (args.flatMap NativeValue.objects).map Owned.object

/-- Takes the compiled script of a module out and reads the texts of its files again. -/
def renew (address : Nat) : Act Unit := do
  let world ← get
  match world.module? address with
  | none => pure ()
  | some module =>
    onExecutor fun executor => (executor.removeCompiled? module.compiled).unwatch module.id
    (module.rereadComplaints world.files).forM warn
    onModule address fun _ => module.renewed world.files

/-- Reloads a built module and tells whether it is built again. All handles that come up are to be
dropped. -/
def reload (address : Nat) : Act (Bool × List Owned) := do
  let world ← get
  match world.module? address with
  | none => return (false, [])
  | some module =>
    if module.state ≠ .built then
      warn "reload ignored for a module that is not built"
      return (false, [])
    else if !world.isRunning then
      discard address "script executor is gone"
      return (false, [])
    else
      let released ← fireHooks address module.hooks .release
      renew address
      match ← build address with
      | none => return (false, released)
      | some _ =>
        onExecutor fun executor => { executor with reloads := executor.reloads + 1 }
        let started ← fireHooks address module.hooks .init
        return (true, released ++ started)

end Act

end ScriptHost
