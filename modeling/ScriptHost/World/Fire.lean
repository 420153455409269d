import ScriptHost.World.Build

/-!
Delivering events to game modules. The listener for an event gets the event and the game module; while
a game module is being destroyed it gets no module.
-/

namespace ScriptHost

/-- What becomes of an event that is fired at a game module. -/
inductive EventOutcome
  | handled | noListener | noScript
  deriving DecidableEq, Repr

/-- The name of an outcome. -/
def EventOutcome.name : EventOutcome → String
  | .handled => "Handled"
  | .noListener => "NoListener"
  | .noScript => "NoScript"

namespace Act

/-- A further handle of a game module as a value, if it still lives. -/
def selfValue (address : Nat) : Act NativeValue := do
  let world ← get
  match world.objects.upgrade address with
  | some objects =>
    set { world with objects := objects }
    return .object ⟨.gameModule, address⟩
  | none => return .void

/-- Delivers an event to the listener of a script module, with the given value for the game module.
The handles of the event and of the result are to be dropped. -/
def deliver (script : Nat) (event : Event) (game : NativeValue) :
    Act (Except InvokeError EventOutcome × List Owned) := do
  match ← findListener script event.kind.listenerName event.kind.genericType? with
  | none => return (.ok .noListener, [])
  | some entry =>
    retain (event.payload.flatMap fun item => item.2.objects)
    let occasion ← allocate .event (.event event)
    let result ← invoke entry.function [.object occasion, game] .standard .script
    return (result.map fun _ => .handled, .object occasion :: resultObjects result)

/-- Fires an event at a game module. All handles that come up are to be dropped. -/
def fire (address : Nat) (event : Event) :
    Act (Except InvokeError EventOutcome × List Owned) := do
  match ((← get).game? address).bind GameModule.script with
  | none => return (.ok .noScript, [])
  | some script =>
    let self ← selfValue address
    let (outcome, owned) ← deliver script event self
    return (outcome, owned ++ self.objects.map Owned.object)

/-- The subscriptions of a game module. -/
def subscriptions (address : Nat) : Act (List Subscription) := do
  match ((← get).game? address).bind GameModule.script with
  | none => return []
  | some script => return Subscription.ofListeners (← listeners script)

/-- Removes a module from the registry and releases it; tells whether there was one. All handles that
come up are to be dropped. -/
def deleteModule (id : Nat) : Act (Bool × List Owned) := do
  match (← get).executor.registry.get? id with
  | none => return (false, [])
  | some address =>
    onExecutor fun executor => { executor with registry := executor.registry.erase id }
    let owned ← release address
    return (true, owned ++ [.module address])

/-- Delivers the release event of a game module to its script module, if that is wanted and the module
is built. `self` is what the listener gets for the game module. All handles that come up are to be
dropped. -/
def deliverRelease (place script : Nat) (wanted : Bool) (self : NativeValue) :
    Act (List Owned) := do
  let state := ((← get).module? script).map ScriptModule.state
  if wanted && state == some .built then
    note place script .release
    let (outcome, owned) ← deliver script (.plain .release) self
    match outcome with
    | .ok _ => return owned
    | .error err =>
      error s!"release listener failed: {err.message}"
      return owned
  else return []

/-- Removes the module registered under the number of a script module and releases it; without one the
script module itself is released. All handles that come up are to be dropped. -/
def removeScript (script : Nat) : Act (List Owned) := do
  match ((← get).module? script).map ScriptModule.id with
  | none => return []
  | some id =>
    let (found, owned) ← deleteModule id
    if found then return owned else release script

/-- Detaches the script module and the imports from a game module that is given by its state, after
the release event if that is wanted. `self` is what the listener gets for the module. All handles
that come up are to be dropped. -/
def detachScript (place : Nat) (game : GameModule) (fireRelease : Bool) (self : NativeValue) :
    Act (List Owned) := do
  let dependencies := game.dependencies.map fun address => Owned.object ⟨.gameModule, address⟩
  match game.script with
  | none => return dependencies
  | some script =>
    let delivered ← deliverRelease place script fireRelease self
    let hooked ← clearHooks script
    let removed ← removeScript script
    return delivered ++ hooked ++ removed ++ [.module script] ++ dependencies

/-- Detaches the script module and the imports from a living game module. All handles that come up are
to be dropped. -/
def detachGame (address : Nat) (fireRelease : Bool) : Act (List Owned) := do
  match (← get).game? address with
  | none => return []
  | some game =>
    onGame address fun game => { game with script := none, dependencies := [] }
    let self ← selfValue address
    let owned ← detachScript address game fireRelease self
    onGame address fun game => { game with initialized := false }
    return owned ++ self.objects.map Owned.object

end Act

end ScriptHost
