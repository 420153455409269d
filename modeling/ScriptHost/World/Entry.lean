import ScriptHost.World.Fire

/-!
Running entry points by name. A run tells whether the entry point was there, and reports why one
cannot be run unless a missing one is all right with the caller.
-/

namespace ScriptHost

namespace Act

/-- Runs a function of a script module by its name. Whether there was such a function comes second. -/
def runEntry (address : Nat) (entry : String) (args : List NativeValue) (setup : RunSetup)
    (wanted : ReturnType) : Act (Except InvokeError (Option NativeValue) × Bool) := do
  match ← function address entry args.length with
  | .ok function => return (← invoke function args setup wanted, true)
  | .error err =>
    let isMissing := match err with
      | .functionNotFound _ => true
      | _ => false
    if !isMissing || setup.errorOnMissing then
      error s!"cannot run '{entry}': {err.message}"
    return (.error err, false)

/-- Runs a function of a game module's script by its name, with the game module as the first argument
if it is wanted. `existed` is what is told of the function when there is no script. All handles that
come up are to be dropped. -/
def runOnGame (address : Nat) (entry : String) (passSelf : Bool) (args : List NativeValue)
    (setup : RunSetup) (existed : Bool) (wanted : ReturnType) :
    Act (Except InvokeError (Option NativeValue) × Bool × List Owned) := do
  match (← get).game? address with
  | none => return (.error .executorGone, existed, [])
  | some game =>
    match game.script with
    | none => return (.error (.moduleUnusable game.name .empty), existed, [])
    | some script =>
      if passSelf then
        let self ← selfValue address
        let (result, existed) ← runEntry script entry (self :: args) setup wanted
        return (result, existed, self.objects.map Owned.object)
      else
        let (result, existed) ← runEntry script entry args setup wanted
        return (result, existed, [])

end Act

end ScriptHost
