import ScriptHost.Access
import ScriptHost.Event.Basic
import ScriptHost.FileTree
import ScriptHost.Host.State
import ScriptHost.Native.TypeTable
import ScriptHost.Script.Display
import ScriptHost.Script.Syntax

/-!
What a running script finds around it and cannot change: its own functions, the registered types,
the objects it can look at, the files, and the access it is granted.
-/

namespace ScriptHost

/-- What a script sees of a game module. -/
structure GameView where
  name : String
  version : String
  owner : String
  text : String

/-- What a script sees of an object. -/
inductive ObjectView
  /-- A plain object with a label. -/
  | thing (label : String)
  | event (event : Event)
  | game (game : GameView)

/-- The label of an object. -/
def ObjectView.label : ObjectView → String
  | .thing text => text
  | .event e => e.text
  | .game view => view.text

/-- The surroundings of a running script. -/
structure Surroundings where
  program : Script.Program
  /-- The internal name of the module that runs. -/
  source : String
  types : TypeTable
  /-- The objects there are. -/
  look : ObjectRef → Option ObjectView
  files : FileTree
  /-- The access that the running module is granted. -/
  granted : AccessMask
  /-- Further native functions without parameters, and the access that each of them needs. -/
  guarded : Table String AccessMask
  maxCallLevels : Nat

namespace Surroundings

/-- How objects appear in texts: events and game modules have a text of their own, all others and
everything within dumps appear by the name of their type. -/
def objectTexts (env : Surroundings) : ObjectTexts where
  text ref :=
    match env.look ref with
    | some (.event event) => event.text
    | some (.game game) => game.text
    | _ => env.types.objectName ref.type
  debugText ref := env.types.objectName ref.type

/-- The label of an object. -/
def label (env : Surroundings) (ref : ObjectRef) : String :=
  ((env.look ref).map ObjectView.label).getD ""

/-- The text of a value. -/
def textOf (env : Surroundings) (value : ScriptValue) : String :=
  value.text env.objectTexts

end Surroundings

end ScriptHost
