import ScriptHost.Call.Callback
import ScriptHost.Call.Error
import ScriptHost.Game.LoadError
import ScriptHost.World.Registry

/-!
What the steps of a session answer. Answers hold no handles: objects in them are shown by their labels
at the time of the answer.
-/

namespace ScriptHost

/-- A value of the host as it is shown. -/
inductive ShownNative
  | void
  | bool (value : Bool)
  | int (value : NativeInt)
  | float32 (value : Float32)
  | float64 (value : Float)
  | char (value : Char)
  | string (value : String)
  | script (value : ShownValue)

/-- A value of the host as it is shown in a world. -/
def NativeValue.shown (world : World) : NativeValue → ShownNative
  | .void => .void
  | .bool value => .bool value
  | .int value => .int value
  | .float32 value => .float32 value
  | .float64 value => .float64 value
  | .char value => .char value
  | .string value => .string value
  | .object ref => .script (world.shown (.object ref))
  | .script value => .script (world.shown value)

/-- The outcome of a call, with the type that its value was read as. -/
structure CallAnswer where
  wanted : ReturnType
  result : Except InvokeError (Option ShownNative)

/-- What is told of a callback. -/
structure CallbackAnswer where
  hasFunction : Bool
  isMethod : Bool
  isAlive : Bool
  text : String

/-- What is told of a game module. -/
structure GameAnswer where
  game : GameModule
  script : Option String
  dependencies : List String

/-- What is told of an executor. -/
structure ExecutorAnswer where
  types : Nat
  search : SourceSearch
  isWatching : Bool
  maxCallLevels : Nat

/-- What a step answers. -/
inductive Answer
  | nothing
  | flag (value : Bool)
  | number (value : Nat)
  | text (value : String)
  | texts (values : List String)
  | paths (values : List Path)
  | missing (name : String)
  | added (result : Except BuildError Bool)
  | segments (segments : List Segment)
  | compiled (compiled : Compiled)
  /-- For each line its place and its text, as far as there are any. -/
  | places (places : List (Option (String × Nat) × Option String))
  | function (function : FunctionRef)
  | refused (cause : InvokeError)
  | module (module : ScriptModule)
  | listener (entry : Option ListenerEntry)
  | listeners (entries : List ListenerEntry)
  | index (size : Nat) (found : Option ListenerEntry)
  | registered (text : String) (handles : Nat)
  | stats (stats : ExecutorStats)
  | type (entry : TypeEntry)
  | executor (executor : ExecutorAnswer)
  | call (call : CallAnswer)
  | run (call : CallAnswer) (existed : Bool)
  | method (call : CallAnswer) (this : ShownValue)
  | object (handles : Nat) (value : ShownValue)
  | callback (callback : CallbackAnswer)
  | invoked (call : CallAnswer) (callback : CallbackAnswer)
  | known (modules : Table String Path)
  | loaded (name owner : String)
  | notLoaded (cause : LoadError)
  | game (game : GameAnswer)
  | missingExport (name : String)
  | subscriptions (subscriptions : List Subscription)
  | fired (outcome : EventOutcome)
  | unwatched (cause : WatchError)

end ScriptHost
