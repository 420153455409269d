import ScriptHost.Event.Kind
import ScriptHost.Script.Value

/-!
Events: a kind and a payload of named script values, which listeners read.
-/

namespace ScriptHost

/-- An event for script listeners. The payload is in the order of its keys. -/
structure Event where
  kind : EventKind
  payload : Table String ScriptValue

namespace Event

/-- A well-known event without payload. -/
def plain (event : EventType) : Event :=
  ⟨.builtin event, []⟩

/-- The event as text: its kind, and the keys of its payload if it has any. -/
def text (event : Event) : String :=
  let keys := String.intercalate ", " event.payload.keys
  if event.payload.isEmpty then event.kind.text else s!"{event.kind.text} [{keys}]"

/-- The payload value under a key. -/
def get? (event : Event) (key : String) : Option ScriptValue :=
  event.payload.get? key

end Event

end ScriptHost
