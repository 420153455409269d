import ScriptHost.Listener.Tag
import ScriptHost.Module.Compiled
import ScriptHost.Table
import ScriptHost.Text.Line

/-!
The listeners of a compiled script. A public function whose documentation comments hold a listener
annotation is a listener, under a key made of the listener's name and type. The first annotation of a
function that is well-formed and whose key is still free counts; the others are reported or left
unread.
-/

namespace ScriptHost

/-- A function found through a listener annotation. -/
structure ListenerEntry where
  function : FunctionRef
  kind : ListenerKind
  genericType : Option String
  metadata : String

/-- The key of a listener: its name, or its type if it has one. -/
def listenerKey (name : String) (genericType : Option String) : String :=
  match genericType with
  | some eventType => s!"Generic:{eventType}"
  | none => name

namespace ListenerEntry

/-- The key of a listener. -/
def key (entry : ListenerEntry) : String :=
  listenerKey entry.kind.name entry.genericType

/-- The dump of a listener. -/
def text (entry : ListenerEntry) : String :=
  let genericType := match entry.genericType with
    | some eventType => s!"Some({Text.quoted eventType})"
    | none => "None"
  let name := Text.quoted entry.function.name
  let metadata := Text.quoted entry.metadata
  s!"ListenerEntry \x7b function: {name}, kind: {entry.kind.name}, " ++
    s!"generic_type: {genericType}, metadata: {metadata} \x7d"

end ListenerEntry

/-- The listeners of a compiled script under their keys, in the order of their functions. -/
structure ListenerIndex where
  entries : Table String ListenerEntry

namespace ListenerIndex

/-- The entry that the annotation lines of a function give, and the complaints about the lines before
it. -/
def entryOf (index : ListenerIndex) (function : FunctionRef) :
    List String → Option ListenerEntry × List String
  | [] => (none, [])
  | line :: rest =>
    match ListenerTag.parse line with
    | .ok none => index.entryOf function rest
    | .error err =>
      let (entry, complaints) := index.entryOf function rest
      (entry, s!"skipping listener annotation: {err.message}" :: complaints)
    | .ok (some tag) =>
      let entry : ListenerEntry := ⟨function, tag.kind, tag.genericType, tag.metadata⟩
      if index.entries.has entry.key then
        let (found, complaints) := index.entryOf function rest
        (found, s!"duplicate listener '{entry.key}' ignored" :: complaints)
      else (some entry, [])

/-- The lines of the documentation comments of a function. -/
def commentLines (function : Script.Function) : List String :=
  function.comments.flatMap fun comment => (Text.lines comment.toList).map String.ofList

/-- Takes in a function of a compiled script, if it is a listener. -/
def addFunction (compiled : Compiled) (state : ListenerIndex × List String)
    (function : Script.Function) : ListenerIndex × List String :=
  let (index, complaints) := state
  if function.isPublic then
    match index.entryOf ⟨compiled, function.name, function.arity⟩ (commentLines function) with
    | (some entry, more) => (⟨index.entries.set entry.key entry⟩, complaints ++ more)
    | (none, more) => (index, complaints ++ more)
  else (index, complaints)

/-- The listeners of a compiled script, and the complaints about annotations that count for
nothing. -/
def build (compiled : Compiled) : ListenerIndex × List String :=
  compiled.functions.foldl (addFunction compiled) (⟨[]⟩, [])

/-- The listener of a name and type. -/
def find? (index : ListenerIndex) (name : String) (genericType : Option String) :
    Option ListenerEntry :=
  index.entries.get? (listenerKey name genericType)

/-- All listeners. -/
def list (index : ListenerIndex) : List ListenerEntry :=
  index.entries.map (·.2)

/-- The number of listeners. -/
def size (index : ListenerIndex) : Nat :=
  index.entries.length

end ListenerIndex

end ScriptHost
