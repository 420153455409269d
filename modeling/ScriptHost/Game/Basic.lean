import ScriptHost.Description
import ScriptHost.Event.Basic
import ScriptHost.Listener.Index
import ScriptHost.Script.Surroundings
import ScriptHost.SourceSearch

/-!
Game modules: named units described by a file, each of which owns a script module while it is
initialized and holds on to the game modules it imports.
-/

namespace ScriptHost

/-- The place of a game module in the arena of its loader. A key is stale once the generation of its
slot has moved on. -/
structure SlotKey where
  index : Nat
  generation : Nat
  deriving DecidableEq, Repr

/-- The dump of a slot key. -/
def SlotKey.text (key : SlotKey) : String :=
  s!"SlotKey \x7b index: {key.index}, generation: {key.generation} \x7d"

/-- A game module. -/
structure GameModule where
  description : Description
  /-- Who asked for the module first. -/
  owner : String
  initializing : Bool
  initialized : Bool
  /-- The address of the script module. -/
  script : Option Nat
  /-- The addresses of the imported game modules, one handle each. -/
  dependencies : List Nat
  /-- The number of the loader that has made the module. -/
  loader : Nat
  slot : SlotKey

namespace GameModule

/-- A game module that is not initialized. -/
def create (description : Description) (owner : String) (loader : Nat) (slot : SlotKey) :
    GameModule where
  description := description
  owner := owner
  initializing := false
  initialized := false
  script := none
  dependencies := []
  loader := loader
  slot := slot

/-- The name of the module. -/
def name (game : GameModule) : String := game.description.name

/-- The module in words. -/
def text (game : GameModule) : String :=
  s!"GameModule {game.name} v{game.description.version} ({game.description.path})"

/-- The dump of a module. -/
def debugText (game : GameModule) : String :=
  let name := Text.quoted game.name
  let version := Text.quoted game.description.version
  let file := Text.quoted game.description.path.text
  s!"GameModule \x7b name: {name}, version: {version}, file: {file}, " ++
    s!"slot: {game.slot.text} \x7d"

/-- What scripts see of the module. -/
def view (game : GameModule) : GameView :=
  ⟨game.name, game.description.version, game.owner, game.text⟩

/-- The paths of source names, which are looked up beside the description file first; the first name
that stands for no file otherwise. -/
def resolveFiles (game : GameModule) (search : SourceSearch) (tree : FileTree) :
    List String → Except String (List Path)
  | [] => .ok []
  | name :: rest =>
    match search.findSource tree name game.description.baseDirectory? with
    | none => .error name
    | some path =>
      match game.resolveFiles search tree rest with
      | .error missing => .error missing
      | .ok paths => .ok (path :: paths)

end GameModule

/-- A global event that a listener subscribes its game module to. -/
structure Subscription where
  event : EventKind
  listener : ListenerKind
  function : String

namespace Subscription

/-- The event that a listener hears; listeners of interface elements hear none. -/
def eventOf? (entry : ListenerEntry) : Option EventKind :=
  match entry.kind.eventType?, entry.genericType with
  | some event, _ => some (.builtin event)
  | none, some genericType => some (.generic genericType)
  | none, none => none

/-- The subscription of a listener, if it has one. -/
def ofListener? (entry : ListenerEntry) : Option Subscription :=
  (eventOf? entry).map fun event => ⟨event, entry.kind, entry.function.name⟩

/-- The subscriptions of listeners. -/
def ofListeners (entries : List ListenerEntry) : List Subscription :=
  entries.filterMap ofListener?

/-- The complaints about listeners without subscription. -/
def complaints (entries : List ListenerEntry) : List String :=
  (entries.filter fun entry => (eventOf? entry).isNone).map fun entry =>
    s!"listener '{entry.kind.name}' has no global event"

end Subscription

end ScriptHost
