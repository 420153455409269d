/-!
Names of events and listeners. A game module hears seven well-known events through the listeners of
the same purpose, any further event through a generic listener with a type name, and some listeners
belong to user interface elements and hear no event at all.
-/

namespace ScriptHost

/-- The well-known events. -/
inductive EventType
  | init | release | tick | frameBegin | frameEnd | showGui | hideGui
  deriving DecidableEq, Repr

/-- The listeners that an annotation can name. -/
inductive ListenerKind
  | onInit | onRelease | onTick | onFrameBegin | onFrameEnd | onShow | onHide
  | onClick | onValueChange | onSubmit | onCloseClicked | onListenUpdate | generic
  deriving DecidableEq, Repr

namespace EventType

/-- All well-known events, in their fixed order. -/
def all : List EventType :=
  [.init, .release, .tick, .frameBegin, .frameEnd, .showGui, .hideGui]

/-- The name of an event. -/
def name : EventType → String
  | .init => "Init"
  | .release => "Release"
  | .tick => "Tick"
  | .frameBegin => "FrameBegin"
  | .frameEnd => "FrameEnd"
  | .showGui => "ShowGui"
  | .hideGui => "HideGui"

/-- The event of that name. -/
def ofName? (name : String) : Option EventType :=
  all.find? (·.name == name)

/-- The listener that hears an event. -/
def listener : EventType → ListenerKind
  | .init => .onInit
  | .release => .onRelease
  | .tick => .onTick
  | .frameBegin => .onFrameBegin
  | .frameEnd => .onFrameEnd
  | .showGui => .onShow
  | .hideGui => .onHide

end EventType

namespace ListenerKind

/-- All listeners, in their fixed order. -/
def all : List ListenerKind :=
  [.onInit, .onRelease, .onTick, .onFrameBegin, .onFrameEnd, .onShow, .onHide, .onClick,
    .onValueChange, .onSubmit, .onCloseClicked, .onListenUpdate, .generic]

/-- The name of a listener. -/
def name : ListenerKind → String
  | .onInit => "OnInit"
  | .onRelease => "OnRelease"
  | .onTick => "OnTick"
  | .onFrameBegin => "OnFrameBegin"
  | .onFrameEnd => "OnFrameEnd"
  | .onShow => "OnShow"
  | .onHide => "OnHide"
  | .onClick => "OnClick"
  | .onValueChange => "OnValueChange"
  | .onSubmit => "OnSubmit"
  | .onCloseClicked => "OnCloseClicked"
  | .onListenUpdate => "OnListenUpdate"
  | .generic => "Generic"

/-- The listener of that name. -/
def ofName? (name : String) : Option ListenerKind :=
  all.find? (·.name == name)

/-- The event a listener hears; listeners of interface elements and generic ones have none. -/
def eventType? (kind : ListenerKind) : Option EventType :=
  EventType.all.find? (·.listener == kind)

end ListenerKind

/-- What an event is: a well-known event or a generic one with a name of its own. -/
inductive EventKind
  | builtin (event : EventType)
  | generic (name : String)
  deriving DecidableEq, Repr

namespace EventKind

/-- The name of the event: that of the well-known event, or the generic one's own. -/
def typeName : EventKind → String
  | .builtin event => event.name
  | .generic name => name

/-- Whether the event is a generic one. -/
def isGeneric : EventKind → Bool
  | .builtin _ => false
  | .generic _ => true

/-- The text of the kind, in which a generic name stands in parentheses. -/
def text : EventKind → String
  | .builtin event => event.name
  | .generic name => s!"Generic({name})"

/-- The listener name that hears events of this kind. -/
def listenerName : EventKind → String
  | .builtin event => event.listener.name
  | .generic _ => ListenerKind.generic.name

/-- The generic type that a listener of this kind of event is annotated with. -/
def genericType? : EventKind → Option String
  | .builtin _ => none
  | .generic name => some name

end EventKind

end ScriptHost
