import ScriptHost.Script.Display
import ScriptHost.Script.ParseError

/-!
Errors of running scripts. An error is a cause with a position, inside one layer for each function
call it has left on its way out. The position of a layer is that of the call, which belongs to the
caller.
-/

namespace ScriptHost.Script

/-- What goes wrong in a script. -/
inductive Cause
  | thrown (value : ScriptValue)
  | functionNotFound (signature : String)
  | variableNotFound (name : String)
  | moduleNotFound (name : String)
  /-- Arithmetic without a result; the text says which. -/
  | arithmetic (text : String)
  | arrayBounds (size : Nat) (index : Int64)
  | stringBounds (size : Nat) (index : Int64)
  | noIndexer (type index : String)
  | mismatch (expected found : String)
  | notIterable
  | unboundThis
  | unknownProperty (name type : String)
  | readOnlyProperty (name type valueType : String)
  | constantAssigned (name : String)
  | syntaxError (cause : ParseError)
  | stackOverflow
  /-- The run is stopped from outside. -/
  | terminated

/-- How many elements a container has, in a complaint about an index. -/
def boundsText (size : Nat) (container element : String) : String :=
  match size with
  | 0 => s!"{container} is empty"
  | 1 => s!"only 1 {element} in {container}"
  | n => s!"only {n} {element}s in {container}"

/-- The wording of a cause. A thrown value appears as text, with objects under their native names;
nothing follows if there is no text. -/
def Cause.message : Cause → String
  | .thrown value =>
    if (value.text .raw).isEmpty then "Runtime error" else s!"Runtime error: {value.text .raw}"
  | .functionNotFound signature => s!"Function not found: {signature}"
  | .variableNotFound name => s!"Variable not found: {name}"
  | .moduleNotFound name => s!"Module not found: {name}"
  | .arithmetic text => text
  | .arrayBounds size index =>
    s!"Array index {index.toInt} out of bounds: " ++ boundsText size "array" "element"
  | .stringBounds size index =>
    s!"String index {index.toInt} out of bounds: " ++ boundsText size "string" "character"
  | .noIndexer type index => s!"Indexer unavailable: {type} [{index}]"
  | .mismatch expected found => s!"Data type incorrect: {found} (expecting {expected})"
  | .notIterable => "For loop expects iterable type"
  | .unboundThis => "'this' not bound"
  | .unknownProperty name type =>
    s!"Unknown property '{name}' - a getter is not registered for type '{type}'"
  | .readOnlyProperty name type valueType =>
    s!"No writable property '{name}' - a setter is not registered for type '{type}' " ++
      s!"to handle '{valueType}'"
  | .constantAssigned name => s!"Cannot modify constant: {name}"
  | .syntaxError cause => s!"Syntax error: {cause.message}"
  | .stackOverflow => "Stack overflow"
  | .terminated => "Script terminated"

/-- Whether a cause ends the whole run, through all calls and handlers. -/
def Cause.isSystem : Cause → Bool
  | .stackOverflow => true
  | .terminated => true
  | .syntaxError _ => true
  | _ => false

/-- An error on its way out of the calls it happened in. -/
inductive RuntimeError
  | plain (cause : Cause) (position : Option Position)
  | inCall (function : String) (inner : RuntimeError) (position : Option Position)

namespace RuntimeError

/-- The error with another position of its outermost layer. -/
def withPosition (err : RuntimeError) (position : Option Position) : RuntimeError :=
  match err with
  | .plain cause _ => .plain cause position
  | .inCall function inner _ => .inCall function inner position

/-- The calls an error has left, outermost first, with the position of each call. -/
def calls : RuntimeError → List (String × Option Position)
  | .plain _ _ => []
  | .inCall function inner position => (function, position) :: inner.calls

/-- What went wrong within all the calls. -/
def cause : RuntimeError → Cause
  | .plain cause _ => cause
  | .inCall _ inner _ => inner.cause

/-- Where it went wrong. -/
def position : RuntimeError → Option Position
  | .plain _ position => position
  | .inCall _ inner _ => inner.position

/-- Whether a handler can catch the error. Only an error that ends the run and has not left a call
cannot be caught. -/
def isCatchable : RuntimeError → Bool
  | .plain cause _ => !cause.isSystem
  | .inCall _ _ _ => true

/-- The error as it leaves a call at `position`: an error that ends the run takes on that position,
and any other one gains a layer. -/
def leaving (err : RuntimeError) (function : String) (position : Option Position) : RuntimeError :=
  match err with
  | .plain cause inner =>
    if cause.isSystem then .plain cause position else .inCall function (.plain cause inner) position
  | err => .inCall function err position

end RuntimeError

end ScriptHost.Script
