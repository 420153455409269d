import ScriptHost.Module.Compiled
import ScriptHost.Script.RuntimeError

/-!
Script errors that nothing has caught, with the call stack at the place they come from. The stack is
innermost first. The line of a frame is where the function of that frame called the next one, and for
the innermost frame the position of the error itself; lines are those of the sources as far as the
line map knows them.
-/

namespace ScriptHost

/-- What a stack frame runs. -/
inductive FrameKind
  | script | native
  deriving DecidableEq, Repr

/-- The name of a kind of frames. -/
def FrameKind.name : FrameKind → String
  | .script => "Script"
  | .native => "Native"

/-- A frame of a call stack. -/
structure StackFrame where
  function : String
  file : String
  line : Option Nat
  kind : FrameKind
  deriving DecidableEq, Repr

/-- A frame in words. -/
def StackFrame.text (frame : StackFrame) : String :=
  let kind := match frame.kind with
    | .script => "script"
    | .native => "native"
  match frame.line with
  | some line => s!"{frame.function} ({kind}) at {frame.file}:{line}"
  | none => s!"{frame.function} ({kind}) in {frame.file}"

/-- A script error that nothing has caught. -/
structure ScriptException where
  message : String
  function : String
  stack : List StackFrame
  deriving DecidableEq, Repr

namespace ScriptException

/-- The frame that the error comes from. -/
def origin (exception : ScriptException) : Option StackFrame :=
  exception.stack.head?

/-- The error with its whole stack. -/
def report (exception : ScriptException) : String :=
  s!"script exception in '{exception.function}': {exception.message}" ++
    String.join (exception.stack.map fun frame => "\n    " ++ frame.text)

/-- The error with the frame it comes from. -/
def text (exception : ScriptException) : String :=
  match exception.origin with
  | some frame => s!"{exception.message} ({frame.text})"
  | none => exception.message

/-- The frame of a function with a position in the combined text. -/
def frameAt (compiled : Compiled) (function : String) (position : Option Script.Position) :
    StackFrame :=
  let kind := if compiled.hasFunction function then FrameKind.script else FrameKind.native
  let line := position.map Script.Position.line
  match line.bind compiled.lines.locate with
  | some (file, line) => ⟨function, file, some line, kind⟩
  | none => ⟨function, compiled.internalName, line, kind⟩

/-- The frames of calls, outermost first: each has the position of the next call, and the last one
`innermost`. -/
def framesOf (compiled : Compiled) (innermost : Option Script.Position) :
    List (String × Option Script.Position) → List StackFrame
  | [] => []
  | [(name, _)] => [frameAt compiled name innermost]
  | (name, _) :: (next, position) :: rest =>
    frameAt compiled name position :: framesOf compiled innermost ((next, position) :: rest)

/-- The calls of an error, outermost first, beginning with the function that the host called. -/
def callsFrom (function : String) (err : Script.RuntimeError) :
    List (String × Option Script.Position) :=
  if (err.calls.head?.map Prod.fst) = some function then err.calls else (function, none) :: err.calls

/-- The exception that an error of a called function becomes. -/
def ofError (function : FunctionRef) (err : Script.RuntimeError) : ScriptException where
  message := err.cause.message
  function := function.name
  stack := (framesOf function.compiled err.position (callsFrom function.name err)).reverse

end ScriptException

end ScriptHost
