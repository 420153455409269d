import ScriptHost.Script.RuntimeError
import ScriptHost.Script.Surroundings

/-!
The steps that running a script is made of. A run carries the host, the number of operations so far,
the nesting of calls and the variables in sight. A step can leave the normal course by a signal: an
error, or one of the statements that leave a loop or a function. Whatever a step has changed before
it signals stays changed.
-/

namespace ScriptHost.Script

/-- A variable. -/
structure Variable where
  name : String
  constant : Bool
  value : ScriptValue

/-- The state of a run. -/
structure RunState where
  host : Host
  operations : Nat
  /-- How many calls of script functions are open within the one that the host made. -/
  level : Nat
  /-- The variables in sight, innermost first. -/
  scope : List Variable
  /-- The object of the method call that is running. -/
  this : Option ScriptValue

/-- How a step leaves the normal course. -/
inductive Signal
  | error (err : RuntimeError)
  | leaveLoop (value : ScriptValue)
  | nextRound
  | leaveFunction (value : ScriptValue)

/-- A step of a run. -/
abbrev Eval := ReaderT Surroundings (ExceptT Signal (StateM RunState))

namespace Eval

/-- Fails for a cause. -/
def failAt {α : Type} (cause : Cause) (position : Option Position) : Eval α :=
  throw (.error (.plain cause position))

/-- Fails for a cause at a position. -/
def fail {α : Type} (cause : Cause) (position : Position) : Eval α :=
  failAt cause (some position)

/-- The answer of a computation, or its failure at a position. -/
def orFail {α : Type} (result : Except Cause α) (position : Position) : Eval α :=
  match result with
  | .ok value => pure value
  | .error cause => fail cause position

/-- Runs a step and gives its signal as a value. -/
def attempt {α : Type} (step : Eval α) : Eval (Except Signal α) :=
  fun env => ExceptT.mk do return .ok (← (step env).run)

/-- Ends a step the way another one ended. -/
def resume {α : Type} (result : Except Signal α) : Eval α :=
  match result with
  | .ok value => pure value
  | .error signal => throw signal

/-- Counts an operation and stops the run if one of the running calls is to be stopped. -/
def tick : Eval Unit := do
  let state ← get
  let operations := state.operations + 1
  let (host, reason) := state.host.check operations
  set { state with host := host, operations := operations }
  if reason.isSome then failAt .terminated none

/-- Runs a step one call level deeper. -/
def deeper {α : Type} (step : Eval α) : Eval α := do
  let level := (← get).level
  modify fun state => { state with level := level + 1 }
  let result ← attempt step
  modify fun state => { state with level := level }
  resume result

/-- Runs a step whose variables go out of sight at its end. -/
def inBlock {α : Type} (step : Eval α) : Eval α := do
  let size := (← get).scope.length
  let result ← attempt step
  modify fun state => { state with scope := state.scope.drop (state.scope.length - size) }
  resume result

/-- Makes a variable. -/
def declare (name : String) (constant : Bool) (value : ScriptValue) : Eval Unit :=
  modify fun state => { state with scope := ⟨name, constant, value⟩ :: state.scope }

/-- The variable of that name. -/
def lookUp (name : String) : Eval (Option Variable) := do
  return (← get).scope.find? (·.name == name)

/-- Gives the innermost variable of a name another value. -/
def assignIn (name : String) (value : ScriptValue) : List Variable → List Variable
  | [] => []
  | found :: rest =>
    if found.name = name then { found with value := value } :: rest
    else found :: assignIn name value rest

/-- Gives the innermost variable of a name another value. -/
def assign (name : String) (value : ScriptValue) : Eval Unit :=
  modify fun state => { state with scope := assignIn name value state.scope }

/-- What a name stands for: a variable, or else a function of the script. -/
def valueOf (name : String) (position : Position) : Eval ScriptValue := do
  match ← lookUp name with
  | some found => return found.value
  | none =>
    if (← read).program.hasFunction name then return .function name
    else fail (.variableNotFound name) position

/-- The object of the method call that is running. -/
def thisValue (position : Position) : Eval ScriptValue := do
  match (← get).this with
  | some value => return value
  | none => fail .unboundThis position

/-- Changes the object of the method call that is running. -/
def setThis (value : ScriptValue) : Eval Unit :=
  modify fun state => { state with this := some value }

/-- A truth value. -/
def expectBool (value : ScriptValue) (position : Option Position) : Eval Bool :=
  match value with
  | .bool answer => pure answer
  | value => failAt (.mismatch "bool" value.typeName) position

end Eval

/-- What an error consists of, under the names that a handler finds. -/
def Cause.details : Cause → List (String × ScriptValue)
  | .thrown value => [("error", .string "ErrorRuntime"), ("value", value)]
  | .functionNotFound signature =>
    [("error", .string "ErrorFunctionNotFound"), ("function", .string signature)]
  | .variableNotFound name =>
    [("error", .string "ErrorVariableNotFound"), ("variable", .string name)]
  | .moduleNotFound name => [("error", .string "ErrorModuleNotFound"), ("module", .string name)]
  | .arithmetic _ => [("error", .string "ErrorArithmetic")]
  | .arrayBounds size index =>
    [("error", .string "ErrorArrayBounds"), ("length", .int (Int64.ofNat size)),
      ("index", .int index)]
  | .stringBounds size index =>
    [("error", .string "ErrorStringBounds"), ("length", .int (Int64.ofNat size)),
      ("index", .int index)]
  | .noIndexer type index =>
    [("error", .string "ErrorIndexingType"), ("type", .string s!"{type} [{index}]")]
  | .mismatch expected found =>
    [("error", .string "ErrorMismatchDataType"), ("requested", .string expected),
      ("actual", .string found)]
  | .notIterable => [("error", .string "ErrorFor")]
  | .unboundThis => [("error", .string "ErrorUnboundThis")]
  | .unknownProperty name type =>
    [("error", .string "ErrorDotExpr"),
      ("property", .string (Cause.unknownProperty name type).message)]
  | .readOnlyProperty name type valueType =>
    [("error", .string "ErrorDotExpr"),
      ("property", .string (Cause.readOnlyProperty name type valueType).message)]
  | .constantAssigned name =>
    [("error", .string "ErrorAssignmentToConstant"), ("variable", .string name)]
  | .syntaxError _ => [("error", .string "ErrorParsing")]
  | .stackOverflow => [("error", .string "ErrorStackOverflow")]
  | .terminated => [("error", .string "ErrorTerminated")]

/-- What a handler gets for an error: the thrown value, or a description of what went wrong. -/
def RuntimeError.caught (source : String) (err : RuntimeError) : ScriptValue :=
  match err.cause with
  | .thrown value => value
  | cause =>
    let place := match err.position with
      | some position =>
        [("line", .int (Int64.ofNat position.line)),
          ("position", .int (Int64.ofNat position.column))]
      | none => []
    .map (Table.ofList
      ([("message", .string cause.message), ("source", .string source)] ++ place ++ cause.details))

/-- The error that leaves a handler which throws `cause` at `position` while it handles `err`: to
throw nothing throws the handled error again. -/
def rethrown (err : RuntimeError) (cause : Cause) (position : Option Position) : RuntimeError :=
  match cause with
  | .thrown .unit => err.withPosition position
  | cause => .plain cause position

end ScriptHost.Script
