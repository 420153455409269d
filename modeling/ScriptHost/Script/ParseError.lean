import ScriptHost.Script.Token

/-! The errors of a script text that is no script, and their wording. -/

namespace ScriptHost.Script

/-- Why a text is no script. -/
inductive ParseErrorKind
  | badToken (cause : LexError)
  | endOfInput
  | unknownOperator (text : String)
  | missingToken (token purpose : String)
  | badIndex (hint : String)
  | duplicatedProperty (name : String)
  | duplicatedVariable (name : String)
  | variableExpected
  | propertyExpected
  | reserved (text : String)
  | mismatchedType (expected found : String)
  | exprExpected (kind : String)
  | misplacedComment
  | misplacedFunction
  | duplicatedFunction (name : String) (arity : Nat)
  | missingName
  | missingParams (name : String)
  | duplicatedParam (function param : String)
  | missingBody (name : String)
  | assignToConstant (name : String)
  | assignToNothing
  | loopBreak
  deriving DecidableEq, Repr

/-- The wording of a parse error. -/
def ParseErrorKind.message : ParseErrorKind → String
  | .badToken cause => cause.message
  | .endOfInput => "Script is incomplete"
  | .unknownOperator text => s!"Unknown operator: '{text}'"
  | .missingToken token purpose => s!"Expecting '{token}' {purpose}"
  | .badIndex hint => s!"Invalid index in indexing expression: {hint}"
  | .duplicatedProperty name => s!"Duplicated property for object map literal: {name}"
  | .duplicatedVariable name => s!"Duplicated variable name: {name}"
  | .variableExpected => "Expecting name of a variable"
  | .propertyExpected => "Expecting name of a property"
  | .reserved text =>
    if isWordText text then s!"'{text}' is a reserved keyword" else s!"'{text}' is a reserved symbol"
  | .mismatchedType expected found => s!"Expecting {expected}, not {found}"
  | .exprExpected kind => s!"Expecting {kind} expression"
  | .misplacedComment => "Doc-comment must be followed immediately by a function definition"
  | .misplacedFunction =>
    "Function definitions must be at global level and cannot be inside a block or another function"
  | .duplicatedFunction name 0 => s!"Function {name} with no parameters already exists"
  | .duplicatedFunction name 1 => s!"Function {name} with 1 parameter already exists"
  | .duplicatedFunction name arity => s!"Function {name} with {arity} parameters already exists"
  | .missingName => "Expecting function name in function declaration"
  | .missingParams name => s!"Expecting parameters for function {name}"
  | .duplicatedParam function param => s!"Duplicated parameter {param} for function {function}"
  | .missingBody name => s!"Expecting body statement block for function {name}"
  | .assignToConstant name =>
    if name.isEmpty then "Cannot assign to a constant value" else s!"Cannot assign to constant {name}"
  | .assignToNothing => "Expression cannot be assigned to"
  | .loopBreak => "Break statement should only be used inside a loop"

/-- A parse error with its position. -/
structure ParseError where
  kind : ParseErrorKind
  position : Position
  deriving DecidableEq, Repr

/-- The wording of a parse error. -/
def ParseError.message (err : ParseError) : String := err.kind.message

end ScriptHost.Script
