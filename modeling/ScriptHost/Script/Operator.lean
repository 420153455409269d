import ScriptHost.Decimal.Remainder
import ScriptHost.Native.TypeTable
import ScriptHost.Script.RuntimeError

/-!
The operators of the script language on values. Integer arithmetic is checked and cuts quotients to
whole numbers; an integer beside a float counts as one. Strings can be joined with anything. Values
of different kinds can be compared, are never equal and never in order, but for numbers with numbers
and characters with strings.
-/

namespace ScriptHost.Script

/-- The name of a value's type in the signature of a call. -/
def signatureName (types : TypeTable) : ScriptValue → String
  | .string _ => "&str | ImmutableString | String"
  | value => types.nameOf value

/-- The signature of a call: the name of the function and the types of its arguments. -/
def signature (types : TypeTable) (name : String) (args : List ScriptValue) : String :=
  let names := String.intercalate ", " (args.map (signatureName types))
  s!"{name} ({names})"

/-- What an operator answers: a value, a failure, or that it is not for these operands. -/
inductive OperatorResult
  | value (value : ScriptValue)
  | failure (cause : Cause)
  | unknown

/-- The answer of a comparison, for operands that are below one another, equal, or above. -/
def compareWith (operator : String) (below equal above : Bool) : OperatorResult :=
  match operator with
  | "==" => .value (.bool equal)
  | "!=" => .value (.bool !equal)
  | "<" => .value (.bool below)
  | "<=" => .value (.bool (below || equal))
  | ">" => .value (.bool above)
  | ">=" => .value (.bool (above || equal))
  | _ => .unknown

/-- The answer of a comparison of values of different kinds. -/
def compareUnlike (operator : String) : OperatorResult :=
  match operator with
  | "!=" => .value (.bool true)
  | _ => compareWith operator false false false

/-- An integer result if it is in range, and a failure otherwise. -/
def checkedInt (failure : String) (value : Int) : OperatorResult :=
  match scriptInt? value with
  | some value => .value (.int value)
  | none => .failure (.arithmetic failure)

/-- An operator between integers. -/
def intOperator (operator : String) (a b : Int) : OperatorResult :=
  let operation := s!"{a} {operator} {b}"
  match operator with
  | "+" => checkedInt s!"Addition overflow: {operation}" (a + b)
  | "-" => checkedInt s!"Subtraction overflow: {operation}" (a - b)
  | "*" => checkedInt s!"Multiplication overflow: {operation}" (a * b)
  | "/" =>
    if b = 0 then .failure (.arithmetic s!"Division by zero: {operation}")
    else checkedInt s!"Division overflow: {operation}" (a.tdiv b)
  | "%" =>
    if b = 0 || (scriptInt? (a.tdiv b)).isNone then
      .failure (.arithmetic s!"Modulo division by zero or overflow: {operation}")
    else checkedInt operation (a.tmod b)
  | _ => compareWith operator (a < b) (a == b) (b < a)

/-- An operator between floats. -/
def floatOperator (operator : String) (a b : Float) : OperatorResult :=
  match operator with
  | "+" => .value (.float (a + b))
  | "-" => .value (.float (a - b))
  | "*" => .value (.float (a * b))
  | "/" => .value (.float (a / b))
  | "%" => .value (.float (Decimal.remainder a b))
  | _ => compareWith operator (a < b) (a == b) (b < a)

/-- The order of truth values puts `false` first. -/
def boolOperator (operator : String) (a b : Bool) : OperatorResult :=
  match operator with
  | "&" => .value (.bool (a && b))
  | "|" => .value (.bool (a || b))
  | "^" => .value (.bool (a != b))
  | _ => compareWith operator (!a && b) (a == b) (a && !b)

/-- An operator between texts, either of which may be a character. -/
def textOperator (operator : String) (a b : String) : OperatorResult :=
  match operator with
  | "+" => .value (.string (a ++ b))
  | _ => compareWith operator (a < b) (a == b) (b < a)

/-- What is left of a text without the places where another one occurs in it; nothing is taken from
or by an empty text. -/
def withoutText (a b : String) : String :=
  if b.isEmpty then a else if a.isEmpty then b else a.replace b ""

mutual

/-- Whether two values are equal; the pair of objects that cannot be compared otherwise. -/
def equal : ScriptValue → ScriptValue → Except (ScriptValue × ScriptValue) Bool
  | .unit, .unit => .ok true
  | .bool a, .bool b => .ok (a == b)
  | .int a, .int b => .ok (a == b)
  | .float a, .float b => .ok (a == b)
  | .int a, .float b => .ok (a.toFloat == b)
  | .float a, .int b => .ok (a == b.toFloat)
  | .char a, .char b => .ok (a == b)
  | .string a, .string b => .ok (a == b)
  | .char a, .string b => .ok (a.toString == b)
  | .string a, .char b => .ok (a == b.toString)
  | .array a, .array b => equalItems a b
  | .map a, .map b => equalEntries a b
  | .object a, .object b =>
    if a.type = b.type then .error (.object a, .object b) else .ok false
  | .function a, .function b => .error (.function a, .function b)
  | _, _ => .ok false

/-- Whether two arrays have equal items. -/
def equalItems : List ScriptValue → List ScriptValue → Except (ScriptValue × ScriptValue) Bool
  | [], [] => .ok true
  | a :: as, b :: bs =>
    match equal a b with
    | .ok true => equalItems as bs
    | answer => answer
  | _, _ => .ok false

/-- Whether two maps have the same keys with equal values. -/
def equalEntries : List (String × ScriptValue) → List (String × ScriptValue) →
    Except (ScriptValue × ScriptValue) Bool
  | [], [] => .ok true
  | (k, a) :: as, (l, b) :: bs =>
    if k = l then
      match equal a b with
      | .ok true => equalEntries as bs
      | answer => answer
    else .ok false
  | _, _ => .ok false

end

/-- The answer of `==` or `!=` between two arrays or two maps. -/
def equalityOperator (types : TypeTable) (operator : String) (a b : ScriptValue) :
    OperatorResult :=
  if operator = "==" || operator = "!=" then
    match equal a b with
    | .ok answer => .value (.bool (answer == (operator == "==")))
    | .error (a, b) => .failure (.functionNotFound (signature types "==" [a, b]))
  else .unknown

/-- A binary operator. -/
def binaryOperator (types : TypeTable) (objects : ObjectTexts) (operator : String) :
    ScriptValue → ScriptValue → OperatorResult
  | .int a, .int b => intOperator operator a.toInt b.toInt
  | .float a, .float b => floatOperator operator a b
  | .int a, .float b => floatOperator operator a.toFloat b
  | .float a, .int b => floatOperator operator a b.toFloat
  | .bool a, .bool b => boolOperator operator a b
  | .char a, .char b => textOperator operator a.toString b.toString
  | .char a, .string b => textOperator operator a.toString b
  | .string a, .char b =>
    if operator = "-" then .value (.string (withoutText a b.toString))
    else textOperator operator a b.toString
  | .string a, .string b =>
    if operator = "-" then .value (.string (withoutText a b)) else textOperator operator a b
  | .string a, b =>
    if operator = "+" then .value (.string (a ++ b.text objects)) else compareUnlike operator
  | a, .string b =>
    if operator = "+" then .value (.string (a.text objects ++ b)) else compareUnlike operator
  | .array a, .array b =>
    if operator = "+" then .value (.array (a ++ b))
    else equalityOperator types operator (.array a) (.array b)
  | .map a, .map b =>
    if operator = "+" then
      .value (.map (b.foldl (fun map (key, value) => Table.setSorted map key value) a))
    else equalityOperator types operator (.map a) (.map b)
  | .unit, .unit =>
    if operator = "==" then .value (.bool true)
    else if operator = "!=" then .value (.bool false)
    else compareUnlike operator
  | .object a, .object b => if a.type = b.type then .unknown else compareUnlike operator
  | .function _, .function _ => .unknown
  | _, _ => compareUnlike operator

/-- An operator with one operand. -/
def unaryOperator (operator : String) (value : ScriptValue) : OperatorResult :=
  match operator, value with
  | "-", .int a => checkedInt "integer overflow" (-a.toInt)
  | "-", .float a => .value (.float (-a))
  | "+", .int a => .value (.int a)
  | "+", .float a => .value (.float a)
  | "!", .bool a => .value (.bool !a)
  | _, _ => .unknown

/-- Applies an operator to its operands. -/
def applyOperator (types : TypeTable) (objects : ObjectTexts) (operator : String)
    (operands : List ScriptValue) : Except Cause ScriptValue :=
  let result := match operands with
    | [a] => unaryOperator operator a
    | [a, b] => binaryOperator types objects operator a b
    | _ => .unknown
  match result with
  | .value value => .ok value
  | .failure cause => .error cause
  | .unknown => .error (.functionNotFound (signature types operator operands))

end ScriptHost.Script
