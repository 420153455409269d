import ScriptHost.Script.Token

/-!
The abstract syntax of scripts. A script is a list of statements and a list of functions; a function
has a name, parameters, a body, and the documentation comments before it.
-/

namespace ScriptHost.Script

mutual

/-- Expressions. Operators are calls of functions with the operator's name. -/
inductive Expr
  | unit
  | bool (value : Bool)
  | int (value : Int64)
  | float (value : Float)
  | char (value : Char)
  | string (value : String)
  /-- A text literal with embedded blocks. -/
  | text (parts : List Expr)
  | array (items : List Expr)
  | map (entries : List (String × Expr))
  | name (name : String) (position : Position)
  | this (position : Position)
  /-- A name in another module. -/
  | qualified (module name : String) (position : Position)
  | operator (name : String) (operands : List Expr) (position : Position)
  | call (name : String) (args : List Expr) (position : Position)
  /-- A call of a function in another module. -/
  | qualifiedCall (module name : String) (args : List Expr) (position : Position)
  | property (object : Expr) (name : String) (position : Position)
  | method (object : Expr) (name : String) (args : List Expr) (position : Position)
  | index (object : Expr) (index : Expr) (position : Position)
  | and (left right : Expr) (position : Position)
  | or (left right : Expr) (position : Position)
  | coalesce (left right : Expr)
  /-- A statement in the place of an expression. -/
  | statement (body : Stmt)

/-- Statements. -/
inductive Stmt
  | noop
  | declare (name : String) (constant : Bool) (value : Option Expr) (position : Position)
  /-- An assignment; `operator` is the operator of a combined one. -/
  | assign (target : Expr) (operator : Option String) (value : Expr) (position : Position)
  | expr (value : Expr)
  | block (body : List Stmt)
  | ifElse (condition : Expr) (thenBody elseBody : List Stmt) (position : Position)
  /-- A loop, under a condition if it has one. -/
  | loop (condition : Option Expr) (body : List Stmt) (position : Position)
  /-- A loop whose condition is looked at after each round and has to have the value `while`. -/
  | doLoop (body : List Stmt) (condition : Expr) (while_ : Bool) (position : Position)
  | forIn (name : String) (counter : Option String) (range : Expr) (body : List Stmt)
      (position : Position)
  | breakLoop (value : Option Expr)
  | continueLoop
  | returnValue (value : Option Expr)
  | throwValue (value : Option Expr) (position : Position)
  | tryCatch (body : List Stmt) (name : Option String) (handler : List Stmt)

end

instance : Inhabited Expr := ⟨.unit⟩
instance : Inhabited Stmt := ⟨.noop⟩

/-- A function of a script. -/
structure Function where
  name : String
  params : List String
  isPublic : Bool
  /-- The documentation comments, as written. -/
  comments : List String
  body : List Stmt

/-- The number of parameters of a function. -/
def Function.arity (function : Function) : Nat :=
  function.params.length

/-- A parsed script. -/
structure Program where
  functions : List Function
  statements : List Stmt

namespace Program

/-- The function with a name and a number of parameters. -/
def function? (program : Program) (name : String) (arity : Nat) : Option Function :=
  program.functions.find? fun function => function.name == name && function.arity == arity

/-- Whether the script has functions of that name. -/
def hasFunction (program : Program) (name : String) : Bool :=
  program.functions.any (·.name == name)

end Program

/-- Whether a statement is complete without a semicolon. -/
def Stmt.endsItself : Stmt → Bool
  | .block _ => true
  | .ifElse _ _ _ _ => true
  | .loop _ _ _ => true
  | .forIn _ _ _ _ _ => true
  | .tryCatch _ _ _ => true
  | _ => false

/-- Whether a statement is empty. -/
def Stmt.isNoop : Stmt → Bool
  | .noop => true
  | _ => false

/-- Whether an expression is a literal without parts. -/
def Expr.isLiteral : Expr → Bool
  | .unit => true
  | .bool _ => true
  | .int _ => true
  | .float _ => true
  | .char _ => true
  | .string _ => true
  | _ => false

mutual

/-- Whether evaluating an expression has no effect and no need to be done unless its value is
used. -/
def Expr.isPure : Expr → Bool
  | .text parts => allPure parts
  | .array items => allPure items
  | .map entries => entriesPure entries
  | .and left right _ => left.isPure && right.isPure
  | .or left right _ => left.isPure && right.isPure
  | .coalesce left right => left.isPure && right.isPure
  | .name _ _ => true
  | expr => expr.isLiteral

/-- Whether all expressions are pure. -/
def allPure : List Expr → Bool
  | [] => true
  | expr :: rest => expr.isPure && allPure rest

/-- Whether the values of all entries are pure. -/
def entriesPure : List (String × Expr) → Bool
  | [] => true
  | (_, expr) :: rest => expr.isPure && entriesPure rest

end

/-- A block without the statements that are pure expressions, of which only the last one matters. -/
def dropPure : List Stmt → List Stmt
  | [] => []
  | [stmt] => [stmt]
  | .expr value :: next :: rest =>
    if value.isPure then dropPure (next :: rest) else .expr value :: dropPure (next :: rest)
  | stmt :: next :: rest => stmt :: dropPure (next :: rest)

end ScriptHost.Script
