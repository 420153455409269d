import ScriptHost.Script.Lexer
import ScriptHost.Script.ParseError
import ScriptHost.Script.Syntax

/-!
From tokens to syntax. The parser reads tokens from left to right with one token of look-ahead. It
knows which names are variables and which of them are constant, and collects the functions of the
script. Every parsing function takes `fuel`, which `parse` makes large enough for the number of
tokens.
-/

namespace ScriptHost.Script

/-- What the parser has in hand. -/
structure ParseState where
  tokens : List Lexeme
  /-- The variables in sight, the innermost first, with whether they are constant. -/
  scope : List (String × Bool)
  /-- The functions found so far, the last one first. -/
  functions : List Function

/-- A step of the parser. -/
abbrev Parse := StateT ParseState (Except ParseError)

/-- Where the parser is. -/
structure Place where
  globalLevel : Bool
  inFunction : Bool
  inLoop : Bool

namespace Place

/-- A place within a block. -/
def inBlock (place : Place) : Place := { place with globalLevel := false }

/-- A place within the body of a loop. -/
def inBody (place : Place) : Place := { place with inLoop := true }

end Place

namespace Parse

/-- Fails at a position. -/
def fail {α : Type} (kind : ParseErrorKind) (position : Position) : Parse α :=
  throw ⟨kind, position⟩

/-- The next token, which stays. -/
def peek : Parse Lexeme := do
  return (← get).tokens.headD (.endOfInput, ⟨1, 1⟩)

/-- The next token, which is taken; the last one stays. -/
def next : Parse Lexeme := do
  let state ← get
  match state.tokens with
  | [] => return (.endOfInput, ⟨1, 1⟩)
  | [lexeme] => return lexeme
  | lexeme :: rest =>
    set { state with tokens := rest }
    return lexeme

/-- Whether a token is the mark `text`. -/
def isMark (text : String) : Token → Bool
  | .mark other => other == text
  | _ => false

/-- Takes the mark `text` if it comes next, and tells whether it did. -/
def accept (text : String) : Parse Bool := do
  let (token, _) ← peek
  if isMark text token then
    discard next
    return true
  else return false

/-- Takes the mark `text`; anything else is an error that states its purpose. -/
def expect (text purpose : String) : Parse Position := do
  let (token, position) ← next
  match token with
  | .error cause => fail (.badToken cause) position
  | token => if isMark text token then return position else fail (.missingToken text purpose) position

/-- Takes the name of a variable. -/
def variableName : Parse (String × Position) := do
  let (token, position) ← next
  match token with
  | .identifier name => return (name, position)
  | .reserved text =>
    if isWordText text then fail (.reserved text) position else fail .variableExpected position
  | .error cause => fail (.badToken cause) position
  | _ => fail .variableExpected position

/-- Makes a variable known from here on. -/
def declare (name : String) (constant : Bool) : Parse Unit :=
  modify fun state => { state with scope := (name, constant) :: state.scope }

/-- Runs `action`; the variables it makes known are forgotten afterwards. -/
def withScope {α : Type} (action : Parse α) : Parse α := do
  let scope := (← get).scope
  let result ← action
  modify fun state => { state with scope := scope }
  return result

end Parse

open Parse

/-- How tightly a token binds as a binary operator, zero for all others. -/
def precedence (token : Token) : Nat :=
  match token with
  | .mark text =>
    if text = "||" || text = "^" || text = "|" then 30
    else if text = "&&" || text = "&" then 60
    else if text = "==" || text = "!=" then 90
    else if text = "in" then 110
    else if text = "<" || text = "<=" || text = ">" || text = ">=" then 130
    else if text = "??" then 135
    else if text = ".." || text = "..=" then 140
    else if text = "+" || text = "-" then 150
    else if text = "/" || text = "*" || text = "%" then 180
    else if text = "**" then 190
    else if text = "<<" || text = ">>" then 210
    else 0
  | _ => 0

/-- The precedence of the next token as a binary operator; a reserved symbol is no operator. -/
def nextPrecedence : Parse Nat := do
  match ← peek with
  | (.reserved text, position) =>
    if isWordText text then return 0 else fail (.unknownOperator text) position
  | (token, _) => return precedence token

/-- The operators that an assignment can be combined with. -/
def combinedOperator? (token : Token) : Option String :=
  match token with
  | .mark "+=" => some "+"
  | .mark "-=" => some "-"
  | .mark "*=" => some "*"
  | .mark "/=" => some "/"
  | .mark "%=" => some "%"
  | .mark "**=" => some "**"
  | .mark "<<=" => some "<<"
  | .mark ">>=" => some ">>"
  | .mark "&=" => some "&"
  | .mark "|=" => some "|"
  | .mark "^=" => some "^"
  | _ => none

/-- What a literal is called where a condition is expected. -/
def notCondition? : Expr → Option String
  | .int _ => some "a number"
  | .float _ => some "a floating-point number"
  | .char _ => some "a character"
  | .string _ => some "a string"
  | .text _ => some "a string"
  | .array _ => some "an array"
  | .map _ => some "an object map"
  | _ => none

/-- What a literal is called where something to iterate over is expected. -/
def notIterable? : Expr → Option String
  | .unit => some "()"
  | .bool _ => some "a boolean"
  | .int _ => some "a number"
  | .float _ => some "a floating-point number"
  | .char _ => some "a character"
  | .string _ => some "a string"
  | .text _ => some "a string"
  | .map _ => some "an object map"
  | _ => none

/-- Refuses a block or the end of the input where an expression is expected. -/
def refuseBlock (kind : String) : Parse Unit := do
  match ← peek with
  | (.mark "\x7b", position) => fail (.exprExpected kind) position
  | (.endOfInput, position) => fail (.exprExpected kind) position
  | _ => return ()

/-- Refuses an assignment behind a condition. -/
def refuseAssignment : Parse Unit := do
  match ← peek with
  | (.mark "=", position) =>
    fail (.badToken (.foreignSymbol "Possibly a typo of '=='?")) position
  | _ => return ()

/-- Whether a chain of properties and indexes ends in something that can be changed. -/
def hasPlace : Expr → Bool
  | .name _ _ => true
  | .this _ => true
  | .property object _ _ => hasPlace object
  | .index object _ _ => hasPlace object
  | .method object _ _ _ => hasPlace object
  | _ => false

/-- Checks that an expression can be assigned to; `position` is where it begins. -/
def checkTarget (target : Expr) (position operatorPosition : Position) : Parse Unit := do
  match target with
  | .name name place =>
    match (← get).scope.find? (·.1 == name) with
    | some (_, true) => fail (.assignToConstant name) place
    | _ => return ()
  | .this _ => return ()
  | .property object _ _ => if hasPlace object then return () else fail .assignToNothing position
  | .index object _ _ => if hasPlace object then return () else fail .assignToNothing position
  | .and _ _ _ => fail (.badToken (.foreignSymbol "Possibly a typo of '=='?")) operatorPosition
  | .or _ _ _ => fail (.badToken (.foreignSymbol "Possibly a typo of '=='?")) operatorPosition
  | target =>
    if target.isLiteral then fail (.assignToConstant "") position
    else fail .assignToNothing position

/-- A binary expression. -/
def binary (operator : String) (left right : Expr) (position : Position) : Expr :=
  if operator = "&&" then .and left right position
  else if operator = "||" then .or left right position
  else if operator = "??" then .coalesce left right
  else .operator operator [left, right] position

/-- The negation of an expression; that of a number is a number again. -/
def negate (value : Expr) (position : Position) : Expr :=
  match value with
  | .int n => if n = Int64.minValue then .float (-n.toFloat) else .int (-n)
  | .float x => .float (-x)
  | value => .operator "-" [value] position

/-- Takes away up to `count` leading blanks. -/
def unindent (count : Nat) (line : List Char) : List Char :=
  match count, line with
  | count + 1, c :: rest => if Text.isBlank c then unindent count rest else c :: rest
  | _, line => line

/-- A block comment whose lines are moved left as far as its first one stands from the margin. -/
def unindentComment (column : Nat) (text : String) : String :=
  String.intercalate "\n"
    ((Text.pieces '\n' text.toList).map fun line => String.ofList (unindent (column - 1) line))

/-- The documentation comments before a function, as far as `lines` has collected the single-line
ones and `done` the others. Consecutive single-line comments make one comment. -/
def takeComments (fuel : Nat) (first : Position) (lines : List String) (done : List String) :
    Parse (List String) := do
  let flush := if lines.isEmpty then done else done ++ [String.intercalate "\n" lines]
  match fuel with
  | 0 => return flush
  | fuel + 1 =>
    match ← peek with
    | (.comment text, position) =>
      discard next
      let (lines, done) :=
        if text.toList.contains '\n' then ([], flush ++ [unindentComment position.column text])
        else (lines ++ [text], done)
      match ← peek with
      | (.comment _, _) => takeComments fuel first lines done
      | (.mark "fn", _) => takeComments fuel first lines done
      | (.mark "private", _) => takeComments fuel first lines done
      | _ => fail .misplacedComment first
    | _ => return flush

/-- The parameters of a function, whose opening parenthesis is taken. -/
def takeParams (fuel : Nat) (name : String) (params : List String) : Parse (List String) := do
  match fuel with
  | 0 => return params
  | fuel + 1 =>
    match ← next with
    | (.mark ")", _) => return params
    | (.identifier param, position) =>
      if params.contains param then fail (.duplicatedParam name param) position
      else
        match ← next with
        | (.mark ")", _) => return params ++ [param]
        | (.mark ",", _) => takeParams fuel name (params ++ [param])
        | (.error cause, position) => fail (.badToken cause) position
        | (_, position) =>
          fail (.missingToken "," s!"to separate the parameters of function '{name}'") position
    | (.error cause, position) => fail (.badToken cause) position
    | (_, position) =>
      fail (.missingToken ")" s!"to close the parameters list of function '{name}'") position

mutual

/-- An expression. -/
def parseExpr (fuel : Nat) (place : Place) : Parse Expr := do
  match fuel with
  | 0 => return .unit
  | fuel + 1 =>
    let left ← parseUnary fuel place
    parseBinary fuel place 1 left

/-- What follows the operand `left`, as far as it binds more tightly than `bound`. -/
def parseBinary (fuel : Nat) (place : Place) (bound : Nat) (left : Expr) : Parse Expr := do
  match fuel with
  | 0 => return left
  | fuel + 1 =>
    let level ← nextPrecedence
    let bindsRight := level == 190
    if level < bound || (level == bound && !bindsRight) then return left
    else
      let (token, position) ← next
      let right ← parseUnary fuel place
      let following ← nextPrecedence
      let right ←
        if (level == following && bindsRight) || level < following then
          parseBinary fuel place level right
        else pure right
      parseBinary fuel place bound (binary token.text left right position)

/-- An operand with its signs. -/
def parseUnary (fuel : Nat) (place : Place) : Parse Expr := do
  match fuel with
  | 0 => return .unit
  | fuel + 1 =>
    match ← peek with
    | (.mark "-", position) =>
      discard next
      return negate (← parseUnary fuel place) position
    | (.mark "+", position) =>
      discard next
      match ← parseUnary fuel place with
      | .int n => return .int n
      | .float x => return .float x
      | value => return .operator "+" [value] position
    | (.mark "!", position) =>
      discard next
      return .operator "!" [← parseUnary fuel place] position
    | (.endOfInput, position) => fail .endOfInput position
    | _ => parsePrimary fuel place

/-- An operand. -/
def parsePrimary (fuel : Nat) (place : Place) : Parse Expr := do
  match fuel with
  | 0 => return .unit
  | fuel + 1 =>
    let (token, position) ← peek
    let root ← match token with
      | .int value => do discard next; pure (Expr.int value)
      | .float value => do discard next; pure (Expr.float value)
      | .char value => do discard next; pure (Expr.char value)
      | .string value => do discard next; pure (Expr.string value)
      | .interpolated value => do
        discard next
        parseText fuel place (if value.isEmpty then [] else [.string value])
      | .identifier name => do discard next; parseName fuel place name position
      | .reserved name => do
        discard next
        let (following, _) ← peek
        if isCallableWord name && (isMark "(" following || isMark "()" following) then
          parseName fuel place name position
        else if name = "this" then
          if place.inFunction then pure (Expr.this position)
          else
            fail (.badToken (.foreignSymbol "'this' can only be used in functions")) position
        else fail (.reserved name) position
      | .error cause => fail (.badToken cause) position
      | .mark mark => parseMarked fuel place mark position
      | token => fail (.badToken (.unexpected token.text)) position
    parsePostfix fuel place root

/-- An operand that begins with a mark. -/
def parseMarked (fuel : Nat) (place : Place) (mark : String) (position : Position) :
    Parse Expr := do
  match fuel with
  | 0 => return .unit
  | fuel + 1 =>
    if mark = "()" then
      discard next
      return .unit
    else if mark = "true" || mark = "false" then
      discard next
      return .bool (mark == "true")
    else if mark = "(" then
      discard next
      let value ← parseExpr fuel place
      discard <| expect ")" "for a matching ( in this expression"
      return value
    else if mark = "\x7b" then
      return .statement (.block (← parseBlock fuel place))
    else if mark = "if" then return .statement (← parseIf fuel place)
    else if mark = "while" || mark = "loop" then return .statement (← parseLoop fuel place)
    else if mark = "do" then return .statement (← parseDo fuel place)
    else if mark = "for" then return .statement (← parseFor fuel place)
    else if mark = "[" then
      discard next
      return .array (← parseItems fuel place)
    else if mark = "#\x7b" then
      discard next
      return .map (← parseEntries fuel place [])
    else fail (.badToken (.unexpected mark)) position

/-- What a name is: a variable, a call, or a name in another module. -/
def parseName (fuel : Nat) (place : Place) (name : String) (position : Position) :
    Parse Expr := do
  match fuel with
  | 0 => return .unit
  | fuel + 1 =>
    match ← peek with
    | (.mark "()", _) =>
      discard next
      return .call name [] position
    | (.mark "(", _) =>
      discard next
      return .call name (← parseArgs fuel place name) position
    | (.mark "!", _) =>
      discard next
      match ← next with
      | (.mark "()", _) => return .call name [] position
      | (.mark "(", _) => return .call name (← parseArgs fuel place name) position
      | (_, position) =>
        fail (.missingToken "(" "to start arguments list of function call") position
    | (.mark "::", _) =>
      discard next
      let (inner, innerPosition) ← variableName
      match ← peek with
      | (.mark "()", _) =>
        discard next
        return .qualifiedCall name inner [] position
      | (.mark "(", _) =>
        discard next
        return .qualifiedCall name inner (← parseArgs fuel place inner) position
      | _ => return .qualified name inner innerPosition
    | _ => return .name name position

/-- What follows an operand: properties, methods and indexes. -/
def parsePostfix (fuel : Nat) (place : Place) (object : Expr) : Parse Expr := do
  match fuel with
  | 0 => return object
  | fuel + 1 =>
    let (token, _) ← peek
    if isMark "." token || isMark "?." token then
      discard next
      let (token, position) ← next
      let name ← match token with
        | .identifier name => pure name
        | .reserved name =>
          if isMethodWord name then pure name else fail (.reserved name) position
        | _ => fail .propertyExpected position
      match ← peek with
      | (.mark "()", _) =>
        discard next
        parsePostfix fuel place (.method object name [] position)
      | (.mark "(", _) =>
        discard next
        let args ← parseArgs fuel place name
        parsePostfix fuel place (.method object name args position)
      | _ => parsePostfix fuel place (.property object name position)
    else if isMark "[" token || isMark "?[" token then
      discard next
      let (_, position) ← peek
      let index ← parseExpr fuel place
      discard <| expect "]" "for a matching [ in this index expression"
      parsePostfix fuel place (.index object index position)
    else return object

/-- The arguments of a call, whose opening parenthesis is taken. -/
def parseArgs (fuel : Nat) (place : Place) (name : String) : Parse (List Expr) := do
  match fuel with
  | 0 => return []
  | fuel + 1 =>
    match ← peek with
    | (.mark ")", _) =>
      discard next
      return []
    | (.endOfInput, position) =>
      fail (.missingToken ")" s!"to close the arguments list of this function call '{name}'")
        position
    | (.error cause, position) => fail (.badToken cause) position
    | _ =>
      let arg ← parseExpr fuel place
      match ← peek with
      | (.mark ")", _) =>
        discard next
        return [arg]
      | (.mark ",", _) =>
        discard next
        return arg :: (← parseArgs fuel place name)
      | (.endOfInput, position) =>
        fail (.missingToken ")" s!"to close the arguments list of this function call '{name}'")
          position
      | (.error cause, position) => fail (.badToken cause) position
      | (_, position) =>
        fail (.missingToken "," s!"to separate the arguments to function call '{name}'") position

/-- The items of an array, whose opening bracket is taken. -/
def parseItems (fuel : Nat) (place : Place) : Parse (List Expr) := do
  match fuel with
  | 0 => return []
  | fuel + 1 =>
    match ← peek with
    | (.mark "]", _) =>
      discard next
      return []
    | (.endOfInput, position) => fail (.missingToken "]" "to end this array literal") position
    | _ =>
      let item ← parseExpr fuel place
      match ← peek with
      | (.mark ",", _) => discard next
      | (.mark "]", _) => pure ()
      | (.endOfInput, position) => fail (.missingToken "]" "to end this array literal") position
      | (.error cause, position) => fail (.badToken cause) position
      | (_, position) =>
        fail (.missingToken "," "to separate the items of this array literal") position
      return item :: (← parseItems fuel place)

/-- The entries of a map, whose opening mark is taken, behind entries with the keys `keys`. -/
def parseEntries (fuel : Nat) (place : Place) (keys : List String) :
    Parse (List (String × Expr)) := do
  match fuel with
  | 0 => return []
  | fuel + 1 =>
    let (token, position) ← next
    let entry (name : String) : Parse (List (String × Expr)) := do
      if keys.contains name then fail (.duplicatedProperty name) position
      else
        discard <| expect ":" s!"to follow the property '{name}' in this object map literal"
        let value ← parseExpr fuel place
        match ← peek with
        | (.mark ",", _) => discard next
        | (.mark "\x7d", _) => pure ()
        | (.identifier _, position) =>
          fail (.missingToken "," "to separate the items of this object map literal") position
        | (.error cause, position) => fail (.badToken cause) position
        | (_, position) => fail (.missingToken "\x7d" "to end this object map literal") position
        return (name, value) :: (← parseEntries fuel place (name :: keys))
    match token with
    | .mark "\x7d" => return []
    | .endOfInput => fail (.missingToken "\x7d" "to end this object map literal") position
    | .identifier name => entry name
    | .string name => entry name
    | .reserved name =>
      if isWordText name then fail (.reserved name) position else fail .propertyExpected position
    | .error cause => fail (.badToken cause) position
    | _ => fail .propertyExpected position

/-- The rest of a text literal with embedded blocks, behind the parts `parts`. -/
def parseText (fuel : Nat) (place : Place) (parts : List Expr) : Parse Expr := do
  match fuel with
  | 0 => return .text parts
  | fuel + 1 =>
    let body ← parseBlock fuel place
    let parts := parts ++ [.statement (.block body)]
    let (token, position) ← next
    match token with
    | .string piece => return .text (if piece.isEmpty then parts else parts ++ [.string piece])
    | .interpolated piece =>
      parseText fuel place (if piece.isEmpty then parts else parts ++ [.string piece])
    | .error cause => fail (.badToken cause) position
    | token => fail (.badToken (.unexpected token.text)) position

/-- A block in braces. -/
def parseBlock (fuel : Nat) (place : Place) : Parse (List Stmt) := do
  match fuel with
  | 0 => return []
  | fuel + 1 =>
    discard <| expect "\x7b" "to start a statement block"
    withScope (parseStatements fuel place.inBlock)

/-- The statements of a block up to its closing brace. -/
def parseStatements (fuel : Nat) (place : Place) : Parse (List Stmt) := do
  match fuel with
  | 0 => return []
  | fuel + 1 =>
    match ← peek with
    | (.mark "\x7d", _) =>
      discard next
      return []
    | (.endOfInput, position) => fail (.missingToken "\x7d" "to terminate this block") position
    | _ =>
      let stmt ← parseStmt fuel place
      if stmt.isNoop then parseStatements fuel place
      else
        match ← peek with
        | (.mark "\x7d", _) =>
          discard next
          return [stmt]
        | (.mark ";", _) =>
          discard next
          return stmt :: (← parseStatements fuel place)
        | (token, position) =>
          if stmt.endsItself then return stmt :: (← parseStatements fuel place)
          else
            match token with
            | .error cause => fail (.badToken cause) position
            | _ => fail (.missingToken ";" "to terminate this statement") position

/-- A conditional, which begins with its keyword. -/
def parseIf (fuel : Nat) (place : Place) : Parse Stmt := do
  match fuel with
  | 0 => return .noop
  | fuel + 1 =>
    discard next
    let (condition, position) ← parseCondition fuel place
    let body ← parseBlock fuel place
    if ← accept "else" then
      match ← peek with
      | (.mark "if", _) => return .ifElse condition body [← parseIf fuel place] position
      | _ => return .ifElse condition body (← parseBlock fuel place) position
    else return .ifElse condition body [] position

/-- The condition of a conditional or a loop, with its position. -/
def parseCondition (fuel : Nat) (place : Place) : Parse (Expr × Position) := do
  match fuel with
  | 0 => return (.unit, ⟨1, 1⟩)
  | fuel + 1 =>
    refuseBlock "a boolean"
    let (_, position) ← peek
    let condition ← parseExpr fuel place
    match notCondition? condition with
    | some found => fail (.mismatchedType "a boolean expression" found) position
    | none =>
      refuseAssignment
      return (condition, position)

/-- A loop with or without a condition, which begins with its keyword. -/
def parseLoop (fuel : Nat) (place : Place) : Parse Stmt := do
  match fuel with
  | 0 => return .noop
  | fuel + 1 =>
    let (token, position) ← next
    if isMark "while" token then
      let (condition, place') ← parseCondition fuel place
      return .loop (some condition) (← parseBlock fuel place.inBody) place'
    else return .loop none (← parseBlock fuel place.inBody) position

/-- A loop with its condition at the end, which begins with its keyword. -/
def parseDo (fuel : Nat) (place : Place) : Parse Stmt := do
  match fuel with
  | 0 => return .noop
  | fuel + 1 =>
    discard next
    let body ← parseBlock fuel place.inBody
    let (token, position) ← next
    if isMark "while" token || isMark "until" token then
      let (condition, position) ← parseCondition fuel place
      return .doLoop body condition (isMark "while" token) position
    else fail (.missingToken "while" "for the do statement") position

/-- A loop over the items of something, which begins with its keyword. -/
def parseFor (fuel : Nat) (place : Place) : Parse Stmt := do
  match fuel with
  | 0 => return .noop
  | fuel + 1 =>
    discard next
    let (name, counter) ←
      if ← accept "(" then
        let (name, _) ← variableName
        discard <| expect "," "after the iteration variable name"
        let (counter, position) ← variableName
        if counter = name then fail (.duplicatedVariable counter) position
        else
          discard <| expect ")" "to close the iteration variable"
          pure (name, some counter)
      else
        let (name, _) ← variableName
        pure (name, none)
    discard <| expect "in" "after the iteration variable"
    refuseBlock "a boolean"
    let (_, position) ← peek
    let range ← parseExpr fuel place
    match notIterable? range with
    | some found => fail (.mismatchedType "an iterable expression" found) position
    | none =>
      withScope do
        if let some counter := counter then declare counter false
        declare name false
        return .forIn name counter range (← parseBlock fuel place.inBody) position

/-- A guarded block, which begins with its keyword. -/
def parseTry (fuel : Nat) (place : Place) : Parse Stmt := do
  match fuel with
  | 0 => return .noop
  | fuel + 1 =>
    discard next
    let body ← parseBlock fuel place
    discard <| expect "catch" "for the 'try' statement"
    let caught ←
      if ← accept "(" then
        let (name, _) ← variableName
        discard <| expect ")" "to enclose the catch variable"
        pure (some name)
      else pure none
    withScope do
      if let some name := caught then declare name false
      return .tryCatch body caught (← parseBlock fuel place)

/-- A declaration, which begins with its keyword. -/
def parseLet (fuel : Nat) (place : Place) (constant : Bool) : Parse Stmt := do
  match fuel with
  | 0 => return .noop
  | fuel + 1 =>
    discard next
    let (name, position) ← variableName
    let value ← if ← accept "=" then pure (some (← parseExpr fuel place)) else pure none
    declare name constant
    return .declare name constant value position

/-- The optional value behind a keyword that leaves a loop or a function. -/
def parseValue (fuel : Nat) (place : Place) (allowBrace : Bool) : Parse (Option Expr) := do
  match fuel with
  | 0 => return none
  | fuel + 1 =>
    match ← peek with
    | (.endOfInput, _) => return none
    | (.mark ";", _) => return none
    | (.mark "\x7d", _) => if allowBrace then return none else return some (← parseExpr fuel place)
    | _ => return some (← parseExpr fuel place)

/-- A function, behind its documentation comments. -/
def parseFunction (fuel : Nat) (comments : List String) : Parse Stmt := do
  match fuel with
  | 0 => return .noop
  | fuel + 1 =>
    let isPublic := !(← accept "private")
    let (token, position) ← next
    if !isMark "fn" token then fail (.missingToken "fn" "following 'private'") position
    else
      let scope := (← get).scope
      modify fun state => { state with scope := [] }
      let name ← match ← next with
        | (.identifier name, _) => pure name
        | (.reserved name, position) => fail (.reserved name) position
        | (_, position) => fail .missingName position
      let params ← match ← peek with
        | (.mark "()", _) => do
          discard next
          pure []
        | (.mark "(", _) => do
          discard next
          takeParams fuel name []
        | (_, position) => fail (.missingParams name) position
      params.forM fun param => declare param false
      let body ← match ← peek with
        | (.mark "\x7b", _) => parseBlock fuel ⟨false, true, false⟩
        | (_, position) => fail (.missingBody name) position
      let function : Function := ⟨name, params, isPublic, comments, body⟩
      let state ← get
      if state.functions.any fun other => other.name == name && other.arity == function.arity then
        fail (.duplicatedFunction name function.arity) position
      else
        set { state with scope := scope, functions := function :: state.functions }
        return .noop

/-- A statement. A function definition gives an empty one. -/
def parseStmt (fuel : Nat) (place : Place) : Parse Stmt := do
  match fuel with
  | 0 => return .noop
  | fuel + 1 =>
    let (token, position) ← peek
    match token with
    | .comment _ =>
      if !place.globalLevel then fail .misplacedComment position
      else parseFunction fuel (← takeComments fuel position [] [])
    | .endOfInput => return .noop
    | .mark mark =>
      if mark = ";" then
        discard next
        return .noop
      else if mark = "\x7b" then return .block (← parseBlock fuel place)
      else if mark = "fn" && !place.globalLevel then fail .misplacedFunction position
      else if mark = "fn" || mark = "private" then parseFunction fuel []
      else if mark = "if" then parseIf fuel place
      else if mark = "while" || mark = "loop" then parseLoop fuel place
      else if mark = "do" then parseDo fuel place
      else if mark = "for" then parseFor fuel place
      else if mark = "continue" && place.inLoop then
        discard next
        return .continueLoop
      else if mark = "break" && place.inLoop then
        discard next
        return .breakLoop (← parseValue fuel place true)
      else if mark = "continue" || mark = "break" then fail .loopBreak position
      else if mark = "return" then
        discard next
        return .returnValue (← parseValue fuel place (!place.globalLevel))
      else if mark = "throw" then
        discard next
        return .throwValue (← parseValue fuel place (!place.globalLevel)) position
      else if mark = "try" then parseTry fuel place
      else if mark = "let" then parseLet fuel place false
      else if mark = "const" then parseLet fuel place true
      else parseExprStmt fuel place position
    | _ => parseExprStmt fuel place position

/-- An expression or an assignment. -/
def parseExprStmt (fuel : Nat) (place : Place) (position : Position) : Parse Stmt := do
  match fuel with
  | 0 => return .noop
  | fuel + 1 =>
    let target ← parseExpr fuel place
    let (token, operatorPosition) ← peek
    let assignment (operator : Option String) : Parse Stmt := do
      discard next
      let value ← parseExpr fuel place
      checkTarget target position operatorPosition
      return .assign target operator value operatorPosition
    if isMark "=" token then assignment none
    else
      match combinedOperator? token with
      | some operator => assignment (some operator)
      | none => return .expr target

end

/-- The statements of a script up to the end of the input. -/
def parseScript (fuel : Nat) : Parse (List Stmt) := do
  match fuel with
  | 0 => return []
  | fuel + 1 =>
    match ← peek with
    | (.endOfInput, _) => return []
    | _ =>
      let stmt ← parseStmt (16 * fuel) ⟨true, false, false⟩
      if stmt.isNoop then parseScript fuel
      else
        match ← peek with
        | (.endOfInput, _) => return [stmt]
        | (.mark ";", _) =>
          if !stmt.endsItself then discard next
          return stmt :: (← parseScript fuel)
        | (.error cause, position) => fail (.badToken cause) position
        | (_, position) =>
          if stmt.endsItself then return stmt :: (← parseScript fuel)
          else fail (.missingToken ";" "to terminate this statement") position

/-- Parses a script. -/
def parse (text : List Char) : Except ParseError Program :=
  let tokens := lex text
  match (parseScript (tokens.length + 2)).run ⟨tokens, [], []⟩ with
  | .error err => .error err
  | .ok (statements, state) => .ok ⟨state.functions.reverse, statements⟩

end ScriptHost.Script
