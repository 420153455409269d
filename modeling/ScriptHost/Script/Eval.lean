import ScriptHost.Script.Native
import ScriptHost.Script.Parser
import ScriptHost.Script.Run

/-!
Running scripts. Every function takes `fuel`; a run whose fuel is used up ends like one that is
stopped from outside. Values are copied, so a change of a part of a value is a change of the variable
that the value stands in: a chain of properties, indexes and methods is followed down to its last
link, and what has changed is put back link by link. The functions for chains therefore give what
has become of the value they begin with, also when they fail.
-/

namespace ScriptHost.Script

open Eval

/-- The end of a run without fuel. -/
def outOfFuel : Signal := .error (.plain .terminated none)

/-- A link of a chain, with the expressions in it. -/
inductive LinkExpr
  | property (name : String) (position : Position)
  | index (index : Expr) (position : Position)
  | method (name : String) (args : List Expr) (position : Position)

/-- A link of a chain, with the values in it. -/
inductive Link
  | property (name : String) (position : Position)
  | index (index : ScriptValue) (position : Position)
  | method (name : String) (args : List ScriptValue) (position : Position)

/-- Splits a chain of properties, indexes and methods into what it begins with and its links. -/
def Expr.chain : Expr → Expr × List LinkExpr
  | .property object key place =>
    let (root, links) := object.chain
    (root, links ++ [.property key place])
  | .index object key place =>
    let (root, links) := object.chain
    (root, links ++ [.index key place])
  | .method object key args place =>
    let (root, links) := object.chain
    (root, links ++ [.method key args place])
  | expr => (expr, [])

/-- Where an expression begins, if it is known. -/
def Expr.position? : Expr → Option Position
  | .name _ position => some position
  | .this position => some position
  | .qualified _ _ position => some position
  | .call _ _ position => some position
  | .qualifiedCall _ _ _ position => some position
  | .property object _ _ => object.position?
  | .method object _ _ _ => object.position?
  | .index object _ _ => object.position?
  | .operator _ [operand] position => operand.position?.or (some position)
  | .operator _ (operand :: _) _ => operand.position?
  | .and left _ _ => left.position?
  | .or left _ _ => left.position?
  | _ => none

/-- How a call ends for the caller at `position`: a function may return its value early, and an error
leaves the call. -/
def leaveCall (name : String) (position : Option Position) :
    Except Signal ScriptValue → Except Signal ScriptValue
  | .error (.leaveFunction value) => .ok value
  | .error (.error err) => .error (.error (err.leaving name position))
  | result => result

/-- Applies the operator of a combined assignment. A value that is no array goes to the end of an
array. -/
def combine (env : Surroundings) (operator : String) (old value : ScriptValue) :
    Except Cause ScriptValue :=
  match operator, old, value with
  | "+", .array items, .array more => .ok (.array (items ++ more))
  | "+", .array items, value => .ok (.array (items ++ [value]))
  | operator, old, value => applyOperator env.types env.objectTexts operator [old, value]

/-- What an assignment of `value` makes of the old value of its target. -/
def assigned (operator : Option String) (old value : ScriptValue) (position : Position) :
    Eval ScriptValue := do
  match operator with
  | none => return value
  | some operator => orFail (combine (← read) operator old value) position

/-- The value of a property. -/
def propertyOf (target : ScriptValue) (name : String) (position : Position) : Eval ScriptValue := do
  let env ← read
  match target with
  | .map entries => return (Table.get? entries name).getD .unit
  | .object ref =>
    match objectProperty? env (← get).host ref name with
    | some value => return value
    | none => fail (.unknownProperty name (env.types.nameOf target)) position
  | target => fail (.unknownProperty name (env.types.nameOf target)) position

/-- Sets a property of an object; tells whether it takes such a value. -/
def setObject (ref : ObjectRef) (name : String) (value : ScriptValue) : Eval Bool := do
  match setObjectProperty? (← read) (← get).host ref name value with
  | some host =>
    modify fun state => { state with host := host }
    return true
  | none => return false

/-- Sets a property and gives what becomes of the target. -/
def setProperty (target : ScriptValue) (name : String) (value : ScriptValue)
    (position : Position) : Eval ScriptValue := do
  let types := (← read).types
  let refuse : Eval ScriptValue :=
    fail (.readOnlyProperty name (types.nameOf target) (types.nameOf value)) position
  match target with
  | .map entries => return .map (Table.setSorted entries name value)
  | .object ref => if ← setObject ref name value then return target else refuse
  | _ => refuse

/-- Puts what has become of a property's value back. Nothing happens if it cannot be put back. -/
def putBack (target : ScriptValue) (name : String) (value : ScriptValue) : Eval ScriptValue := do
  match target with
  | .map entries =>
    if Table.has entries name then return .map (Table.setSorted entries name value)
    else return target
  | .object ref =>
    discard <| setObject ref name value
    return target
  | target => return target

/-- Calls a native function. What becomes of its first argument comes second. -/
def callNative (name : String) (args : List ScriptValue) (position : Position) :
    Eval (ScriptValue × Option ScriptValue) := do
  let env ← read
  match native? env name args with
  | none => fail (.functionNotFound (signature env.types name args)) position
  | some call =>
    let state ← get
    let (result, host) := call state.host
    set { state with host := host }
    let result ← orFail result position
    return (result.value, result.first)

/-- The function that a text names, as a value. -/
def functionNamed (value : ScriptValue) (position : Position) : Eval ScriptValue :=
  match value with
  | .string name =>
    if isWordText name then return .function name else fail (.functionNotFound name) position
  | value => fail (.mismatch "string" value.typeName) position

mutual

/-- Calls a script function. The variables of the caller are out of its sight. What has become of
the object it is called on comes second. -/
def callFunction (fuel : Nat) (function : Function) (this : Option ScriptValue)
    (args : List ScriptValue) (position : Option Position) :
    Eval (Except Signal ScriptValue × Option ScriptValue) := do
  match fuel with
  | 0 => return (.error outOfFuel, this)
  | fuel + 1 =>
    let caller ← get
    let bound := (function.params.zip args).map fun (name, value) => ⟨name, false, value⟩
    set { caller with scope := bound.reverse, this := this }
    let result ← attempt do
      tick
      if (← read).maxCallLevels < (← get).level then failAt .stackOverflow none
      evalBlock fuel function.body
    let after := (← get).this
    modify fun state => { state with scope := caller.scope, this := caller.this }
    return (leaveCall function.name position result, after)

/-- Calls the function of that name, of the script or a native one. What becomes of the first argument
of a native function comes second. -/
def callByName (fuel : Nat) (name : String) (args : List ScriptValue) (position : Position) :
    Eval (ScriptValue × Option ScriptValue) := do
  match fuel with
  | 0 => throw outOfFuel
  | fuel + 1 =>
    match (← read).program.function? name args.length with
    | some function =>
      let (result, _) ← deeper (callFunction fuel function none args (some position))
      return (← resume result, none)
    | none => callNative name args position

/-- Calls a method. What has become of the target comes second. -/
def callMethod (fuel : Nat) (target : ScriptValue) (name : String) (args : List ScriptValue)
    (position : Position) : Eval (Except Signal ScriptValue × ScriptValue) := do
  match fuel with
  | 0 => return (.error outOfFuel, target)
  | fuel + 1 =>
    match target, name with
    | .function pointed, "call" =>
      let result ← attempt (callByName fuel pointed args position)
      return (result.map Prod.fst, target)
    | target, name =>
      match (← read).program.function? name args.length with
      | some function =>
        let (result, after) ← deeper (callFunction fuel function (some target) args (some position))
        return (result, after.getD target)
      | none =>
        match ← attempt (callNative name (target :: args) position) with
        | .ok (value, after) => return (.ok value, after.getD target)
        | .error signal => return (.error signal, target)

/-- Follows a chain from a value on. What has become of the value comes second. -/
def follow (fuel : Nat) (target : ScriptValue) (links : List Link) :
    Eval (Except Signal ScriptValue × ScriptValue) := do
  match fuel with
  | 0 => return (.error outOfFuel, target)
  | fuel + 1 =>
    match links with
    | [] => return (.ok target, target)
    | .property name position :: rest =>
      match ← attempt (propertyOf target name position) with
      | .error signal => return (.error signal, target)
      | .ok value =>
        if rest.isEmpty then return (.ok value, target)
        else
          let (result, value) ← follow fuel value rest
          return (result, ← putBack target name value)
    | .index index position :: rest =>
      match ← attempt (orFail (element (← read) target index) position) with
      | .error signal => return (.error signal, target)
      | .ok value =>
        if rest.isEmpty then return (.ok value, target)
        else
          let (result, value) ← follow fuel value rest
          return (result, if hasElement target index then withElement target index value else target)
    | .method name args position :: rest =>
      match ← callMethod fuel target name args position with
      | (.error signal, target) => return (.error signal, target)
      | (.ok value, target) =>
        let (result, _) ← follow fuel value rest
        return (result, target)

/-- Follows a chain from a value on and assigns to its end. What has become of the value comes
second. -/
def assignAlong (fuel : Nat) (target : ScriptValue) (links : List Link)
    (operator : Option String) (value : ScriptValue) (position : Position) :
    Eval (Except Signal Unit × ScriptValue) := do
  match fuel with
  | 0 => return (.error outOfFuel, target)
  | fuel + 1 =>
    match links with
    | [] => return (.ok (), target)
    | [.property name place] =>
      let result ← attempt do
        let old ← if operator.isSome then propertyOf target name place else pure .unit
        setProperty target name (← assigned operator old value position) place
      match result with
      | .ok target => return (.ok (), target)
      | .error signal => return (.error signal, target)
    | [.index index place] =>
      let result ← attempt do
        let old ← orFail (element (← read) target index) place
        return withElement target index (← assigned operator old value position)
      match result with
      | .ok target => return (.ok (), target)
      | .error signal => return (.error signal, target)
    | .property name place :: rest =>
      match ← attempt (propertyOf target name place) with
      | .error signal => return (.error signal, target)
      | .ok child =>
        let (result, child) ← assignAlong fuel child rest operator value position
        return (result, ← putBack target name child)
    | .index index place :: rest =>
      match ← attempt (orFail (element (← read) target index) place) with
      | .error signal => return (.error signal, target)
      | .ok child =>
        let (result, child) ← assignAlong fuel child rest operator value position
        return (result, if hasElement target index then withElement target index child else target)
    | .method name args place :: rest =>
      match ← callMethod fuel target name args place with
      | (.error signal, target) => return (.error signal, target)
      | (.ok child, target) =>
        let (result, _) ← assignAlong fuel child rest operator value position
        return (result, target)

/-- The values of expressions, from left to right. -/
def evalList (fuel : Nat) (exprs : List Expr) : Eval (List ScriptValue) := do
  match fuel with
  | 0 => throw outOfFuel
  | fuel + 1 =>
    match exprs with
    | [] => return []
    | expr :: rest =>
      let value ← evalExpr fuel expr
      return value :: (← evalList fuel rest)

/-- The links of a chain with their values. -/
def evalLinks (fuel : Nat) (links : List LinkExpr) : Eval (List Link) := do
  match fuel with
  | 0 => throw outOfFuel
  | fuel + 1 =>
    match links with
    | [] => return []
    | .property name position :: rest =>
      return .property name position :: (← evalLinks fuel rest)
    | .index index position :: rest =>
      let value ← evalExpr fuel index
      return .index value position :: (← evalLinks fuel rest)
    | .method name args position :: rest =>
      let values ← evalList fuel args
      return .method name values position :: (← evalLinks fuel rest)

/-- The value of a chain. -/
def evalChain (fuel : Nat) (root : Expr) (links : List LinkExpr) : Eval ScriptValue := do
  match fuel with
  | 0 => throw outOfFuel
  | fuel + 1 =>
    let links ← evalLinks fuel links
    match root with
    | .name name position =>
      tick
      let (result, after) ← follow fuel (← valueOf name position) links
      assign name after
      resume result
    | .this position =>
      let (result, after) ← follow fuel (← thisValue position) links
      setThis after
      resume result
    | root =>
      let (result, _) ← follow fuel (← evalExpr fuel root) links
      resume result

/-- The value of a call by name. A native function that changes its first argument changes the
variable that the argument is read from. -/
def evalCall (fuel : Nat) (name : String) (args : List Expr) (position : Position) :
    Eval ScriptValue := do
  match fuel with
  | 0 => throw outOfFuel
  | fuel + 1 =>
    let values ← match args with
      | .name first place :: rest => do
        tick
        let values ← evalList fuel rest
        pure ((← valueOf first place) :: values)
      | args => evalList fuel args
    match name, values with
    | "Fn", [value] => functionNamed value position
    | "eval", [.string text] => evalText fuel text position
    | "call", .function pointed :: values =>
      return (← callByName fuel pointed values position).1
    | name, values =>
      let (value, after) ← callByName fuel name values position
      match args, after with
      | .name first _ :: _, some after => assign first after
      | .this _ :: _, some after => setThis after
      | _, _ => pure ()
      return value

/-- Runs a text as part of the running script: it sees and makes the variables that are in sight. -/
def evalText (fuel : Nat) (text : String) (position : Position) : Eval ScriptValue := do
  match fuel with
  | 0 => throw outOfFuel
  | fuel + 1 =>
    let result ← attempt do
      match parse (Text.trim text.toList) with
      | .error err => fail (.syntaxError err) err.position
      | .ok program =>
        if program.functions.isEmpty then deeper (evalStatements fuel program.statements)
        else fail (.syntaxError ⟨.misplacedFunction, ⟨1, 1⟩⟩) ⟨1, 1⟩
    match result with
    | .error (.error err) => throw (.error (.inCall "eval" err (some position)))
    | .error (.leaveFunction value) => return value
    | result => resume result

/-- The value of an expression. -/
def evalExpr (fuel : Nat) (expr : Expr) : Eval ScriptValue := do
  match fuel with
  | 0 => throw outOfFuel
  | fuel + 1 =>
    tick
    match expr with
    | .unit => return .unit
    | .bool value => return .bool value
    | .int value => return .int value
    | .float value => return .float value
    | .char value => return .char value
    | .string value => return .string value
    | .text parts =>
      let env ← read
      let values ← evalList fuel parts
      return .string (String.join (values.map env.textOf))
    | .array items => return .array (← evalList fuel items)
    | .map entries =>
      let values ← evalList fuel (entries.map Prod.snd)
      return .map (Table.ofList ((entries.map Prod.fst).zip values))
    | .name name position => valueOf name position
    | .this position => thisValue position
    | .qualified owner _ position => fail (.moduleNotFound owner) position
    | .operator operator operands position =>
      let values ← evalList fuel operands
      let env ← read
      orFail (applyOperator env.types env.objectTexts operator values) position
    | .call name args position => evalCall fuel name args position
    | .qualifiedCall owner _ args position =>
      discard <| evalList fuel args
      fail (.moduleNotFound owner) position
    | .property object name position =>
      let (root, links) := (Expr.property object name position).chain
      evalChain fuel root links
    | .method object name args position =>
      let (root, links) := (Expr.method object name args position).chain
      evalChain fuel root links
    | .index object index position =>
      let (root, links) := (Expr.index object index position).chain
      evalChain fuel root links
    | .and left right position =>
      let first ← expectBool (← evalExpr fuel left) (left.position?.or (some position))
      if first then
        return .bool (← expectBool (← evalExpr fuel right) (right.position?.or (some position)))
      else return .bool false
    | .or left right position =>
      let first ← expectBool (← evalExpr fuel left) (left.position?.or (some position))
      if first then return .bool true
      else return .bool (← expectBool (← evalExpr fuel right) (right.position?.or (some position)))
    | .coalesce left right =>
      let first ← evalExpr fuel left
      if first.isUnit then evalExpr fuel right else return first
    | .statement body => evalStmt fuel body

/-- The value of statements, which is that of the last one. -/
def evalStatements (fuel : Nat) (stmts : List Stmt) : Eval ScriptValue := do
  match fuel with
  | 0 => throw outOfFuel
  | fuel + 1 =>
    match stmts with
    | [] => return .unit
    | [stmt] => evalStmt fuel stmt
    | stmt :: rest =>
      discard <| evalStmt fuel stmt
      evalStatements fuel rest

/-- The value of a block. -/
def evalBlock (fuel : Nat) (stmts : List Stmt) : Eval ScriptValue := do
  match fuel with
  | 0 => throw outOfFuel
  | fuel + 1 => inBlock (evalStatements fuel (dropPure stmts))

/-- One round of a loop; the value with which it ends the loop, if it does. -/
def evalRound (fuel : Nat) (body : List Stmt) : Eval (Option ScriptValue) := do
  match fuel with
  | 0 => throw outOfFuel
  | fuel + 1 =>
    tick
    match ← attempt (evalBlock fuel body) with
    | .ok _ => return none
    | .error .nextRound => return none
    | .error (.leaveLoop value) => return some value
    | .error signal => throw signal

/-- The value of a loop. -/
def evalLoop (fuel : Nat) (condition : Option Expr) (body : List Stmt) (position : Position) :
    Eval ScriptValue := do
  match fuel with
  | 0 => throw outOfFuel
  | fuel + 1 =>
    let goesOn ← match condition with
      | some condition => expectBool (← evalExpr fuel condition) (some position)
      | none => pure true
    if goesOn then
      match ← evalRound fuel body with
      | some value => return value
      | none => evalLoop fuel condition body position
    else return .unit

/-- The value of a loop that looks at its condition after each round. -/
def evalDoLoop (fuel : Nat) (body : List Stmt) (condition : Expr) (sense : Bool)
    (position : Position) : Eval ScriptValue := do
  match fuel with
  | 0 => throw outOfFuel
  | fuel + 1 =>
    match ← evalRound fuel body with
    | some value => return value
    | none =>
      let answer ← expectBool (← evalExpr fuel condition) (some position)
      if answer == sense then evalDoLoop fuel body condition sense position else return .unit

/-- The value of a loop over items, the first of which has the number `count`. -/
def evalFor (fuel : Nat) (name : String) (counter : Option String) (count : Nat)
    (items : List ScriptValue) (body : List Stmt) : Eval ScriptValue := do
  match fuel with
  | 0 => throw outOfFuel
  | fuel + 1 =>
    match items with
    | [] => return .unit
    | item :: rest =>
      let ended ← inBlock do
        if let some counter := counter then declare counter false (.int (Int64.ofNat count))
        declare name false item
        evalRound fuel body
      match ended with
      | some value => return value
      | none => evalFor fuel name counter (count + 1) rest body

/-- Assigns to a variable, to the object of the running method, or to the end of a chain. -/
def evalAssign (fuel : Nat) (target : Expr) (operator : Option String) (expr : Expr)
    (position : Position) : Eval Unit := do
  match fuel with
  | 0 => throw outOfFuel
  | fuel + 1 =>
    let value ← evalExpr fuel expr
    let (root, links) := target.chain
    let links ← evalLinks fuel links
    match root with
    | .name name place =>
      match ← lookUp name with
      | none => fail (.variableNotFound name) place
      | some found =>
        if found.constant then fail (.constantAssigned name) place
        else if links.isEmpty then assign name (← assigned operator found.value value position)
        else
          let (result, after) ← assignAlong fuel found.value links operator value position
          assign name after
          resume result
    | .this place =>
      let old ← thisValue place
      if links.isEmpty then setThis (← assigned operator old value position)
      else
        let (result, after) ← assignAlong fuel old links operator value position
        setThis after
        resume result
    | root =>
      let (result, _) ← assignAlong fuel (← evalExpr fuel root) links operator value position
      resume result

/-- The value of a guarded block: that of the block itself, and none if the handler has run. -/
def evalTry (fuel : Nat) (body : List Stmt) (name : Option String) (handler : List Stmt) :
    Eval ScriptValue := do
  match fuel with
  | 0 => throw outOfFuel
  | fuel + 1 =>
    match ← attempt (evalBlock fuel body) with
    | .error (.error err) =>
      if err.isCatchable then
        let value := err.caught (← read).source
        let handled ← attempt <| inBlock do
          if let some name := name then declare name false value
          evalBlock fuel handler
        match handled with
        | .ok _ => return .unit
        | .error (.error (.plain cause position)) => throw (.error (rethrown err cause position))
        | handled => resume handled
      else throw (.error err)
    | result => resume result

/-- The value of a statement. -/
def evalStmt (fuel : Nat) (stmt : Stmt) : Eval ScriptValue := do
  match fuel with
  | 0 => throw outOfFuel
  | fuel + 1 =>
    tick
    match stmt with
    | .noop => return .unit
    | .declare name constant value _ =>
      let value ← match value with
        | some value => evalExpr fuel value
        | none => pure .unit
      declare name constant value
      return .unit
    | .assign target operator value position =>
      evalAssign fuel target operator value position
      return .unit
    | .expr value => evalExpr fuel value
    | .block body => evalBlock fuel body
    | .ifElse condition thenBody elseBody position =>
      let answer ← expectBool (← evalExpr fuel condition) (some position)
      evalBlock fuel (if answer then thenBody else elseBody)
    | .loop condition body position => evalLoop fuel condition body position
    | .doLoop body condition sense position => evalDoLoop fuel body condition sense position
    | .forIn name counter range body position =>
      match ← evalExpr fuel range with
      | .array items => evalFor fuel name counter 0 items body
      | _ => fail .notIterable position
    | .breakLoop value =>
      let value ← match value with
        | some value => evalExpr fuel value
        | none => pure .unit
      throw (.leaveLoop value)
    | .continueLoop => throw .nextRound
    | .returnValue value =>
      let value ← match value with
        | some value => evalExpr fuel value
        | none => pure .unit
      throw (.leaveFunction value)
    | .throwValue value position =>
      let value ← match value with
        | some value => evalExpr fuel value
        | none => pure .unit
      fail (.thrown value) position
    | .tryCatch body name handler => evalTry fuel body name handler

end

end ScriptHost.Script
