import Mathlib.Logic.Relation
import ScriptHost.Proofs.Courses

/-!
What running a script is composed of. Whatever a script is made of, its run looks at the surroundings,
where it looks functions up by name and number of parameters only, and changes its state so that the
host moves on by progress checks and by changes that leave the frames of running calls alone. All that
depends on nothing else about a run holds for every script.
-/

namespace ScriptHost

namespace Host

/-- One step of a run, for the host: a progress check, or something that leaves the frames alone. -/
inductive Advances (before : Host) : Host → Prop
  | check (operations : Nat) : Advances before (before.check operations).1
  | aside {after : Host} (hcalls : after.calls = before.calls) : Advances before after

/-- Any number of steps of a run. -/
def Moves : Host → Host → Prop :=
  Relation.ReflTransGen Advances

theorem Moves.refl (host : Host) : host.Moves host :=
  Relation.ReflTransGen.refl

theorem Moves.trans {first second third : Host} (hfirst : first.Moves second)
    (hsecond : second.Moves third) : first.Moves third :=
  Relation.ReflTransGen.trans hfirst hsecond

theorem Moves.of_calls {before after : Host} (hcalls : after.calls = before.calls) :
    before.Moves after :=
  Relation.ReflTransGen.single (.aside hcalls)

theorem Moves.of_check (host : Host) (operations : Nat) : host.Moves (host.check operations).1 :=
  Relation.ReflTransGen.single (.check operations)

end Host

namespace Script

/-- Two programs agree if they have the same function for every name and number of parameters. -/
def Program.Agrees (program other : Program) : Prop :=
  ∀ name arity, other.function? name arity = program.function? name arity

theorem Program.hasFunction_iff (program : Program) (name : String) :
    program.hasFunction name = true ↔ ∃ arity, (program.function? name arity).isSome = true := by
  simp only [hasFunction, function?, List.any_eq_true, List.find?_isSome, beq_iff_eq,
    Bool.and_eq_true]
  constructor
  · rintro ⟨function, hmem, hname⟩
    exact ⟨function.arity, function, hmem, hname, rfl⟩
  · rintro ⟨-, function, hmem, hname, -⟩
    exact ⟨function, hmem, hname⟩

theorem Program.Agrees.hasFunction {program other : Program} (hagrees : program.Agrees other)
    (name : String) : other.hasFunction name = program.hasFunction name := by
  rw [Bool.eq_iff_iff, Program.hasFunction_iff, Program.hasFunction_iff]
  simp only [hagrees name]

namespace Eval

/-- The steps that runs of scripts are composed of. -/
inductive Composed : ∀ {α : Type}, Eval α → Prop
  | pure {α : Type} (value : α) : Composed (Pure.pure value)
  | throw {α : Type} (signal : Signal) : Composed (α := α) (MonadExcept.throw signal)
  | get : Composed (α := RunState) MonadState.get
  /-- A step that begins by looking at the surroundings. -/
  | read {α : Type} {next : Surroundings → Eval α}
      (hagrees : ∀ (env : Surroundings) (program : Program), env.program.Agrees program →
        next { env with program := program } = next env)
      (hnext : ∀ env, Composed (next env)) : Composed (MonadReader.read >>= next)
  /-- A step that begins by changing the state. -/
  | update {α : Type} {change : RunState → RunState} {next : RunState → Eval α}
      (hmoves : ∀ state : RunState, state.host.Moves (change state).host)
      (hnext : ∀ state, Composed (next state)) :
      Composed (do let state ← MonadState.get; set (change state); next state)
  | bind {α β : Type} {step : Eval α} {next : α → Eval β} (hstep : Composed step)
      (hnext : ∀ value, Composed (next value)) : Composed (step >>= next)
  | attempt {α : Type} {step : Eval α} (hstep : Composed step) : Composed (Eval.attempt step)

variable {α β : Type}

theorem modify_composed {change : RunState → RunState}
    (hhost : ∀ state, (change state).host = state.host) :
    Composed (modify change : Eval PUnit) := by
  have hchanged : Composed (do let state ← get; set (change state); return PUnit.unit) :=
    .update (fun state => .of_calls (congrArg _ (hhost state))) fun _ => .pure PUnit.unit
  exact hchanged

theorem resume_composed (result : Except Signal α) : Composed (resume result) := by
  cases result with
  | ok value => exact .pure value
  | error signal => exact .throw signal

theorem failAt_composed (cause : Cause) (position : Option Position) :
    Composed (failAt cause position : Eval α) :=
  .throw _

theorem fail_composed (cause : Cause) (position : Position) :
    Composed (fail cause position : Eval α) :=
  .throw _

theorem orFail_composed (result : Except Cause α) (position : Position) :
    Composed (orFail result position) := by
  cases result with
  | ok value => exact .pure value
  | error cause => exact fail_composed cause position

/-- To count an operation is a progress check. -/
theorem tick_composed : Composed tick := by
  have hcounted : Composed (do
      let state ← get
      set { state with
        host := (state.host.check (state.operations + 1)).1
        operations := state.operations + 1 }
      if (state.host.check (state.operations + 1)).2.isSome then failAt .terminated none) := by
    refine .update (fun state => .of_check state.host (state.operations + 1)) fun state => ?_
    split
    · exact failAt_composed _ _
    · exact .pure _
  exact hcounted

theorem deeper_composed {step : Eval α} (hstep : Composed step) : Composed (deeper step) := by
  unfold deeper
  refine .bind .get fun _ => .bind (modify_composed fun _ => rfl) fun _ => ?_
  exact .bind hstep.attempt fun result =>
    .bind (modify_composed fun _ => rfl) fun _ => resume_composed result

theorem inBlock_composed {step : Eval α} (hstep : Composed step) : Composed (inBlock step) := by
  unfold inBlock
  refine .bind .get fun _ => .bind hstep.attempt fun result => ?_
  exact .bind (modify_composed fun _ => rfl) fun _ => resume_composed result

theorem declare_composed (name : String) (constant : Bool) (value : ScriptValue) :
    Composed (declare name constant value) :=
  modify_composed fun _ => rfl

theorem lookUp_composed (name : String) : Composed (lookUp name) :=
  .bind .get fun _ => .pure _

theorem assign_composed (name : String) (value : ScriptValue) : Composed (assign name value) :=
  modify_composed fun _ => rfl

theorem setThis_composed (value : ScriptValue) : Composed (setThis value) :=
  modify_composed fun _ => rfl

theorem valueOf_composed (name : String) (position : Position) :
    Composed (valueOf name position) := by
  refine .bind (lookUp_composed name) fun found => ?_
  split
  · exact .pure _
  · refine .read (fun env program hagrees => ?_) fun env => ?_
    · simp only [hagrees.hasFunction name]
    · split
      · exact .pure _
      · exact fail_composed _ _

theorem thisValue_composed (position : Position) : Composed (thisValue position) := by
  refine .bind .get fun state => ?_
  split
  · exact .pure _
  · exact fail_composed _ _

theorem expectBool_composed (value : ScriptValue) (position : Option Position) :
    Composed (expectBool value position) := by
  unfold expectBool
  split
  · exact .pure _
  · exact failAt_composed _ _

end Eval

open Eval

/-! ### Native functions -/

theorem guarded_calls (env : Surroundings) (name : String) (required : AccessMask)
    (answer : Except Cause ScriptValue) (host : Host) :
    (NativeCall.guarded env name required answer host).2.calls = host.calls := by
  unfold NativeCall.guarded
  split <;> rfl

theorem eventMethod?_calls {env : Surroundings} {ref : ObjectRef} {name key : String}
    {call : NativeCall} (hcall : eventMethod? env ref name key = some call) (host : Host) :
    (call host).2.calls = host.calls := by
  unfold eventMethod? at hcall
  split at hcall
  · rw [← Option.some.inj hcall]
    rfl
  · cases hcall

/-- Native functions leave the frames of running calls alone. -/
theorem native?_calls {env : Surroundings} {name : String} {args : List ScriptValue}
    {call : NativeCall} (hcall : native? env name args = some call) (host : Host) :
    (call host).2.calls = host.calls := by
  unfold native? at hcall
  split at hcall
  case h_15 =>
    rw [← Option.some.inj hcall]
    exact guarded_calls _ _ _ _ host
  case h_16 => exact eventMethod?_calls hcall host
  case h_17 =>
    obtain ⟨required, -, hguarded⟩ := Option.map_eq_some_iff.mp hcall
    rw [← hguarded]
    exact guarded_calls _ _ _ _ host
  case h_18 => cases hcall
  all_goals exact Option.some.inj hcall ▸ rfl

theorem callNative_composed (name : String) (args : List ScriptValue) (position : Position) :
    Composed (callNative name args position) := by
  refine .read (fun _ _ _ => rfl) fun env => ?_
  split
  next => exact fail_composed _ _
  next call hcall =>
    have hcalled : Composed (do
        let state ← get
        set { state with host := (call state.host).2 }
        let result ← orFail (call state.host).1 position
        return (result.value, result.first)) :=
      .update (fun state => .of_calls (native?_calls hcall state.host)) fun state =>
        .bind (orFail_composed _ _) fun _ => .pure _
    exact hcalled

theorem assigned_composed (operator : Option String) (old value : ScriptValue)
    (position : Position) : Composed (assigned operator old value position) := by
  unfold assigned
  split
  · exact .pure _
  · exact .read (fun _ _ _ => rfl) fun _ => orFail_composed _ _

theorem propertyOf_composed (target : ScriptValue) (name : String) (position : Position) :
    Composed (propertyOf target name position) := by
  refine .read (fun _ _ _ => rfl) fun env => ?_
  split
  · exact .pure _
  · refine .bind .get fun state => ?_
    split
    · exact .pure _
    · exact fail_composed _ _
  · exact fail_composed _ _

theorem setObjectProperty?_calls {env : Surroundings} {host host' : Host} {ref : ObjectRef}
    {name : String} {value : ScriptValue}
    (hset : setObjectProperty? env host ref name value = some host') :
    host'.calls = host.calls := by
  unfold setObjectProperty? at hset
  split at hset
  · split at hset
    · cases hset
    · rw [← Option.some.inj hset]
      rfl
  · cases hset

theorem setObject_composed (ref : ObjectRef) (name : String) (value : ScriptValue) :
    Composed (setObject ref name value) := by
  refine .read (fun _ _ _ => rfl) fun env => ?_
  -- a property that cannot be set leaves the state as it is, so the state can be written back
  have hset : Composed (do
      let state ← get
      set { state with
        host := (setObjectProperty? env state.host ref name value).getD state.host }
      return (setObjectProperty? env state.host ref name value).isSome) :=
    .update (fun state => .of_calls (by
      cases hset : setObjectProperty? env state.host ref name value with
      | none => rfl
      | some host => exact setObjectProperty?_calls hset)) fun state => .pure _
  convert hset using 1
  funext env' state
  have hget (next : RunState → Eval Bool) : (get >>= next) env' state = next state env' state := rfl
  rw [hget, hget]
  cases setObjectProperty? env state.host ref name value with
  | none => rfl
  | some host => rfl

theorem setProperty_composed (target : ScriptValue) (name : String) (value : ScriptValue)
    (position : Position) : Composed (setProperty target name value position) := by
  refine .read (fun _ _ _ => rfl) fun env => ?_
  dsimp only
  split
  · exact .pure _
  · refine .bind (setObject_composed _ name value) fun taken => ?_
    split
    · exact .pure _
    · exact fail_composed _ _
  · exact fail_composed _ _

theorem putBack_composed (target : ScriptValue) (name : String) (value : ScriptValue) :
    Composed (putBack target name value) := by
  unfold putBack
  split
  · split
    · exact .pure _
    · exact .pure _
  · exact .bind (.bind (setObject_composed _ name value) fun _ => .pure _) fun _ =>
      .pure _
  · exact .pure _

theorem functionNamed_composed (value : ScriptValue) (position : Position) :
    Composed (functionNamed value position) := by
  unfold functionNamed
  split
  · split
    · exact .pure _
    · exact fail_composed _ _
  · exact fail_composed _ _

/-! ### Script functions -/

/-- Whether all that scripts are made of is composed of the steps of runs, with that much fuel. -/
structure ComposedWith (fuel : Nat) : Prop where
  callFunction (function : Function) (this : Option ScriptValue) (args : List ScriptValue)
    (position : Option Position) : Composed (callFunction fuel function this args position)
  callByName (name : String) (args : List ScriptValue) (position : Position) :
    Composed (callByName fuel name args position)
  callMethod (target : ScriptValue) (name : String) (args : List ScriptValue)
    (position : Position) : Composed (callMethod fuel target name args position)
  follow (target : ScriptValue) (links : List Link) : Composed (follow fuel target links)
  assignAlong (target : ScriptValue) (links : List Link) (operator : Option String)
    (value : ScriptValue) (position : Position) :
    Composed (assignAlong fuel target links operator value position)
  evalList (exprs : List Expr) : Composed (evalList fuel exprs)
  evalLinks (links : List LinkExpr) : Composed (evalLinks fuel links)
  evalChain (root : Expr) (links : List LinkExpr) : Composed (evalChain fuel root links)
  evalCall (name : String) (args : List Expr) (position : Position) :
    Composed (evalCall fuel name args position)
  evalText (text : String) (position : Position) : Composed (evalText fuel text position)
  evalExpr (expr : Expr) : Composed (evalExpr fuel expr)
  evalStatements (stmts : List Stmt) : Composed (evalStatements fuel stmts)
  evalBlock (stmts : List Stmt) : Composed (evalBlock fuel stmts)
  evalRound (body : List Stmt) : Composed (evalRound fuel body)
  evalLoop (condition : Option Expr) (body : List Stmt) (position : Position) :
    Composed (evalLoop fuel condition body position)
  evalDoLoop (body : List Stmt) (condition : Expr) (sense : Bool) (position : Position) :
    Composed (evalDoLoop fuel body condition sense position)
  evalFor (name : String) (counter : Option String) (count : Nat) (items : List ScriptValue)
    (body : List Stmt) : Composed (evalFor fuel name counter count items body)
  evalAssign (target : Expr) (operator : Option String) (expr : Expr) (position : Position) :
    Composed (evalAssign fuel target operator expr position)
  evalTry (body : List Stmt) (name : Option String) (handler : List Stmt) :
    Composed (evalTry fuel body name handler)
  evalStmt (stmt : Stmt) : Composed (evalStmt fuel stmt)

theorem composedWith_zero : ComposedWith 0 where
  callFunction _ _ _ _ := .pure _
  callByName _ _ _ := .throw _
  callMethod _ _ _ _ := .pure _
  follow _ _ := .pure _
  assignAlong _ _ _ _ _ := .pure _
  evalList _ := .throw _
  evalLinks _ := .throw _
  evalChain _ _ := .throw _
  evalCall _ _ _ := .throw _
  evalText _ _ := .throw _
  evalExpr _ := .throw _
  evalStatements _ := .throw _
  evalBlock _ := .throw _
  evalRound _ := .throw _
  evalLoop _ _ _ := .throw _
  evalDoLoop _ _ _ _ := .throw _
  evalFor _ _ _ _ _ := .throw _
  evalAssign _ _ _ _ := .throw _
  evalTry _ _ _ := .throw _
  evalStmt _ := .throw _

section Successor

variable {fuel : Nat} (hfuel : ComposedWith fuel)

include hfuel

theorem callFunction_composed (function : Function) (this : Option ScriptValue)
    (args : List ScriptValue) (position : Option Position) :
    Composed (callFunction (fuel + 1) function this args position) := by
  unfold callFunction
  have hbody : Composed (do
      tick
      if (← read).maxCallLevels < (← get).level then failAt .stackOverflow none
      evalBlock fuel function.body) := by
    refine .bind tick_composed fun _ => .read (fun _ _ _ => rfl) fun env =>
      .bind .get fun state => ?_
    dsimp only
    split
    · exact .bind (failAt_composed _ _) fun _ => hfuel.evalBlock _
    · exact hfuel.evalBlock _
  refine .update (fun caller => .refl caller.host) fun caller => ?_
  exact .bind hbody.attempt fun result => .bind .get fun state =>
    .bind (modify_composed fun _ => rfl) fun _ => .pure _

theorem callByName_composed (name : String) (args : List ScriptValue) (position : Position) :
    Composed (callByName (fuel + 1) name args position) := by
  unfold callByName
  refine .read (fun env program hagrees => ?_) fun env => ?_
  · simp only [hagrees name args.length]
  split
  · exact .bind (deeper_composed (hfuel.callFunction _ _ _ _)) fun _ =>
      .bind (resume_composed _) fun _ => .pure _
  · exact callNative_composed _ _ _

theorem callMethod_composed (target : ScriptValue) (name : String) (args : List ScriptValue)
    (position : Position) : Composed (callMethod (fuel + 1) target name args position) := by
  unfold callMethod
  dsimp only
  split
  · exact .bind (.attempt (hfuel.callByName _ _ _)) fun _ => .pure _
  · refine .read (fun env program hagrees => ?_) fun env => ?_
    · simp only [hagrees name args.length]
    split
    · exact .bind (deeper_composed (hfuel.callFunction _ _ _ _)) fun _ => .pure _
    · refine .bind (.attempt (callNative_composed _ _ _)) fun result => ?_
      split
      · exact .pure _
      · exact .pure _

theorem follow_composed (target : ScriptValue) (links : List Link) :
    Composed (follow (fuel + 1) target links) := by
  unfold follow
  dsimp only
  split
  · exact .pure _
  · refine .bind (.attempt (propertyOf_composed _ _ _)) fun result => ?_
    split
    · exact .pure _
    · split
      · exact .pure _
      · exact .bind (hfuel.follow _ _) fun _ => .bind (putBack_composed _ _ _) fun _ =>
          .pure _
  · refine .read (fun _ _ _ => rfl) fun env => .bind (.attempt (orFail_composed _ _)) fun result => ?_
    split
    · exact .pure _
    · split
      · exact .pure _
      · exact .bind (hfuel.follow _ _) fun _ => .pure _
  · refine .bind (hfuel.callMethod _ _ _ _) fun result => ?_
    split
    · exact .pure _
    · exact .bind (hfuel.follow _ _) fun _ => .pure _

theorem assignAlong_composed (target : ScriptValue) (links : List Link)
    (operator : Option String) (value : ScriptValue) (position : Position) :
    Composed (assignAlong (fuel + 1) target links operator value position) := by
  unfold assignAlong
  dsimp only
  split
  · exact .pure _
  · refine .bind (.attempt ?_) fun result => ?_
    · have hset (old : ScriptValue) (name : String) (place : Position) :=
        (assigned_composed operator old value position).bind fun new =>
          setProperty_composed target name new place
      split
      · exact .bind (propertyOf_composed _ _ _) fun old => hset old _ _
      · exact .bind (.pure _) fun old => hset old _ _
    · split
      · exact .pure _
      · exact .pure _
  · refine .bind (.attempt ?_) fun result => ?_
    · exact .read (fun _ _ _ => rfl) fun _ => .bind (orFail_composed _ _) fun _ =>
        .bind (assigned_composed _ _ _ _) fun _ => .pure _
    · split
      · exact .pure _
      · exact .pure _
  · refine .bind (.attempt (propertyOf_composed _ _ _)) fun result => ?_
    split
    · exact .pure _
    · exact .bind (hfuel.assignAlong _ _ _ _ _) fun _ =>
        .bind (putBack_composed _ _ _) fun _ => .pure _
  · refine .read (fun _ _ _ => rfl) fun env => .bind (.attempt (orFail_composed _ _)) fun result => ?_
    split
    · exact .pure _
    · exact .bind (hfuel.assignAlong _ _ _ _ _) fun _ => .pure _
  · refine .bind (hfuel.callMethod _ _ _ _) fun result => ?_
    split
    · exact .pure _
    · exact .bind (hfuel.assignAlong _ _ _ _ _) fun _ => .pure _

theorem evalList_composed (exprs : List Expr) : Composed (evalList (fuel + 1) exprs) := by
  unfold evalList
  split
  · exact .pure _
  · exact .bind (hfuel.evalExpr _) fun _ => .bind (hfuel.evalList _) fun _ => .pure _

theorem evalLinks_composed (links : List LinkExpr) : Composed (evalLinks (fuel + 1) links) := by
  unfold evalLinks
  split
  · exact .pure _
  · exact .bind (hfuel.evalLinks _) fun _ => .pure _
  · exact .bind (hfuel.evalExpr _) fun _ => .bind (hfuel.evalLinks _) fun _ => .pure _
  · exact .bind (hfuel.evalList _) fun _ => .bind (hfuel.evalLinks _) fun _ => .pure _

theorem evalChain_composed (root : Expr) (links : List LinkExpr) :
    Composed (evalChain (fuel + 1) root links) := by
  unfold evalChain
  dsimp only
  refine .bind (hfuel.evalLinks _) fun links => ?_
  split
  · exact .bind tick_composed fun _ => .bind (valueOf_composed _ _) fun _ =>
      .bind (hfuel.follow _ _) fun _ => .bind (assign_composed _ _) fun _ => resume_composed _
  · exact .bind (thisValue_composed _) fun _ => .bind (hfuel.follow _ _) fun _ =>
      .bind (setThis_composed _) fun _ => resume_composed _
  · exact .bind (hfuel.evalExpr _) fun _ => .bind (hfuel.follow _ _) fun _ => resume_composed _

theorem evalCall_composed (name : String) (args : List Expr) (position : Position) :
    Composed (evalCall (fuel + 1) name args position) := by
  unfold evalCall
  extract_lets goOn
  have hcall (values : List ScriptValue) : Composed (goOn values) := by
    unfold goOn
    split
    · exact functionNamed_composed _ _
    · exact hfuel.evalText _ _
    · exact .bind (hfuel.callByName _ _ _) fun _ => .pure _
    · refine .bind (hfuel.callByName _ _ _) fun result => ?_
      dsimp only
      split
      · exact .bind (assign_composed _ _) fun _ => .pure _
      · exact .bind (setThis_composed _) fun _ => .pure _
      · exact .pure _
  split
  · exact .bind tick_composed fun _ => .bind (hfuel.evalList _) fun _ =>
      .bind (valueOf_composed _ _) fun _ => .bind (.pure _) hcall
  · exact .bind (hfuel.evalList _) hcall

theorem evalText_composed (text : String) (position : Position) :
    Composed (evalText (fuel + 1) text position) := by
  unfold evalText
  refine .bind (.attempt ?_) fun result => ?_
  · split
    · exact fail_composed _ _
    · split
      · exact deeper_composed (hfuel.evalStatements _)
      · exact fail_composed _ _
  · split
    · exact .throw _
    · exact .pure _
    · exact resume_composed _

theorem evalExpr_composed (expr : Expr) : Composed (evalExpr (fuel + 1) expr) := by
  have htruth (expr : Expr) (position : Option Position) : Composed
      (do return ScriptValue.bool (← expectBool (← evalExpr fuel expr) position)) :=
    .bind (hfuel.evalExpr _) fun _ => .bind (expectBool_composed _ _) fun _ => .pure _
  unfold evalExpr
  dsimp only
  refine .bind tick_composed fun _ => ?_
  cases expr with
  | unit | bool | int | float | char | string => exact .pure _
  | text parts =>
      exact .read (fun _ _ _ => rfl) fun _ => .bind (hfuel.evalList _) fun _ => .pure _
  | array items => exact .bind (hfuel.evalList _) fun _ => .pure _
  | map entries => exact .bind (hfuel.evalList _) fun _ => .pure _
  | name name position => exact valueOf_composed _ _
  | this position => exact thisValue_composed _
  | qualified owner name position => exact fail_composed _ _
  | operator operator operands position =>
      exact .bind (hfuel.evalList _) fun _ => .read (fun _ _ _ => rfl) fun _ => orFail_composed _ _
  | call name args position => exact hfuel.evalCall _ _ _
  | qualifiedCall owner name args position =>
      exact .bind (.bind (hfuel.evalList _) fun _ => .pure _) fun _ => fail_composed _ _
  | property | method | index => exact hfuel.evalChain _ _
  | and left right position =>
      refine .bind (hfuel.evalExpr _) fun _ => .bind (expectBool_composed _ _) fun first => ?_
      split
      · exact htruth _ _
      · exact .pure _
  | or left right position =>
      refine .bind (hfuel.evalExpr _) fun _ => .bind (expectBool_composed _ _) fun first => ?_
      split
      · exact .pure _
      · exact htruth _ _
  | coalesce left right =>
      refine .bind (hfuel.evalExpr _) fun first => ?_
      split
      · exact hfuel.evalExpr _
      · exact .pure _
  | statement body => exact hfuel.evalStmt _

theorem evalStatements_composed (stmts : List Stmt) :
    Composed (evalStatements (fuel + 1) stmts) := by
  unfold evalStatements
  split
  · exact .pure _
  · exact hfuel.evalStmt _
  · exact .bind (.bind (hfuel.evalStmt _) fun _ => .pure _) fun _ =>
      hfuel.evalStatements _

theorem evalBlock_composed (stmts : List Stmt) : Composed (evalBlock (fuel + 1) stmts) := by
  unfold evalBlock
  exact inBlock_composed (hfuel.evalStatements _)

theorem evalRound_composed (body : List Stmt) : Composed (evalRound (fuel + 1) body) := by
  unfold evalRound
  refine .bind tick_composed fun _ => .bind (.attempt (hfuel.evalBlock _)) fun result => ?_
  split
  · exact .pure _
  · exact .pure _
  · exact .pure _
  · exact .throw _

theorem evalLoop_composed (condition : Option Expr) (body : List Stmt) (position : Position) :
    Composed (evalLoop (fuel + 1) condition body position) := by
  unfold evalLoop
  extract_lets goOn
  have hround (goesOn : Bool) : Composed (goOn goesOn) := by
    unfold goOn
    split
    · refine .bind (hfuel.evalRound _) fun ended => ?_
      split
      · exact .pure _
      · exact hfuel.evalLoop _ _ _
    · exact .pure _
  split
  · exact .bind (hfuel.evalExpr _) fun _ => .bind (expectBool_composed _ _) hround
  · exact .bind (.pure _) hround

theorem evalDoLoop_composed (body : List Stmt) (condition : Expr) (sense : Bool)
    (position : Position) :
    Composed (evalDoLoop (fuel + 1) body condition sense position) := by
  unfold evalDoLoop
  refine .bind (hfuel.evalRound _) fun ended => ?_
  split
  · exact .pure _
  · refine .bind (hfuel.evalExpr _) fun _ => .bind (expectBool_composed _ _) fun answer => ?_
    split
    · exact hfuel.evalDoLoop _ _ _ _
    · exact .pure _

theorem evalFor_composed (name : String) (counter : Option String) (count : Nat)
    (items : List ScriptValue) (body : List Stmt) :
    Composed (evalFor (fuel + 1) name counter count items body) := by
  unfold evalFor
  dsimp only
  split
  · exact .pure _
  · refine .bind (inBlock_composed ?_) fun ended => ?_
    · split
      · exact .bind (declare_composed _ _ _) fun _ => .bind (declare_composed _ _ _) fun _ =>
          hfuel.evalRound _
      · exact .bind (declare_composed _ _ _) fun _ => hfuel.evalRound _
    · split
      · exact .pure _
      · exact hfuel.evalFor _ _ _ _ _

theorem evalAssign_composed (target : Expr) (operator : Option String) (expr : Expr)
    (position : Position) : Composed (evalAssign (fuel + 1) target operator expr position) := by
  unfold evalAssign
  dsimp only
  refine .bind (hfuel.evalExpr _) fun value => .bind (hfuel.evalLinks _) fun links => ?_
  split
  · refine .bind (lookUp_composed _) fun found => ?_
    split
    · exact fail_composed _ _
    · split
      · exact fail_composed _ _
      · split
        · exact .bind (assigned_composed _ _ _ _) fun _ => assign_composed _ _
        · exact .bind (hfuel.assignAlong _ _ _ _ _) fun _ => .bind (assign_composed _ _) fun _ =>
            resume_composed _
  · refine .bind (thisValue_composed _) fun old => ?_
    split
    · exact .bind (assigned_composed _ _ _ _) fun _ => setThis_composed _
    · exact .bind (hfuel.assignAlong _ _ _ _ _) fun _ => .bind (setThis_composed _) fun _ =>
        resume_composed _
  · exact .bind (hfuel.evalExpr _) fun _ => .bind (hfuel.assignAlong _ _ _ _ _) fun _ =>
      resume_composed _

theorem evalTry_composed (body : List Stmt) (name : Option String) (handler : List Stmt) :
    Composed (evalTry (fuel + 1) body name handler) := by
  unfold evalTry
  dsimp only
  refine .bind (.attempt (hfuel.evalBlock _)) fun result => ?_
  split
  · split
    · refine .read (fun _ _ _ => rfl) fun env =>
        .bind (.attempt (inBlock_composed ?_)) fun handled => ?_
      · split
        · exact .bind (declare_composed _ _ _) fun _ => hfuel.evalBlock _
        · exact hfuel.evalBlock _
      · split
        · exact .pure _
        · exact .throw _
        · exact resume_composed _
    · exact .throw _
  · exact resume_composed _

theorem evalStmt_composed (stmt : Stmt) : Composed (evalStmt (fuel + 1) stmt) := by
  unfold evalStmt
  dsimp only
  refine .bind tick_composed fun _ => ?_
  cases stmt with
  | noop => exact .pure _
  | declare name constant value position =>
      have hdeclare (given : ScriptValue) := (declare_composed name constant given).bind fun _ =>
        .pure ScriptValue.unit
      cases value with
      | some expr => exact .bind (hfuel.evalExpr _) hdeclare
      | none => exact .bind (.pure _) hdeclare
  | assign target operator value position =>
      exact .bind (hfuel.evalAssign _ _ _ _) fun _ => .pure _
  | expr value => exact hfuel.evalExpr _
  | block body => exact hfuel.evalBlock _
  | ifElse condition thenBody elseBody position =>
      exact .bind (hfuel.evalExpr _) fun _ => .bind (expectBool_composed _ _) fun _ =>
        hfuel.evalBlock _
  | loop condition body position => exact hfuel.evalLoop _ _ _
  | doLoop body condition sense position => exact hfuel.evalDoLoop _ _ _ _
  | forIn name counter range body position =>
      refine .bind (hfuel.evalExpr _) fun items => ?_
      split
      · exact hfuel.evalFor _ _ _ _ _
      · exact fail_composed _ _
  | breakLoop value =>
      cases value with
      | some expr => exact .bind (hfuel.evalExpr _) fun _ => .throw _
      | none => exact .bind (.pure _) fun _ => .throw _
  | continueLoop => exact .throw _
  | returnValue value =>
      cases value with
      | some expr => exact .bind (hfuel.evalExpr _) fun _ => .throw _
      | none => exact .bind (.pure _) fun _ => .throw _
  | throwValue value position =>
      cases value with
      | some expr => exact .bind (hfuel.evalExpr _) fun _ => fail_composed _ _
      | none => exact .bind (.pure _) fun _ => fail_composed _ _
  | tryCatch body name handler => exact hfuel.evalTry _ _ _

theorem composedWith_succ : ComposedWith (fuel + 1) where
  callFunction := callFunction_composed hfuel
  callByName := callByName_composed hfuel
  callMethod := callMethod_composed hfuel
  follow := follow_composed hfuel
  assignAlong := assignAlong_composed hfuel
  evalList := evalList_composed hfuel
  evalLinks := evalLinks_composed hfuel
  evalChain := evalChain_composed hfuel
  evalCall := evalCall_composed hfuel
  evalText := evalText_composed hfuel
  evalExpr := evalExpr_composed hfuel
  evalStatements := evalStatements_composed hfuel
  evalBlock := evalBlock_composed hfuel
  evalRound := evalRound_composed hfuel
  evalLoop := evalLoop_composed hfuel
  evalDoLoop := evalDoLoop_composed hfuel
  evalFor := evalFor_composed hfuel
  evalAssign := evalAssign_composed hfuel
  evalTry := evalTry_composed hfuel
  evalStmt := evalStmt_composed hfuel

end Successor

/-- Scripts are composed of the steps of runs, whatever they are made of. -/
theorem composedWith (fuel : Nat) : ComposedWith fuel := by
  induction fuel with
  | zero => exact composedWith_zero
  | succ fuel ih => exact composedWith_succ ih

end Script

end ScriptHost
