import Mathlib.Data.List.Nodup
import ScriptHost.Proofs.Building
import ScriptHost.Proofs.Calls
import ScriptHost.Proofs.Composing
import ScriptHost.Proofs.Indexing
import ScriptHost.Proofs.Marshalling
import ScriptHost.World.Entry

/-!
Functions of one name that take different numbers of parameters. The number of arguments decides
which of them a run calls, and the call runs exactly this one. The order in which the functions of a
script are listed does not matter: neither the choice nor anything in the run depends on it.
-/

namespace ScriptHost

/-! ### Listings of functions -/

namespace Script.Program

variable {program other : Program}

/-- Whether functions differ in their names or their numbers of parameters. -/
def Distinct (program : Program) : Prop :=
  (program.functions.map fun function => (function.name, function.arity)).Nodup

instance (program : Program) : Decidable program.Distinct :=
  inferInstanceAs (Decidable (List.Nodup _))

theorem Distinct.function?_eq_some_iff (hdistinct : program.Distinct) {name : String} {arity : Nat}
    {function : Function} : program.function? name arity = some function ↔
      function ∈ program.functions ∧ function.name = name ∧ function.arity = arity := by
  constructor
  · intro hfound
    have hsame := List.find?_some hfound
    simp only [Bool.and_eq_true, beq_iff_eq] at hsame
    exact ⟨List.mem_of_find?_eq_some hfound, hsame⟩
  · rintro ⟨hmem, rfl, rfl⟩
    cases hfound : program.function? function.name function.arity with
    | none =>
        have hnone := List.find?_eq_none.mp hfound function hmem
        simp at hnone
    | some found =>
        have hsame := List.find?_some hfound
        simp only [Bool.and_eq_true, beq_iff_eq] at hsame
        rw [List.inj_on_of_nodup_map hdistinct (List.mem_of_find?_eq_some hfound) hmem
          (Prod.ext hsame.1 hsame.2)]

theorem Distinct.of_perm (hdistinct : program.Distinct)
    (hperm : other.functions.Perm program.functions) : other.Distinct :=
  (hperm.map _).nodup_iff.mpr hdistinct

/-- Programs that list the same functions, which differ, agree. -/
theorem Distinct.agrees (hdistinct : program.Distinct)
    (hperm : other.functions.Perm program.functions) : program.Agrees other := by
  intro name arity
  refine Option.ext fun function => ?_
  rw [(hdistinct.of_perm hperm).function?_eq_some_iff, hdistinct.function?_eq_some_iff,
    hperm.mem_iff]

end Script.Program

namespace Script.Eval

/-- A step that runs are composed of does the same for programs that agree. -/
theorem Composed.agrees {α : Type} {step : Eval α} (hstep : Composed step) {env : Surroundings}
    {program : Program} (hagrees : env.program.Agrees program) :
    step { env with program := program } = step env := by
  induction hstep with
  | pure | throw | get => rfl
  | @read _ next hsame _ ih =>
      change next { env with program := program } { env with program := program } = next env env
      rw [hsame env program hagrees, ih]
  | @update _ change next _ _ ih =>
      funext state
      exact congrFun (ih state) (change state)
  | @bind _ _ step next _ _ ihstep ihnext =>
      change (step _ >>= fun value => next value _) = (step env >>= fun value => next value env)
      simp only [ihstep, ihnext]
  | attempt _ ih =>
      unfold Eval.attempt
      rw [ih]

end Script.Eval

/-- A listener belongs to a function of the script, in whose comments it is declared. -/
theorem ListenerIndex.declared_of_mem {compiled : Compiled} {listener : ListenerEntry}
    (hlistener : listener ∈ (build compiled).1.list) : ∃ code ∈ compiled.functions,
      (∃ line ∈ commentLines code, ListenerTag.parse line =
        .ok (some ⟨listener.kind, listener.genericType, listener.metadata⟩)) ∧
      listener.function = ⟨compiled, code.name, code.arity⟩ := by
  obtain ⟨-, owned, hdistributed⟩ := foldl_distributed compiled compiled.functions
  have howners : (build compiled).1.Owners compiled owned := hdistributed.owners
  rw [← howners.listed] at hlistener
  obtain ⟨item, hitem, rfl⟩ := List.mem_map.mp hlistener
  obtain ⟨code, hcode, -, hfunction, hdeclared⟩ := howners.declared item hitem
  exact ⟨code, List.mem_of_getElem? hcode, hdeclared, hfunction⟩

/-! ### The choice among overloads -/

namespace Compiled

variable {compiled : Compiled} {name : String} {count : Nat} {code : Script.Function}

theorem bestArity_eq_some_iff {arities : List Nat} {best : Nat} :
    bestArity count arities = some best ↔ best ∈ arities ∧
      (best ≤ count ∧ (∀ arity ∈ arities, arity ≤ count → arity ≤ best) ∨
        count < best ∧ ∀ arity ∈ arities, best ≤ arity) := by
  unfold bestArity
  cases hmax : (arities.filter (· ≤ count)).max? with
  | some greatest =>
      simp only [List.max?_eq_some_iff, List.mem_filter, decide_eq_true_eq] at hmax
      obtain ⟨⟨hmem, hle⟩, hgreatest⟩ := hmax
      simp only [Option.some_or, Option.some.injEq]
      constructor
      · rintro rfl
        exact ⟨hmem, .inl ⟨hle, fun arity harity hfew => hgreatest arity ⟨harity, hfew⟩⟩⟩
      · rintro ⟨hbest, ⟨hfew, hmost⟩ | ⟨hmore, hleast⟩⟩
        · exact Nat.le_antisymm (hmost greatest hmem hle) (hgreatest best ⟨hbest, hfew⟩)
        · have hbelow := hleast greatest hmem
          omega
  | none =>
      rw [List.max?_eq_none_iff, List.filter_eq_nil_iff] at hmax
      simp only [decide_eq_true_eq, Nat.not_le] at hmax
      simp only [Option.none_or, List.min?_eq_some_iff]
      constructor
      · rintro ⟨hmem, hleast⟩
        exact ⟨hmem, .inr ⟨hmax best hmem, hleast⟩⟩
      · rintro ⟨hmem, ⟨hfew, -⟩ | ⟨-, hleast⟩⟩
        · have hmore := hmax best hmem
          omega
        · exact ⟨hmem, hleast⟩

theorem bestArity_eq_none_iff {arities : List Nat} :
    bestArity count arities = none ↔ arities = [] := by
  constructor
  · intro hnone
    have hleast := (Option.or_eq_none_iff.mp hnone).2
    exact List.min?_eq_none_iff.mp hleast
  · rintro rfl
    rfl

theorem bestArity_perm {arities others : List Nat} (hperm : others.Perm arities) :
    bestArity count others = bestArity count arities := by
  refine Option.ext fun best => ?_
  simp only [bestArity_eq_some_iff, hperm.mem_iff]

theorem mem_arities {arity : Nat} : arity ∈ compiled.arities name ↔
    ∃ code ∈ compiled.functions, code.name = name ∧ code.arity = arity := by
  simp only [arities, List.mem_map, List.mem_filter, beq_iff_eq, and_assoc]

/-- Of the functions of a name that take no more than `count` arguments, `code` takes the most. -/
structure Fits (compiled : Compiled) (name : String) (count : Nat) (code : Script.Function) :
    Prop where
  mem : code ∈ compiled.functions
  named : code.name = name
  enough : code.arity ≤ count
  greatest : ∀ other ∈ compiled.functions, other.name = name → other.arity ≤ count →
    other.arity ≤ code.arity

/-- All functions of a name take more than `count` arguments, and `code` takes the fewest. -/
structure Exceeds (compiled : Compiled) (name : String) (count : Nat) (code : Script.Function) :
    Prop where
  mem : code ∈ compiled.functions
  named : code.name = name
  more : count < code.arity
  least : ∀ other ∈ compiled.functions, other.name = name → code.arity ≤ other.arity

theorem resolve?_eq_some (hmem : code ∈ compiled.functions) (hname : code.name = name)
    (hbest : code.arity ≤ count ∧ (∀ other ∈ compiled.functions, other.name = name →
        other.arity ≤ count → other.arity ≤ code.arity) ∨
      count < code.arity ∧ ∀ other ∈ compiled.functions, other.name = name →
        code.arity ≤ other.arity) :
    compiled.resolve? name count = some ⟨compiled, name, code.arity⟩ := by
  have hchosen : bestArity count (compiled.arities name) = some code.arity := by
    refine bestArity_eq_some_iff.mpr ⟨mem_arities.mpr ⟨code, hmem, hname, rfl⟩, ?_⟩
    refine hbest.imp (And.imp_right fun hgreatest => ?_) (And.imp_right fun hleast => ?_)
    · intro arity harity
      obtain ⟨other, hother, hnamed, rfl⟩ := mem_arities.mp harity
      exact hgreatest other hother hnamed
    · intro arity harity
      obtain ⟨other, hother, hnamed, rfl⟩ := mem_arities.mp harity
      exact hleast other hother hnamed
  rw [resolve?, hchosen]
  rfl

theorem Fits.resolve? (hfits : compiled.Fits name count code) :
    compiled.resolve? name count = some ⟨compiled, name, code.arity⟩ :=
  resolve?_eq_some hfits.mem hfits.named (.inl ⟨hfits.enough, hfits.greatest⟩)

theorem Exceeds.resolve? (hexceeds : compiled.Exceeds name count code) :
    compiled.resolve? name count = some ⟨compiled, name, code.arity⟩ :=
  resolve?_eq_some hexceeds.mem hexceeds.named (.inr ⟨hexceeds.more, hexceeds.least⟩)

theorem resolve?_eq_none_iff :
    compiled.resolve? name count = none ↔ ∀ code ∈ compiled.functions, code.name ≠ name := by
  rw [resolve?, Option.map_eq_none_iff, bestArity_eq_none_iff, List.eq_nil_iff_forall_not_mem]
  simp only [mem_arities, not_exists, not_and]
  exact ⟨fun hnone code hmem hname => hnone _ code hmem hname rfl,
    fun hnone _ code hmem hname _ => hnone code hmem hname⟩

/-- A name has a function that fits, or only functions that take more, or none. -/
theorem overload_cases (compiled : Compiled) (name : String) (count : Nat) :
    (∃ code, compiled.Fits name count code) ∨ (∃ code, compiled.Exceeds name count code) ∨
      ∀ code ∈ compiled.functions, code.name ≠ name := by
  cases hbest : bestArity count (compiled.arities name) with
  | none =>
      have hnone : compiled.resolve? name count = none := by
        rw [resolve?, hbest]
        rfl
      exact .inr (.inr (resolve?_eq_none_iff.mp hnone))
  | some best =>
      obtain ⟨hmem, hcases⟩ := bestArity_eq_some_iff.mp hbest
      obtain ⟨code, hcode, hname, rfl⟩ := mem_arities.mp hmem
      rcases hcases with ⟨hfew, hgreatest⟩ | ⟨hmore, hleast⟩
      · exact .inl ⟨code, hcode, hname, hfew, fun other hother hnamed =>
          hgreatest _ (mem_arities.mpr ⟨other, hother, hnamed, rfl⟩)⟩
      · exact .inr (.inl ⟨code, hcode, hname, hmore, fun other hother hnamed =>
          hleast _ (mem_arities.mpr ⟨other, hother, hnamed, rfl⟩)⟩)

/-- The compiled script with its functions listed otherwise. -/
def listing (compiled : Compiled) (functions : List Script.Function) : Compiled :=
  { compiled with program := { compiled.program with functions := functions } }

variable {functions : List Script.Function}

theorem resolve?_listing (hperm : functions.Perm compiled.functions) (name : String) (count : Nat) :
    (compiled.listing functions).resolve? name count =
      (compiled.resolve? name count).map fun function =>
        ⟨compiled.listing functions, function.name, function.arity⟩ := by
  have harities : ((compiled.listing functions).arities name).Perm (compiled.arities name) :=
    (hperm.filter _).map _
  rw [resolve?, resolve?, bestArity_perm harities, Option.map_map]
  rfl

end Compiled

/-! ### Calls -/

namespace ScriptException

variable {compiled : Compiled} {functions : List Script.Function}

theorem frameAt_listing (hagrees : compiled.program.Agrees (compiled.listing functions).program) :
    frameAt (compiled.listing functions) = frameAt compiled := by
  funext function position
  have hhas : (compiled.listing functions).hasFunction function = compiled.hasFunction function :=
    hagrees.hasFunction function
  unfold frameAt
  rw [hhas]
  rfl

/-- The exception that an error becomes is the same however the functions are listed. -/
theorem ofError_listing (hagrees : compiled.program.Agrees (compiled.listing functions).program)
    (name : String) (arity : Nat) (err : Script.RuntimeError) :
    ofError ⟨compiled.listing functions, name, arity⟩ err = ofError ⟨compiled, name, arity⟩ err := by
  have hframes (calls : List (String × Option Script.Position)) :
      framesOf (compiled.listing functions) err.position calls =
        framesOf compiled err.position calls := by
    induction calls using framesOf.induct with
    | case1 => rfl
    | case2 name position => simp only [framesOf, frameAt_listing hagrees]
    | case3 name place next position rest ih =>
        simp only [framesOf, frameAt_listing hagrees, ih]
  unfold ofError
  rw [hframes]

end ScriptException

namespace World

/-- The run of a function of a compiled script, in a frame of its own. -/
def runCode (world : World) (compiled : Compiled) (code : Script.Function)
    (this : Option ScriptValue) (args : List ScriptValue) (limit : Option Nat)
    (switch : Option String) : RunOutcome :=
  let depth := world.host.calls.length
  let entered := world.host.enterCall limit switch
  let run := Script.callFunction runFuel code this args none (world.surroundings compiled)
  let (result, state) := run.run ⟨entered, 0, 0, [], none⟩
  let tripped := state.host.trippedAt depth
  let host := state.host.leaveCall depth
  match result with
  | .ok (result, after) => ⟨result, this.bind fun _ => after, host, tripped⟩
  | .error signal => ⟨.error signal, this, host, tripped⟩

variable {compiled : Compiled} {functions : List Script.Function}

/-- A reference by name and number of parameters runs the one function that has both. -/
theorem runFunction_of_mem (hdistinct : compiled.program.Distinct) {code : Script.Function}
    (hmem : code ∈ compiled.functions) (world : World) (this : Option ScriptValue)
    (args : List ScriptValue) (limit : Option Nat) (switch : Option String) :
    world.runFunction ⟨compiled, code.name, code.arity⟩ this args limit switch =
      world.runCode compiled code this args limit switch := by
  have hfound : compiled.program.function? code.name code.arity = some code :=
    hdistinct.function?_eq_some_iff.mpr ⟨hmem, rfl, rfl⟩
  unfold runFunction
  dsimp only
  rw [hfound]
  rfl

/-- A run is the same however the functions are listed. -/
theorem runFunction_listing
    (hagrees : compiled.program.Agrees (compiled.listing functions).program) (world : World)
    (name : String) (arity : Nat) (this : Option ScriptValue) (args : List ScriptValue)
    (limit : Option Nat) (switch : Option String) :
    world.runFunction ⟨compiled.listing functions, name, arity⟩ this args limit switch =
      world.runFunction ⟨compiled, name, arity⟩ this args limit switch := by
  unfold runFunction
  dsimp only
  rw [hagrees name arity]
  cases compiled.program.function? name arity with
  | none => rfl
  | some code =>
      have hlisted : world.surroundings (compiled.listing functions) =
          { world.surroundings compiled with
            program := (compiled.listing functions).program } := rfl
      have hprogram : (world.surroundings compiled).program.Agrees
          (compiled.listing functions).program := hagrees
      have hcomposed := (Script.composedWith runFuel).callFunction code this args none
      dsimp only
      rw [hlisted, hcomposed.agrees hprogram]

/-- The world with other script modules and compiled scripts. -/
def rehoused (world : World) (modules : Heap ScriptModule) (compiled : Table String Compiled) :
    World :=
  { world with
    executor := { world.executor with compiled := compiled }
    modules := modules }

/-- What a run finds around it has nothing to do with script modules. -/
theorem runFunction_rehoused (world : World) (modules : Heap ScriptModule)
    (table : Table String Compiled) (function : FunctionRef) (this : Option ScriptValue)
    (args : List ScriptValue) (limit : Option Nat) (switch : Option String) :
    (world.rehoused modules table).runFunction function this args limit switch =
      world.runFunction function this args limit switch := by
  have hsame : (world.rehoused modules table).surroundings function.compiled =
      world.surroundings function.compiled := rfl
  unfold runFunction
  rw [hsame]
  rfl

end World

namespace Act

variable {α β : Type} {compiled : Compiled} {functions : List Script.Function}

/-- A call is the same however the functions are listed. -/
theorem callWith_listing (hagrees : compiled.program.Agrees (compiled.listing functions).program)
    (name : String) (arity : Nat) (this : Option ScriptValue) (values : List ScriptValue)
    (setup : RunSetup) (wanted : ReturnType) :
    callWith ⟨compiled.listing functions, name, arity⟩ this values setup wanted =
      callWith ⟨compiled, name, arity⟩ this values setup wanted := by
  have hfailure (err : Script.RuntimeError) (tripped : Option AbortReason) :
      InvokeError.ofRun ⟨compiled.listing functions, name, arity⟩ err tripped =
        InvokeError.ofRun ⟨compiled, name, arity⟩ err tripped := by
    unfold InvokeError.ofRun
    rw [ScriptException.ofError_listing hagrees]
  have hreport : reportFailure ⟨compiled.listing functions, name, arity⟩ =
      reportFailure ⟨compiled, name, arity⟩ := by
    funext err tripped setup
    unfold reportFailure
    rw [hfailure]
  have hread : readResult ⟨compiled.listing functions, name, arity⟩ =
      readResult ⟨compiled, name, arity⟩ := rfl
  unfold callWith
  simp only [World.runFunction_listing hagrees, hreport, hread]

theorem invoke_listing (hagrees : compiled.program.Agrees (compiled.listing functions).program)
    (name : String) (arity : Nat) (args : List NativeValue) (setup : RunSetup)
    (wanted : ReturnType) :
    invoke ⟨compiled.listing functions, name, arity⟩ args setup wanted =
      invoke ⟨compiled, name, arity⟩ args setup wanted := by
  unfold invoke call
  simp only [callWith_listing hagrees]

/-! ### Operations that look at no script module -/

/-- Whether an operation neither looks at the script modules and the compiled scripts of a world nor
changes them. -/
def IsBlind (act : Act α) : Prop :=
  ∀ (world : World) (modules : Heap ScriptModule) (table : Table String Compiled),
    act.run (world.rehoused modules table) =
      ((act.run world).1, (act.run world).2.rehoused modules table)

theorem IsBlind.pure (value : α) : IsBlind (Pure.pure value) :=
  fun _ _ _ => rfl

theorem IsBlind.bind {act : Act α} {next : α → Act β} (hact : IsBlind act)
    (hnext : ∀ value, IsBlind (next value)) : IsBlind (act >>= next) := by
  intro world modules table
  change (next (act.run _).1).run (act.run _).2 = _
  rw [hact world modules table]
  exact hnext _ _ modules table

theorem IsBlind.map {act : Act α} (change : α → β) (hact : IsBlind act) :
    IsBlind (change <$> act) :=
  hact.bind fun value => .pure (change value)

theorem warn_isBlind (message : String) : IsBlind (warn message) :=
  fun _ _ _ => rfl

theorem error_isBlind (message : String) : IsBlind (error message) :=
  fun _ _ _ => rfl

theorem retain_isBlind (refs : List ObjectRef) : IsBlind (retain refs) :=
  fun _ _ _ => rfl

theorem release_isBlind (refs : List ObjectRef) :
    IsBlind (modify fun world => world.release refs) :=
  fun _ _ _ => rfl

variable (function : FunctionRef) (setup : RunSetup) (wanted : ReturnType)

theorem readResult_isBlind (value : ScriptValue) : IsBlind (readResult function value wanted) := by
  unfold readResult
  split
  · split
    · exact .bind (warn_isBlind _) fun _ => .pure _
    · exact .pure _
  · split
    · exact .pure _
    · exact .pure _

theorem reportFailure_isBlind (err : Script.RuntimeError) (tripped : Option AbortReason) :
    IsBlind (reportFailure function err tripped setup) := by
  unfold reportFailure
  dsimp only
  split
  · exact .bind (warn_isBlind _) fun _ => .pure _
  · split
    · exact .bind (error_isBlind _) fun _ => .pure _
    · exact .pure _
  · exact .pure _

theorem callWith_isBlind (this : Option ScriptValue) (values : List ScriptValue) :
    IsBlind (callWith function this values setup wanted) := by
  have hend (after : Option ScriptValue) {act : Act (Except InvokeError (Option NativeValue))}
      (hact : IsBlind act) : IsBlind (do
        let found ← act
        retain (resultRefs found)
        retain (targetRefs after)
        modify (·.release (values.flatMap ScriptValue.objects))
        return (found, after)) :=
    .bind hact fun _ => .bind (retain_isBlind _) fun _ => .bind (retain_isBlind _) fun _ =>
      .bind (release_isBlind _) fun _ => .pure _
  intro world modules table
  have hrun := world.runFunction_rehoused modules table function this values
    (setup.timeout.or world.executor.timeout) setup.abort
  have htimeout : (world.rehoused modules table).executor.timeout = world.executor.timeout := rfl
  unfold callWith
  rw [run_eq, run_eq, result_get_bind, after_get_bind, result_get_bind, after_get_bind]
  dsimp only
  rw [htimeout, hrun]
  generalize world.runFunction function this values
    (setup.timeout.or world.executor.timeout) setup.abort = outcome
  obtain ⟨result, after, host, tripped⟩ := outcome
  cases result with
  | ok value =>
      exact hend after (readResult_isBlind function wanted value) { world with host := host } modules
        table
  | error signal =>
      cases signal with
      | error err =>
          exact hend after (.map Except.error (reportFailure_isBlind function setup err tripped))
            { world with host := host } modules table
      | leaveLoop | nextRound | leaveFunction =>
          exact hend after (.pure _) { world with host := host } modules table

theorem call_isBlind (this : Option ScriptValue) (args : List NativeValue) :
    IsBlind (call function this args setup wanted) := by
  unfold call
  split
  · exact .bind (retain_isBlind _) fun _ => .pure _
  · intro world modules table
    have hsame : marshalArgs (world.rehoused modules table).executor.types
          (world.rehoused modules table).objects (args.take function.arity) =
        marshalArgs world.executor.types world.objects (args.take function.arity) := rfl
    rw [run_eq, run_eq, result_get_bind, after_get_bind, result_get_bind, after_get_bind, hsame]
    cases marshalArgs world.executor.types world.objects (args.take function.arity) with
    | error refused =>
        exact IsBlind.bind (retain_isBlind _) (fun _ => .pure _) world modules table
    | ok taken =>
        exact callWith_isBlind function setup wanted this taken.1
          { world with
            objects := taken.2
            executor := { world.executor with invocations := world.executor.invocations + 1 } }
          modules table

theorem invoke_isBlind (args : List NativeValue) : IsBlind (invoke function args setup wanted) :=
  .bind (call_isBlind function setup wanted none args) fun _ => .pure _

/-! ### Runs of compiled modules -/

variable {function setup wanted} {world : World} {address : Nat} {entry : String}
  {args : List NativeValue}

theorem function_of_usable (husable : world.usable? address = some compiled) (name : String)
    (count : Nat) : (Act.function address name count).run world =
      ((compiled.resolve? name count).elim (.error (.functionNotFound name)) .ok, world) := by
  obtain ⟨module, hmodule, hcompiled⟩ := Option.bind_eq_some_iff.mp husable
  obtain ⟨hlive, hcompiled⟩ := Option.ite_none_right_eq_some.mp hcompiled
  simp only [Bool.and_eq_true, decide_eq_true_eq] at hlive
  obtain ⟨⟨hbuilt, hrunning⟩, hentered⟩ := hlive
  obtain ⟨hresult, hafter⟩ := build_of_live hmodule hcompiled hbuilt hrunning hentered
  unfold Act.function
  rw [run_eq, result_get_bind, after_get_bind, hrunning]
  simp only [Bool.not_true, Bool.false_eq_true, if_false, result_bind, after_bind,
    hresult, hafter]
  cases compiled.resolve? name count with
  | none => rfl
  | some found => rfl

/-- A run of a function that there is invokes it. -/
theorem runEntry_of_some (husable : world.usable? address = some compiled)
    (hchosen : compiled.resolve? entry args.length = some function) :
    (runEntry address entry args setup wanted).run world =
      ((((invoke function args setup wanted).run world).1, true),
        ((invoke function args setup wanted).run world).2) := by
  have hfunction := function_of_usable husable entry args.length
  rw [hchosen, Option.elim_some] at hfunction
  have hresult : result (Act.function address entry args.length) world = .ok function :=
    congrArg Prod.fst hfunction
  have hafter : after (Act.function address entry args.length) world = world :=
    congrArg Prod.snd hfunction
  unfold runEntry
  rw [run_eq, result_bind, after_bind, hresult, hafter]
  rfl

/-- A run of a function that there is not reports it at most. -/
theorem runEntry_of_none (husable : world.usable? address = some compiled)
    (hnone : compiled.resolve? entry args.length = none) :
    (runEntry address entry args setup wanted).run world =
      ((.error (.functionNotFound entry), false),
        if setup.errorOnMissing then
          world.error s!"cannot run '{entry}': {(InvokeError.functionNotFound entry).message}"
        else world) := by
  have hfunction := function_of_usable husable entry args.length
  rw [hnone, Option.elim_none] at hfunction
  have hresult : result (Act.function address entry args.length) world =
      .error (.functionNotFound entry) := congrArg Prod.fst hfunction
  have hafter : after (Act.function address entry args.length) world = world :=
    congrArg Prod.snd hfunction
  unfold runEntry
  rw [run_eq, result_bind, after_bind, hresult, hafter]
  cases hreport : setup.errorOnMissing with
  | false => simp only [Bool.not_true, Bool.false_or, Bool.false_eq_true, if_false]; rfl
  | true => simp only [Bool.not_true, Bool.false_or, if_true]; rfl

/-- Whether a call runs `code` with the first of the arguments: as many of them as it has parameters
are taken over in their order, the call is counted, and what runs is `code`. -/
def Runs (world : World) (compiled : Compiled) (code : Script.Function) (args : List NativeValue)
    (setup : RunSetup) (wanted : ReturnType)
    (ran : Except InvokeError (Option NativeValue) × World) : Prop :=
  ∃ values : List ScriptValue,
    List.Forall₂ (fun arg value => arg.toScript world.executor.types = .ok value)
      (args.take code.arity) values ∧
    values.length = code.arity ∧
    (∀ limit switch,
      (world.calling values).runFunction ⟨compiled, code.name, code.arity⟩ none values limit switch =
        (world.calling values).runCode compiled code none values limit switch) ∧
    let called := (callWith ⟨compiled, code.name, code.arity⟩ none values setup wanted).run
      (world.calling values)
    ran = (called.1.1, called.2)

/-- A reference to a function of a script runs this function, if there are enough arguments. -/
theorem invoke_runs (hdistinct : compiled.program.Distinct) {code : Script.Function}
    (hmem : code ∈ compiled.functions) (henough : code.arity ≤ args.length)
    (hcross : ∀ arg ∈ args, arg.Crosses world.executor.types) :
    Runs world compiled code args setup wanted
      ((invoke ⟨compiled, code.name, code.arity⟩ args setup wanted).run world) := by
  obtain ⟨values, hforms⟩ := scriptForms_of_crosses 0
    fun arg (harg : arg ∈ args.take code.arity) => hcross arg (List.mem_of_mem_take harg)
  obtain ⟨hvalues, -, -⟩ := scriptForms_ok hforms
  have hlength : values.length = code.arity := by
    rw [← hvalues.length_eq, List.length_take]
    omega
  have hcall : (call ⟨compiled, code.name, code.arity⟩ none args setup wanted).run world = _ :=
    call_of_forms none setup wanted henough hforms
  refine ⟨values, hvalues, hlength, fun limit switch =>
    World.runFunction_of_mem hdistinct hmem _ none values limit switch, ?_⟩
  change (((call ⟨compiled, code.name, code.arity⟩ none args setup wanted).run world).1.1,
    ((call ⟨compiled, code.name, code.arity⟩ none args setup wanted).run world).2) = _
  rw [hcall]

/-- A run is the same in a world where the functions are listed otherwise. -/
theorem runEntry_listing (husable : world.usable? address = some compiled)
    (hdistinct : compiled.program.Distinct) {modules : Heap ScriptModule}
    {table : Table String Compiled} (hperm : functions.Perm compiled.functions)
    (hlisted : (world.rehoused modules table).usable? address =
      some (compiled.listing functions)) :
    (runEntry address entry args setup wanted).run (world.rehoused modules table) =
      (((runEntry address entry args setup wanted).run world).1,
        ((runEntry address entry args setup wanted).run world).2.rehoused modules table) := by
  have hagrees : compiled.program.Agrees (compiled.listing functions).program :=
    hdistinct.agrees hperm
  have hresolve := Compiled.resolve?_listing hperm entry args.length
  cases hchosen : compiled.resolve? entry args.length with
  | none =>
      rw [hchosen, Option.map_none] at hresolve
      rw [runEntry_of_none husable hchosen, runEntry_of_none hlisted hresolve]
      split
      · rfl
      · rfl
  | some function =>
      obtain ⟨owner, name, arity⟩ := function
      have howner : owner = compiled := by
        obtain ⟨best, -, hsame⟩ := Option.map_eq_some_iff.mp hchosen
        exact (FunctionRef.mk.inj hsame).1.symm
      rw [hchosen, Option.map_some] at hresolve
      subst howner
      rw [runEntry_of_some husable hchosen, runEntry_of_some hlisted hresolve,
        invoke_listing hagrees, invoke_isBlind]

/-- A run by a name calls, of the functions of that name, the one that takes the most of the arguments
there are, with the first of these. If all of them take more arguments, nothing is run and the least
number of parameters is told; if there is none, its absence is told. The function is said to have
existed in the first two cases only. The order in which functions are listed does not matter to any of
this. A listener runs the very function that its annotation belongs to. -/
theorem overloads_run (husable : world.usable? address = some compiled)
    (hdistinct : compiled.program.Distinct) (entry : String) {args : List NativeValue}
    (hcross : ∀ arg ∈ args, arg.Crosses world.executor.types) (setup : RunSetup)
    (wanted : ReturnType) :
    let ran := (runEntry address entry args setup wanted).run world
    ((∃ code, compiled.Fits entry args.length code ∧ ran.1.2 = true ∧
        Runs world compiled code args setup wanted (ran.1.1, ran.2)) ∨
      (∃ code, compiled.Exceeds entry args.length code ∧ ran.1.2 = true ∧
        ran.1.1 = .error (.argumentCount entry code.arity args.length) ∧ ran.2 = world) ∨
      (∀ code ∈ compiled.functions, code.name ≠ entry) ∧ ran.1.2 = false ∧
        ran.1.1 = .error (.functionNotFound entry) ∧
          ran.2 = if setup.errorOnMissing then
            world.error s!"cannot run '{entry}': {(InvokeError.functionNotFound entry).message}"
          else world) ∧
    (ran.1.2 = true ↔ ∃ code ∈ compiled.functions, code.name = entry) ∧
    (∀ functions modules table, functions.Perm compiled.functions →
      (world.rehoused modules table).usable? address = some (compiled.listing functions) →
        (runEntry address entry args setup wanted).run (world.rehoused modules table) =
          (ran.1, ran.2.rehoused modules table)) ∧
    ∀ listener ∈ (ListenerIndex.build compiled).1.list, ∃ code ∈ compiled.functions,
      (∃ line ∈ ListenerIndex.commentLines code, ListenerTag.parse line =
        .ok (some ⟨listener.kind, listener.genericType, listener.metadata⟩)) ∧
      listener.function = ⟨compiled, code.name, code.arity⟩ ∧
      (code.arity ≤ args.length → Runs world compiled code args setup wanted
        ((invoke listener.function args setup wanted).run world)) := by
  intro ran
  have hcases : (∃ code, compiled.Fits entry args.length code ∧ ran.1.2 = true ∧
        Runs world compiled code args setup wanted (ran.1.1, ran.2)) ∨
      (∃ code, compiled.Exceeds entry args.length code ∧ ran.1.2 = true ∧
        ran.1.1 = .error (.argumentCount entry code.arity args.length) ∧ ran.2 = world) ∨
      (∀ code ∈ compiled.functions, code.name ≠ entry) ∧ ran.1.2 = false ∧
        ran.1.1 = .error (.functionNotFound entry) ∧
          ran.2 = if setup.errorOnMissing then
            world.error s!"cannot run '{entry}': {(InvokeError.functionNotFound entry).message}"
          else world := by
    rcases compiled.overload_cases entry args.length with
      ⟨code, hfits⟩ | ⟨code, hexceeds⟩ | hnone
    · left
      have hran : ran = _ := runEntry_of_some husable hfits.resolve?
      have hruns : Runs world compiled code args setup wanted _ :=
        invoke_runs hdistinct hfits.mem hfits.enough hcross
      rw [hran]
      refine ⟨code, hfits, rfl, ?_⟩
      rw [hfits.named] at hruns
      exact hruns
    · right
      left
      have hran : ran = _ := runEntry_of_some husable hexceeds.resolve?
      rw [hran, invoke_of_few hexceeds.more]
      exact ⟨code, hexceeds, rfl, rfl, rfl⟩
    · right
      right
      have hran : ran = _ := runEntry_of_none husable (Compiled.resolve?_eq_none_iff.mpr hnone)
      rw [hran]
      exact ⟨hnone, rfl, rfl, rfl⟩
  refine ⟨hcases, ?_, fun functions modules table hperm hlisted =>
    runEntry_listing husable hdistinct hperm hlisted, fun listener hlistener => ?_⟩
  · rcases hcases with ⟨code, hfits, hexisted, -⟩ | ⟨code, hexceeds, hexisted, -⟩ |
      ⟨hnone, hmissing, -⟩
    · simp only [hexisted, true_iff]
      exact ⟨code, hfits.mem, hfits.named⟩
    · simp only [hexisted, true_iff]
      exact ⟨code, hexceeds.mem, hexceeds.named⟩
    · simp only [hmissing, Bool.false_eq_true, false_iff, not_exists, not_and]
      exact hnone
  · obtain ⟨code, hmem, hdeclared, hfunction⟩ := ListenerIndex.declared_of_mem hlistener
    refine ⟨code, hmem, hdeclared, hfunction, fun henough => ?_⟩
    rw [hfunction]
    exact invoke_runs hdistinct hmem henough hcross

/-- A script with two functions of one name, the second of which is a listener. -/
def twofold : Compiled :=
  ⟨1, "M-1", ⟨[⟨"f", ["a", "b"], true, [], []⟩,
    ⟨"f", ["a"], true, ["/// @Listener=\"OnInit\""], []⟩], []⟩, ⟨[]⟩, .moduleDefault⟩

/-- A world with a module that has been built as the given compiled script. -/
def lodging (compiled : Compiled) : World :=
  let world := World.create ⟨.directory [], []⟩ (Executor.standard.registerCompiled compiled)
  let module := ScriptModule.create 1 "M" "host"
  { world with
    modules := (world.modules.alloc { module with compiled := some compiled, state := .built }).2 }

/-- Three arguments run the function of two parameters, wherever it is listed, and the listener runs
the other one. -/
theorem overloads_run_twofold :
    let args : List NativeValue := [.bool true, .bool false, .void]
    let ran := (runEntry 1 "f" args .standard .script).run (lodging twofold)
    (∃ code ∈ twofold.functions, code.params = ["a", "b"] ∧
      Runs (lodging twofold) twofold code args .standard .script (ran.1.1, ran.2)) ∧
    ((runEntry 1 "f" args .standard .script).run
      (lodging (twofold.listing twofold.functions.reverse))).1 = ran.1 ∧
    ∃ listener ∈ (ListenerIndex.build twofold).1.list, ∃ code ∈ twofold.functions,
      code.params = ["a"] ∧ Runs (lodging twofold) twofold code args .standard .script
        ((invoke listener.function args .standard .script).run (lodging twofold)) := by
  intro args ran
  have husable : (lodging twofold).usable? 1 = some twofold := rfl
  have hdistinct : twofold.program.Distinct := by decide
  have hcross : ∀ arg ∈ args, arg.Crosses (lodging twofold).executor.types := by
    simp [args, NativeValue.Crosses]
  obtain ⟨hcases, -, hlisting, hlisteners⟩ :=
    overloads_run husable hdistinct "f" hcross .standard .script
  have hcodes : ∀ code ∈ twofold.functions, code.name = "f" ∧
      (code.params = ["a", "b"] ∨ code.params = ["a"]) := by
    simp [twofold, Compiled.functions]
  refine ⟨?_, ?_, ?_⟩
  · rcases hcases with ⟨code, hfits, -, hruns⟩ | ⟨code, hexceeds, -⟩ | ⟨hnone, -⟩
    · refine ⟨code, hfits.mem, (hcodes code hfits.mem).2.resolve_right fun hone => ?_, hruns⟩
      have htwo := hfits.greatest _ List.mem_cons_self rfl (by decide)
      rw [Script.Function.arity, Script.Function.arity, hone] at htwo
      exact absurd htwo (by decide)
    · have hmore := hexceeds.more
      rcases (hcodes code hexceeds.mem).2 with hparams | hparams
      · rw [Script.Function.arity, hparams] at hmore
        exact absurd hmore (by decide)
      · rw [Script.Function.arity, hparams] at hmore
        exact absurd hmore (by decide)
    · exact absurd rfl (hnone _ List.mem_cons_self)
  · have hother : lodging (twofold.listing twofold.functions.reverse) =
        (lodging twofold).rehoused (lodging (twofold.listing twofold.functions.reverse)).modules
          (lodging (twofold.listing twofold.functions.reverse)).executor.compiled := rfl
    rw [hother, hlisting _ _ _ (List.reverse_perm twofold.functions) rfl]
  · have hlist : (ListenerIndex.build twofold).1.list.map
        (fun listener => listener.function.arity) = [1] := by decide +kernel
    obtain ⟨listener, rest, hfirst, harity, -⟩ := List.map_eq_cons_iff.mp hlist
    have hlistener : listener ∈ (ListenerIndex.build twofold).1.list := by simp [hfirst]
    obtain ⟨code, hmem, -, hfunction, hruns⟩ := hlisteners listener hlistener
    rw [hfunction] at harity
    refine ⟨listener, hlistener, code, hmem, (hcodes code hmem).2.resolve_left fun htwo => ?_,
      hruns ?_⟩
    · change code.params.length = 1 at harity
      rw [htwo] at harity
      cases harity
    · change code.arity = 1 at harity
      rw [harity]
      decide

end Act

end ScriptHost
