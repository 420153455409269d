import ScriptHost.Proofs.Crossing
import ScriptHost.Proofs.Keeping

/-!
Arguments are taken over all together or not at all. Whether a list of arguments
is taken over depends on each of them alone; if it is, every object gains the
handles that the arguments refer to it with; if it is not, the first argument
that does not cross is told and no object has gained anything. A call looks at
as many arguments as its function has parameters, and one that is refused for
its arguments leaves the world as it is.
-/

namespace ScriptHost

/-- Whether an object type has an entry in the table. -/
def TypeTable.Registered (types : TypeTable) (type : ObjectType) : Prop :=
  ∃ entry ∈ types.entries, ∃ supportsWeak, entry.kind = .object type supportsWeak

/-- The search for an object type finds exactly the registered ones. -/
theorem TypeTable.lookupObject?_isSome_iff (types : TypeTable) (type : ObjectType) :
    (types.lookupObject? type).isSome ↔ types.Registered type := by
  unfold TypeTable.lookupObject? TypeTable.Registered
  rw [List.find?_isSome]
  constructor
  · rintro ⟨entry, hentry, hkind⟩
    cases hcase : entry.kind with
    | primitive primitive => simp [hcase] at hkind
    | object registered supportsWeak =>
      rw [hcase] at hkind
      have hsame : registered = type := by simpa using hkind
      exact ⟨entry, hentry, supportsWeak, hsame ▸ hcase⟩
  · rintro ⟨entry, hentry, supportsWeak, hcase⟩
    exact ⟨entry, hentry, by simp [hcase]⟩

namespace NativeValue

/-- Whether scripts have a form of a host value: an integer may not lie above the
script integers, and the type of an object is registered. -/
def Crosses (types : TypeTable) : NativeValue → Prop
  | .int given => given.value ≤ 2 ^ 63 - 1
  | .object ref => types.Registered ref.type
  | _ => True

/-- The number of handles of the object at an address among some arguments. -/
def handlesAt (args : List NativeValue) (address : Nat) : Nat :=
  ((args.flatMap NativeValue.objects).map ObjectRef.address).count address

/-- Whether an argument is a handle of the object at an address. -/
def isHandleAt (address : Nat) : NativeValue → Bool
  | .object ref => ref.address == address
  | _ => false

variable {types : TypeTable} {arg : NativeValue} {value : ScriptValue}

theorem toScript_ok_iff : (∃ value, arg.toScript types = .ok value) ↔ arg.Crosses types := by
  cases arg with
  | int given =>
    have hbound : (2 : Int) ^ 63 - 1 = IntType.i64.greatest := by decide
    rw [Crosses, hbound]
    by_cases hle : given.value ≤ IntType.i64.greatest
    · obtain ⟨narrowed, -, hscript⟩ := toScript_int_of_le types given hle
      exact ⟨fun _ => hle, fun _ => ⟨_, hscript⟩⟩
    · rw [toScript_int_of_gt types given (by omega)]
      simp [hle]
  | object ref =>
    rw [Crosses, ← TypeTable.lookupObject?_isSome_iff, toScript]
    split <;> simp [*]
  | void => simp [Crosses, toScript]
  | bool value => simp [Crosses, toScript]
  | float32 value => simp [Crosses, toScript]
  | float64 value => simp [Crosses, toScript]
  | char value => simp [Crosses, toScript]
  | string value => simp [Crosses, toScript]
  | script value => simp [Crosses, toScript]

theorem toScript_error_iff : (∃ err, arg.toScript types = .error err) ↔ ¬arg.Crosses types := by
  rw [← toScript_ok_iff]
  cases arg.toScript types <;> simp

/-- The script form of an argument holds the handles that the argument holds. -/
theorem objects_of_toScript (hscript : arg.toScript types = .ok value) :
    value.objects = arg.objects := by
  cases arg with
  | int given =>
    rw [toScript] at hscript
    split at hscript
    · cases hscript
      simp [NativeValue.objects, ScriptValue.objects]
    · cases hscript
  | object ref =>
    rw [toScript] at hscript
    split at hscript
    · cases hscript
      simp [NativeValue.objects, ScriptValue.objects]
    · cases hscript
  | void => cases hscript; simp [NativeValue.objects, ScriptValue.objects]
  | bool value => cases hscript; simp [NativeValue.objects, ScriptValue.objects]
  | float32 value => cases hscript; simp [NativeValue.objects, ScriptValue.objects]
  | float64 value => cases hscript; simp [NativeValue.objects, ScriptValue.objects]
  | char value => cases hscript; simp [NativeValue.objects, ScriptValue.objects]
  | string value => cases hscript; simp [NativeValue.objects, ScriptValue.objects]
  | script value => cases hscript; rfl

/-- If no argument in script form holds handles, the handles among the arguments
are the arguments that are objects. -/
theorem handlesAt_eq_countP {args : List NativeValue}
    (hplain : ∀ value, NativeValue.script value ∈ args → value.objects = []) (address : Nat) :
    handlesAt args address = args.countP (isHandleAt address) := by
  induction args with
  | nil => rfl
  | cons arg rest ih =>
    have hrest := ih fun value hvalue => hplain value (List.mem_cons_of_mem _ hvalue)
    have hcons : handlesAt (arg :: rest) address =
        handlesAt [arg] address + handlesAt rest address := by
      simp [handlesAt, List.count_append]
    rw [hcons, hrest, List.countP_cons, Nat.add_comm]
    congr 1
    cases arg with
    | object ref => simp [handlesAt, NativeValue.objects, isHandleAt, List.count_singleton]
    | script value =>
      simp [handlesAt, NativeValue.objects, isHandleAt, hplain value List.mem_cons_self]
    | void => rfl
    | bool value => rfl
    | int given => rfl
    | float32 value => rfl
    | float64 value => rfl
    | char value => rfl
    | string value => rfl

end NativeValue

/-! ### The script forms of a list of arguments -/

section

variable {types : TypeTable}

/-- Script forms come from arguments one by one and hold the same handles. -/
theorem scriptForms_ok {index : Nat} {args : List NativeValue} {values : List ScriptValue}
    (hforms : scriptForms types index args = .ok values) :
    List.Forall₂ (fun arg value => arg.toScript types = .ok value) args values ∧
      values.flatMap ScriptValue.objects = args.flatMap NativeValue.objects ∧
      ∀ arg ∈ args, arg.Crosses types := by
  induction args generalizing index values with
  | nil =>
    cases hforms
    exact ⟨.nil, rfl, fun arg harg => by cases harg⟩
  | cons arg rest ih =>
    rw [scriptForms] at hforms
    cases harg : arg.toScript types with
    | error err => simp [harg] at hforms
    | ok value =>
      cases hrest : scriptForms types (index + 1) rest with
      | error err => simp [harg, hrest] at hforms
      | ok tail =>
        simp only [harg, hrest, Except.ok.injEq] at hforms
        subst hforms
        obtain ⟨hvalues, hobjects, hcross⟩ := ih hrest
        refine ⟨.cons harg hvalues, ?_, ?_⟩
        · simp [hobjects, NativeValue.objects_of_toScript harg]
        · intro other hother
          cases hother with
          | head => exact NativeValue.toScript_ok_iff.mp ⟨value, harg⟩
          | tail _ hother => exact hcross other hother

/-- What is told of a list that is not taken over is its first argument that does
not cross, by its place and its error. -/
theorem scriptForms_error_iff {index place : Nat} {args : List NativeValue} {err : MarshalError} :
    scriptForms types index args = .error (place, err) ↔
      ∃ before arg rest, args = before ++ arg :: rest ∧ place = index + before.length ∧
        (∀ earlier ∈ before, earlier.Crosses types) ∧ arg.toScript types = .error err := by
  induction args generalizing index with
  | nil => simp [scriptForms]
  | cons first tail ih =>
    cases hfirst : first.toScript types with
    | error cause =>
      rw [scriptForms, hfirst]
      constructor
      · intro h
        cases h
        exact ⟨[], first, tail, rfl, by simp, by simp, hfirst⟩
      · rintro ⟨before, arg, rest, hargs, hplace, hbefore, harg⟩
        cases before with
        | nil =>
          cases hargs
          rw [hfirst] at harg
          cases harg
          simp [hplace]
        | cons head before =>
          cases hargs
          exact absurd (hbefore _ List.mem_cons_self)
            (NativeValue.toScript_error_iff.mp ⟨cause, hfirst⟩)
    | ok value =>
      have hcross : first.Crosses types := NativeValue.toScript_ok_iff.mp ⟨value, hfirst⟩
      have hstep : scriptForms types index (first :: tail) = .error (place, err) ↔
          scriptForms types (index + 1) tail = .error (place, err) := by
        rw [scriptForms, hfirst]
        cases scriptForms types (index + 1) tail <;> simp
      refine hstep.trans (ih.trans ?_)
      constructor
      · rintro ⟨before, arg, rest, rfl, hplace, hbefore, harg⟩
        refine ⟨first :: before, arg, rest, rfl, ?_, ?_, harg⟩
        · simp only [List.length_cons]
          omega
        · simpa [hcross] using hbefore
      · rintro ⟨before, arg, rest, hargs, hplace, hbefore, harg⟩
        cases before with
        | nil =>
          cases hargs
          rw [hfirst] at harg
          cases harg
        | cons head before =>
          cases hargs
          refine ⟨before, arg, rest, rfl, ?_, ?_, harg⟩
          · simp only [List.length_cons] at hplace
            omega
          · exact fun earlier hearlier => hbefore earlier (List.mem_cons_of_mem _ hearlier)

/-- A list of which every argument crosses has script forms. -/
theorem scriptForms_of_crosses (index : Nat) {args : List NativeValue}
    (hcross : ∀ arg ∈ args, arg.Crosses types) :
    ∃ values, scriptForms types index args = .ok values := by
  cases hforms : scriptForms types index args with
  | ok values => exact ⟨values, rfl⟩
  | error failure =>
    obtain ⟨before, arg, rest, rfl, -, -, harg⟩ := scriptForms_error_iff.mp hforms
    have hfails := NativeValue.toScript_error_iff.mp ⟨_, harg⟩
    exact absurd (hcross arg (by simp)) hfails

end

/-! ### Handles that are taken and given back -/

section

variable {α : Type}

/-- Drops the clones of handles again, the last one first. No object goes with
them, so no one sees in which order they are dropped. -/
def giveBackAll (heap : Heap α) (refs : List ObjectRef) : Heap α :=
  refs.foldr (fun ref heap => (heap.release ref.address).1) heap

theorem strongCount_retainAll (heap : Heap α) {refs : List ObjectRef}
    (halive : ∀ ref ∈ refs, heap.isAlive ref.address = true) (address : Nat) :
    (retainAll heap refs).strongCount address =
      heap.strongCount address + (refs.map ObjectRef.address).count address := by
  induction refs generalizing heap with
  | nil => simp [retainAll]
  | cons ref rest ih =>
    have hfirst := halive ref List.mem_cons_self
    have hrest : ∀ other ∈ rest, (heap.retain ref.address).isAlive other.address = true :=
      fun other hother => heap.isAlive_retain hfirst (halive other (List.mem_cons_of_mem _ hother))
    calc
      (retainAll heap (ref :: rest)).strongCount address
          = (retainAll (heap.retain ref.address) rest).strongCount address := rfl
      _ = (heap.retain ref.address).strongCount address +
            (rest.map ObjectRef.address).count address := ih _ hrest
      _ = heap.strongCount address + ((ref :: rest).map ObjectRef.address).count address := by
        rw [heap.strongCount_retain_of_alive hfirst, List.map_cons, List.count_cons]
        simp only [beq_iff_eq]
        omega

theorem isAlive_retainAll (heap : Heap α) {refs : List ObjectRef}
    (halive : ∀ ref ∈ refs, heap.isAlive ref.address = true) {address : Nat}
    (haddress : heap.isAlive address = true) : (retainAll heap refs).isAlive address = true := by
  unfold Heap.isAlive at haddress ⊢
  rw [strongCount_retainAll heap halive]
  simp only [decide_eq_true_eq] at haddress ⊢
  omega

theorem giveBackAll_retainAll (heap : Heap α) {refs : List ObjectRef}
    (halive : ∀ ref ∈ refs, heap.isAlive ref.address = true) :
    giveBackAll (retainAll heap refs) refs = heap := by
  induction refs generalizing heap with
  | nil => rfl
  | cons ref rest ih =>
    have hfirst := halive ref List.mem_cons_self
    have hrest : ∀ other ∈ rest, (heap.retain ref.address).isAlive other.address = true :=
      fun other hother => heap.isAlive_retain hfirst (halive other (List.mem_cons_of_mem _ hother))
    calc
      giveBackAll (retainAll heap (ref :: rest)) (ref :: rest)
          = ((giveBackAll (retainAll (heap.retain ref.address) rest) rest).release
              ref.address).1 := rfl
      _ = ((heap.retain ref.address).release ref.address).1 := by rw [ih _ hrest]
      _ = heap := by rw [heap.release_retain hfirst]

variable {types : TypeTable}

/-- Takes arguments over one after another: the handles of each are cloned before
the next one is looked at, and dropped again if one of those behind it does not
cross. -/
def takeOver (types : TypeTable) (index : Nat) :
    List NativeValue → Heap α → Except (Nat × MarshalError) (List ScriptValue) × Heap α
  | [], heap => (.ok [], heap)
  | arg :: rest, heap =>
    match arg.toScript types with
    | .error err => (.error (index, err), heap)
    | .ok value =>
      match takeOver types (index + 1) rest (retainAll heap value.objects) with
      | (.error err, after) => (.error err, giveBackAll after value.objects)
      | (.ok values, after) => (.ok (value :: values), after)

/-- Whether the objects that some arguments refer to have handles. -/
def Held (heap : Heap α) (args : List NativeValue) : Prop :=
  ∀ ref ∈ args.flatMap NativeValue.objects, heap.isAlive ref.address = true

instance (heap : Heap α) (args : List NativeValue) : Decidable (Held heap args) :=
  inferInstanceAs (Decidable (∀ ref ∈ args.flatMap NativeValue.objects,
    heap.isAlive ref.address = true))

/-- Going through the arguments one after another comes to the same as finding
all script forms first and cloning the handles afterwards. -/
theorem takeOver_eq (index : Nat) {args : List NativeValue} {heap : Heap α}
    (hheld : Held heap args) :
    takeOver types index args heap =
      match scriptForms types index args with
      | .error err => (.error err, heap)
      | .ok values => (.ok values, retainAll heap (values.flatMap ScriptValue.objects)) := by
  induction args generalizing index heap with
  | nil => rfl
  | cons arg rest ih =>
    rw [takeOver, scriptForms]
    cases harg : arg.toScript types with
    | error err => rfl
    | ok value =>
      have hobjects := NativeValue.objects_of_toScript harg
      have hown : ∀ ref ∈ value.objects, heap.isAlive ref.address = true := fun ref href =>
        hheld ref (by simp [← hobjects, href])
      have hrest : Held (retainAll heap value.objects) rest := fun ref href =>
        isAlive_retainAll heap hown (hheld ref (by
          rw [List.flatMap_cons]
          exact List.mem_append_right _ href))
      simp only [ih (index + 1) hrest]
      cases scriptForms types (index + 1) rest with
      | error err => simp only [giveBackAll_retainAll heap hown]
      | ok values => simp [retainAll, List.foldl_append]

/-- A list of arguments is taken over all together or not at all, and the handles
are accounted for either way. -/
structure TakenTogether (types : TypeTable) (heap : Heap α) (args : List NativeValue) : Prop where
  /-- Whether the list is taken over depends on each argument alone. -/
  succeeds : (∃ taken, marshalArgs types heap args = .ok taken) ↔ ∀ arg ∈ args, arg.Crosses types
  /-- Each value is the script form of its argument, and each handle among the
  arguments is cloned once. -/
  counts : ∀ values after, marshalArgs types heap args = .ok (values, after) →
    values.length = args.length ∧
    List.Forall₂ (fun arg value => arg.toScript types = .ok value) args values ∧
    ∀ address, after.strongCount address =
      heap.strongCount address + NativeValue.handlesAt args address
  /-- These are as many as there are object arguments, if no argument that is in
  script form already holds handles. -/
  handles : (∀ value, NativeValue.script value ∈ args → value.objects = []) →
    ∀ address, NativeValue.handlesAt args address =
      args.countP (NativeValue.isHandleAt address)
  /-- What is told is the first argument that does not cross. -/
  fails : ∀ index err, marshalArgs types heap args = .error (index, err) ↔
    ∃ before arg rest, args = before ++ arg :: rest ∧ before.length = index ∧
      (∀ earlier ∈ before, earlier.Crosses types) ∧ ¬arg.Crosses types ∧
      arg.toScript types = .error err
  /-- Going through the arguments one after another leaves the heap as it was, if
  one of them does not cross. -/
  undone : ∀ failure, marshalArgs types heap args = .error failure →
    takeOver types 0 args heap = (.error failure, heap)
  /-- Otherwise it comes to the same as taking them over at once. -/
  gathered : ∀ values after, marshalArgs types heap args = .ok (values, after) →
    takeOver types 0 args heap = (.ok values, after)

/-- Every list of arguments is taken over all together or not at all. -/
theorem marshalArgs_together {heap : Heap α} {args : List NativeValue}
    (hheld : Held heap args) : TakenTogether types heap args := by
  have hplaces : ∀ index err, marshalArgs types heap args = .error (index, err) ↔
      ∃ before arg rest, args = before ++ arg :: rest ∧ before.length = index ∧
        (∀ earlier ∈ before, earlier.Crosses types) ∧ ¬arg.Crosses types ∧
        arg.toScript types = .error err := by
    intro index err
    have hsame : marshalArgs types heap args = .error (index, err) ↔
        scriptForms types 0 args = .error (index, err) := by
      unfold marshalArgs
      cases scriptForms types 0 args <;> simp
    rw [hsame, scriptForms_error_iff]
    constructor
    · rintro ⟨before, arg, rest, hargs, hplace, hbefore, harg⟩
      exact ⟨before, arg, rest, hargs, by omega, hbefore,
        NativeValue.toScript_error_iff.mp ⟨err, harg⟩, harg⟩
    · rintro ⟨before, arg, rest, hargs, hplace, hbefore, -, harg⟩
      exact ⟨before, arg, rest, hargs, by omega, hbefore, harg⟩
  constructor
  case succeeds =>
    constructor
    · rintro ⟨taken, htaken⟩
      unfold marshalArgs at htaken
      cases hforms : scriptForms types 0 args with
      | error err => simp [hforms] at htaken
      | ok values => exact (scriptForms_ok hforms).2.2
    · intro hcross
      obtain ⟨values, hforms⟩ := scriptForms_of_crosses 0 hcross
      exact ⟨(values, retainAll heap (values.flatMap ScriptValue.objects)),
        by simp only [marshalArgs, hforms]⟩
  case counts =>
    intro values after htaken
    unfold marshalArgs at htaken
    cases hforms : scriptForms types 0 args with
    | error err => simp [hforms] at htaken
    | ok found =>
      simp only [hforms, Except.ok.injEq, Prod.mk.injEq] at htaken
      obtain ⟨rfl, rfl⟩ := htaken
      obtain ⟨hvalues, hobjects, -⟩ := scriptForms_ok hforms
      refine ⟨hvalues.length_eq.symm, hvalues, fun address => ?_⟩
      rw [hobjects]
      exact strongCount_retainAll heap hheld address
  case handles => exact NativeValue.handlesAt_eq_countP
  case fails => exact hplaces
  case undone =>
    intro failure hfailed
    rw [takeOver_eq 0 hheld]
    unfold marshalArgs at hfailed
    cases hforms : scriptForms types 0 args with
    | error err =>
      rw [hforms] at hfailed
      cases hfailed
      rfl
    | ok values => simp [hforms] at hfailed
  case gathered =>
    intro values after htaken
    rw [takeOver_eq 0 hheld]
    unfold marshalArgs at htaken
    cases hforms : scriptForms types 0 args with
    | error err => simp [hforms] at htaken
    | ok found =>
      rw [hforms] at htaken
      cases htaken
      rfl

end

/-! ### Calls -/

/-- The world in which a call is counted that has taken over some values. -/
def World.calling (world : World) (values : List ScriptValue) : World :=
  { world with
    objects := retainAll world.objects (values.flatMap ScriptValue.objects)
    executor := { world.executor with invocations := world.executor.invocations + 1 } }

namespace Act

variable {function : FunctionRef} {this : Option ScriptValue} {args : List NativeValue}
  {setup : RunSetup} {wanted : ReturnType} {world : World}

/-- A call with fewer arguments than its function has parameters is refused. The
object comes back as it was, with handles of its own. -/
theorem call_of_few (this : Option ScriptValue) (setup : RunSetup) (wanted : ReturnType)
    (world : World) (hfew : args.length < function.arity) :
    (call function this args setup wanted).run world =
      ((.error (.argumentCount function.name function.arity args.length), this),
        world.retain ((this.map ScriptValue.objects).getD [])) := by
  unfold call
  rw [if_pos hfew]
  rfl

/-- A call with an argument that does not cross is refused likewise. -/
theorem call_of_refused (this : Option ScriptValue) (setup : RunSetup) (wanted : ReturnType)
    (henough : function.arity ≤ args.length) {index : Nat} {cause : MarshalError}
    (hforms : scriptForms world.executor.types 0 (args.take function.arity) =
      .error (index, cause)) :
    (call function this args setup wanted).run world =
      ((.error (.typeMismatch function.name index cause), this),
        world.retain ((this.map ScriptValue.objects).getD [])) := by
  have hmarshal : marshalArgs world.executor.types world.objects (args.take function.arity) =
      .error (index, cause) := by
    simp only [marshalArgs, hforms]
  unfold call
  rw [if_neg (Nat.not_lt.mpr henough), run_eq, result_get_bind, after_get_bind]
  simp only [hmarshal]
  rfl

/-- Any other call is counted and made. -/
theorem call_of_forms (this : Option ScriptValue) (setup : RunSetup) (wanted : ReturnType)
    (henough : function.arity ≤ args.length) {values : List ScriptValue}
    (hforms : scriptForms world.executor.types 0 (args.take function.arity) = .ok values) :
    (call function this args setup wanted).run world =
      (callWith function this values setup wanted).run (world.calling values) := by
  have hmarshal : marshalArgs world.executor.types world.objects (args.take function.arity) =
      .ok (values, retainAll world.objects (values.flatMap ScriptValue.objects)) := by
    simp only [marshalArgs, hforms]
  unfold call
  rw [if_neg (Nat.not_lt.mpr henough), run_eq, result_get_bind, after_get_bind]
  simp only [hmarshal]
  rfl

/-- Arguments beyond the parameters of the function do nothing. -/
theorem call_take (henough : function.arity ≤ args.length) :
    call function this (args.take function.arity) setup wanted =
      call function this args setup wanted := by
  have hlength : ¬(args.take function.arity).length < function.arity := by
    rw [List.length_take]
    omega
  unfold call
  rw [if_neg hlength, if_neg (Nat.not_lt.mpr henough), List.take_take, Nat.min_self]

/-- A call for a result only is refused for its arguments without a trace. -/
theorem invoke_of_few (hfew : args.length < function.arity) :
    (invoke function args setup wanted).run world =
      (.error (.argumentCount function.name function.arity args.length), world) := by
  have hcall := call_of_few none setup wanted world hfew
  change (((call function none args setup wanted).run world).1.1,
    ((call function none args setup wanted).run world).2) = _
  rw [hcall]
  rfl

theorem invoke_of_refused (henough : function.arity ≤ args.length) {index : Nat}
    {cause : MarshalError}
    (hforms : scriptForms world.executor.types 0 (args.take function.arity) =
      .error (index, cause)) :
    (invoke function args setup wanted).run world =
      (.error (.typeMismatch function.name index cause), world) := by
  have hcall := call_of_refused none setup wanted henough hforms
  change (((call function none args setup wanted).run world).1.1,
    ((call function none args setup wanted).run world).2) = _
  rw [hcall]
  rfl

/-- A call whose arguments cross is counted once, whatever comes of it. -/
theorem invocations_invoke (henough : function.arity ≤ args.length)
    (hcross : ∀ arg ∈ args.take function.arity, arg.Crosses world.executor.types) :
    (after (invoke function args setup wanted) world).executor.invocations =
      world.executor.invocations + 1 := by
  obtain ⟨values, hforms⟩ := scriptForms_of_crosses 0 hcross
  have hcall := call_of_forms none setup wanted henough hforms
  obtain ⟨host, hafter⟩ :=
    callWith_after function none values setup wanted (world.calling values)
  change ((call function none args setup wanted).run world).2.executor.invocations = _
  rw [hcall]
  change (after (callWith function none values setup wanted) _).executor.invocations = _
  rw [hafter]
  rfl

/-- What arguments come behind those that a function has parameters for makes no
difference. -/
theorem invoke_append (henough : function.arity ≤ args.length) (further : List NativeValue) :
    invoke function (args.take function.arity ++ further) setup wanted =
      invoke function args setup wanted := by
  have hlength : (args.take function.arity).length = function.arity := by
    rw [List.length_take]
    omega
  have hlonger : function.arity ≤ (args.take function.arity ++ further).length := by
    rw [List.length_append]
    omega
  have htake : (args.take function.arity ++ further).take function.arity =
      args.take function.arity := by
    rw [List.take_append_of_le_length (by omega), List.take_take, Nat.min_self]
  have hcall : call function none (args.take function.arity ++ further) setup wanted =
      call function none args setup wanted := by
    rw [← call_take hlonger, htake, call_take henough]
  simp only [invoke, hcall]

/-- A world with a gadget and a widget, where only the type of the gadget is
registered. -/
def lending : World :=
  let executor := Executor.standard.registerObject .gadget "Gadget" false
  let world := World.create ⟨.directory [], []⟩ executor
  { world with
    objects := ((world.objects.alloc (.thing "gadget")).2.alloc (.thing "widget")).2 }

def gadget : NativeValue := .object ⟨.gadget, 1⟩

def widget : NativeValue := .object ⟨.widget, 2⟩

/-- A function of two parameters. -/
def pair : FunctionRef := ⟨⟨1, "M-1", ⟨[], []⟩, ⟨[]⟩, .nothing⟩, "pair", 2⟩

end Act

end ScriptHost
