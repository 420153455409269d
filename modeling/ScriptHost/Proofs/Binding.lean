import ScriptHost.Proofs.Accounts
import ScriptHost.World.Callback

/-!
The handles that callbacks have. A callback is reset, bound, taken hold of for a call
and let go in steps of their own, and for each of these it is told which handles are
kept or lent. Only the beginning of an invocation tells that a target is gone.
-/

namespace ScriptHost

namespace Act

variable {bound : Nat} {kept loose : List Nat} {world : World}

/-! ### Taking hold of a target -/

/-- What an invocation has taken hold of when it has begun. -/
def takenRefs (taken : Except InvokeError (FunctionRef × Option ScriptValue)) :
    List ObjectRef :=
  match taken with
  | .ok (_, target) => targetRefs target
  | .error _ => []

/-- An invocation takes hold of a living object that the callback holds weakly. -/
theorem takeTarget_alive (function : FunctionRef) {ref : ObjectRef}
    (halive : world.objects.isAlive ref.address = true) :
    (takeTarget ⟨some function, some (.weak ref)⟩).run world =
      ((⟨some function, some (.weak ref)⟩, .ok (function, some (.object ref))),
        world.retain [ref]) := by
  have hupgrade : world.objects.upgrade ref.address =
      some (world.objects.retain ref.address) := if_pos halive
  unfold takeTarget
  rw [run_eq, result_get_bind, after_get_bind]
  simp only [hupgrade]
  rfl

/-- If the object is gone, the callback is empty from then on. -/
theorem takeTarget_gone (function : FunctionRef) {ref : ObjectRef}
    (hgone : world.objects.isAlive ref.address = false) :
    (takeTarget ⟨some function, some (.weak ref)⟩).run world =
      ((.empty, .error .targetGone), world) := by
  have hupgrade : world.objects.upgrade ref.address = none := by
    unfold Heap.upgrade
    rw [hgone]
    rfl
  unfold takeTarget
  rw [run_eq, result_get_bind, after_get_bind]
  simp only [hupgrade]
  rfl

/-- What the beginning of an invocation can do: from the world and the callback, it
leads to what is left of the callback, to what it has taken hold of and to the world
afterwards. -/
inductive TakesHold (world : World) : Callback → Callback →
    Except InvokeError (FunctionRef × Option ScriptValue) → World → Prop
  | empty (target : Option BoundTarget) :
    TakesHold world ⟨none, target⟩ ⟨none, target⟩ (.error .emptyCallback) world
  | plain (function : FunctionRef) :
    TakesHold world ⟨some function, none⟩ ⟨some function, none⟩ (.ok (function, none)) world
  | strong (function : FunctionRef) (value : ScriptValue) :
    TakesHold world ⟨some function, some (.strong value)⟩ ⟨some function, some (.strong value)⟩
      (.ok (function, some value)) (world.retain value.objects)
  | alive (function : FunctionRef) {ref : ObjectRef}
    (halive : world.objects.isAlive ref.address = true) :
    TakesHold world ⟨some function, some (.weak ref)⟩ ⟨some function, some (.weak ref)⟩
      (.ok (function, some (.object ref))) (world.retain [ref])
  | gone (function : FunctionRef) {ref : ObjectRef}
    (hgone : world.objects.isAlive ref.address = false) :
    TakesHold world ⟨some function, some (.weak ref)⟩ .empty (.error .targetGone) world

theorem takeTarget_takesHold (callback : Callback) (world : World) :
    TakesHold world callback (result (takeTarget callback) world).1
      (result (takeTarget callback) world).2 (after (takeTarget callback) world) := by
  obtain ⟨function, target⟩ := callback
  cases function with
  | none => exact .empty target
  | some function =>
    cases target with
    | none => exact .plain function
    | some target =>
      cases target with
      | strong value => exact .strong function value
      | weak ref =>
        cases halive : world.objects.isAlive ref.address with
        | true =>
          have hrun := takeTarget_alive function halive
          rw [run_eq, Prod.mk.injEq] at hrun
          rw [hrun.1, hrun.2]
          exact .alive function halive
        | false =>
          have hrun := takeTarget_gone function halive
          rw [run_eq, Prod.mk.injEq] at hrun
          rw [hrun.1, hrun.2]
          exact .gone function halive

variable {callback left : Callback} {later : World}
  {taken : Except InvokeError (FunctionRef × Option ScriptValue)}

/-- The beginning of an invocation leaves a callback the handles that it has. -/
theorem TakesHold.objects (hold : TakesHold world callback left taken later) :
    left.objects = callback.objects := by
  cases hold with
  | empty target => rfl
  | plain function => rfl
  | strong function value => rfl
  | alive function halive => rfl
  | gone function hgone => rfl

/-- It lends the handles that it takes hold of. They are handles of what lives: the
callback has others, or the object has turned out to be there. -/
theorem TakesHold.accounts (hold : TakesHold world callback left taken later)
    (haccount : world.Accounts bound kept []) :
    later.Accounts bound kept ((takenRefs taken).map ObjectRef.address ++ []) ∧
      ∀ ref ∈ takenRefs taken, ref.address < bound → ref ∈ callback.objects ∨
        (later.objects.get? ref.address).isSome = true := by
  cases hold with
  | empty target => exact ⟨haccount, fun ref href => by cases href⟩
  | plain function => exact ⟨haccount, fun ref href => by cases href⟩
  | strong function value =>
    exact ⟨retain_accounts value.objects haccount, fun ref href _ => .inl href⟩
  | alive function halive =>
    refine ⟨retain_accounts _ haccount, fun ref href hbound => .inr ?_⟩
    obtain rfl := List.mem_singleton.mp href
    change ((world.objects.retain ref.address).get? ref.address).isSome = true
    rw [haccount.objects.get?_retain]
    exact haccount.isSome_of_alive hbound halive
  | gone function hgone => exact ⟨haccount, fun ref href => by cases href⟩

/-- The end of an invocation gives up what its beginning has taken hold of, whatever
comes of the call, and lends the handles of the result. -/
theorem callTaken_accounts (function : FunctionRef) (target : Option ScriptValue)
    (args : List NativeValue) (setup : RunSetup) (wanted : ReturnType)
    (haccount : world.Accounts bound kept ((targetRefs target).map ObjectRef.address ++ loose)) :
    (after (callTaken function target args setup wanted) world).Accounts bound kept
      ((resultRefs (result (callTaken function target args setup wanted) world)).map
        ObjectRef.address ++ loose) := by
  cases target with
  | none => exact invoke_accounts function args setup wanted haccount
  | some value =>
    have hcalled := call_accounts function (some value) args setup wanted haccount
    have hleft := dropObjects_accounts _ hcalled
    have hheld : (after (dropObjects (targetRefs (result (call function (some value) args
          setup wanted) world).2)) (after (call function (some value) args setup wanted)
            world)).Accounts bound kept
        (value.objects.map ObjectRef.address ++
          ((resultRefs (result (call function (some value) args setup wanted) world).1).map
            ObjectRef.address ++ loose)) := hleft.relend fun address => by
      simp only [targetRefs, List.count_append, Option.map_some, Option.getD_some]
      omega
    exact dropObjects_accounts value.objects hheld

/-! ### Binding -/

theorem dropUpTo_nil (owners : Nat) (world : World) : after (dropUpTo owners []) world = world := by
  cases owners with
  | zero => rfl
  | succ owners => rfl

theorem dropObjects_nil (world : World) : after (dropObjects []) world = world :=
  dropUpTo_nil _ world

/-- A callback that is reset gives up the handles that it has. -/
theorem resetCallback_accounts (callback : Callback)
    (haccount : world.Accounts bound kept (callback.objects.map ObjectRef.address ++ loose)) :
    (after (resetCallback callback) world).Accounts bound kept loose :=
  dropObjects_accounts callback.objects haccount

/-- A callback that is bound to a value has the handles of the value from then on, or
has given them up. -/
theorem bindCallback_accounts (function : FunctionRef) (target : Option ScriptValue)
    (haccount : world.Accounts bound ((targetRefs target).map ObjectRef.address ++ kept) loose) :
    (after (bindCallback function target) world).Accounts bound
      ((result (bindCallback function target) world).objects.map ObjectRef.address ++ kept)
      loose := by
  unfold bindCallback
  split
  · exact haccount
  · rw [after_get_bind, result_get_bind]
    split
    · rename_i ref _
      have hlent : world.Accounts bound kept ([ref].map ObjectRef.address ++ loose) :=
        haccount.lend (fun address => by
          simp only [targetRefs, Option.map_some, Option.getD_some, ScriptValue.objects,
            List.count_append]
          omega)
          fun address => by simp only [List.count_append]; omega
      exact dropObjects_accounts [ref] hlent
    · exact haccount.of_eq rfl rfl

/-- An object whose type can be held weakly is held so. -/
theorem bindCallback_weak (function : FunctionRef) {ref : ObjectRef}
    (hweak : world.executor.supportsWeak (.object ref) = true) :
    (bindCallback function (some (.object ref))).run world =
      (⟨some function, some (.weak ref)⟩, after (dropObjects [ref]) world) := by
  unfold bindCallback
  rw [run_eq, result_get_bind, after_get_bind]
  simp only [hweak]
  rfl

/-- Any other value is held as it is. -/
theorem bindCallback_strong (function : FunctionRef) {value : ScriptValue}
    (hstrong : world.executor.supportsWeak value = false) :
    result (bindCallback function (some value)) world =
      ⟨some function, some (.strong value)⟩ := by
  unfold bindCallback
  rw [result_get_bind]
  simp only [hstrong]
  rfl

/-! ### What calls tell -/

theorem readResult_notGone (function : FunctionRef) (value : ScriptValue)
    (wanted : ReturnType) (world : World) :
    result (readResult function value wanted) world ≠ .error .targetGone := by
  unfold readResult
  split
  · split
    · intro htold
      cases htold
    · intro htold
      cases htold
  · split
    · intro htold
      cases htold
    · intro htold
      cases htold

theorem reportFailure_notGone (function : FunctionRef) (err : Script.RuntimeError)
    (tripped : Option AbortReason) (setup : RunSetup) (world : World) :
    result (reportFailure function err tripped setup) world ≠ .targetGone := by
  have hfailure : InvokeError.ofRun function err tripped ≠ .targetGone := by
    unfold InvokeError.ofRun
    dsimp only
    split
    · intro htold
      cases htold
    · intro htold
      cases htold
  unfold reportFailure
  dsimp only
  split
  · exact hfailure
  · split
    · exact hfailure
    · exact hfailure
  · exact hfailure

/-- No call tells that the target of a callback is gone. -/
theorem callWith_notGone (function : FunctionRef) (this : Option ScriptValue)
    (values : List ScriptValue) (setup : RunSetup) (wanted : ReturnType) (world : World) :
    (result (callWith function this values setup wanted) world).1 ≠ .error .targetGone := by
  unfold callWith
  rw [result_get_bind]
  dsimp only
  rw [result_bind, after_set]
  split
  · exact readResult_notGone function _ wanted _
  · exact fun htold => reportFailure_notGone function _ _ setup _ (Except.error.inj htold)
  · intro htold
    cases htold

theorem call_notGone (function : FunctionRef) (this : Option ScriptValue)
    (args : List NativeValue) (setup : RunSetup) (wanted : ReturnType) (world : World) :
    (result (call function this args setup wanted) world).1 ≠ .error .targetGone := by
  unfold call
  dsimp only
  split
  · rw [result_bind, result_pure]
    simp
  · rw [result_get_bind]
    split
    · rw [result_bind, result_pure]
      simp
    · exact callWith_notGone function this _ setup wanted _

theorem callTaken_notGone (function : FunctionRef) (target : Option ScriptValue)
    (args : List NativeValue) (setup : RunSetup) (wanted : ReturnType) (world : World) :
    result (callTaken function target args setup wanted) world ≠ .error .targetGone := by
  cases target with
  | none => exact call_notGone function none args setup wanted world
  | some value => exact call_notGone function (some value) args setup wanted world

end Act

end ScriptHost
