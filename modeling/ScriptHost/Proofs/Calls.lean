import ScriptHost.Proofs.Soundness
import ScriptHost.World.Ownership
import ScriptHost.World.Reload

/-!
Calls into scripts leave all script modules alone. Whatever a script function
does, it changes the host, the counts of handles and the number of invocations,
and neither makes nor changes a game module.
-/

namespace ScriptHost

namespace Act

variable {α β : Type}

/-- Whether an operation leaves all script modules alone and makes no game
module. -/
def IsQuiet (act : Act α) : Prop :=
  ∀ world : World, world.Quiet (act.after world)

theorem IsQuiet.pure (value : α) : IsQuiet (Pure.pure value) :=
  fun world => .refl world

theorem IsQuiet.bind {act : Act α} {next : α → Act β} (hact : IsQuiet act)
    (hnext : ∀ value, IsQuiet (next value)) : IsQuiet (act >>= next) :=
  fun world => (hact world).trans (hnext _ _)

theorem IsQuiet.map {act : Act α} (change : α → β) (hact : IsQuiet act) :
    IsQuiet (change <$> act) :=
  fun world => hact world

theorem IsQuiet.get : IsQuiet (MonadState.get : Act World) :=
  fun world => .refl world

theorem warn_isQuiet (message : String) : IsQuiet (warn message) :=
  fun world => world.warn_quiet message

theorem error_isQuiet (message : String) : IsQuiet (error message) :=
  fun world => world.error_quiet message

theorem note_isQuiet (game script : Nat) (event : EventType) : IsQuiet (note game script event) :=
  fun world => world.noting_quiet game script event

theorem retain_isQuiet (refs : List ObjectRef) : IsQuiet (retain refs) :=
  fun world => world.retain_quiet refs

theorem IsQuiet.forM {act : α → Act PUnit} (hact : ∀ value, IsQuiet (act value)) :
    ∀ values : List α, IsQuiet (values.forM act)
  | [] => .pure _
  | value :: rest => .bind (hact value) fun _ => IsQuiet.forM hact rest

/-- An operation that makes an object which is no game module. -/
theorem allocate_isQuiet (type : ObjectType) {body : ObjectBody}
    (hbody : ∀ game, body ≠ .game game) : IsQuiet (allocate type body) :=
  fun world => world.alloc_quiet hbody

/-! ### What a call leaves -/

/-- The objects that the result of a call has handles of. -/
def resultRefs (outcome : Except InvokeError (Option NativeValue)) :
    List ObjectRef :=
  match outcome with
  | .ok (some value) => value.objects
  | _ => []

/-- The objects of the value that a function is called as a method of, if it is called
as one. -/
def targetRefs (this : Option ScriptValue) : List ObjectRef :=
  (this.map ScriptValue.objects).getD []

theorem readResult_after (function : FunctionRef) (value : ScriptValue) (wanted : ReturnType)
    (world : World) :
    ∃ host, after (readResult function value wanted) world = { world with host := host } := by
  unfold readResult
  split
  · split
    · exact ⟨_, rfl⟩
    · exact ⟨_, rfl⟩
  · split
    · exact ⟨_, rfl⟩
    · exact ⟨_, rfl⟩

theorem reportFailure_after (function : FunctionRef) (err : Script.RuntimeError)
    (tripped : Option AbortReason) (setup : RunSetup) (world : World) :
    ∃ host, after (reportFailure function err tripped setup) world =
      { world with host := host } := by
  unfold reportFailure
  dsimp only
  split
  · exact ⟨_, rfl⟩
  · split
    · exact ⟨_, rfl⟩
    · exact ⟨_, rfl⟩
  · exact ⟨_, rfl⟩

/-- What a call with values in script form leaves: apart from what the script did
to the host, the handles of the result and of the object are new, and those
of the values are gone. -/
theorem callWith_after (function : FunctionRef) (this : Option ScriptValue)
    (values : List ScriptValue) (setup : RunSetup) (wanted : ReturnType) (world : World) :
    ∃ host, after (callWith function this values setup wanted) world =
      ((({ world with host := host } : World).retain
          (resultRefs (result (callWith function this values setup wanted) world).1)).retain
        (targetRefs (result (callWith function this values setup wanted) world).2)).release
          (values.flatMap ScriptValue.objects) := by
  unfold callWith
  rw [after_get_bind, result_get_bind]
  dsimp only
  rw [after_bind, result_bind, after_set]
  generalize world.runFunction function this values
    (setup.timeout.or world.executor.timeout) setup.abort = outcome
  have hend : ∀ act : Act (Except InvokeError (Option NativeValue)),
      (∃ host, after act { world with host := outcome.host } = { world with host := host }) →
      let finished : Act (Except InvokeError (Option NativeValue) × Option ScriptValue) := do
        let found ← act
        retain (resultRefs found)
        retain (targetRefs outcome.this)
        modify (·.release (values.flatMap ScriptValue.objects))
        return (found, outcome.this)
      ∃ host, after finished { world with host := outcome.host } =
        ((({ world with host := host } : World).retain
            (resultRefs (result finished { world with host := outcome.host }).1)).retain
          (targetRefs (result finished { world with host := outcome.host }).2)).release
            (values.flatMap ScriptValue.objects) := by
    rintro act ⟨host, hafter⟩
    refine ⟨host, ?_⟩
    simp only [after_bind, result_bind, after_retain, after_modify, after_pure, result_pure, hafter]
  split
  · exact hend _ (readResult_after function _ wanted _)
  · exact hend _ (reportFailure_after function _ outcome.tripped setup _)
  · exact hend _ ⟨_, rfl⟩

theorem callWith_isQuiet (function : FunctionRef) (this : Option ScriptValue)
    (values : List ScriptValue) (setup : RunSetup) (wanted : ReturnType) :
    IsQuiet (callWith function this values setup wanted) := by
  intro world
  obtain ⟨host, hafter⟩ := callWith_after function this values setup wanted world
  rw [hafter]
  exact (((World.Quiet.of_host host).trans (World.retain_quiet _ _)).trans
    (World.retain_quiet _ _)).trans (World.release_quiet _ _)

/-- Arguments that are taken over have handles of their own. -/
theorem marshalArgs_objects {types : TypeTable} {objects taken : Heap ObjectBody}
    {args : List NativeValue} {values : List ScriptValue}
    (hmarshal : marshalArgs types objects args = .ok (values, taken)) :
    taken = retainAll objects (values.flatMap ScriptValue.objects) := by
  unfold marshalArgs at hmarshal
  split at hmarshal
  · cases hmarshal
  · cases hmarshal
    rfl

theorem call_isQuiet (function : FunctionRef) (this : Option ScriptValue)
    (args : List NativeValue) (setup : RunSetup) (wanted : ReturnType) :
    IsQuiet (call function this args setup wanted) := by
  intro world
  unfold call
  split
  · exact retain_isQuiet _ world
  · simp only [after_bind, after_get, result_get]
    split
    · exact retain_isQuiet _ world
    · rename_i values objects hmarshal
      simp only [after_bind, after_set]
      refine World.Quiet.trans ?_ (callWith_isQuiet function this values setup wanted _)
      have hquiet := world.retain_quiet (values.flatMap ScriptValue.objects)
      rw [marshalArgs_objects hmarshal]
      exact ⟨rfl, rfl, rfl, rfl, rfl, rfl, hquiet.next, hquiet.objects, hquiet.games⟩

theorem invoke_isQuiet (function : FunctionRef) (args : List NativeValue)
    (setup : RunSetup) (wanted : ReturnType) :
    IsQuiet (invoke function args setup wanted) :=
  .bind (call_isQuiet function none args setup wanted) fun _ => .pure _

theorem selfValue_isQuiet (address : Nat) : IsQuiet (selfValue address) := by
  intro world
  unfold selfValue
  simp only [after_bind, after_get, result_get]
  split
  · rename_i objects hupgrade
    exact World.upgrade_quiet hupgrade
  · exact .refl world

theorem noteHooks_isQuiet (address : Nat) (hooks : Hooks) (event : EventType) :
    IsQuiet (noteHooks address hooks event) := by
  cases hooks with
  | given release init => exact .pure _
  | game place => exact note_isQuiet place address event

theorem hookArgs_isQuiet (hooks : Hooks) (event : EventType) :
    IsQuiet (hookArgs hooks event) := by
  intro world
  unfold hookArgs
  split
  · exact retain_isQuiet _ world
  · simp only [after_bind, after_get, result_get]
    have hmade : IsQuiet (allocate .event (.event (.plain event))) :=
      allocate_isQuiet .event (by simp)
    refine (hmade world).trans ?_
    split
    · rename_i objects hupgrade
      exact World.upgrade_quiet hupgrade
    · exact .refl _

end Act

end ScriptHost
