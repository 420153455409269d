import ScriptHost.Proofs.Calls
import ScriptHost.World.Load
import ScriptHost.World.Reload

/-!
Operations during which no game module gets a lifecycle event. Only the release of a script
module, the end of an initialization and a reload say that one is delivered; everything that
they are made of apart from that is silent.
-/

namespace ScriptHost

namespace Act

variable {α β : Type}

/-- Whether an operation delivers no lifecycle event. -/
def IsSilent (act : Act α) : Prop :=
  ∀ world : World, (after act world).deliveries = world.deliveries

theorem IsSilent.pure (value : α) : IsSilent (Pure.pure value) :=
  fun _ => rfl

theorem IsSilent.bind {act : Act α} {next : α → Act β} (hact : IsSilent act)
    (hnext : ∀ value, IsSilent (next value)) : IsSilent (act >>= next) :=
  fun world => (hnext _ _).trans (hact world)

theorem IsSilent.map {act : Act α} (change : α → β) (hact : IsSilent act) :
    IsSilent (change <$> act) :=
  fun world => hact world

theorem IsSilent.get : IsSilent (MonadState.get : Act World) :=
  fun _ => rfl

/-- An operation that goes on with what it finds. -/
theorem IsSilent.get_bind {next : World → Act β}
    (hnext : ∀ world, (after (next world) world).deliveries = world.deliveries) :
    IsSilent (MonadState.get >>= next) :=
  fun world => hnext world

theorem IsSilent.forM {act : α → Act PUnit} (hact : ∀ value, IsSilent (act value)) :
    ∀ values : List α, IsSilent (values.forM act)
  | [] => .pure _
  | value :: rest => .bind (hact value) fun _ => IsSilent.forM hact rest

theorem warn_isSilent (message : String) : IsSilent (warn message) := fun _ => rfl

theorem error_isSilent (message : String) : IsSilent (error message) := fun _ => rfl

theorem onExecutor_isSilent (change : Executor → Executor) : IsSilent (onExecutor change) :=
  fun _ => rfl

theorem onModule_isSilent (address : Nat) (change : ScriptModule → ScriptModule) :
    IsSilent (onModule address change) :=
  fun _ => rfl

theorem retain_isSilent (refs : List ObjectRef) : IsSilent (retain refs) := fun _ => rfl

theorem allocate_isSilent (type : ObjectType) (body : ObjectBody) :
    IsSilent (allocate type body) :=
  fun _ => rfl

/-! ### Script modules -/

theorem stopMonitoring_isSilent (address id : Nat) : IsSilent (stopMonitoring address id) := by
  refine .bind .get fun world => ?_
  split
  · exact .bind (onExecutor_isSilent _) fun _ => onModule_isSilent address _
  · exact onModule_isSilent address _

theorem tearDown_isSilent (address : Nat) : IsSilent (tearDown address) := by
  refine .bind .get fun world => ?_
  split
  · exact .pure _
  · dsimp only
    have hrest : ∀ id, IsSilent (do
        stopMonitoring address id
        onModule address ScriptModule.discarded) := fun id =>
      .bind (stopMonitoring_isSilent address id) fun _ => onModule_isSilent address _
    split
    · exact .bind (onExecutor_isSilent _) fun _ => hrest _
    · exact hrest _

theorem discard_isSilent (address : Nat) (reason : String) :
    IsSilent (discard address reason) := by
  refine .bind .get fun world => ?_
  split
  · exact .pure _
  · refine .bind (tearDown_isSilent address) fun _ => ?_
    split
    · exact warn_isSilent _
    · exact .pure _

theorem startMonitoring_isSilent (address id : Nat) (files : List Path) :
    IsSilent (startMonitoring address id files) := by
  refine .bind .get fun world => ?_
  dsimp only
  split
  · exact onModule_isSilent address _
  · refine .bind (onExecutor_isSilent _) fun _ => ?_
    split
    · exact onModule_isSilent address _
    · exact .bind (warn_isSilent _) fun _ => onModule_isSilent address _

theorem compileModule_isSilent (address : Nat) (module : ScriptModule) :
    IsSilent (compileModule address module) := by
  refine .bind .get fun world => ?_
  dsimp only
  refine .bind (onExecutor_isSilent _) fun _ => ?_
  split
  · exact .bind (onExecutor_isSilent _) fun _ => .bind (onModule_isSilent address _) fun _ =>
      .bind (startMonitoring_isSilent address module.id _) fun _ => .pure _
  · exact .bind (error_isSilent _) fun _ => .bind (onModule_isSilent address _) fun _ => .pure _

theorem build_isSilent (address : Nat) : IsSilent (build address) := by
  refine .bind .get fun world => ?_
  split
  · exact .pure _
  · split
    · dsimp only
      split
      · exact .pure _
      · exact .bind (discard_isSilent address _) fun _ => .pure _
    · split
      · exact compileModule_isSilent address _
      · exact .bind (discard_isSilent address _) fun _ => .pure _
    · exact .pure _

theorem listenerIndex_isSilent (address : Nat) : IsSilent (listenerIndex address) := by
  refine .bind (build_isSilent address) fun compiled => ?_
  split
  · exact .pure _
  · refine .bind .get fun world => ?_
    split
    · exact .pure _
    · exact .bind (.forM warn_isSilent _) fun _ =>
        .bind (onModule_isSilent address _) fun _ => .pure _

theorem findListener_isSilent (address : Nat) (name : String) (genericType : Option String) :
    IsSilent (findListener address name genericType) :=
  .bind (listenerIndex_isSilent address) fun _ => .pure _

theorem release_isSilent (address : Nat) : IsSilent (release address) :=
  .bind .get fun _ => .bind (onModule_isSilent address _) fun _ =>
    .bind (tearDown_isSilent address) fun _ => .pure _

theorem clearHooks_isSilent (address : Nat) : IsSilent (clearHooks address) :=
  .bind .get fun _ => .bind (onModule_isSilent address _) fun _ => .pure _

theorem setHooks_isSilent (address : Nat) (hooks : Hooks) :
    IsSilent (setHooks address hooks) := by
  refine .bind .get fun world => ?_
  split
  · exact .pure _
  · exact .bind (onModule_isSilent address _) fun _ => .pure _

theorem renew_isSilent (address : Nat) : IsSilent (renew address) := by
  refine .bind .get fun world => ?_
  split
  · exact .pure _
  · exact .bind (onExecutor_isSilent _) fun _ => .bind (.forM warn_isSilent _) fun _ =>
      onModule_isSilent address _

/-! ### Calls -/

theorem callWith_isSilent (function : FunctionRef) (this : Option ScriptValue)
    (values : List ScriptValue) (setup : RunSetup) (wanted : ReturnType) :
    IsSilent (callWith function this values setup wanted) := by
  intro world
  obtain ⟨host, hafter⟩ := callWith_after function this values setup wanted world
  rw [hafter]
  rfl

theorem call_isSilent (function : FunctionRef) (this : Option ScriptValue)
    (args : List NativeValue) (setup : RunSetup) (wanted : ReturnType) :
    IsSilent (call function this args setup wanted) := by
  unfold call
  dsimp only
  split
  · exact .bind (retain_isSilent _) fun _ => .pure _
  · refine .get_bind fun world => ?_
    split
    · rfl
    · rw [after_bind, after_set]
      exact callWith_isSilent _ _ _ _ _ _

theorem invoke_isSilent (function : FunctionRef) (args : List NativeValue) (setup : RunSetup)
    (wanted : ReturnType) : IsSilent (invoke function args setup wanted) :=
  .bind (call_isSilent _ _ _ _ _) fun _ => .pure _

theorem selfValue_isSilent (address : Nat) : IsSilent (selfValue address) := by
  refine .get_bind fun world => ?_
  split
  · rfl
  · rfl

theorem hookArgs_isSilent (hooks : Hooks) (event : EventType) :
    IsSilent (hookArgs hooks event) := by
  unfold hookArgs
  split
  · exact .bind (retain_isSilent _) fun _ => .pure _
  · refine .bind (allocate_isSilent _ _) fun _ => .get_bind fun world => ?_
    split
    · rfl
    · rfl

theorem fireLifecycle_isSilent (address : Nat) (kind : ListenerKind) (args : List NativeValue) :
    IsSilent (fireLifecycle address kind args) := by
  refine .bind (findListener_isSilent _ _ _) fun found => ?_
  split
  · exact .pure _
  · refine .bind (invoke_isSilent _ _ _ _) fun result => ?_
    split
    · exact .pure _
    · exact .bind (error_isSilent _) fun _ => .pure _

theorem deliver_isSilent (script : Nat) (event : Event) (game : NativeValue) :
    IsSilent (deliver script event game) := by
  refine .bind (findListener_isSilent _ _ _) fun found => ?_
  split
  · exact .pure _
  · exact .bind (retain_isSilent _) fun _ => .bind (allocate_isSilent _ _) fun _ =>
      .bind (invoke_isSilent _ _ _ _) fun _ => .pure _

theorem fire_isSilent (address : Nat) (event : Event) : IsSilent (fire address event) := by
  refine .bind .get fun world => ?_
  split
  · exact .pure _
  · exact .bind (selfValue_isSilent _) fun _ => .bind (deliver_isSilent _ _ _) fun _ => .pure _

/-! ### The registry and the executor -/

theorem deleteModule_isSilent (id : Nat) : IsSilent (deleteModule id) := by
  refine .bind .get fun world => ?_
  split
  · exact .pure _
  · exact .bind (onExecutor_isSilent _) fun _ => .bind (release_isSilent _) fun _ => .pure _

theorem removeScript_isSilent (script : Nat) : IsSilent (removeScript script) := by
  refine .bind .get fun world => ?_
  split
  · exact .pure _
  · refine .bind (deleteModule_isSilent _) fun found => ?_
    dsimp only
    split
    · exact .pure _
    · exact release_isSilent script

theorem releaseExecutor_isSilent : IsSilent releaseExecutor := by
  refine .get_bind fun world => ?_
  dsimp only
  split
  · rfl
  · rfl

theorem destroyModule_isSilent (module : ScriptModule) : IsSilent (destroyModule module) := by
  refine .bind .get fun world => ?_
  dsimp only
  split
  · refine .bind (onExecutor_isSilent _) fun _ => ?_
    split
    · exact .bind (onExecutor_isSilent _) fun _ => .pure _
    · exact .pure _
  · exact .pure _

theorem dropModule_isSilent (address : Nat) : IsSilent (dropOne (.module address)) := by
  refine .get_bind fun world => ?_
  dsimp only
  split
  · rfl
  · rw [after_bind, after_set, after_bind, after_bind, after_modify]
    exact destroyModule_isSilent _ _

/-! ### Loading -/

theorem exportPaths_isSilent (address : Nat) : IsSilent (exportPaths address) := by
  refine .bind .get fun world => ?_
  split
  · exact .pure _
  · exact .pure _

end Act

end ScriptHost
