import ScriptHost.Proofs.Keeping

/-!
What operations make of hooks. Only the release of a script module and the
clearing of its hooks take handles from hooks, and they hand out exactly these;
whatever else a destruction or a call is made of leaves the hooks of every
module as they are.
-/

namespace ScriptHost

/-- The addresses of the objects that the hooks of the script module at a place hold
handles of. -/
def World.hookedAt (world : World) (place : Nat) : List Nat :=
  ((world.module? place).map fun module => module.hookRefs.map ObjectRef.address).getD []

namespace World

variable {before after world : World} {place : Nat}

theorem hookedAt_of_some {module : ScriptModule} (hmodule : world.module? place = some module) :
    world.hookedAt place = module.hookRefs.map ObjectRef.address := by
  simp [hookedAt, hmodule]

theorem hookedAt_of_none (hnone : world.module? place = none) : world.hookedAt place = [] := by
  simp [hookedAt, hnone]

theorem hookedAt_of_modules (hmodules : after.modules = before.modules) (place : Nat) :
    after.hookedAt place = before.hookedAt place := by
  simp only [hookedAt, module?, hmodules]

/-- A changed module has the hooks that it had, if the change keeps them. -/
theorem hookedAt_withModule (world : World) (address : Nat)
    {change : ScriptModule → ScriptModule}
    (hchange : ∀ module, world.module? address = some module →
      (change module).hookRefs = module.hookRefs) (place : Nat) :
    (world.withModule address change).hookedAt place = world.hookedAt place := by
  unfold hookedAt
  rw [module?_withModule]
  split
  · rename_i hplace
    subst hplace
    cases hmodule : world.module? address with
    | none => rfl
    | some module => simp [hchange module hmodule]
  · rfl

/-- The hooks of one module are taken away. -/
theorem hookedAt_unhooked (world : World) (address place : Nat) :
    (world.withModule address fun module => { module with hooks := none }).hookedAt place =
      if address = place then [] else world.hookedAt place := by
  unfold hookedAt
  rw [module?_withModule]
  split
  · cases world.module? place with
    | none => rfl
    | some module => rfl
  · rfl

end World

namespace Act

variable {α β : Type}

/-- Whether an operation leaves the hooks of all script modules as they are. -/
def KeepsHooks (act : Act α) : Prop :=
  ∀ (world : World) (place : Nat), (after act world).hookedAt place = world.hookedAt place

theorem KeepsHooks.pure (value : α) : KeepsHooks (Pure.pure value) :=
  fun _ _ => rfl

theorem KeepsHooks.bind {act : Act α} {next : α → Act β} (hact : KeepsHooks act)
    (hnext : ∀ value, KeepsHooks (next value)) : KeepsHooks (act >>= next) :=
  fun world place => (hnext _ _ place).trans (hact world place)

theorem KeepsHooks.get : KeepsHooks (MonadState.get : Act World) :=
  fun _ _ => rfl

theorem KeepsHooks.forM {act : α → Act PUnit} (hact : ∀ value, KeepsHooks (act value)) :
    ∀ values : List α, KeepsHooks (values.forM act)
  | [] => .pure _
  | value :: rest => .bind (hact value) fun _ => KeepsHooks.forM hact rest

/-- An operation that leaves all script modules alone. -/
theorem IsQuiet.keepsHooks {act : Act α} (hact : IsQuiet act) : KeepsHooks act :=
  fun world place => World.hookedAt_of_modules (hact world).modules place

theorem onExecutor_keepsHooks (change : Executor → Executor) : KeepsHooks (onExecutor change) :=
  fun _ _ => rfl

theorem onModule_keepsHooks (address : Nat) {change : ScriptModule → ScriptModule}
    (hchange : ∀ module, (change module).hookRefs = module.hookRefs) :
    KeepsHooks (onModule address change) :=
  fun world place => world.hookedAt_withModule address (fun module _ => hchange module) place

/-! ### Script modules -/

theorem stopMonitoring_keepsHooks (address id : Nat) : KeepsHooks (stopMonitoring address id) := by
  refine .bind .get fun world => ?_
  split
  · exact .bind (onExecutor_keepsHooks _) fun _ => onModule_keepsHooks address fun _ => rfl
  · exact onModule_keepsHooks address fun _ => rfl

theorem tearDown_keepsHooks (address : Nat) : KeepsHooks (tearDown address) := by
  refine .bind .get fun world => ?_
  split
  · exact .pure _
  · dsimp only
    have hrest : ∀ id, KeepsHooks (do
        stopMonitoring address id
        onModule address ScriptModule.discarded) := fun id =>
      .bind (stopMonitoring_keepsHooks address id) fun _ =>
        onModule_keepsHooks address fun _ => rfl
    split
    · exact .bind (onExecutor_keepsHooks _) fun _ => hrest _
    · exact hrest _

theorem discard_keepsHooks (address : Nat) (reason : String) :
    KeepsHooks (discard address reason) := by
  refine .bind .get fun world => ?_
  split
  · exact .pure _
  · refine .bind (tearDown_keepsHooks address) fun _ => ?_
    split
    · exact (warn_isQuiet _).keepsHooks
    · exact .pure _

theorem startMonitoring_keepsHooks (address id : Nat) (files : List Path) :
    KeepsHooks (startMonitoring address id files) := by
  refine .bind .get fun world => ?_
  dsimp only
  split
  · exact onModule_keepsHooks address fun _ => rfl
  · refine .bind (onExecutor_keepsHooks _) fun _ => ?_
    split
    · exact onModule_keepsHooks address fun _ => rfl
    · exact .bind (warn_isQuiet _).keepsHooks fun _ => onModule_keepsHooks address fun _ => rfl

theorem compileModule_keepsHooks (address : Nat) (module : ScriptModule) :
    KeepsHooks (compileModule address module) := by
  refine .bind .get fun world => ?_
  dsimp only
  refine .bind (onExecutor_keepsHooks _) fun _ => ?_
  split
  · exact .bind (onExecutor_keepsHooks _) fun _ =>
      .bind (onModule_keepsHooks address fun _ => rfl) fun _ =>
        .bind (startMonitoring_keepsHooks address module.id _) fun _ => .pure _
  · exact .bind (error_isQuiet _).keepsHooks fun _ =>
      .bind (onModule_keepsHooks address fun _ => rfl) fun _ => .pure _

theorem build_keepsHooks (address : Nat) : KeepsHooks (build address) := by
  refine .bind .get fun world => ?_
  split
  · exact .pure _
  · split
    · dsimp only
      split
      · exact .pure _
      · exact .bind (discard_keepsHooks address _) fun _ => .pure _
    · split
      · exact compileModule_keepsHooks address _
      · exact .bind (discard_keepsHooks address _) fun _ => .pure _
    · exact .pure _

theorem listenerIndex_keepsHooks (address : Nat) : KeepsHooks (listenerIndex address) := by
  refine .bind (build_keepsHooks address) fun compiled => ?_
  split
  · exact .pure _
  · refine .bind .get fun world => ?_
    split
    · exact .pure _
    · exact .bind (.forM (fun _ => (warn_isQuiet _).keepsHooks) _) fun _ =>
        .bind (onModule_keepsHooks address fun _ => rfl) fun _ => .pure _

theorem findListener_keepsHooks (address : Nat) (name : String) (genericType : Option String) :
    KeepsHooks (findListener address name genericType) :=
  .bind (listenerIndex_keepsHooks address) fun _ => .pure _

/-! ### Deliveries -/

theorem deliver_keepsHooks (script : Nat) (event : Event) (game : NativeValue) :
    KeepsHooks (deliver script event game) := by
  refine .bind (findListener_keepsHooks script _ _) fun found => ?_
  split
  · exact .pure _
  · exact .bind (retain_isQuiet _).keepsHooks fun _ =>
      .bind (allocate_isQuiet .event fun _ => ObjectBody.noConfusion).keepsHooks fun _ =>
        .bind (invoke_isQuiet _ _ _ _).keepsHooks fun _ => .pure _

theorem deliverRelease_keepsHooks (place script : Nat) (wanted : Bool) (self : NativeValue) :
    KeepsHooks (deliverRelease place script wanted self) := by
  refine .bind .get fun world => ?_
  dsimp only
  split
  · refine .bind (note_isQuiet place script .release).keepsHooks fun _ => ?_
    refine .bind (deliver_keepsHooks script _ self) fun delivered => ?_
    split
    · exact .pure _
    · exact .bind (error_isQuiet _).keepsHooks fun _ => .pure _
  · exact .pure _

/-! ### Taking hooks away -/

/-- An operation takes the hooks of one script module away and hands their handles
out. -/
structure TakesHooks (address : Nat) (handed : List Nat) (before after : World) : Prop where
  handed : handed = before.hookedAt address
  hooks : ∀ place, after.hookedAt place = if address = place then [] else before.hookedAt place

/-- What comes up when a script module loses its hooks. -/
private theorem hooked_handles (world : World) (address : Nat) :
    Owned.objects (((((world.module? address).bind ScriptModule.hooks).map Hooks.objects).getD
      []).map Owned.object) = world.hookedAt address := by
  rw [Owned.objects_objects]
  cases hmodule : world.module? address with
  | none => simp [World.hookedAt, hmodule]
  | some module => simp [World.hookedAt, hmodule, ScriptModule.hookRefs]

theorem clearHooks_takesHooks (address : Nat) (world : World) :
    TakesHooks address (Owned.objects (result (clearHooks address) world)) world
      (after (clearHooks address) world) where
  handed := hooked_handles world address
  hooks := world.hookedAt_unhooked address

theorem release_takesHooks (address : Nat) (world : World) :
    TakesHooks address (Owned.objects (result (release address) world)) world
      (after (release address) world) where
  handed := hooked_handles world address
  hooks := fun place => (tearDown_keepsHooks address _ place).trans
    (world.hookedAt_unhooked address place)

end Act

end ScriptHost
