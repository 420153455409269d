import ScriptHost.Proofs.Soundness
import ScriptHost.World.Reload

/-!
Operations on script modules that neither make nor drop handles. They change
modules in their places, the tables of the executor and the host, and nothing
else.
-/

namespace ScriptHost

namespace ScriptModule

/-- Compiling counts a build at most and changes nothing else in the executor. -/
theorem compile_executor (module : ScriptModule) (executor : Executor)
    (tree : FileTree) :
    ∃ builds, (module.compile executor tree).2 = { executor with builds := builds } := by
  unfold compile
  split
  · exact ⟨executor.builds, rfl⟩
  · dsimp only
    split
    · exact ⟨executor.builds + 1, rfl⟩
    · exact ⟨executor.builds + 1, rfl⟩

/-- A compiled script is parsed from the prepared sources of the module. -/
theorem compile_ok {module : ScriptModule} {executor : Executor}
    {tree : FileTree} {compiled : Compiled} {files : List Path}
    (hcompile : (module.compile executor tree).1 = .ok (compiled, files)) :
    ∃ prepared, module.prepare executor tree = .ok prepared ∧
      module.parsePrepared compiled.serial prepared = .ok compiled ∧
      files = module.filesRead tree prepared := by
  unfold compile at hcompile
  split at hcompile
  · cases hcompile
  · rename_i prepared hprepared
    dsimp only at hcompile
    split at hcompile
    · cases hcompile
    · rename_i parsed hparsed
      simp only [Except.ok.injEq, Prod.mk.injEq] at hcompile
      obtain ⟨rfl, rfl⟩ := hcompile
      refine ⟨prepared, hprepared, ?_, rfl⟩
      have hserial : parsed.serial = executor.builds + 1 := by
        unfold parsePrepared at hparsed
        split at hparsed
        · cases hparsed
        · cases hparsed
          rfl
      rw [hserial]
      exact hparsed

theorem parsePrepared_ok {module : ScriptModule} {serial : Nat}
    {prepared : Prepared} {compiled : Compiled}
    (hparse : module.parsePrepared serial prepared = .ok compiled) :
    compiled.internalName = module.internalName ∧
      compiled.access = module.access := by
  unfold parsePrepared at hparse
  split at hparse
  · cases hparse
  · cases hparse
    exact ⟨rfl, rfl⟩

end ScriptModule

/-- The objects that the hooks of a script module hold handles of. -/
def ScriptModule.hookRefs (module : ScriptModule) : List ObjectRef :=
  (module.hooks.map Hooks.objects).getD []

namespace World

/-- Whether the hooks of a script module hold a handle of the object at an address. -/
def Hooked (world : World) (address : Nat) : Prop :=
  ∃ place module, world.module? place = some module ∧
    address ∈ module.hookRefs.map ObjectRef.address

/-- A change of the world that makes and drops no handles and writes no files. -/
structure Steady (before after : World) : Prop where
  objects : after.objects = before.objects
  holders : after.holders = before.holders
  loader : after.loader = before.loader
  loaders : after.loaders = before.loaders
  files : after.files = before.files
  rules : after.executor.rules = before.executor.rules
  counts : ∀ address,
    after.modules.strongCount address = before.modules.strongCount address
  next : after.modules.next = before.modules.next
  lives : ∀ address,
    (after.module? address).isSome = (before.module? address).isSome
  modules : before.modules.Sound → after.modules.Sound
  hooked : ∀ {address}, after.Hooked address → before.Hooked address

theorem Steady.refl (world : World) : world.Steady world :=
  ⟨rfl, rfl, rfl, rfl, rfl, rfl, fun _ => rfl, rfl, fun _ => rfl, id, id⟩

theorem Steady.trans {first second third : World} (hfirst : first.Steady second)
    (hsecond : second.Steady third) : first.Steady third where
  objects := hsecond.objects.trans hfirst.objects
  holders := hsecond.holders.trans hfirst.holders
  loader := hsecond.loader.trans hfirst.loader
  loaders := hsecond.loaders.trans hfirst.loaders
  files := hsecond.files.trans hfirst.files
  rules := hsecond.rules.trans hfirst.rules
  counts := fun address => (hsecond.counts address).trans (hfirst.counts address)
  next := hsecond.next.trans hfirst.next
  lives := fun address => (hsecond.lives address).trans (hfirst.lives address)
  modules := fun hsound => hsecond.modules (hfirst.modules hsound)
  hooked := fun hhooked => hfirst.hooked (hsecond.hooked hhooked)

theorem Steady.isRunning {before after : World} (hsteady : before.Steady after) :
    after.isRunning = before.isRunning := by
  simp only [World.isRunning, hsteady.holders]

theorem Steady.game? {before after : World} (hsteady : before.Steady after)
    (address : Nat) : after.game? address = before.game? address := by
  simp only [World.game?, hsteady.objects]

theorem Steady.issues {before after : World} (hsteady : before.Steady after) :
    before.Issues after :=
  .of_games (Nat.le_of_eq (congrArg Heap.next hsteady.objects.symm)) fun hgame =>
    (hsteady.game? _).symm.trans hgame

/-- Where a steady change is a run of transitions, it reaches a sound world. -/
theorem Steady.reaches {before after : World} (hsteady : before.Steady after)
    {held : Holdings} {may : Touch → Prop} (hbefore : before.Sound held)
    (hchanges : Scripts.Changes may before.scripts after.scripts) :
    before.Reaches held may after :=
  hbefore.reaches hchanges hsteady.objects (hsteady.modules hbefore.modules)
    hsteady.next
    (fun address hlives => ⟨hsteady.lives address ▸ hlives, hsteady.counts address⟩)
    hsteady.holders hsteady.loader

/-- A steady change that leaves the registry alone keeps a world sound if its script
modules are consistent. -/
theorem Steady.sound {before after : World} (hsteady : before.Steady after)
    {held : Holdings} (hbefore : before.Sound held)
    (hscripts : after.scripts.Consistent)
    (hregistry : after.scripts.registry = before.scripts.registry) :
    after.Sound held where
  objects := hsteady.objects ▸ hbefore.objects
  modules := hsteady.modules hbefore.modules
  scripts := hscripts
  holders := by
    intro games hnodup hgames
    simp only [loaderHold, hsteady.loader, hsteady.holders]
    apply hbefore.holders games hnodup
    intro other hother
    rw [← hsteady.game?]
    exact hgames other hother
  handles := by
    intro hrunning address ids games howners
    have hearlier : before.Owners address ids games :=
      howners.earlier (fun id hid => by
        have hsame : after.executor.registry = before.executor.registry := hregistry
        exact hsame ▸ hid) fun {other game} hgame hscript =>
          ⟨game, hsteady.game? other ▸ hgame, hscript⟩
    intro hpos
    obtain ⟨⟨module, hmodule⟩, hcount⟩ :=
      hbefore.handles (hsteady.isRunning ▸ hrunning) hearlier hpos
    refine ⟨Option.isSome_iff_exists.mp ?_, hsteady.counts address ▸ hcount⟩
    rw [hsteady.lives, hmodule]
    rfl

theorem warn_steady (world : World) (message : String) :
    world.Steady (world.warn message) :=
  ⟨rfl, rfl, rfl, rfl, rfl, rfl, fun _ => rfl, rfl, fun _ => rfl, id, id⟩

theorem error_steady (world : World) (message : String) :
    world.Steady (world.error message) :=
  ⟨rfl, rfl, rfl, rfl, rfl, rfl, fun _ => rfl, rfl, fun _ => rfl, id, id⟩

theorem noting_steady (world : World) (game script : Nat) (event : EventType) :
    world.Steady (world.noting game script event) :=
  ⟨rfl, rfl, rfl, rfl, rfl, rfl, fun _ => rfl, rfl, fun _ => rfl, id, id⟩

theorem withExecutor_steady (world : World) (change : Executor → Executor)
    (hrules : (change world.executor).rules = world.executor.rules) :
    world.Steady (world.withExecutor change) :=
  ⟨rfl, rfl, rfl, rfl, rfl, hrules, fun _ => rfl, rfl, fun _ => rfl, id, id⟩

theorem module?_withModule (world : World) (address other : Nat)
    (change : ScriptModule → ScriptModule) :
    (world.withModule address change).module? other =
      if address = other then (world.module? other).map change
      else world.module? other :=
  Heap.get?_modify world.modules address other change

/-- A script module may be changed if its hooks come by no handles. -/
theorem withModule_steady (world : World) (address : Nat)
    (change : ScriptModule → ScriptModule)
    (hchange : ∀ module, world.module? address = some module →
      (change module).hookRefs ⊆ module.hookRefs) :
    world.Steady (world.withModule address change) where
  objects := rfl
  holders := rfl
  loader := rfl
  loaders := rfl
  files := rfl
  rules := rfl
  counts := fun other => Heap.strongCount_modify world.modules address other change
  next := Heap.next_modify world.modules address change
  lives := by
    intro other
    rw [module?_withModule]
    split <;> simp
  modules := fun hsound => hsound.modify address change
  hooked := by
    rintro target ⟨place, module, hmodule, hmem⟩
    rw [module?_withModule] at hmodule
    split at hmodule
    · rename_i hplace
      obtain ⟨earlier, hearlier, rfl⟩ := Option.map_eq_some_iff.mp hmodule
      exact ⟨place, earlier, hearlier,
        List.map_subset _ (hchange earlier (hplace ▸ hearlier)) hmem⟩
    · exact ⟨place, module, hmodule, hmem⟩

/-- What calls and the work on script modules have in common: holders of the
executor, files, and handles of script modules stay as they are. -/
structure Settled (before after : World) : Prop where
  holders : after.holders = before.holders
  files : after.files = before.files
  rules : after.executor.rules = before.executor.rules
  counts : ∀ address,
    after.modules.strongCount address = before.modules.strongCount address

theorem Settled.trans {first second third : World}
    (hfirst : first.Settled second) (hsecond : second.Settled third) :
    first.Settled third where
  holders := hsecond.holders.trans hfirst.holders
  files := hsecond.files.trans hfirst.files
  rules := hsecond.rules.trans hfirst.rules
  counts := fun address => (hsecond.counts address).trans (hfirst.counts address)

theorem Settled.isRunning {before after : World}
    (hsettled : before.Settled after) : after.isRunning = before.isRunning := by
  simp only [World.isRunning, hsettled.holders]

theorem Steady.settled {before after : World} (hsteady : before.Steady after) :
    before.Settled after :=
  ⟨hsteady.holders, hsteady.files, hsteady.rules, hsteady.counts⟩

theorem Quiet.settled {before after : World} (hquiet : before.Quiet after) :
    before.Settled after :=
  ⟨hquiet.holders, hquiet.files, hquiet.rules, fun _ => by rw [hquiet.modules]⟩

/-! ### What the script modules of a changed world are -/

@[simp]
theorem module?_withExecutor (world : World) (change : Executor → Executor)
    (address : Nat) :
    (world.withExecutor change).module? address = world.module? address := rfl

@[simp]
theorem module?_warn (world : World) (message : String) (address : Nat) :
    (world.warn message).module? address = world.module? address := rfl

@[simp]
theorem module?_error (world : World) (message : String) (address : Nat) :
    (world.error message).module? address = world.module? address := rfl

@[simp]
theorem scripts_warn (world : World) (message : String) :
    (world.warn message).scripts = world.scripts := rfl

@[simp]
theorem scripts_error (world : World) (message : String) :
    (world.error message).scripts = world.scripts := rfl

theorem scripts_withExecutor (world : World) (change : Executor → Executor) :
    (world.withExecutor change).scripts =
      { world.scripts with
        compiled := (change world.executor).compiled
        grants := (change world.executor).grants
        counter := (change world.executor).nextId
        registry := (change world.executor).registry
        watcher := (change world.executor).watcher } := rfl

/-- Changes of the executor that concern no script module do not show. -/
theorem scripts_withExecutor_of_eq (world : World) (change : Executor → Executor)
    (hcompiled : (change world.executor).compiled = world.executor.compiled)
    (hgrants : (change world.executor).grants = world.executor.grants)
    (hregistry : (change world.executor).registry = world.executor.registry)
    (hwatcher : (change world.executor).watcher = world.executor.watcher)
    (hnumber : (change world.executor).nextId = world.executor.nextId) :
    (world.withExecutor change).scripts = world.scripts := by
  rw [scripts_withExecutor, hcompiled, hgrants, hregistry, hwatcher, hnumber]
  rfl

theorem scripts_unwatch (world : World) (id : Nat) :
    (world.withExecutor (·.unwatch id)).scripts =
      world.scripts.withWatcher (·.unwatch id) := rfl

theorem scripts_removeCompiled? (world : World) (compiled : Option Compiled) :
    (world.withExecutor (·.removeCompiled? compiled)).scripts =
      world.scripts.leave compiled := by
  cases compiled <;> rfl

theorem scripts_registerCompiled (world : World) (compiled : Compiled) :
    (world.withExecutor (·.registerCompiled compiled)).scripts =
      world.scripts.enter compiled := rfl

theorem scripts_withModule (world : World) (address : Nat)
    (change : ScriptModule → ScriptModule) :
    (world.withModule address change).scripts =
      world.scripts.put address ((world.module? address).map change) := by
  ext1
  · funext other
    have hfound : (world.withModule address change).scripts.module? other =
        (world.withModule address change).module? other := rfl
    rw [hfound, module?_withModule, Scripts.module?_put]
    by_cases ha : address = other
    · subst ha
      simp
    · simp [ha, World.scripts]
  · exact Heap.next_modify world.modules address change
  all_goals rfl

/-- A module that is not there is not changed. -/
theorem scripts_withModule_of_none (world : World) {address : Nat}
    (change : ScriptModule → ScriptModule)
    (hnone : world.module? address = none) :
    (world.withModule address change).scripts = world.scripts := by
  rw [scripts_withModule, hnone]
  have hself := world.scripts.put_self address
  have hscripts : world.scripts.module? address = none := hnone
  rw [hscripts] at hself
  exact hself

end World

namespace Act

variable {α β : Type}

/-- Whether an operation makes and drops no handles. -/
def IsSteady (act : Act α) : Prop :=
  ∀ world : World, world.Steady (act.after world)

theorem IsSteady.pure (value : α) : IsSteady (Pure.pure value) :=
  fun world => .refl world

theorem IsSteady.bind {act : Act α} {next : α → Act β} (hact : IsSteady act)
    (hnext : ∀ value, IsSteady (next value)) : IsSteady (act >>= next) :=
  fun world => (hact world).trans (hnext _ _)

theorem IsSteady.get : IsSteady (MonadState.get : Act World) :=
  fun world => .refl world

theorem warn_isSteady (message : String) : IsSteady (warn message) :=
  fun world => world.warn_steady message

theorem note_isSteady (game script : Nat) (event : EventType) :
    IsSteady (note game script event) :=
  fun world => world.noting_steady game script event

theorem noteHooks_isSteady (address : Nat) (hooks : Hooks) (event : EventType) :
    IsSteady (noteHooks address hooks event) := by
  unfold noteHooks
  split
  · exact .pure _
  · exact note_isSteady _ address event

theorem error_isSteady (message : String) : IsSteady (error message) :=
  fun world => world.error_steady message

theorem onExecutor_isSteady (change : Executor → Executor)
    (hrules : ∀ executor, (change executor).rules = executor.rules) :
    IsSteady (onExecutor change) :=
  fun world => world.withExecutor_steady change (hrules _)

theorem removeCompiled?_rules (compiled : Option Compiled) (executor : Executor) :
    (executor.removeCompiled? compiled).rules = executor.rules := by
  cases compiled <;> rfl

theorem onModule_isSteady (address : Nat) {change : ScriptModule → ScriptModule}
    (hchange : ∀ module, (change module).hookRefs ⊆ module.hookRefs) :
    IsSteady (onModule address change) :=
  fun world => world.withModule_steady address change fun module _ => hchange module

theorem IsSteady.forM {act : α → Act PUnit}
    (hact : ∀ value, IsSteady (act value)) :
    ∀ values : List α, IsSteady (values.forM act)
  | [] => .pure _
  | value :: rest => .bind (hact value) fun _ => IsSteady.forM hact rest

theorem stopMonitoring_isSteady (address id : Nat) :
    IsSteady (stopMonitoring address id) := by
  refine .bind .get fun world => ?_
  split
  · exact .bind (onExecutor_isSteady _ fun _ => rfl) fun _ =>
      onModule_isSteady address fun _ => List.Subset.refl _
  · exact onModule_isSteady address fun _ => List.Subset.refl _

theorem tearDown_isSteady (address : Nat) : IsSteady (tearDown address) := by
  refine .bind .get fun world => ?_
  split
  · exact .pure _
  · dsimp only
    have hrest : ∀ id, IsSteady (do
        stopMonitoring address id
        onModule address ScriptModule.discarded) := fun id =>
      .bind (stopMonitoring_isSteady address id) fun _ => onModule_isSteady address fun _ => List.Subset.refl _
    split
    · exact .bind (onExecutor_isSteady _ (removeCompiled?_rules _)) fun _ => hrest _
    · exact hrest _

theorem discard_isSteady (address : Nat) (reason : String) :
    IsSteady (discard address reason) := by
  refine .bind .get fun world => ?_
  split
  · exact .pure _
  · refine .bind (tearDown_isSteady address) fun _ => ?_
    split
    · exact warn_isSteady _
    · exact .pure _

theorem startMonitoring_isSteady (address id : Nat) (files : List Path) :
    IsSteady (startMonitoring address id files) := by
  refine .bind .get fun world => ?_
  dsimp only
  split
  · exact onModule_isSteady address fun _ => List.Subset.refl _
  · refine .bind (onExecutor_isSteady _ fun _ => rfl) fun _ => ?_
    split
    · exact onModule_isSteady address fun _ => List.Subset.refl _
    · exact .bind (warn_isSteady _) fun _ => onModule_isSteady address fun _ => List.Subset.refl _

theorem compileModule_isSteady (address : Nat) (module : ScriptModule) :
    IsSteady (compileModule address module) := by
  intro world
  obtain ⟨builds, hexecutor⟩ := module.compile_executor world.executor world.files
  unfold compileModule
  rw [after_get_bind]
  generalize module.compile world.executor world.files = outcome at hexecutor
  obtain ⟨built, executor⟩ := outcome
  dsimp only at hexecutor ⊢
  have hcounted := world.withExecutor_steady (fun _ => executor) (by rw [hexecutor]; rfl)
  rw [after_bind]
  refine hcounted.trans ?_
  split
  · rename_i compiled files
    refine IsSteady.bind (onExecutor_isSteady (·.registerCompiled compiled)
      fun _ => rfl) (fun _ => ?_) _
    exact .bind (onModule_isSteady address fun _ => List.Subset.refl _) fun _ =>
      .bind (startMonitoring_isSteady address module.id _) fun _ => .pure _
  · refine IsSteady.bind (error_isSteady _) (fun _ => ?_) _
    exact .bind (onModule_isSteady address fun _ => List.Subset.refl _) fun _ => .pure _

theorem build_isSteady (address : Nat) : IsSteady (build address) := by
  refine .bind .get fun world => ?_
  split
  · exact .pure _
  · split
    · dsimp only
      split
      · exact .pure _
      · exact .bind (discard_isSteady address _) fun _ => .pure _
    · split
      · exact compileModule_isSteady address _
      · exact .bind (discard_isSteady address _) fun _ => .pure _
    · exact .pure _

theorem listenerIndex_isSteady (address : Nat) :
    IsSteady (listenerIndex address) := by
  refine .bind (build_isSteady address) fun compiled => ?_
  split
  · exact .pure _
  · refine .bind .get fun world => ?_
    split
    · exact .pure _
    · exact .bind (.forM warn_isSteady _) fun _ =>
        .bind (onModule_isSteady address fun _ => List.Subset.refl _) fun _ => .pure _

theorem findListener_isSteady (address : Nat) (name : String)
    (genericType : Option String) :
    IsSteady (findListener address name genericType) :=
  .bind (listenerIndex_isSteady address) fun _ => .pure _

theorem listeners_isSteady (address : Nat) : IsSteady (listeners address) :=
  .bind (listenerIndex_isSteady address) fun _ => .pure _

theorem function_isSteady (address : Nat) (name : String) (count : Nat) :
    IsSteady (function address name count) := by
  refine .bind .get fun world => ?_
  split
  · exact .pure _
  · refine .bind (build_isSteady address) fun compiled => ?_
    split
    · refine .bind .get fun world => ?_
      split
      · exact .pure _
      · exact .pure _
    · split
      · exact .pure _
      · exact .pure _

theorem addSegment_isSteady (address : Nat) (segment : Segment) :
    IsSteady (addSegment address segment) := by
  intro world
  unfold addSegment
  rw [after_get_bind]
  split
  · exact .refl world
  · rename_i module hmodule
    have hrefs : (module.addSegment segment).1.hookRefs = module.hookRefs := by
      unfold ScriptModule.addSegment
      split <;> rfl
    refine world.withModule_steady address _ fun found hfound => ?_
    rw [hmodule] at hfound
    cases hfound
    exact hrefs ▸ List.Subset.refl _

theorem addFile_isSteady (address : Nat) (path : Path) :
    IsSteady (addFile address path) := by
  refine .bind .get fun world => ?_
  split
  · exact .pure _
  · exact .bind (addSegment_isSteady address _) fun _ => .pure _

theorem release_isSteady (address : Nat) : IsSteady (release address) :=
  .bind .get fun _ => .bind (onModule_isSteady address fun _ => List.nil_subset _) fun _ =>
    .bind (tearDown_isSteady address) fun _ => .pure _

theorem clearHooks_isSteady (address : Nat) : IsSteady (clearHooks address) :=
  .bind .get fun _ => .bind (onModule_isSteady address fun _ => List.nil_subset _)
    fun _ => .pure _

/-- Hooks without handles may be set. -/
theorem setHooks_isSteady (address : Nat) {hooks : Hooks} (hooks_objects : hooks.objects = []) :
    IsSteady (setHooks address hooks) := by
  refine .bind .get fun world => ?_
  split
  · exact .pure _
  · refine .bind (onModule_isSteady address fun module => ?_) fun _ => .pure _
    simp [ScriptModule.hookRefs, hooks_objects]

theorem warnings_modules (messages : List String) (world : World) :
    (after (messages.forM warn) world).modules = world.modules := by
  induction messages generalizing world with
  | nil => rfl
  | cons message messages ih => exact ih _

theorem renew_isSteady (address : Nat) : IsSteady (renew address) := by
  intro world
  unfold renew
  rw [after_get_bind]
  split
  · exact .refl world
  · rename_i module hmodule
    rw [after_bind, after_bind, after_onExecutor, after_onModule]
    have hleft := world.withExecutor_steady (fun executor =>
      (executor.removeCompiled? module.compiled).unwatch module.id)
      (removeCompiled?_rules _ _)
    have hwarned := IsSteady.forM warn_isSteady (module.rereadComplaints world.files)
      (world.withExecutor fun executor =>
        (executor.removeCompiled? module.compiled).unwatch module.id)
    refine (hleft.trans hwarned).trans (World.withModule_steady _ address _
      fun found hfound => ?_)
    have hsame : world.module? address = some found := by
      unfold World.module? at hfound
      rw [warnings_modules] at hfound
      exact hfound
    rw [hmodule] at hsame
    cases hsame
    exact List.Subset.refl _

end Act

end ScriptHost
