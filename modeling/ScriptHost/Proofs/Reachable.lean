import ScriptHost.Proofs.Advancing

/-!
Where sessions begin. The executor of a plan has no script modules and nothing
entered, registered or watched, so the session on it is sound, and with it every
session that can be reached.
-/

namespace ScriptHost

/-- An executor that nothing has been done with. -/
structure Executor.IsFresh (executor : Executor) : Prop where
  compiled : executor.compiled = []
  grants : executor.grants = []
  registry : executor.registry = []
  watcher : ∀ {watcher}, executor.watcher = some watcher → watcher = .empty

namespace Executor

theorem standard_isFresh : standard.IsFresh := by
  constructor <;> simp [standard]

/-- Freshness is a matter of the tables alone. -/
theorem IsFresh.of_tables {executor other : Executor} (hfresh : executor.IsFresh)
    (hcompiled : other.compiled = executor.compiled)
    (hgrants : other.grants = executor.grants)
    (hregistry : other.registry = executor.registry)
    (hwatcher : other.watcher = executor.watcher) : other.IsFresh where
  compiled := hcompiled.trans hfresh.compiled
  grants := hgrants.trans hfresh.grants
  registry := hregistry.trans hfresh.registry
  watcher := fun hsome => hfresh.watcher (hwatcher ▸ hsome)

theorem IsFresh.withHotReload {executor : Executor} (hfresh : executor.IsFresh)
    (enabled : Bool) : (executor.withHotReload enabled).IsFresh where
  compiled := hfresh.compiled
  grants := hfresh.grants
  registry := hfresh.registry
  watcher := by
    intro watcher hwatcher
    cases enabled with
    | false => simp [Executor.withHotReload] at hwatcher
    | true => exact (Option.some.inj hwatcher).symm

theorem IsFresh.withConfig {executor : Executor} (hfresh : executor.IsFresh)
    (config : Config) : (executor.withConfig config).IsFresh := by
  refine IsFresh.withHotReload ?_ config.hotReload
  exact hfresh.of_tables rfl rfl rfl rfl

theorem IsFresh.restrict_all {executor : Executor} (hfresh : executor.IsFresh)
    (restricted : List (String × AccessMask)) :
    (restricted.foldl (fun executor (name, mask) => executor.restrict name mask)
      executor).IsFresh := by
  induction restricted generalizing executor with
  | nil => exact hfresh
  | cons first rest ih => exact ih (hfresh.of_tables rfl rfl rfl rfl)

end Executor

theorem ExecutorPlan.executor_isFresh (plan : ExecutorPlan) :
    plan.executor.IsFresh := by
  unfold ExecutorPlan.executor
  extract_lets configured searching watching timed restricted
  have hconfigured : configured.IsFresh := by
    unfold configured
    split
    · exact Executor.standard_isFresh.withConfig _
    · exact Executor.standard_isFresh
  have hsearching : searching.IsFresh := by
    unfold searching
    split
    · exact hconfigured.of_tables rfl rfl rfl rfl
    · exact hconfigured
  have hwatching : watching.IsFresh := by
    unfold watching
    split
    · exact hsearching.withHotReload _
    · exact hsearching
  have htimed : timed.IsFresh := by
    unfold timed
    split
    · exact hwatching.of_tables rfl rfl rfl rfl
    · exact hwatching
  exact (htimed.restrict_all plan.restricted).of_tables rfl rfl rfl rfl

theorem Executor.IsFresh.scripts_consistent {executor : Executor}
    (hfresh : executor.IsFresh) (files : FileTree) :
    (World.create files executor).scripts.Consistent := by
  have hmodules : ∀ address,
      (World.create files executor).scripts.module? address = none := fun _ => rfl
  have hregistry : (World.create files executor).scripts.registry = [] := hfresh.registry
  have hcompiled : (World.create files executor).scripts.compiled = [] := hfresh.compiled
  have hgrants : (World.create files executor).scripts.grants = [] := hfresh.grants
  constructor
  case granted => simp [hcompiled, hgrants]
  case distinct =>
    intro watcher hwatcher
    cases hfresh.watcher hwatcher
    exact Watcher.empty_distinct
  case closed =>
    intro hrunning
    simp [World.scripts, World.create, World.isRunning] at hrunning
  all_goals simp [hmodules, hregistry, hcompiled]

namespace World

theorem create_game? (files : FileTree) (executor : Executor) (address : Nat) :
    (create files executor).game? address = none := rfl

/-- A world in which only the host holds the executor is sound. -/
theorem create_sound (files : FileTree) {executor : Executor}
    (hfresh : executor.IsFresh) :
    (create files executor).Sound { executor := 1, modules := [] } where
  objects := Heap.empty_sound
  modules := Heap.empty_sound
  scripts := hfresh.scripts_consistent files
  holders := by
    intro games _ hgames
    cases games with
    | nil => simp [create, loaderHold]
    | cons address rest => simpa [create_game?] using hgames address List.mem_cons_self
  handles := by
    intro _ address ids games howners
    have hids : ids = [] := by
      refine List.eq_nil_iff_forall_not_mem.mpr fun id hid => ?_
      have hregistered := howners.registered id hid
      simp [create, hfresh.registry] at hregistered
    have hgames : games = [] := by
      refine List.eq_nil_iff_forall_not_mem.mpr fun other hother => ?_
      obtain ⟨game, hgame, -⟩ := howners.scripts other hother
      simp [create_game?] at hgame
    simp [hids, hgames, Counts]

end World

namespace Session

/-- The session that begins with the executor of a plan is sound. -/
theorem begin_sound (files : FileTree) (plan : ExecutorPlan) :
    (begin files plan).Sound :=
  World.create_sound files plan.executor_isFresh

/-- A session with the standard executor and an empty directory. -/
def bare : Session :=
  begin ⟨.directory [], []⟩ ⟨none, none, none, none, []⟩

/-- Every session that can be reached is sound. -/
theorem begin_run_sound (files : FileTree) (plan : ExecutorPlan) (steps : List Step) :
    ((begin files plan).run steps).Sound :=
  run_sound (begin_sound files plan) steps

end Session

end ScriptHost
