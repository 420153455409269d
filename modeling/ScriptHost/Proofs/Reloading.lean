import ScriptHost.Proofs.Listening

/-!
Reloading a script module. Whatever the release listener does, and whether or not
the module's compiled script was still entered, a built module is then ready
under its next internal name with the present texts of its files; it is built
again or has failed, and the init listener changes nothing about that.
-/

namespace ScriptHost

namespace ScriptModule

/-- A module whose compiled script comes from the present contents of its files. -/
structure UpToDate (module : ScriptModule) (executor : Executor)
    (tree : FileTree) : Prop where
  texts : ∀ segment ∈ module.segments, segment.fromDisk = true →
    ∀ code, tree.readText ⟨segment.file⟩ = .ok code → segment.code = code
  compiled : ∃ compiled prepared, module.compiled = some compiled ∧
    module.prepare executor tree = .ok prepared ∧
      module.parsePrepared compiled.serial prepared = .ok compiled

/-- What a reload makes of a module: it is built from the present contents of its
files, or it has failed. -/
structure Reloaded (executor : Executor) (tree : FileTree)
    (before after : ScriptModule) : Prop where
  id : after.id = before.id
  name : after.name = before.name
  reloads : after.reloads = before.reloads + 1
  outcome : after.state = .built ∧ after.UpToDate executor tree ∨
    after.state = .failed

/-- Renewed segments carry the present texts of their files. -/
theorem renewed_texts (module : ScriptModule) (tree : FileTree) :
    ∀ segment ∈ (module.renewed tree).segments, segment.fromDisk = true →
      ∀ code, tree.readText ⟨segment.file⟩ = .ok code → segment.code = code := by
  intro segment hsegment hdisk code hcode
  obtain ⟨old, -, rfl⟩ := List.mem_map.mp hsegment
  unfold rereadSegment at hdisk hcode ⊢
  by_cases hold : old.fromDisk = true
  · rw [if_pos hold] at hdisk hcode ⊢
    cases hread : tree.readText ⟨old.file⟩ with
    | ok present =>
        rw [hread] at hcode
        dsimp only at hcode ⊢
        rw [hread] at hcode
        exact Except.ok.inj hcode
    | error err =>
        rw [hread] at hcode
        dsimp only at hcode
        rw [hread] at hcode
        cases hcode
  · rw [if_neg hold] at hdisk
    exact absurd hdisk hold

/-- What is prepared for a compile depends on the segments and the access of a
module and on the rules of the executor. -/
theorem prepare_congr {module other : ScriptModule} {executor executor' : Executor}
    (hsegments : other.segments = module.segments)
    (haccess : other.access = module.access)
    (hrules : executor'.rules = executor.rules) (tree : FileTree) :
    other.prepare executor' tree = module.prepare executor tree := by
  obtain ⟨hsearch, hrestricted⟩ := Prod.mk.inj hrules
  unfold prepare
  rw [hsegments, haccess, hsearch, hrestricted]

/-- The listeners of a module have no part in how it was reloaded, and the rules
are all that counts of an executor. -/
theorem Reloaded.listening {executor executor' : Executor} {tree : FileTree}
    {before after : ScriptModule} (hreloaded : before.Reloaded executor tree after)
    (hrules : executor'.rules = executor.rules) (listeners : Option ListenerIndex) :
    before.Reloaded executor' tree (after.listening listeners) where
  id := hreloaded.id
  name := hreloaded.name
  reloads := hreloaded.reloads
  outcome := by
    refine hreloaded.outcome.imp_left fun ⟨hstate, htexts, hcompiled⟩ => ?_
    obtain ⟨compiled, prepared, hown, hprepared, hparsed⟩ := hcompiled
    have hprepare := prepare_congr (rfl : after.segments = after.segments) rfl hrules tree
    exact ⟨hstate, htexts, compiled, prepared, hown, hprepare.trans hprepared, hparsed⟩

end ScriptModule

namespace Act

open World

variable {held : Holdings} {may : Touch → Prop} {world : World} {address : Nat}
  {module : ScriptModule}

/-! ### Lifecycle listeners -/

/-- Looking for the listeners of a built module at most notes them. -/
theorem listenerIndex_of_live (hmodule : world.module? address = some module)
    {compiled : Compiled} (hcompiled : module.compiled = some compiled)
    (hbuilt : module.state = .built) (hrunning : world.isRunning = true)
    (hentered : world.executor.isCompiled module.internalName = true) :
    ∃ listeners, (after (listenerIndex address) world).scripts =
      world.scripts.put address (some (module.listening listeners)) := by
  obtain ⟨hresult, hafter⟩ :=
    build_of_live hmodule hcompiled hbuilt hrunning hentered
  unfold listenerIndex
  rw [after_bind, hresult, hafter]
  dsimp only
  rw [after_get_bind, hmodule, Option.bind_some]
  cases hlisteners : module.listeners with
  | some index =>
      refine ⟨module.listeners, ?_⟩
      have hself : some (module.listening module.listeners) =
          world.scripts.module? address := hmodule.symm
      rw [hself, Scripts.put_self]
      rfl
  | none =>
      dsimp only
      rw [after_bind, after_bind, after_onModule, after_pure]
      have hquiet := IsQuiet.forM warn_isQuiet (ListenerIndex.build compiled).2 world
      refine ⟨some (ListenerIndex.build compiled).1, ?_⟩
      rw [scripts_withModule, hquiet.module?, hmodule, hquiet.scripts]
      rfl

/-- In a module whose compiled script is gone no listeners are found. -/
theorem listenerIndex_of_invalid (hmodule : world.module? address = some module)
    (hbuilt : module.state = .built)
    (hgone : world.isRunning = false ∨
      world.executor.isCompiled module.internalName = false) :
    result (listenerIndex address) world = none ∧
      after (listenerIndex address) world =
        after (discard address "compiled module was invalidated") world := by
  obtain ⟨hresult, hafter⟩ := build_of_invalid hmodule hbuilt hgone
  unfold listenerIndex
  rw [after_bind, result_bind, hresult, hafter]
  exact ⟨rfl, rfl⟩

/-- The part of running a lifecycle listener that comes after it was found. -/
private theorem lifecycleCall_isQuiet (kind : ListenerKind)
    (args : List NativeValue) (found : Option ListenerEntry) :
    IsQuiet (match found with
      | none => return []
      | some entry => do
        let result ← invoke entry.function args .standard .script
        match result with
        | .ok _ => pure ()
        | .error err => error s!"{kind.name} listener failed: {err.message}"
        return resultObjects result) := by
  cases found with
  | none => exact .pure _
  | some entry =>
      refine .bind (invoke_isQuiet _ _ _ _) fun outcome => ?_
      dsimp only
      split
      · exact .pure _
      · exact .bind (error_isQuiet _) fun _ => .pure _

theorem fireLifecycle_quiet (address : Nat) (kind : ListenerKind)
    (args : List NativeValue) (world : World) :
    (after (findListener address kind.name none) world).Quiet
      (after (fireLifecycle address kind args) world) :=
  lifecycleCall_isQuiet kind args (result (findListener address kind.name none) world)
    (after (findListener address kind.name none) world)

/-- Hooks make no other difference than looking for the listener does. -/
theorem fireHooks_quiet (address : Nat) (hooks : Hooks) (event : EventType)
    (world : World) :
    ∃ ready, world.Quiet ready ∧
      (after (findListener address event.listener.name none) ready).Quiet
        (after (fireHooks address (some hooks) event) world) :=
  ⟨after (hookArgs hooks event) (after (noteHooks address hooks event) world),
    (noteHooks_isQuiet address hooks event world).trans (hookArgs_isQuiet hooks event _),
    fireLifecycle_quiet address event.listener _ _⟩

theorem fireHooks_settled (address : Nat) (hooks : Option Hooks)
    (event : EventType) (world : World) :
    world.Settled (after (fireHooks address hooks event) world) := by
  cases hooks with
  | none => exact (World.Quiet.refl world).settled
  | some hooks =>
      obtain ⟨ready, hargs, hcall⟩ := fireHooks_quiet address hooks event world
      exact hargs.settled.trans
        ((findListener_isSteady address event.listener.name none _).settled.trans
          hcall.settled)

theorem fireHooks_reaches (hworld : world.Sound held)
    (hwithin : world.Within may address) (hwatch : may (.watch address))
    (hooks : Option Hooks) (event : EventType) :
    world.Reaches held may (after (fireHooks address hooks event) world) := by
  cases hooks with
  | none => exact .refl hworld
  | some hooks =>
      obtain ⟨ready, hargs, hcall⟩ := fireHooks_quiet address hooks event world
      have hready : world.Reaches held may _ := hargs.reaches hworld
      have hbuild := build_reaches hready.sound (hwithin.of_reaches hready) hwatch
      have hfind := findListener_reaches (hwithin.of_reaches hready) hbuild
        event.listener.name none
      exact hready.trans (hfind.trans (hcall.reaches hfind.sound))

/-- Around a live module hooks change its listeners at most. -/
theorem fireHooks_of_live (hmodule : world.module? address = some module)
    {compiled : Compiled} (hcompiled : module.compiled = some compiled)
    (hbuilt : module.state = .built) (hrunning : world.isRunning = true)
    (hentered : world.executor.isCompiled module.internalName = true)
    (hooks : Option Hooks) (event : EventType) :
    ∃ listeners, (after (fireHooks address hooks event) world).scripts =
      world.scripts.put address (some (module.listening listeners)) := by
  cases hooks with
  | none =>
      refine ⟨module.listeners, ?_⟩
      have hself : some (module.listening module.listeners) =
          world.scripts.module? address := hmodule.symm
      rw [hself, Scripts.put_self]
      rfl
  | some hooks =>
      obtain ⟨ready, hargs, hcall⟩ := fireHooks_quiet address hooks event world
      have hstill : ready.executor.isCompiled
          module.internalName = true := by
        have hsame := congrArg Scripts.compiled hargs.scripts
        simp only [World.scripts] at hsame
        simp only [Executor.isCompiled, hsame]
        exact hentered
      obtain ⟨listeners, hlisteners⟩ := listenerIndex_of_live
        (hargs.module? address ▸ hmodule) hcompiled hbuilt
        (hargs.isRunning ▸ hrunning) hstill
      refine ⟨listeners, hcall.scripts.trans ?_⟩
      rw [← hargs.scripts]
      exact hlisteners

/-- The release listener leaves a module whose compiled script is gone either as
it is, where there are no hooks, or discarded. -/
theorem fireHooks_of_invalid (hclosed : world.scripts.Closed)
    (hmodule : world.module? address = some module)
    (hbuilt : module.state = .built)
    (hgone : world.isRunning = false ∨
      world.executor.isCompiled module.internalName = false)
    (hooks : Option Hooks) (event : EventType) :
    (after (fireHooks address hooks event) world).scripts = world.scripts ∨
      (after (fireHooks address hooks event) world).scripts =
        ((world.scripts.put address (some module.discarded)).leave
          module.compiled).withWatcher (·.unwatch module.id) := by
  cases hooks with
  | none => exact .inl rfl
  | some hooks =>
      obtain ⟨ready, hargs, hcall⟩ := fireHooks_quiet address hooks event world
      have hclosed' : ready.scripts.Closed :=
        hargs.scripts ▸ hclosed
      have hmodule' : ready.module? address =
          some module := hargs.module? address ▸ hmodule
      have hgone' : ready.isRunning = false ∨
          ready.executor.isCompiled module.internalName = false := by
        have hsame := congrArg Scripts.compiled hargs.scripts
        simp only [World.scripts] at hsame
        simp only [Executor.isCompiled, hsame, hargs.isRunning]
        exact hgone
      refine .inr (hcall.scripts.trans ?_)
      have hfind : after (findListener address event.listener.name none)
          ready =
            after (listenerIndex address) ready := rfl
      rw [hfind, (listenerIndex_of_invalid hmodule' hbuilt hgone').2,
        discard_scripts, tearDown_scripts hclosed' hmodule', hargs.scripts]

/-! ### Renewing -/

theorem renew_scripts (hmodule : world.module? address = some module) :
    (after (renew address) world).scripts =
      ((world.scripts.put address (some (module.renewed world.files))).leave
        module.compiled).withWatcher (·.unwatch module.id) := by
  unfold renew
  rw [after_get_bind, hmodule]
  dsimp only
  rw [after_bind, after_onExecutor, after_bind, after_onModule]
  have hquiet := IsQuiet.forM warn_isQuiet (module.rereadComplaints world.files)
    (world.withExecutor fun executor =>
      (executor.removeCompiled? module.compiled).unwatch module.id)
  rw [scripts_withModule, hquiet.module?, hquiet.scripts, module?_withExecutor,
    hmodule]
  cases module.compiled <;> rfl

theorem renew_of_none (hnone : world.module? address = none) :
    after (renew address) world = world := by
  unfold renew
  rw [after_get_bind, hnone]
  rfl

theorem renew_registry (address : Nat) (world : World) :
    (after (renew address) world).scripts.registry = world.scripts.registry := by
  cases hmodule : world.module? address with
  | none => rw [renew_of_none hmodule]
  | some module =>
      rw [renew_scripts hmodule]
      simp only [Scripts.withWatcher, Scripts.registry_leave, Scripts.put]

/-- Whatever the release listener has done, a built module is ready afterwards,
with the present texts of its files. -/
theorem release_renew_scripts (hclosed : world.scripts.Closed)
    (hwell : module.WellFormed) (hmodule : world.module? address = some module)
    (hbuilt : module.state = .built) (hrunning : world.isRunning = true)
    (hooks : Option Hooks) :
    let ready := (world.scripts.put address
      (some (module.renewed world.files))).leave module.compiled
    let renewed := (after (renew address)
      (after (fireHooks address hooks .release) world)).scripts
    renewed = ready.withWatcher (·.unwatch module.id) ∨
      renewed = (ready.withWatcher (·.unwatch module.id)).withWatcher
        (·.unwatch module.id) := by
  intro ready renewed
  have hfiles := (fireHooks_settled address hooks .release world).files
  obtain ⟨compiled, hcompiled⟩ := hwell.exists_compiled hbuilt
  -- The release listener may have found the compiled script gone.
  have hlater : ∀ found : ScriptModule,
      (after (fireHooks address hooks .release) world).module? address = some found →
      found.renewed world.files = module.renewed world.files →
      found.id = module.id →
      renewed = (((after (fireHooks address hooks .release) world).scripts.put
        address (some (module.renewed world.files))).leave
          found.compiled).withWatcher (·.unwatch module.id) := by
    intro found hfound hsame hid
    have hscripts := renew_scripts hfound
    rw [hfiles, hsame, hid] at hscripts
    exact hscripts
  rcases Bool.eq_false_or_eq_true
    (world.executor.isCompiled module.internalName) with hentered | hgone
  · obtain ⟨listeners, hfired⟩ := fireHooks_of_live hmodule hcompiled hbuilt
      hrunning hentered hooks .release
    have hfound := congrFun (congrArg Scripts.module? hfired) address
    rw [Scripts.module?_put_self] at hfound
    refine .inl ((hlater _ hfound rfl rfl).trans ?_)
    rw [hfired, Scripts.put_put]
    rfl
  · rcases fireHooks_of_invalid hclosed hmodule hbuilt (.inr hgone) hooks .release
      with hfired | hfired
    · have hfound := congrFun (congrArg Scripts.module? hfired) address
      refine .inl ((hlater module (hfound.trans hmodule) rfl rfl).trans ?_)
      rw [hfired]
    · have hfound := congrFun (congrArg Scripts.module? hfired) address
      have hput : (((world.scripts.put address (some module.discarded)).leave
          module.compiled).withWatcher (·.unwatch module.id)).module? address =
            some module.discarded := by
        simp [Scripts.withWatcher]
      refine .inr ((hlater _ (hfound.trans hput) rfl rfl).trans ?_)
      rw [hfired, Scripts.put_withWatcher, Scripts.put_leave, Scripts.put_put]
      rfl

/-- From a built module to one that is ready again. -/
theorem release_renew_reaches (hworld : world.Sound held)
    (hwithin : world.Within may address) (hwatch : may (.watch address))
    (hmodule : world.module? address = some module)
    (hbuilt : module.state = .built) (hrunning : world.isRunning = true)
    (hooks : Option Hooks) :
    world.Reaches held may
      (after (renew address) (after (fireHooks address hooks .release) world)) := by
  have hfired := fireHooks_reaches hworld hwithin hwatch hooks .release
  have hsteady := renew_isSteady address
    (after (fireHooks address hooks .release) world)
  have hmay := hwithin module hmodule
  have hchanges : Scripts.Changes may world.scripts
      (after (renew address)
        (after (fireHooks address hooks .release) world)).scripts := by
    have hrenew : Scripts.Change may world.scripts
        ((world.scripts.put address (some (module.renewed world.files))).leave
          module.compiled) := .renew world.files hmodule hmay hbuilt hwatch
    rcases release_renew_scripts hworld.scripts.closed
      (hworld.scripts.wellFormed hmodule) hmodule hbuilt hrunning hooks with
        hscripts | hscripts
    · rw [hscripts]
      exact .tail (.single hrenew) (.unwatch module.id hmay)
    · rw [hscripts]
      exact .tail (.tail (.single hrenew) (.unwatch module.id hmay))
        (.unwatch module.id hmay)
  refine ⟨hchanges, ?_, hfired.issues.trans hsteady.issues, hsteady.sound hfired.sound
    (hchanges.consistent hworld.scripts) (renew_registry address _)⟩
  intro other game hgame
  rw [hsteady.game?] at hgame
  exact hfired.games hgame

theorem reload_reaches (hworld : world.Sound held)
    (hwithin : world.Within may address) (hwatch : may (.watch address)) :
    world.Reaches held may (after (reload address) world) := by
  unfold reload
  rw [after_get_bind]
  cases hmodule : world.module? address with
  | none => exact .refl hworld
  | some module =>
      dsimp only
      split
      · rw [after_bind, after_warn, after_pure]
        exact (world.warn_quiet _).reaches hworld
      · rename_i hbuilt
        split
        · exact discard_reaches hworld hwithin _
        · rename_i hrunning
          have hready := release_renew_reaches hworld hwithin hwatch hmodule
            (Classical.not_not.mp hbuilt) (by simpa using hrunning) module.hooks
          have hbuild := hready.trans
            (build_reaches hready.sound (hwithin.of_reaches hready) hwatch)
          rw [after_bind, after_bind, after_bind]
          split
          · exact hbuild
          · rw [after_bind, after_onExecutor, after_bind, after_pure]
            have hcounted := hbuild.trans (hbuild.sound.reaches_executor
              (fun executor => { executor with reloads := executor.reloads + 1 })
              rfl rfl rfl rfl rfl rfl)
            exact hcounted.trans (fireHooks_reaches hcounted.sound
              (hwithin.of_reaches hcounted) hwatch module.hooks .init)

theorem reload_settled (address : Nat) (world : World) :
    world.Settled (after (reload address) world) := by
  have hstill := (World.Steady.refl world).settled
  unfold reload
  rw [after_get_bind]
  split
  · exact hstill
  · rename_i module hmodule
    split
    · exact (warn_isSteady _ world).settled
    · split
      · exact (discard_isSteady address _ world).settled
      · have hready := (fireHooks_settled address module.hooks .release world).trans
          (renew_isSteady address _).settled
        have hbuild := hready.trans (build_isSteady address _).settled
        rw [after_bind, after_bind, after_bind]
        split
        · exact hbuild
        · rw [after_bind, after_onExecutor, after_bind, after_pure]
          exact (hbuild.trans (onExecutor_isSteady (fun executor =>
            { executor with reloads := executor.reloads + 1 }) (fun _ => rfl)
              _).settled).trans (fireHooks_settled address module.hooks .init _)

/-- Only a built module is reloaded. -/
theorem reload_of_other (hmodule : world.module? address = some module)
    (hstate : module.state ≠ .built) :
    (result (reload address) world).1 = false ∧
      after (reload address) world =
        world.warn "reload ignored for a module that is not built" := by
  unfold reload
  rw [after_get_bind, result_get_bind, hmodule]
  dsimp only
  rw [if_pos hstate]
  exact ⟨rfl, rfl⟩

/-- Without the executor a built module is discarded. -/
theorem reload_of_stopped (hmodule : world.module? address = some module)
    (hbuilt : module.state = .built) (hstopped : world.isRunning = false) :
    (result (reload address) world).1 = false ∧
      after (reload address) world =
        after (discard address "script executor is gone") world := by
  unfold reload
  rw [after_get_bind, result_get_bind, hmodule]
  dsimp only
  rw [if_neg (by simp [hbuilt]), if_pos (by simp [hstopped])]
  exact ⟨rfl, rfl⟩

/-! ### What comes of a reload -/

/-- A renewed module is built from the present contents of its files, or it
fails. -/
theorem build_renewed (hmodule : world.module? address = some
      (module.renewed world.files)) (hrunning : world.isRunning = true) :
    (∃ compiled built, result (build address) world = some compiled ∧
      (after (build address) world).module? address = some built ∧
      built.compiled = some compiled ∧ built.state = .built ∧
      module.Reloaded world.executor world.files built ∧
      (after (build address) world).executor.isCompiled built.internalName = true) ∨
    ∃ failed, result (build address) world = none ∧
      (after (build address) world).module? address = some failed ∧
      failed.state = .failed ∧ module.Reloaded world.executor world.files failed := by
  obtain ⟨hresult, hafter⟩ := build_of_ready hmodule rfl hrunning
  rw [hresult, hafter]
  cases hcompile : ((module.renewed world.files).compile world.executor
      world.files).1 with
  | error err =>
      obtain ⟨hnone, hscripts⟩ := compileModule_of_error hmodule hcompile
      have hfound := congrFun (congrArg Scripts.module? hscripts) address
      rw [Scripts.module?_put_self] at hfound
      exact .inr ⟨_, hnone, hfound, rfl, rfl, rfl, rfl, .inr rfl⟩
  | ok built =>
      obtain ⟨compiled, files⟩ := built
      obtain ⟨hsome, hscripts⟩ := compileModule_of_ok hmodule hcompile
      obtain ⟨prepared, hprepared, hparsed, -⟩ := ScriptModule.compile_ok hcompile
      have hname := (ScriptModule.parsePrepared_ok hparsed).1
      have hfound := congrFun (congrArg Scripts.module? hscripts) address
      have hput : ((((world.scripts.put address (some
          (((module.renewed world.files).withBuild compiled).watching files))).enter
            compiled).withWatcher fun watcher => (watcher.watch world.files
              (module.renewed world.files).id address files).1)).module? address =
          some (((module.renewed world.files).withBuild compiled).watching files) :=
        Scripts.module?_put_self _ _ _
      have htable := congrArg Scripts.compiled hscripts
      refine .inl ⟨compiled, _, hsome, hfound.trans hput, rfl, rfl,
        ⟨rfl, rfl, rfl, .inl ⟨rfl, ?_, ?_⟩⟩, ?_⟩
      · exact module.renewed_texts world.files
      · exact ⟨compiled, prepared, rfl, hprepared, hparsed⟩
      · have hentered : (after (compileModule address (module.renewed world.files))
            world).executor.compiled.get? compiled.internalName = some compiled := by
          have hsame : (after (compileModule address (module.renewed world.files))
            world).executor.compiled =
              world.executor.compiled.set compiled.internalName compiled := htable
          rw [hsame, Table.get?_set_self]
        exact (Table.has_eq_true_iff _ _).mpr ⟨compiled, hname ▸ hentered⟩

/-- What a built module is built from in a reload: the release event has come, and the module is
renewed. -/
def readied (address : Nat) (module : ScriptModule) (world : World) : World :=
  after (renew address) (after (fireHooks address module.hooks .release) world)

theorem readied_settled (address : Nat) (module : ScriptModule) (world : World) :
    world.Settled (readied address module world) :=
  (fireHooks_settled address module.hooks .release world).trans (renew_isSteady address _).settled

theorem readied_module? (hworld : world.Sound held)
    (hmodule : world.module? address = some module)
    (hbuilt : module.state = .built) (hrunning : world.isRunning = true) :
    (readied address module world).module? address = some (module.renewed world.files) := by
  rcases release_renew_scripts hworld.scripts.closed
    (hworld.scripts.wellFormed hmodule) hmodule hbuilt hrunning module.hooks with
      hscripts | hscripts
  · refine (congrFun (congrArg Scripts.module? hscripts) address).trans ?_
    simp [Scripts.withWatcher]
  · refine (congrFun (congrArg Scripts.module? hscripts) address).trans ?_
    simp [Scripts.withWatcher]

/-- A built module is built again. If that comes to something the reload is counted, and the init
event comes. -/
theorem reload_of_built (hmodule : world.module? address = some module)
    (hbuilt : module.state = .built) (hrunning : world.isRunning = true) :
    (result (reload address) world).1 =
        (result (build address) (readied address module world)).isSome ∧
      after (reload address) world =
        if (result (build address) (readied address module world)).isSome then
          after (fireHooks address module.hooks .init)
            ((after (build address) (readied address module world)).withExecutor
              fun executor => { executor with reloads := executor.reloads + 1 })
        else after (build address) (readied address module world) := by
  unfold reload
  rw [after_get_bind, result_get_bind, hmodule]
  dsimp only
  rw [if_neg (by simp [hbuilt]), if_neg (by simp [hrunning])]
  rw [after_bind, result_bind, after_bind, result_bind, after_bind, result_bind]
  unfold readied
  cases result (build address)
    (after (renew address) (after (fireHooks address module.hooks .release) world)) with
  | none => exact ⟨rfl, rfl⟩
  | some compiled => exact ⟨rfl, rfl⟩

/-- A reload makes a built module ready again, builds it, and then at most notes
the listeners that are found in it. -/
theorem reload_renewed (hworld : world.Sound held)
    (hmodule : world.module? address = some module)
    (hbuilt : module.state = .built) (hrunning : world.isRunning = true) :
    ∃ renewed : World, world.Settled renewed ∧
      renewed.module? address = some (module.renewed world.files) ∧
      (result (reload address) world).1 = (result (build address) renewed).isSome ∧
      ∃ built listeners, (after (build address) renewed).module? address = some built ∧
        (after (reload address) world).module? address =
          some (built.listening listeners) := by
  have hsettled := readied_settled address module world
  have hrenewed := readied_module? hworld hmodule hbuilt hrunning
  have hstill : (readied address module world).isRunning = true :=
    hsettled.isRunning.trans hrunning
  obtain ⟨hanswer, hafter⟩ := reload_of_built hmodule hbuilt hrunning
  refine ⟨readied address module world, hsettled, hrenewed, hanswer, ?_⟩
  rw [← hsettled.files] at hrenewed
  rw [hafter]
  rcases build_renewed hrenewed hstill with
    ⟨compiled, built, hresult, hfound, hown, hstate, -, hentered⟩ |
      ⟨failed, hresult, hfound, -⟩
  · let counted := (after (build address) (readied address module world)).withExecutor
      fun executor => { executor with reloads := executor.reloads + 1 }
    have hcounted : counted.isRunning = true :=
      (build_isSteady address _).settled.isRunning.trans hstill
    obtain ⟨listeners, hstarted⟩ := fireHooks_of_live
      (show counted.module? address = some built from hfound) hown hstate hcounted
        hentered module.hooks .init
    rw [hresult, if_pos Option.isSome_some]
    refine ⟨built, listeners, hfound, ?_⟩
    exact (congrFun (congrArg Scripts.module? hstarted) address).trans
      (Scripts.module?_put_self _ _ _)
  · rw [hresult, if_neg (by simp)]
    exact ⟨failed, failed.listeners, hfound, hfound⟩

/-- Reloading a built module builds it again from the present contents of its
files, or the module fails; whether its compiled script was still entered makes no
difference. -/
theorem reload_spec (hworld : world.Sound held)
    (hmodule : world.module? address = some module)
    (hbuilt : module.state = .built) (hrunning : world.isRunning = true) :
    ∃ reloaded, (after (reload address) world).module? address = some reloaded ∧
      module.Reloaded world.executor world.files reloaded ∧
      ((result (reload address) world).1 = true ↔ reloaded.state = .built) := by
  obtain ⟨renewed, hsettled, hrenewed, hanswer, built, listeners, hbuild, hafter⟩ :=
    reload_renewed hworld hmodule hbuilt hrunning
  have hstill : renewed.isRunning = true := hsettled.isRunning.trans hrunning
  have hlistening : module.Reloaded renewed.executor renewed.files built →
      module.Reloaded world.executor world.files (built.listening listeners) := by
    rw [← hsettled.files]
    exact fun hreloaded => hreloaded.listening hsettled.rules.symm listeners
  rw [← hsettled.files] at hrenewed
  rw [hanswer]
  refine ⟨_, hafter, ?_⟩
  rcases build_renewed hrenewed hstill with
    ⟨compiled, found, hresult, hfound, -, hstate, hreloaded, -⟩ |
      ⟨failed, hresult, hfound, hstate, hreloaded⟩
  · cases hfound.symm.trans hbuild
    rw [hresult]
    exact ⟨hlistening hreloaded, fun _ => hstate, fun _ => rfl⟩
  · cases hfound.symm.trans hbuild
    rw [hresult]
    refine ⟨hlistening hreloaded, fun hfalse => ?_, fun hbuilt' => ?_⟩
    · cases hfalse
    · have hstate' : built.state = .built := hbuilt'
      rw [hstate] at hstate'
      cases hstate'

end Act

end ScriptHost
