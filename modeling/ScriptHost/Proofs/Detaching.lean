import ScriptHost.Proofs.Clearing

/-!
Delivering events to game modules and taking their script modules away. A script
module is deleted by its number: whatever module is registered under that number
is released, and afterwards nothing is registered under it.
-/

namespace ScriptHost

namespace World

variable {held : Holdings} {may : Touch → Prop} {before after world : World}
  {touched : Nat → Nat → Prop}

/-- A handle whose script module, if it is one of a script module, may be
touched. -/
def Allows (may : Touch → Prop) (world : World) : Owned → Prop
  | .object _ => True
  | .module address => world.Within may address

theorem Allows.of_changes {handle : Owned} (hallows : before.Allows may handle)
    (hchanges : Scripts.Changes may before.scripts after.scripts) :
    after.Allows may handle := by
  cases handle with
  | object ref => trivial
  | module address => exact hchanges.within hallows

theorem Allows.mono {might : Touch → Prop}
    (hmono : ∀ touch, may touch → might touch) {handle : Owned}
    (hallows : world.Allows may handle) : world.Allows might handle := by
  cases handle with
  | object ref => trivial
  | module address => exact fun module hmodule => hmono _ (hallows module hmodule)

/-- A script module that may be taken away: it may be touched, and so may the one
that is registered under its number. -/
def Covered (touched : Nat → Nat → Prop) (script : Nat) (world : World) : Prop :=
  ∀ module, world.module? script = some module →
    touched script module.id ∧ ∀ address,
      world.executor.registry.get? module.id = some address →
        touched address module.id

theorem Covered.of_changes {script : Nat} (hcovered : before.Covered touched script)
    (hchanges : Scripts.Changes (Touch.modules touched) before.scripts
      after.scripts) : after.Covered touched script := by
  have hshrinks := hchanges.shrinks
  intro module hmodule
  obtain ⟨earlier, hearlier, hid⟩ := hshrinks.modules hmodule
  obtain ⟨hself, hregistered⟩ := hcovered earlier hearlier
  rw [hid]
  exact ⟨hself, fun address hget => hregistered address (hshrinks.registry hget)⟩

theorem Covered.within {script : Nat} (hcovered : world.Covered touched script) :
    world.Within (Touch.modules touched) script :=
  fun module hmodule => (hcovered module hmodule).1

/-- The registry gives its handle of a module away when it forgets the module. -/
theorem Sound.taking_registered {id address : Nat} (hafter : after.Sound held)
    (hregistered : before.executor.registry.get? id = some address)
    (hbefore : before.Sound held) (hsteady : before.Steady after)
    (hshrinks : ∀ {number found}, after.executor.registry.get? number = some found →
      before.executor.registry.get? number = some found)
    (hgone : after.executor.registry.get? id = none) :
    after.Sound (held.taking [address]) where
  objects := hafter.objects
  modules := hafter.modules
  scripts := hafter.scripts
  holders := hafter.holders
  handles := by
    intro hrunning other ids games howners
    have hgames : ∀ {place game}, after.game? place = some game →
        game.script = some other → ∃ earlier, before.game? place = some earlier ∧
          earlier.script = some other :=
      fun {place game} hgame hscript =>
        ⟨game, hsteady.game? place ▸ hgame, hscript⟩
    have hearlier := howners.earlier (fun _ hid => hshrinks hid) hgames
    have hcounts : ∀ {handles : Nat}, before.Counts other handles →
        after.Counts other handles := by
      intro handles hcounts hpos
      obtain ⟨⟨module, hmodule⟩, hcount⟩ := hcounts hpos
      refine ⟨Option.isSome_iff_exists.mp ?_, hsteady.counts other ▸ hcount⟩
      rw [hsteady.lives, hmodule]
      rfl
    have hstill : before.isRunning = true := hsteady.isRunning ▸ hrunning
    simp only [Holdings.taking, List.singleton_append]
    by_cases hsame : address = other
    · subst hsame
      have hmore : before.Owners address (id :: ids) games := by
        refine ⟨List.nodup_cons.mpr ⟨?_, hearlier.numbers⟩, ?_, hearlier.places,
          hearlier.scripts⟩
        · intro hmem
          have hthere := howners.registered id hmem
          rw [hgone] at hthere
          cases hthere
        · intro number hnumber
          rcases List.mem_cons.mp hnumber with rfl | hnumber
          · exact hregistered
          · exact hearlier.registered number hnumber
      refine (hcounts (hbefore.handles hstill hmore)).mono ?_
      simp only [List.length_cons, List.count_cons_self]
      omega
    · rw [List.count_cons_of_ne hsame]
      exact hcounts (hbefore.handles hstill hearlier)

end World

namespace Act

open World

variable {held : Holdings} {may : Touch → Prop} {world : World}
  {touched : Nat → Nat → Prop}

/-- The handles of objects alone. -/
theorem allows_objects (refs : List ObjectRef) (world : World) :
    ∀ handle ∈ refs.map Owned.object, world.Allows may handle := by
  intro handle hhandle
  obtain ⟨ref, -, rfl⟩ := List.mem_map.mp hhandle
  trivial

theorem allows_resultObjects (outcome : Except InvokeError (Option NativeValue))
    (world : World) : ∀ handle ∈ resultObjects outcome, world.Allows may handle := by
  unfold resultObjects
  split
  · exact allows_objects _ world
  · simp

/-! ### Delivering -/

theorem deliver_reaches {script : Nat} (hwithin : world.Within may script)
    (hbuild : world.Reaches held may (after (build script) world)) (event : Event)
    (game : NativeValue) :
    world.Reaches held may (after (deliver script event game) world) := by
  have hfind := findListener_reaches hwithin hbuild event.kind.listenerName
    event.kind.genericType?
  unfold deliver
  rw [after_bind]
  split
  · exact hfind
  · rename_i entry hentry
    have hevent : IsQuiet (allocate .event (.event event)) :=
      allocate_isQuiet .event (by simp)
    refine hfind.trans (World.Quiet.reaches ?_ hfind.sound)
    exact IsQuiet.bind (retain_isQuiet _) (fun _ => .bind hevent fun _ =>
      .bind (invoke_isQuiet _ _ _ _) fun _ => .pure _) _

/-- What comes up with a delivery is handles of objects. -/
theorem deliver_modules (script : Nat) (event : Event) (game : NativeValue)
    (world : World) :
    Owned.modules (result (deliver script event game) world).2 = [] := by
  unfold deliver
  rw [result_bind]
  split
  · rfl
  · simp only [result_bind, result_pure, Owned.modules_object,
      Owned.modules_resultObjects]

theorem deliver_allows {script : Nat} (event : Event) (game : NativeValue)
    (other : World) :
    ∀ handle ∈ (result (deliver script event game) world).2,
      other.Allows may handle := by
  unfold deliver
  rw [result_bind]
  split
  · simp
  · simp only [result_bind, result_pure, List.mem_cons]
    rintro handle (rfl | hhandle)
    · trivial
    · exact allows_resultObjects _ other handle hhandle

theorem fire_reaches {address : Nat} (hworld : world.Sound held) (event : Event) :
    world.Reaches held Touch.ordinary (after (fire address event) world) := by
  unfold fire
  rw [after_get_bind]
  split
  · exact .refl hworld
  · rename_i script hscript
    rw [after_bind, after_bind, after_pure]
    have hself : world.Reaches held Touch.ordinary
        (after (selfValue address) world) :=
      (selfValue_isQuiet address world).reaches hworld
    exact hself.trans (deliver_reaches (within_ordinary _ _)
      (build_reaches hself.sound (within_ordinary _ _) trivial) event _)

theorem fire_modules (address : Nat) (event : Event) (world : World) :
    Owned.modules (result (fire address event) world).2 = [] := by
  unfold fire
  rw [result_get_bind]
  split
  · rfl
  · rw [result_bind, result_bind, result_pure, Owned.modules_append,
      Owned.modules_objects, List.append_nil]
    exact deliver_modules _ _ _ _

theorem subscriptions_reaches {address : Nat} (hworld : world.Sound held) :
    world.Reaches held Touch.ordinary (after (subscriptions address) world) := by
  unfold subscriptions
  rw [after_get_bind]
  split
  · exact .refl hworld
  · exact listeners_reaches (within_ordinary _ _)
      (build_reaches hworld (within_ordinary _ _) trivial)

/-! ### Deleting -/

theorem release_modules (address : Nat) (world : World) :
    Owned.modules (result (release address) world) = [] :=
  Owned.modules_objects _

theorem release_allows {address : Nat} (other : World) :
    ∀ handle ∈ result (release address) world, other.Allows may handle :=
  allows_objects _ other

theorem release_cleared {address : Nat} {module : ScriptModule}
    (hscripts : world.scripts.Consistent)
    (hmodule : world.module? address = some module) :
    ∀ {watcher}, (after (release address) world).scripts.watcher = some watcher →
      ∀ registration ∈ watcher.registrations, registration.id ≠ module.id := by
  rw [release_scripts hscripts.closed hmodule]
  simp only [Scripts.withWatcher, Scripts.watcher_leave]
  intro watcher hwatcher registration hmem
  obtain ⟨earlier, hearlier, rfl⟩ := Option.map_eq_some_iff.mp hwatcher
  exact (hscripts.distinct hearlier).id_ne_of_mem_unwatch hmem

theorem deleteModule_isSteady (id : Nat) : IsSteady (deleteModule id) := by
  refine .bind .get fun world => ?_
  split
  · exact .pure _
  · exact .bind (onExecutor_isSteady _ fun _ => rfl) fun _ =>
      .bind (release_isSteady _) fun _ => .pure _

theorem deleteModule_of_none {id : Nat}
    (hnone : world.executor.registry.get? id = none) :
    result (deleteModule id) world = (false, []) ∧
      after (deleteModule id) world = world := by
  unfold deleteModule
  rw [result_get_bind, after_get_bind, hnone]
  exact ⟨rfl, rfl⟩

/-- Deleting releases the module registered under a number and ends its
registration. The handles of its hooks and that of the registry are handed out. -/
theorem deleteModule_of_some {id address : Nat}
    (hclosed : world.scripts.Closed)
    (hregistered : world.executor.registry.get? id = some address)
    {module : ScriptModule} (hmodule : world.module? address = some module) :
    (∃ refs : List ObjectRef, result (deleteModule id) world =
        (true, refs.map Owned.object ++ [.module address])) ∧
      (after (deleteModule id) world).scripts =
        (((world.scripts.put address (some module.unhooked.discarded)).leave
          module.compiled).withWatcher (·.unwatch module.id)).unregister id := by
  unfold deleteModule
  rw [result_get_bind, after_get_bind, hregistered]
  dsimp only
  rw [after_bind, after_bind, after_onExecutor, after_pure]
  refine ⟨⟨_, rfl⟩, ?_⟩
  have hstill : (world.withExecutor fun executor =>
      { executor with registry := executor.registry.erase id }).scripts.Closed := by
    intro hstopped
    obtain ⟨hcompiled, hgrants, hregistry, hwatcher⟩ := hclosed hstopped
    refine ⟨hcompiled, hgrants, ?_, hwatcher⟩
    have hempty : world.executor.registry = [] := hregistry
    simp [World.scripts, World.withExecutor, hempty, Table.erase]
  have hfound : (world.withExecutor fun executor =>
      { executor with registry := executor.registry.erase id }).module? address =
        some module := hmodule
  rw [release_scripts hstill hfound]
  cases module.compiled <;> rfl

/-- What deleting does to script modules: the one that is registered under the
number is discarded and unregistered. -/
theorem deleteModule_changes {id address : Nat} (hworld : world.Sound held)
    (hregistered : world.executor.registry.get? id = some address)
    (hmay : may (.module address id)) :
    Scripts.Changes may world.scripts (after (deleteModule id) world).scripts ∧
      (after (deleteModule id) world).scripts.Cleared id := by
  obtain ⟨module, hmodule⟩ := hworld.scripts.live hregistered
  have hid : module.id = id := hworld.scripts.numbered hregistered hmodule
  have hself : may (.module address module.id) := hid ▸ hmay
  have hunhook : Scripts.Change may world.scripts
      (world.scripts.put address (some module.unhooked)) :=
    .edit _ hmodule hself
      ⟨rfl, rfl, rfl, rfl, rfl, .inl rfl, .inl rfl, .inl rfl, .inl rfl⟩ (.inl rfl)
  have hdiscard : Scripts.Change may
      (world.scripts.put address (some module.unhooked))
      ((world.scripts.put address (some module.unhooked.discarded)).leave
        module.compiled) := by
    have hput : (world.scripts.put address (some module.unhooked)).module?
        address = some module.unhooked := Scripts.module?_put_self _ _ _
    have hchange : Scripts.Change may _
        (((world.scripts.put address (some module.unhooked)).put address
          (some module.unhooked.discarded)).leave module.unhooked.compiled) :=
      .discard hput hself
    rw [Scripts.put_put] at hchange
    exact hchange
  rw [(deleteModule_of_some hworld.scripts.closed hregistered hmodule).2]
  refine ⟨.tail (.tail (.tail (.single hunhook) hdiscard)
    (.unwatch module.id hself)) (.unregister id hmay ?_ ?_), ?_, ?_⟩
  · simp only [Scripts.withWatcher, Scripts.registry_leave, Scripts.put]
    exact hregistered
  · intro other found hother hfound
    simp only [Scripts.withWatcher, Scripts.registry_leave] at hother
    have hother' : world.executor.registry.get? id = some other := hother
    rw [hregistered] at hother'
    cases hother'
    simp only [Scripts.withWatcher, Scripts.module?_leave,
      Scripts.module?_put_self] at hfound
    cases hfound
    rfl
  · simp [Scripts.unregister]
  · simp only [Scripts.unregister, Scripts.withWatcher, Scripts.watcher_leave]
    intro watcher hwatcher registration hmem
    obtain ⟨earlier, hearlier, rfl⟩ := Option.map_eq_some_iff.mp hwatcher
    rw [← hid]
    exact (hworld.scripts.distinct hearlier).id_ne_of_mem_unwatch hmem

/-- The handle of the registry is handed out. -/
theorem deleteModule_reaches {id : Nat} (hworld : world.Sound held)
    (hmay : ∀ address, world.executor.registry.get? id = some address →
      may (.module address id)) :
    world.Reaches (held.taking (Owned.modules (result (deleteModule id) world).2))
      may (after (deleteModule id) world) := by
  cases hregistered : world.executor.registry.get? id with
  | none =>
      obtain ⟨hresult, hafter⟩ := deleteModule_of_none hregistered
      rw [hresult, hafter]
      exact .refl hworld
  | some address =>
      obtain ⟨module, hmodule⟩ := hworld.scripts.live hregistered
      obtain ⟨⟨refs, hresult⟩, hscripts⟩ :=
        deleteModule_of_some hworld.scripts.closed hregistered hmodule
      obtain ⟨hchanges, hcleared⟩ :=
        deleteModule_changes hworld hregistered (hmay address hregistered)
      have hsteady := deleteModule_isSteady id world
      have hreaches := hsteady.reaches hworld hchanges
      rw [hresult, Owned.modules_append, Owned.modules_objects, List.nil_append]
      refine ⟨hreaches.changes, hreaches.games, hreaches.issues, hreaches.sound.taking_registered
        hregistered hworld hsteady ?_ hcleared.registry⟩
      intro number found hfound
      have hnow := congrArg Scripts.registry hscripts
      simp only [World.scripts, Scripts.unregister, Scripts.withWatcher,
        Scripts.registry_leave, Scripts.put] at hnow
      rw [hnow, Table.get?_erase] at hfound
      split at hfound
      · cases hfound
      · exact hfound

theorem deleteModule_allows {id : Nat} (hworld : world.Sound held)
    (hmay : ∀ address, world.executor.registry.get? id = some address →
      touched address id) :
    ∀ handle ∈ (result (deleteModule id) world).2,
      (after (deleteModule id) world).Allows (Touch.modules touched) handle := by
  cases hregistered : world.executor.registry.get? id with
  | none =>
      rw [(deleteModule_of_none hregistered).1]
      simp
  | some address =>
      obtain ⟨module, hmodule⟩ := hworld.scripts.live hregistered
      obtain ⟨⟨refs, hresult⟩, -⟩ :=
        deleteModule_of_some hworld.scripts.closed hregistered hmodule
      have htouched : Touch.modules touched (.module address id) :=
        hmay address hregistered
      have hchanges := (deleteModule_changes hworld hregistered htouched).1
      rw [hresult]
      intro handle hhandle
      rcases List.mem_append.mp hhandle with hhandle | hhandle
      · exact allows_objects refs _ handle hhandle
      · rw [List.mem_singleton.mp hhandle]
        have hwithin : world.Within (Touch.modules touched) address := by
          intro found hfound
          rw [hworld.scripts.numbered hregistered hfound]
          exact htouched
        exact hchanges.within hwithin

/-- Removing a script module touches it and the module that is registered under
its number, and leaves nothing registered under that number. -/
theorem removeScript_reaches {script : Nat} (hworld : world.Sound held)
    (hcovered : world.Covered touched script) :
    world.Reaches
        (held.taking (Owned.modules (result (removeScript script) world)))
        (Touch.modules touched) (after (removeScript script) world) ∧
      (∀ handle ∈ result (removeScript script) world,
        (after (removeScript script) world).Allows (Touch.modules touched) handle) ∧
      ∀ module, world.module? script = some module →
        (after (removeScript script) world).scripts.Cleared module.id := by
  unfold removeScript
  rw [after_get_bind, result_get_bind]
  cases hmodule : world.module? script with
  | none => exact ⟨.refl hworld, by simp, by simp⟩
  | some module =>
      have hmay := (hcovered module hmodule).2
      rw [Option.map_some]
      dsimp only
      rw [after_bind, result_bind]
      cases hregistered : world.executor.registry.get? module.id with
      | none =>
          obtain ⟨hresult, hafter⟩ := deleteModule_of_none hregistered
          have hrelease := release_reaches hworld hcovered.within
          simp only [hresult, hafter]
          refine ⟨?_, release_allows _, ?_⟩
          · show world.Reaches (held.taking (Owned.modules
              (result (release script) world))) _ _
            rw [release_modules]
            exact hrelease
          · intro found hfound
            cases hfound
            refine ⟨?_, release_cleared hworld.scripts hmodule⟩
            show (after (release script) world).scripts.registry.get? module.id = none
            rw [release_scripts hworld.scripts.closed hmodule]
            simp only [Scripts.withWatcher, Scripts.registry_leave, Scripts.put]
            exact hregistered
      | some address =>
          obtain ⟨registered, hfound⟩ := hworld.scripts.live hregistered
          obtain ⟨⟨refs, hresult⟩, -⟩ :=
            deleteModule_of_some hworld.scripts.closed hregistered hfound
          have htouched : Touch.modules touched (.module address module.id) :=
            hmay address hregistered
          have hreaches : world.Reaches _ (Touch.modules touched) _ :=
            deleteModule_reaches hworld hmay
          have hallows := deleteModule_allows hworld hmay
          rw [hresult] at hreaches hallows
          simp only [hresult]
          refine ⟨hreaches, hallows, fun other hother => ?_⟩
          cases hother
          exact (deleteModule_changes hworld hregistered htouched).2

/-! ### Detaching -/

theorem deliverRelease_reaches {place script : Nat} (hworld : world.Sound held)
    (hwithin : world.Within may script) (wanted : Bool) (self : NativeValue) :
    world.Reaches held may (after (deliverRelease place script wanted self) world) := by
  unfold deliverRelease
  rw [after_get_bind]
  dsimp only
  split
  · rename_i hwanted
    -- Only a built module gets the release event, so nothing is built for it.
    have hbuilt : ∀ module, world.module? script = some module →
        module.state = .built := by
      intro module hmodule
      rw [hmodule] at hwanted
      simpa using (Bool.and_eq_true_iff.mp hwanted).2
    have hnoted : world.Reaches held may (world.noting place script .release) :=
      (world.noting_quiet place script .release).reaches hworld
    have hdeliver := hnoted.trans (deliver_reaches (hwithin.of_reaches hnoted)
      (build_reaches_of_built hnoted.sound (hwithin.of_reaches hnoted) hbuilt)
      (.plain .release) self)
    rw [after_bind, after_note, after_bind]
    split
    · exact hdeliver
    · rw [after_bind, after_error, after_pure]
      exact hdeliver.trans ((World.error_quiet _ _).reaches hdeliver.sound)
  · exact .refl hworld

theorem deliverRelease_modules (place script : Nat) (wanted : Bool) (self : NativeValue)
    (world : World) :
    Owned.modules (result (deliverRelease place script wanted self) world) = [] := by
  unfold deliverRelease
  rw [result_get_bind]
  dsimp only
  split
  · rw [result_bind, result_bind]
    split
    · exact deliver_modules _ _ _ _
    · exact deliver_modules _ _ _ _
  · rfl

theorem deliverRelease_allows {place script : Nat} (wanted : Bool) (self : NativeValue)
    (other : World) :
    ∀ handle ∈ result (deliverRelease place script wanted self) world,
      other.Allows may handle := by
  unfold deliverRelease
  rw [result_get_bind]
  dsimp only
  split
  · rw [result_bind, result_bind]
    split
    · exact deliver_allows _ _ other
    · exact deliver_allows _ _ other
  · simp

/-- Detaching a game module's script module touches it and the module that is
registered under its number. The handles that the game module had, and that of the
registry, are handed out. -/
theorem detachScript_reaches {place : Nat} {game : GameModule}
    (hworld : world.Sound (held.taking game.script.toList))
    (hcovered : ∀ script, game.script = some script →
      world.Covered touched script) (fireRelease : Bool) (self : NativeValue) :
    world.Reaches
        (held.taking (Owned.modules
          (result (detachScript place game fireRelease self) world)))
        (Touch.modules touched)
        (after (detachScript place game fireRelease self) world) ∧
      (∀ handle ∈ result (detachScript place game fireRelease self) world,
        (after (detachScript place game fireRelease self) world).Allows
          (Touch.modules touched) handle) ∧
      ∀ script module, game.script = some script →
        world.module? script = some module →
          (after (detachScript place game fireRelease self) world).scripts.Cleared
            module.id := by
  have hdependencies : game.dependencies.map
      (fun address => Owned.object ⟨.gameModule, address⟩) =
        (game.dependencies.map fun address =>
          (⟨.gameModule, address⟩ : ObjectRef)).map Owned.object := by
    rw [List.map_map]
    rfl
  unfold detachScript
  dsimp only
  rw [hdependencies]
  cases hgame : game.script with
  | none =>
      rw [hgame] at hworld
      dsimp only
      rw [result_pure, after_pure, Owned.modules_objects]
      exact ⟨.refl hworld, allows_objects _ world, by simp⟩
  | some script =>
      have hscript := hcovered script hgame
      rw [hgame] at hworld
      dsimp only
      simp only [after_bind, result_bind, after_pure, result_pure]
      have hdelivered : world.Reaches _ _
          (after (deliverRelease place script fireRelease self) world) :=
        deliverRelease_reaches hworld hscript.within fireRelease self
      have hscript₁ := hscript.of_changes hdelivered.changes
      have hcleared := clearHooks_reaches hdelivered.sound hscript₁.within
      have hscript₂ := hscript₁.of_changes hcleared.changes
      obtain ⟨hremoved, hallows, hfree⟩ := removeScript_reaches hcleared.sound hscript₂
      have hall := hdelivered.trans (hcleared.trans hremoved)
      refine ⟨⟨hall.changes, hall.games, hall.issues, hall.sound.forget (Nat.le_refl _) ?_⟩, ?_, ?_⟩
      · intro address
        have hhooks : Owned.modules (result (clearHooks script) (after
            (deliverRelease place script fireRelease self) world)) = [] :=
          Owned.modules_objects _
        simp only [Owned.modules_append, Owned.modules_objects, Owned.modules_module,
          Owned.modules_nil, deliverRelease_modules, hhooks, Holdings.taking,
          List.nil_append, List.append_nil, Option.toList_some, List.count_append]
        omega
      · intro handle hhandle
        simp only [List.mem_append, List.mem_singleton] at hhandle
        rcases hhandle with (((hhandle | hhandle) | hhandle) | rfl) | hhandle
        · exact deliverRelease_allows fireRelease self _ handle hhandle
        · exact allows_objects _ _ handle hhandle
        · exact hallows handle hhandle
        · exact (hscript₂.of_changes hremoved.changes).within
        · exact allows_objects _ _ handle hhandle
      · intro other module hother hmodule
        cases hother
        have hearlier := hdelivered.trans hcleared
        let cleared := after (clearHooks script)
          (after (deliverRelease place script fireRelease self) world)
        rcases Bool.eq_false_or_eq_true cleared.isRunning with hrunning | hstopped
        · -- The handle that the game module had keeps the script module alive.
          have hcounts := hearlier.sound.handles hrunning
            (⟨List.nodup_nil, by simp, List.nodup_nil, by simp⟩ :
              cleared.Owners script [] [])
          obtain ⟨⟨found, hfound⟩, -⟩ := hcounts (by simp [Holdings.taking])
          obtain ⟨same, hsame, hid⟩ := hearlier.changes.shrinks.modules hfound
          have hmodule' : world.scripts.module? script = some module := hmodule
          rw [hmodule'] at hsame
          cases hsame
          rw [← hid]
          exact hfree found hfound
        · exact (hearlier.sound.scripts.closed.cleared hstopped module.id).of_shrinks
            hremoved.changes.shrinks

end Act

namespace World

variable {held fewer : Holdings} {may : Touch → Prop} {world : World} {address : Nat}

/-! ### Game modules that change -/

theorem game?_withGame (world : World) (address other : Nat)
    (change : GameModule → GameModule) :
    (world.withGame address change).game? other =
      if address = other then (world.game? other).map change
      else world.game? other := by
  unfold World.game? World.withGame
  rw [Heap.get?_modify]
  by_cases ha : address = other
  · rw [if_pos ha, if_pos ha]
    cases hbody : world.objects.get? other with
    | none => rfl
    | some body => cases body <;> rfl
  · rw [if_neg ha, if_neg ha]

theorem toList_count (script : Option Nat) (address : Nat) :
    script.toList.count address = if script = some address then 1 else 0 := by
  cases script with
  | none => simp
  | some script =>
      by_cases hs : script = address
      · simp [hs]
      · simp [hs]

/-- A game module may be given another script module, or none: its handle of the
old one is then held from outside, and so was the one it gets. -/
theorem Sound.withGame {game : GameModule} (hworld : world.Sound held)
    (hgame : world.game? address = some game) (change : GameModule → GameModule)
    (hexecutor : fewer.executor ≤ held.executor)
    (hmodules : ∀ script, fewer.modules.count script +
      (change game).script.toList.count script ≤
        held.modules.count script + game.script.toList.count script) :
    (world.withGame address change).Sound fewer where
  objects := hworld.objects.modify address _
  modules := hworld.modules
  scripts := hworld.scripts
  holders := by
    intro games hnodup hgames
    have hholders := hworld.holders games hnodup fun other hother => by
      have hthere := hgames other hother
      rw [game?_withGame] at hthere
      split at hthere
      · simpa using hthere
      · exact hthere
    have hsame : (world.withGame address change).loaderHold = world.loaderHold := rfl
    rw [hsame]
    exact Nat.le_trans (by omega) hholders
  handles := by
    intro hrunning script ids games howners
    have hothers : ∀ other ∈ games.erase address, ∃ found,
        world.game? other = some found ∧ found.script = some script := by
      intro other hother
      obtain ⟨hne, hmem⟩ := (howners.places.mem_erase_iff).mp hother
      obtain ⟨found, hfound, hscript⟩ := howners.scripts other hmem
      rw [game?_withGame, if_neg (Ne.symm hne)] at hfound
      exact ⟨found, hfound, hscript⟩
    have hnew : games.length ≤ (games.erase address).length +
        (change game).script.toList.count script := by
      by_cases hmem : address ∈ games
      · obtain ⟨found, hfound, hscript⟩ := howners.scripts address hmem
        rw [game?_withGame, if_pos rfl, hgame, Option.map_some,
          Option.some.injEq] at hfound
        rw [toList_count, hfound, if_pos hscript, List.length_erase_of_mem hmem]
        omega
      · rw [List.erase_of_not_mem hmem]
        omega
    -- The game module itself counts as long as the module is its own.
    have hbefore : ∃ places : List Nat, world.Owners script ids places ∧
        places.length = (games.erase address).length +
          game.script.toList.count script := by
      rw [toList_count]
      by_cases hscript : game.script = some script
      · rw [if_pos hscript]
        refine ⟨address :: games.erase address, ⟨howners.numbers,
          howners.registered, ?_, ?_⟩, rfl⟩
        · exact List.nodup_cons.mpr
            ⟨howners.places.not_mem_erase, howners.places.erase address⟩
        · intro other hother
          rcases List.mem_cons.mp hother with rfl | hother
          · exact ⟨game, hgame, hscript⟩
          · exact hothers other hother
      · rw [if_neg hscript]
        exact ⟨games.erase address, ⟨howners.numbers, howners.registered,
          howners.places.erase address, hothers⟩, rfl⟩
    obtain ⟨places, hplaces, hlength⟩ := hbefore
    have hle := hmodules script
    have hcounts := hworld.handles (by exact hrunning) hplaces
    exact hcounts.mono (by omega)

theorem Sound.withGame_of_none (hworld : world.Sound held)
    (hnone : world.game? address = none) (change : GameModule → GameModule) :
    (world.withGame address change).Sound held := by
  have hsame : ∀ other,
      (world.withGame address change).game? other = world.game? other := by
    intro other
    rw [game?_withGame]
    split
    · rename_i ha
      rw [← ha, hnone]
      rfl
    · rfl
  refine ⟨hworld.objects.modify address _, hworld.modules, hworld.scripts, ?_, ?_⟩
  · intro games hnodup hgames
    exact hworld.holders games hnodup fun other hother => hsame other ▸ hgames other hother
  · intro hrunning script ids games howners
    exact hworld.handles (by exact hrunning) (howners.earlier (fun _ hid => hid)
      fun {other game} hgame hscript => ⟨game, hsame other ▸ hgame, hscript⟩)

theorem issues_withGame (world : World) (address : Nat) (change : GameModule → GameModule) :
    world.Issues (world.withGame address change) := by
  refine ⟨Nat.le_of_eq (Heap.next_modify _ _ _).symm, fun {other game} hgame => .inl ?_⟩
  rw [game?_withGame] at hgame
  split at hgame
  · obtain ⟨earlier, hearlier, -⟩ := Option.map_eq_some_iff.mp hgame
    exact ⟨earlier, hearlier⟩
  · exact ⟨game, hgame⟩

/-- A change of a game module touches this game module alone. -/
theorem withGame_reaches (change : GameModule → GameModule)
    (hmay : may (.game address))
    (hsound : (world.withGame address change).Sound held) :
    world.Reaches held may (world.withGame address change) where
  changes := .refl
  games := by
    intro other game hgame
    rw [game?_withGame] at hgame
    split at hgame
    · rename_i ha
      exact .inr (ha ▸ hmay)
    · exact .inl hgame
  issues := issues_withGame _ _ _
  sound := hsound

/-- A game module may change in anything but its script module. -/
theorem Sound.reaches_game (hworld : world.Sound held) (hmay : may (.game address))
    (change : GameModule → GameModule)
    (hscript : ∀ game, (change game).script = game.script) :
    world.Reaches held may (world.withGame address change) := by
  refine withGame_reaches change hmay ?_
  cases hgame : world.game? address with
  | none => exact hworld.withGame_of_none hgame change
  | some game =>
      refine hworld.withGame hgame change (Nat.le_refl _) fun script => Nat.le_of_eq ?_
      rw [hscript]

end World

end ScriptHost
