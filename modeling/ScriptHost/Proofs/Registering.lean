import ScriptHost.Proofs.Dropping
import ScriptHost.World.Registry

/-!
The registry at work. Whoever makes a script module gets a handle of it besides
that of the registry; a module whose number is used again is released first and
gives its handle away. Handles that come up are accounted for until they are
dropped.
-/

namespace ScriptHost

/-- A module without hooks that is discarded. -/
def ScriptModule.released (module : ScriptModule) : ScriptModule :=
  module.unhooked.discarded

namespace Scripts

/-- Releasing a module, as far as scripts are concerned. -/
def release (scripts : Scripts) (address : Nat) (module : ScriptModule) : Scripts :=
  ((scripts.put address (some module.released)).leave module.compiled).withWatcher
    (·.unwatch module.id)

theorem release_changes {may : Touch → Prop} {scripts : Scripts} {address : Nat}
    {module : ScriptModule} (hmodule : scripts.module? address = some module)
    (hmay : may (.module address module.id)) :
    Changes may scripts (scripts.release address module) := by
  have hunhook : Change may scripts (scripts.put address (some module.unhooked)) :=
    .edit _ hmodule hmay
      ⟨rfl, rfl, rfl, rfl, rfl, .inl rfl, .inl rfl, .inl rfl, .inl rfl⟩ (.inl rfl)
  have hput : (scripts.put address (some module.unhooked)).module? address =
      some module.unhooked := Scripts.module?_put_self _ _ _
  have hdiscard : Change may _ (((scripts.put address (some module.unhooked)).put
      address (some module.unhooked.discarded)).leave module.unhooked.compiled) :=
    .discard hput hmay
  rw [Scripts.put_put] at hdiscard
  exact .tail (.tail (.single hunhook) hdiscard) (.unwatch module.id hmay)

/-- A release and the making of another module can change places. -/
theorem create_release (scripts : Scripts) {address : Nat} (counter : Nat)
    (module fresh : ScriptModule) (hne : address ≠ scripts.next) :
    (scripts.release address module).create counter fresh =
      (scripts.create counter fresh).release address module := by
  ext1
  · funext other
    simp only [Scripts.create, Scripts.release, Scripts.withWatcher,
      Scripts.module?_leave, Scripts.next_leave, Scripts.put]
    by_cases hnew : scripts.next = other
    · subst hnew
      simp [hne]
    · simp [hnew]
  · simp [Scripts.create, Scripts.release, Scripts.withWatcher, Scripts.put]
  · simp only [Scripts.create, Scripts.release, Scripts.withWatcher, Scripts.counter_leave,
      Scripts.put]
  · simp only [Scripts.create, Scripts.release, Scripts.withWatcher]
    cases module.compiled <;> rfl
  · simp only [Scripts.create, Scripts.release, Scripts.withWatcher]
    cases module.compiled <;> rfl
  all_goals simp [Scripts.create, Scripts.release, Scripts.withWatcher, Scripts.put]

/-- Once the module that has a number is released, the number can be used again. -/
theorem release_vacant {scripts : Scripts} {id address : Nat}
    {module : ScriptModule} (hregistered : scripts.registry.get? id = some address) :
    (scripts.release address module).IsVacant id := by
  intro other found hother hfound
  simp only [Scripts.release, Scripts.withWatcher, Scripts.registry_leave,
    Scripts.put] at hother
  rw [hregistered] at hother
  cases hother
  simp only [Scripts.release, Scripts.withWatcher, Scripts.module?_leave,
    Scripts.module?_put_self] at hfound
  cases hfound
  rfl

end Scripts

namespace World

variable {held : Holdings} {world after : World}

/-- Nobody has a handle of a module that is yet to be made. -/
theorem Sound.next_unheld (hworld : world.Sound held)
    (hrunning : world.isRunning = true) :
    held.modules.count world.modules.next = 0 ∧
      (∀ id, world.executor.registry.get? id ≠ some world.modules.next) ∧
      ∀ {address game}, world.game? address = some game →
        game.script ≠ some world.modules.next := by
  have hfresh : world.module? world.modules.next = none :=
    hworld.modules.get?_next (Nat.le_refl _)
  refine ⟨?_, ?_, ?_⟩
  · have howners : world.Owners world.modules.next [] [] :=
      ⟨List.nodup_nil, by simp, List.nodup_nil, by simp⟩
    apply Classical.byContradiction
    intro hcount
    obtain ⟨⟨module, hmodule⟩, -⟩ := hworld.handles hrunning howners (by
      simp only [List.length_nil]
      omega)
    rw [hfresh] at hmodule
    cases hmodule
  · intro id hregistered
    exact Nat.lt_irrefl _ (hworld.scripts.registeredBelow hregistered)
  · intro address game hgame hscript
    obtain ⟨module, hmodule⟩ := hworld.script_lives hgame hscript
    rw [hfresh] at hmodule
    cases hmodule

/-- Numbers that are all the same are at most one, if none of them comes twice. -/
private theorem length_le_one {ids : List Nat} {id : Nat} (hnodup : ids.Nodup)
    (hall : ∀ number ∈ ids, number = id) : ids.length ≤ 1 := by
  cases ids with
  | nil => exact Nat.zero_le _
  | cons first rest =>
      cases rest with
      | nil => exact Nat.le_refl _
      | cons second rest =>
          rw [hall first (by simp), hall second (by simp)] at hnodup
          simp at hnodup

/-- A script module that is made and registered, and the handle that its number had
until then. -/
theorem Sound.made (hworld : world.Sound held) {id : Nat}
    (hscripts : after.scripts.Consistent)
    (hobjects : after.objects = world.objects) (hmodules : after.modules.Sound)
    (hlives : ∀ other, (after.module? other).isSome =
      if world.modules.next = other then true else (world.module? other).isSome)
    (hcounts : ∀ other, after.modules.strongCount other =
      if world.modules.next = other then 2 else world.modules.strongCount other)
    (hregistry : after.executor.registry =
      world.executor.registry.set id world.modules.next)
    (hholders : after.holders = world.holders) (hloader : after.loader = world.loader) :
    after.Sound (held.taking
      (world.modules.next :: (world.executor.registry.get? id).toList)) where
  objects := hobjects ▸ hworld.objects
  modules := hmodules
  scripts := hscripts
  holders := by
    intro games hnodup hgames
    simp only [loaderHold, hloader, hholders]
    apply hworld.holders games hnodup
    intro address haddress
    have hgame := hgames address haddress
    simpa only [game?, hobjects] using hgame
  handles := by
    intro hrunning address ids games howners
    have hstill : world.isRunning = true := by
      simpa only [isRunning, hholders] using hrunning
    have hgames : ∀ {other : Nat} {game}, after.game? other = some game →
        world.game? other = some game := by
      intro other game hgame
      simpa only [game?, hobjects] using hgame
    have howned : ∀ number ∈ ids, number ≠ id →
        world.executor.registry.get? number = some address := by
      intro number hnumber hne
      have hregistered := howners.registered number hnumber
      rw [hregistry, Table.get?_set, if_neg (Ne.symm hne)] at hregistered
      exact hregistered
    have hself : id ∈ ids → address = world.modules.next := by
      intro hmem
      have hregistered := howners.registered id hmem
      rw [hregistry, Table.get?_set, if_pos rfl] at hregistered
      exact (Option.some.inj hregistered).symm
    simp only [Holdings.taking, List.cons_append, List.count_cons,
      List.count_append, toList_count, beq_iff_eq]
    by_cases hnew : world.modules.next = address
    · subst hnew
      obtain ⟨hnone, hunregistered, hnogames⟩ := hworld.next_unheld hstill
      have hgamesNone : games = [] := by
        cases games with
        | nil => rfl
        | cons other rest =>
            obtain ⟨game, hgame, hscript⟩ := howners.scripts other List.mem_cons_self
            exact absurd hscript (hnogames (hgames hgame))
      have hids : ids.length ≤ 1 := by
        have hall : ∀ number ∈ ids, number = id := by
          intro number hnumber
          apply Classical.byContradiction
          intro hne
          exact hunregistered number (howned number hnumber hne)
        exact length_le_one howners.numbers hall
      intro _
      refine ⟨Option.isSome_iff_exists.mp ?_, ?_⟩
      · rw [hlives, if_pos rfl]
      · rw [hcounts, if_pos rfl, if_pos rfl, if_neg (hunregistered id), hgamesNone,
          hnone]
        simp only [List.length_nil]
        omega
    · have hnotmem : id ∉ ids := fun hmem => hnew (hself hmem).symm
      have hkeep : ∀ {handles : Nat}, world.Counts address handles →
          after.Counts address handles := by
        intro handles hcount hpos
        obtain ⟨⟨module, hmodule⟩, hle⟩ := hcount hpos
        refine ⟨Option.isSome_iff_exists.mp ?_, ?_⟩
        · rw [hlives, if_neg hnew, hmodule]
          rfl
        · rw [hcounts, if_neg hnew]
          exact hle
      have hscriptOwners : ∀ other ∈ games, ∃ game, world.game? other = some game ∧
          game.script = some address := by
        intro other hother
        obtain ⟨game, hgame, hscript⟩ := howners.scripts other hother
        exact ⟨game, hgames hgame, hscript⟩
      rw [if_neg hnew]
      by_cases hold : world.executor.registry.get? id = some address
      · have hmore : world.Owners address (id :: ids) games := by
          refine ⟨List.nodup_cons.mpr ⟨hnotmem, howners.numbers⟩, ?_, howners.places,
            hscriptOwners⟩
          intro number hnumber
          rcases List.mem_cons.mp hnumber with rfl | hnumber
          · exact hold
          · exact howned number hnumber fun hsame => hnotmem (hsame ▸ hnumber)
        rw [if_pos hold]
        refine hkeep ((hworld.handles hstill hmore).mono ?_)
        rw [List.length_cons]
        omega
      · have hsame : world.Owners address ids games :=
          ⟨howners.numbers, fun number hnumber => howned number hnumber
            fun hsame => hnotmem (hsame ▸ hnumber), howners.places, hscriptOwners⟩
        rw [if_neg hold]
        exact hkeep ((hworld.handles hstill hsame).mono (by omega))

end World

namespace World

/-- The world in which a module has been made and registered, before the one that
its number had is released. The next module gets the number `counter`. -/
def made (world : World) (counter : Nat) (module : ScriptModule) : World :=
  { world with
    modules := (world.modules.alloc module).2.retain world.modules.next
    executor := { world.executor with
      nextId := counter
      registry := world.executor.registry.set module.id world.modules.next } }

variable {held : Holdings} {world : World}

theorem module?_made (hmodules : world.modules.Sound) (counter : Nat)
    (module : ScriptModule) (address : Nat) :
    (world.made counter module).module? address =
      if world.modules.next = address then some module
      else world.module? address := by
  unfold made World.module?
  rw [(hmodules.alloc module).get?_retain]
  exact Heap.get?_alloc world.modules module address

theorem scripts_made (hmodules : world.modules.Sound) (counter : Nat)
    (module : ScriptModule) :
    (world.made counter module).scripts = world.scripts.create counter module := by
  ext1
  · funext address
    exact module?_made hmodules counter module address
  · exact Heap.next_retain _ _
  all_goals rfl

theorem strongCount_made (counter : Nat) (module : ScriptModule) (address : Nat) :
    (world.made counter module).modules.strongCount address =
      if world.modules.next = address then 2 else world.modules.strongCount address := by
  have hget : (world.modules.alloc module).2.get? world.modules.next = some module := by
    rw [Heap.get?_alloc, if_pos rfl]
  unfold made
  rw [Heap.strongCount_retain _ hget, Heap.strongCount_alloc]
  by_cases ha : world.modules.next = address
  · simp [ha]
  · simp [ha]

/-- The world in which a module has been made is sound as soon as nobody else has its
number. -/
theorem Sound.of_made {counter : Nat} {module : ScriptModule} {after : World}
    (hworld : world.Sound held) (hsteady : (world.made counter module).Steady after)
    (hscripts : after.scripts.Consistent)
    (hregistry : after.scripts.registry =
      world.scripts.registry.set module.id world.modules.next) :
    after.Sound (held.taking
      (world.modules.next :: (world.executor.registry.get? module.id).toList)) := by
  refine hworld.made hscripts hsteady.objects
    (hsteady.modules ((hworld.modules.alloc module).retain _)) ?_ ?_ hregistry
    hsteady.holders hsteady.loader
  · intro other
    rw [hsteady.lives, module?_made hworld.modules]
    split <;> rfl
  · intro other
    rw [hsteady.counts]
    exact strongCount_made counter module other

end World

namespace Act

open World

variable {held : Holdings} {may : Touch → Prop} {world : World}

/-- Making a module under a number that is free. -/
private theorem made_reaches (hworld : world.Sound held)
    (hmay : ∀ touch, Touch.ordinary touch → may touch)
    (hrunning : world.isRunning = true) (name source : String) {id counter : Nat}
    (hnumber : world.scripts.Numbers (may (.number name id)) id counter)
    (hfree : world.executor.registry.get? id = none) :
    world.Reaches (held.taking [world.modules.next]) may
      (world.made counter (.create id name source)) := by
  have hscripts := scripts_made hworld.modules counter (.create id name source)
  have hvacant : world.scripts.IsVacant id := by
    intro address module hregistered
    have hnone : world.scripts.registry.get? id = none := hfree
    rw [hnone] at hregistered
    cases hregistered
  have hchange : Scripts.Change may world.scripts
      (world.scripts.create counter (.create id name source)) :=
    .create name source id counter (hmay _ trivial) (hmay _ trivial) hnumber hrunning
      hvacant
  rw [← hscripts] at hchange
  have hsound := hworld.of_made (.refl _) (hchange.consistent hworld.scripts) rfl
  have hid : (ScriptModule.create id name source).id = id := rfl
  rw [hid, hfree] at hsound
  exact ⟨.single hchange, .inl, .of_games (Nat.le_refl _) fun hgame => hgame, hsound⟩

/-- Making a module under a number that another one has. The other one is released,
and its handle handed out. -/
private theorem replaced_reaches (hworld : world.Sound held)
    (hmay : ∀ touch, Touch.ordinary touch → may touch)
    (hrunning : world.isRunning = true) (name source : String) {id counter old : Nat}
    (hnumber : world.scripts.Numbers (may (.number name id)) id counter)
    (hregistered : world.executor.registry.get? id = some old) (message : String) :
    let replaced := after (release old)
      ((world.made counter (.create id name source)).warn message)
    world.Reaches (held.taking [world.modules.next, old]) may replaced := by
  intro replaced
  obtain ⟨module, hmodule⟩ := hworld.scripts.live hregistered
  have hid : module.id = id := hworld.scripts.numbered hregistered hmodule
  have hne : old ≠ world.scripts.next :=
    Nat.ne_of_lt (hworld.scripts.registeredBelow hregistered)
  have hmade : ((world.made counter (.create id name source)).warn message).scripts =
      world.scripts.create counter (.create id name source) :=
    scripts_made hworld.modules _ _
  have hclosed : ((world.made counter (.create id name source)).warn
      message).scripts.Closed := by
    intro hstopped
    have hstill : ((world.made counter (.create id name source)).warn
        message).scripts.running = true := hrunning
    rw [hstill] at hstopped
    cases hstopped
  have hfound : ((world.made counter (.create id name source)).warn message).module?
      old = some module := by
    have hother : world.modules.next ≠ old := Ne.symm hne
    rw [module?_warn, module?_made hworld.modules, if_neg hother]
    exact hmodule
  have hscripts : replaced.scripts =
      (world.scripts.release old module).create counter (.create id name source) := by
    rw [Scripts.create_release _ _ _ _ hne, ← hmade]
    exact release_scripts hclosed hfound
  have hchanges : Scripts.Changes may world.scripts replaced.scripts := by
    have hvacant : (world.scripts.release old module).IsVacant id :=
      Scripts.release_vacant (show world.scripts.registry.get? id = some old from
        hregistered)
    have hstill : (world.scripts.release old module).running = true := by
      simp only [Scripts.release, Scripts.withWatcher, Scripts.running_leave,
        Scripts.put]
      exact hrunning
    have hcounter : (world.scripts.release old module).counter =
        world.scripts.counter := by
      simp only [Scripts.release, Scripts.withWatcher, Scripts.counter_leave,
        Scripts.put]
    rw [hscripts]
    refine .tail (Scripts.release_changes hmodule (hmay _ trivial))
      (.create name source id counter (hmay _ trivial) (hmay _ trivial) ?_ hstill
        hvacant)
    unfold Scripts.Numbers
    rw [hcounter]
    exact hnumber
  have hsteady : (world.made counter (.create id name source)).Steady replaced :=
    ((world.made counter (.create id name source)).warn_steady message).trans
      (release_isSteady old _)
  have hsound := hworld.of_made hsteady (hchanges.consistent hworld.scripts) (by
    rw [hscripts]
    simp only [Scripts.create, Scripts.release, Scripts.withWatcher,
      Scripts.registry_leave, Scripts.next_leave, Scripts.put]
    rfl)
  have hid : (ScriptModule.create id name source).id = id := rfl
  rw [hid, hregistered] at hsound
  refine ⟨hchanges, ?_, .of_games hsteady.issues.next fun hgame => ?_, hsound⟩
  · intro address game hgame
    rw [hsteady.game?] at hgame
    exact .inl hgame
  · exact (hsteady.game? _).symm.trans hgame

theorem createModuleWithId_result (name source : String) (id : Nat) (world : World) :
    result (createModuleWithId name source id) world = world.modules.next := by
  unfold createModuleWithId
  rw [result_get_bind]
  dsimp only
  rw [result_bind, result_bind]
  split <;> rfl

/-- A module under a number that is free is made and registered, and that is all. -/
theorem createModuleWithId_of_free (name source : String) {id : Nat}
    (hfree : world.executor.registry.get? id = none) :
    after (createModuleWithId name source id) world =
      world.made world.executor.nextId (.create id name source) := by
  unfold createModuleWithId
  rw [after_get_bind, hfree]
  rfl

/-- Whoever makes a module gets a handle of it. The number may have been taken from
the counter before. -/
private theorem create_reaches (hworld : world.Sound held)
    (hmay : ∀ touch, Touch.ordinary touch → may touch)
    (hrunning : world.isRunning = true) (name source : String) {id counter : Nat}
    (hnumber : world.scripts.Numbers (may (.number name id)) id counter) :
    world.Reaches (held.taking [world.modules.next]) may
      (after (createModuleWithId name source id) (world.withExecutor fun executor =>
        { executor with nextId := counter })) := by
  cases hregistered : world.executor.registry.get? id with
  | none =>
      have hmade : after (createModuleWithId name source id) (world.withExecutor
          fun executor => { executor with nextId := counter }) =
            world.made counter (.create id name source) :=
        createModuleWithId_of_free name source hregistered
      rw [hmade]
      exact made_reaches hworld hmay hrunning name source hnumber hregistered
  | some old =>
      have hreplaced := replaced_reaches hworld hmay hrunning name source hnumber
        hregistered "module id reused, previous module released"
      dsimp only at hreplaced
      unfold createModuleWithId
      rw [after_get_bind]
      have hthere : (world.withExecutor fun executor =>
          { executor with nextId := counter }).executor.registry.get? id = some old :=
        hregistered
      rw [hthere]
      generalize hwarned : (world.made counter (.create id name source)).warn
        "module id reused, previous module released" = warned at hreplaced
      have hsound : (after (release old) warned).Sound
          ((held.taking [world.modules.next]).taking
            (Owned.modules (result (release old) warned ++ [.module old]))) := by
        refine hreplaced.sound.forget (Nat.le_refl _) fun address => ?_
        rw [Owned.modules_append, release_modules]
        simp only [Holdings.taking, Owned.modules_module, Owned.modules_nil,
          List.nil_append, List.cons_append, List.count_cons]
        omega
      have hdropped := hreplaced.trans ((dropAll_reaches hsound).mono hmay)
      subst hwarned
      simp only [after_bind, after_set, after_onExecutor, after_warn, after_pure]
      exact hdropped

/-- The host makes a module under a number that it has chosen. -/
theorem createModuleWithId_reaches (hworld : world.Sound held)
    (hrunning : world.isRunning = true) (name source : String) (id : Nat) :
    world.Reaches (held.taking [result (createModuleWithId name source id) world])
      (fun touch => Touch.ordinary touch ∨ touch = .number name id)
      (after (createModuleWithId name source id) world) := by
  rw [createModuleWithId_result]
  exact create_reaches hworld (fun _ => .inl) hrunning name source
    (.inr ⟨.inr rfl, rfl⟩)

/-- A module is made under the next number. -/
theorem createModule_reaches (hworld : world.Sound held)
    (hrunning : world.isRunning = true) (name source : String) :
    world.Reaches (held.taking [result (createModule name source) world])
      Touch.ordinary (after (createModule name source) world) := by
  unfold createModule
  rw [after_get_bind, result_get_bind, after_bind, result_bind, after_onExecutor,
    createModuleWithId_result]
  exact create_reaches hworld (fun _ => id) hrunning name source (.inl ⟨rfl, rfl⟩)

theorem result_createModule (name source : String) (world : World) :
    result (createModule name source) world = world.modules.next :=
  createModuleWithId_result name source world.executor.nextId _

/-- A registered module that nobody else holds can be deleted. -/
theorem deleteUnreferenced_reaches (hworld : world.Sound held) (id : Nat) :
    world.Reaches
      (held.taking (Owned.modules (result (deleteUnreferenced id) world).2))
      Touch.ordinary (after (deleteUnreferenced id) world) := by
  unfold deleteUnreferenced
  rw [after_get_bind, result_get_bind]
  split
  · exact .refl hworld
  · split
    · exact deleteModule_reaches hworld fun _ _ => trivial
    · exact .refl hworld

theorem discardCompiled_scripts (internalName : String) (world : World) :
    (after (discardCompiled internalName) world).scripts =
      world.scripts.remove internalName := rfl

theorem discardCompiled_reaches (hworld : world.Sound held) (internalName : String) :
    world.Reaches held Touch.ordinary (after (discardCompiled internalName) world) := by
  have hsteady : IsSteady (discardCompiled internalName) :=
    .bind .get fun _ => .bind (onExecutor_isSteady _ fun _ => rfl) fun _ => .pure _
  refine (hsteady world).reaches hworld ?_
  rw [discardCompiled_scripts]
  exact .single (.revoke internalName trivial)

end Act

end ScriptHost
