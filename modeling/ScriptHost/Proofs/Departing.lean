import ScriptHost.Proofs.Growing

/-!
Giving up a script module. A game module that is detached hears the release event if its script
module is built; then the script module loses its hooks, is taken down and is registered no
more. What comes up are the handles of the delivery, those of the imports, and those of the
script module.
-/

namespace ScriptHost

namespace Act

open World

variable {held : Holdings} {world : World} {place script : Nat} {module : ScriptModule}
  {compiled : Compiled}

/-- Delivering an event to a built module notes its listeners at most. -/
theorem deliver_of_live (hmodule : world.module? script = some module)
    (hcompiled : module.compiled = some compiled) (hbuilt : module.state = .built)
    (hrunning : world.isRunning = true)
    (hentered : world.executor.isCompiled module.internalName = true) (event : Event)
    (self : NativeValue) :
    ∃ listeners, (after (deliver script event self) world).scripts =
      world.scripts.put script (some (module.listening listeners)) := by
  obtain ⟨listeners, hlisteners⟩ :=
    listenerIndex_of_live hmodule hcompiled hbuilt hrunning hentered
  refine ⟨listeners, ?_⟩
  have hfound : (after (findListener script event.kind.listenerName
      event.kind.genericType?) world).scripts =
        world.scripts.put script (some (module.listening listeners)) := hlisteners
  rw [← hfound]
  unfold deliver
  rw [after_bind]
  split
  · rfl
  · have hevent : IsQuiet (allocate .event (.event event)) := allocate_isQuiet .event (by simp)
    exact (IsQuiet.bind (retain_isQuiet _) (fun _ => .bind hevent fun _ =>
      .bind (invoke_isQuiet _ _ _ _) fun _ => .pure _) _).scripts

/-- A built module hears the release event. -/
theorem deliverRelease_of_live (hmodule : world.module? script = some module)
    (hcompiled : module.compiled = some compiled) (hbuilt : module.state = .built)
    (hrunning : world.isRunning = true)
    (hentered : world.executor.isCompiled module.internalName = true) (self : NativeValue) :
    (∃ listeners, (after (deliverRelease place script true self) world).scripts =
      world.scripts.put script (some (module.listening listeners))) ∧
      (after (deliverRelease place script true self) world).deliveries =
        ⟨place, script, .release, world.usable? script⟩ :: world.deliveries := by
  have hwanted : (true && (world.module? script).map ScriptModule.state == some .built) = true := by
    simp [hmodule, hbuilt]
  obtain ⟨listeners, hlisteners⟩ := deliver_of_live
    (show (world.noting place script .release).module? script = some module from hmodule)
    hcompiled hbuilt hrunning hentered (.plain .release) self
  have hsilent := deliver_isSilent script (.plain .release) self
    (world.noting place script .release)
  unfold deliverRelease
  rw [after_get_bind]
  dsimp only
  rw [if_pos hwanted, after_bind, after_note, after_bind]
  split
  · exact ⟨⟨listeners, hlisteners⟩, hsilent⟩
  · exact ⟨⟨listeners, hlisteners⟩, hsilent⟩

/-- Otherwise nothing is delivered. -/
theorem deliverRelease_of_other {wanted : Bool} (self : NativeValue)
    (hother : wanted = true → ∀ module, world.module? script = some module →
      module.state ≠ .built) :
    result (deliverRelease place script wanted self) world = [] ∧
      after (deliverRelease place script wanted self) world = world := by
  have hunwanted : ¬ (wanted && (world.module? script).map ScriptModule.state ==
      some .built) = true := by
    intro hboth
    obtain ⟨hwanted, hstate⟩ := Bool.and_eq_true_iff.mp hboth
    cases hmodule : world.module? script with
    | none => simp [hmodule] at hstate
    | some module => exact hother hwanted module hmodule (by simpa [hmodule] using hstate)
  unfold deliverRelease
  rw [after_get_bind, result_get_bind]
  dsimp only
  rw [if_neg hunwanted]
  exact ⟨rfl, rfl⟩

/-- A delivery of the release event notes the listeners of the script module at most. -/
theorem deliverRelease_scripts (hworld : world.Sound held) (hrunning : world.isRunning = true)
    (hmodule : world.module? script = some module)
    (hlive : module.state = .built → world.executor.isCompiled module.internalName = true)
    (wanted : Bool) (self : NativeValue) :
    ∃ listeners, (after (deliverRelease place script wanted self) world).scripts =
      world.scripts.put script (some (module.listening listeners)) := by
  by_cases hboth : wanted = true ∧ module.state = .built
  · obtain ⟨rfl, hbuilt⟩ := hboth
    obtain ⟨compiled, hcompiled⟩ := (hworld.scripts.wellFormed hmodule).exists_compiled hbuilt
    exact (deliverRelease_of_live hmodule hcompiled hbuilt hrunning (hlive hbuilt) self).1
  · have hother : wanted = true → ∀ found, world.module? script = some found →
        found.state ≠ .built := by
      intro hwanted found hfound hbuilt
      rw [hmodule] at hfound
      cases hfound
      exact hboth ⟨hwanted, hbuilt⟩
    refine ⟨module.listeners, ?_⟩
    rw [(deliverRelease_of_other self hother).2]
    have hself : some (module.listening module.listeners) = world.scripts.module? script :=
      hmodule.symm
    rw [hself, Scripts.put_self]

/-- A game module that gives up its script module is told so. -/
theorem deliverRelease_told {game : GameModule} (hworld : world.Sound held)
    (hrunning : world.isRunning = true) (hgame : game.script = some script)
    (hmodule : world.module? script = some module)
    (hlive : module.state = .built → world.executor.isCompiled module.internalName = true)
    {wanted : Bool} (hwanted : wanted = false → game.initialized = false)
    (hinit : game.initialized = false → wanted = false) (self : NativeValue) :
    ∃ more, (after (deliverRelease place script wanted self) world).deliveries =
        more ++ world.deliveries ∧ world.Told place game more ∧
      (game.initialized = false → more = []) := by
  by_cases hboth : wanted = true ∧ module.state = .built
  · obtain ⟨rfl, hbuilt⟩ := hboth
    obtain ⟨compiled, hcompiled⟩ := (hworld.scripts.wellFormed hmodule).exists_compiled hbuilt
    have hheard : world.usable? script = some compiled := by
      simp [World.usable?, hmodule, hbuilt, hrunning, hlive hbuilt, hcompiled]
    refine ⟨[⟨place, script, .release, world.usable? script⟩],
      (deliverRelease_of_live hmodule hcompiled hbuilt hrunning (hlive hbuilt) self).2,
      .release hgame hmodule hbuilt hcompiled rfl rfl rfl hheard, fun hidle => ?_⟩
    cases hinit hidle
  · have hother : wanted = true → ∀ found, world.module? script = some found →
        found.state ≠ .built := by
      intro hwanted' found hfound hbuilt
      rw [hmodule] at hfound
      cases hfound
      exact hboth ⟨hwanted', hbuilt⟩
    refine ⟨[], by rw [(deliverRelease_of_other self hother).2]; rfl,
      .nothing fun hdone own found hown hfound => ?_, fun _ => rfl⟩
    rw [hgame] at hown
    cases hown
    refine hother ?_ found hfound
    by_contra hunwanted
    rw [hwanted (by simpa using hunwanted)] at hdone
    cases hdone

/-- What comes up with the release of a module are the handles that its hooks had. -/
theorem release_result (hmodule : world.module? script = some module) :
    result (release script) world = module.hookRefs.map Owned.object := by
  unfold release
  simp only [result_bind, result_get, result_pure, hmodule, Option.bind_some]
  rfl

/-- Removing a module that is registered under its number. -/
theorem removeScript_of_registered (hclosed : world.scripts.Closed)
    (hmodule : world.module? script = some module)
    (hregistered : world.executor.registry.get? module.id = some script)
    (hhooks : module.hookRefs = []) :
    result (removeScript script) world = [.module script] ∧
      (after (removeScript script) world).module? script = some module.unhooked.discarded := by
  have hdeleted := (deleteModule_of_some hclosed hregistered hmodule).2
  have hrelease := release_result (show (world.withExecutor fun executor =>
    { executor with registry := executor.registry.erase module.id }).module? script =
      some module from hmodule)
  have hresult : result (deleteModule module.id) world = (true, [.module script]) := by
    unfold deleteModule
    rw [result_get_bind, hregistered]
    dsimp only
    rw [result_bind, after_onExecutor, result_bind, result_pure, hrelease, hhooks]
    rfl
  have hfound : (after (deleteModule module.id) world).module? script =
      some module.unhooked.discarded := by
    refine (congrFun (congrArg Scripts.module? hdeleted) script).trans ?_
    simp [Scripts.unregister, Scripts.withWatcher]
  unfold removeScript
  rw [after_get_bind, result_get_bind, hmodule]
  dsimp only [Option.map_some]
  rw [after_bind, result_bind, hresult]
  exact ⟨rfl, hfound⟩

/-- What becomes of a world in which a game module, given by its state, gives up its script
module. -/
structure Departs (world : World) (place : Nat) (game : GameModule)
    (outcome : List Owned × World) : Prop where
  /-- The handles of the delivery and those of the imports come up. -/
  handles : ∃ refs : List ObjectRef,
    Owned.objects outcome.1 = refs.map ObjectRef.address ++ game.dependencies ∧
      world.Keeps outcome.2 (refs.map ObjectRef.address)
  modules : ∀ script ∈ Owned.modules outcome.1, game.script = some script
  told : ∃ more, outcome.2.deliveries = more ++ world.deliveries ∧ world.Told place game more ∧
    (game.initialized = false → more = [])
  bare : game.script = none → outcome.2.scripts = world.scripts
  down : ∀ {script module}, game.script = some script → world.module? script = some module →
    Scripts.Changes (Touch.modules (Scripts.Alone script module.id)) world.scripts
      outcome.2.scripts ∧ outcome.2.scripts.Cleared module.id ∧
    ∀ left, outcome.2.module? script = some left → left.state = .discarded ∧ left.hooks = none

theorem objects_imports (dependencies : List Nat) :
    Owned.objects (dependencies.map fun address => Owned.object ⟨.gameModule, address⟩) =
      dependencies := by
  induction dependencies with
  | nil => rfl
  | cons address rest ih =>
      rw [List.map_cons, Owned.objects_object, ih]

theorem modules_imports (dependencies : List Nat) :
    Owned.modules (dependencies.map fun address => Owned.object ⟨.gameModule, address⟩) = [] := by
  induction dependencies with
  | nil => rfl
  | cons address rest ih => rw [List.map_cons, Owned.modules_object, ih]

/-- A game module gives up a script module that is registered under its number and whose hooks
own no handles. Only one that is initialized is told. -/
theorem detachScript_departs {game : GameModule}
    (hworld : world.Sound (held.taking game.script.toList)) (hrunning : world.isRunning = true)
    (hscript : ∀ script, game.script = some script → ∃ module,
      world.module? script = some module ∧ module.state ≠ .discarded ∧ module.hookRefs = [] ∧
        (module.state = .built → world.executor.isCompiled module.internalName = true))
    {wanted : Bool} (hwanted : wanted = false → game.initialized = false)
    (hinit : game.initialized = false → wanted = true → game.script = none)
    (self : NativeValue) :
    Departs world place game ((detachScript place game wanted self).run world) := by
  rw [run_eq]
  cases hgame : game.script with
  | none =>
      have hresult : result (detachScript place game wanted self) world =
          game.dependencies.map fun address => Owned.object ⟨.gameModule, address⟩ := by
        unfold detachScript
        rw [hgame]
        rfl
      have hafter : after (detachScript place game wanted self) world = world := by
        unfold detachScript
        rw [hgame]
        rfl
      rw [hresult, hafter]
      refine
        { handles := ⟨[], objects_imports _, .refl hworld.objects⟩
          modules := by simp [modules_imports]
          told := ⟨[], rfl, .nothing fun _ script module hsome => ?_, fun _ => rfl⟩
          bare := fun _ => rfl
          down := fun hsome => ?_ }
      · rw [hgame] at hsome
        cases hsome
      · rw [hgame] at hsome
        cases hsome
  | some script =>
      obtain ⟨module, hmodule, hliving, hbare, hlive⟩ := hscript script hgame
      have hregistered := hworld.scripts.registered hrunning hmodule hliving
      -- the delivery notes listeners at most
      obtain ⟨refs, hrefs, hkeeps⟩ :=
        deliverRelease_keeps place script wanted self (.refl hworld.objects)
      have hunwanted : game.initialized = false → wanted = false := by
        intro hidle
        by_contra hwanted'
        rw [hinit hidle (by simpa using hwanted')] at hgame
        cases hgame
      obtain ⟨more, hmore, htold, hquiet⟩ : ∃ more,
          (after (deliverRelease place script wanted self) world).deliveries =
            more ++ world.deliveries ∧ world.Told place game more ∧
              (game.initialized = false → more = []) :=
        deliverRelease_told hworld hrunning hgame hmodule hlive hwanted hunwanted self
      obtain ⟨listeners, hdelivered⟩ : ∃ listeners,
          (after (deliverRelease place script wanted self) world).scripts =
            world.scripts.put script (some (module.listening listeners)) :=
        deliverRelease_scripts hworld hrunning hmodule hlive wanted self
      have hmodule₁ : (after (deliverRelease place script wanted self) world).module? script =
          some (module.listening listeners) :=
        (congrFun (congrArg Scripts.module? hdelivered) script).trans
          (Scripts.module?_put_self _ _ _)
      -- the hooks go
      have hmodule₂ : (after (clearHooks script)
          (after (deliverRelease place script wanted self) world)).module? script =
            some (module.listening listeners).unhooked := by
        refine (module?_withModule _ _ _ _).trans ?_
        rw [if_pos rfl, hmodule₁]
        rfl
      have hhooks : result (clearHooks script)
          (after (deliverRelease place script wanted self) world) = [] := by
        refine (release_result hmodule₁).trans ?_
        rw [show (module.listening listeners).hookRefs = [] from hbare]
        rfl
      have hstill : (after (clearHooks script) (after (deliverRelease place script wanted self)
          world)).executor.registry.get? module.id = some script :=
        (congrArg (·.registry.get? module.id) hdelivered).trans hregistered
      -- and the module is deleted
      have hcovered : ∀ own, game.script = some own →
          world.Covered (Scripts.Alone script module.id) own := by
        intro own hown found hfound
        rw [hgame] at hown
        cases hown
        rw [hmodule] at hfound
        cases hfound
        refine ⟨⟨rfl, rfl⟩, fun address haddress => ⟨?_, rfl⟩⟩
        exact (Option.some.inj (hregistered.symm.trans haddress)).symm
      obtain ⟨hreaches, -, hfree⟩ : world.Reaches _ _
            (after (detachScript place game wanted self) world) ∧ _ :=
        detachScript_reaches hworld hcovered wanted self
      have hwithin : world.Within (Touch.modules (Scripts.Alone script module.id)) script :=
        (hcovered script hgame).within
      have hfirst : world.Reaches (held.taking game.script.toList)
          (Touch.modules (Scripts.Alone script module.id))
          (after (deliverRelease place script wanted self) world) :=
        deliverRelease_reaches hworld hwithin wanted self
      have hclosed : (after (clearHooks script)
          (after (deliverRelease place script wanted self) world)).scripts.Closed :=
        (clearHooks_reaches hfirst.sound (hwithin.of_reaches hfirst)).sound.scripts.closed
      obtain ⟨hremoved, hdown⟩ :=
        removeScript_of_registered hclosed hmodule₂ hstill rfl
      have hafter : after (detachScript place game wanted self) world =
          after (removeScript script) (after (clearHooks script)
            (after (deliverRelease place script wanted self) world)) := by
        unfold detachScript
        rw [hgame]
        rfl
      have hresult : result (detachScript place game wanted self) world =
          result (deliverRelease place script wanted self) world ++
            result (clearHooks script) (after (deliverRelease place script wanted self) world) ++
            result (removeScript script) (after (clearHooks script)
              (after (deliverRelease place script wanted self) world)) ++ [.module script] ++
            game.dependencies.map fun address => Owned.object ⟨.gameModule, address⟩ := by
        unfold detachScript
        rw [hgame]
        rfl
      rw [hafter] at hreaches hfree
      rw [hresult, hafter, hrefs, hhooks, hremoved]
      refine
        { handles := ⟨refs, by simp [objects_imports], ?_⟩
          modules := by simp [modules_imports, hgame]
          told := ⟨more, ?_, htold, hquiet⟩
          bare := fun hnone => ?_
          down := ?_ }
      · have hkept := (hkeeps.steady (clearHooks_isSteady script _)).steady
          (removeScript_isSteady script _)
        rwa [List.append_nil] at hkept
      · exact (removeScript_isSilent script _).trans
          ((clearHooks_isSilent script _).trans hmore)
      · rw [hgame] at hnone
        cases hnone
      · intro own found hown hfound
        rw [hgame] at hown
        cases hown
        rw [hmodule] at hfound
        cases hfound
        refine ⟨hreaches.changes, hfree script module hgame hmodule, fun left hleft => ?_⟩
        rw [hdown] at hleft
        cases hleft
        exact ⟨rfl, rfl⟩

end Act

namespace World

open Delivery

variable {outset : Outset} {making unheard lent : List Nat} {since more : List Delivery}
  {held : Holdings} {before after world noted : World} {place script : Nat}
  {game : GameModule} {outcome : List Owned × World}

/-- What a game module hears depends on script modules alone. -/
theorem Told.congr (htold : before.Told place game more)
    (hmodules : ∀ script, after.module? script = before.module? script) :
    after.Told place game more := by
  cases htold with
  | nothing hunbuilt =>
      exact .nothing fun hinit script module hscript hmodule =>
        hunbuilt hinit script module hscript (hmodules script ▸ hmodule)
  | release hscript hmodule hbuilt hcompiled hplace hevent hspoken hheard =>
      exact .release hscript ((hmodules _).trans hmodule) hbuilt hcompiled hplace hevent hspoken
        hheard

/-- A game module hears at most one release event when its script module goes. -/
theorem Told.events (htold : world.Told place game more) :
    more.length ≤ 1 ∧ ∀ delivery ∈ more, delivery.game = place ∧ delivery.event = .release ∧
      ∃ module, world.module? delivery.script = some module ∧ module.state = .built := by
  cases htold with
  | nothing _ => simp
  | release hscript hmodule hbuilt hcompiled hplace hevent hspoken hheard =>
      refine ⟨Nat.le_refl 1, ?_⟩
      simp only [List.mem_singleton]
      rintro _ rfl
      exact ⟨hplace, hevent, _, hspoken ▸ hmodule, hbuilt⟩

/-- A game module gives up its script module, and whatever is recorded under the number of
that. -/
theorem Grows.departs {given : List Nat} (hgrows : before.Grows outset making unheard given since)
    (hbefore : before.Sound held) (hrunning : after.isRunning = true)
    {making' unheard' : List Nat} (hnew : outset.New before place game)
    (hdeparts : Act.Departs noted place game outcome)
    (hfirst : noted.scripts = before.scripts ∧ noted.deliveries = before.deliveries)
    (hlast : after.scripts = outcome.2.scripts ∧ after.deliveries = outcome.2.deliveries)
    (hplace : ∀ changed, after.game? place = some changed → changed.script = none)
    (hothers : ∀ other, other ≠ place → after.game? other = before.game? other)
    (htallies : outset.objects.Tallies lent after.objects)
    (hnext : before.objects.next ≤ after.objects.next)
    (hmaking : ∀ other, other ≠ place → other ∉ making' → other ∉ making)
    (hunheard : ∀ other, other ≠ place → other ∉ unheard' → other ∉ unheard)
    (hvoice : ∀ more, before.Told place game more → (game.initialized = false → more = []) →
      after.Voice outset making' unheard' (more ++ since) place) :
    ∃ more, before.Told place game more ∧ (game.initialized = false → more = []) ∧
      after.Grows outset making' unheard' lent (more ++ since) := by
  obtain ⟨more, hmore, htold, hidle⟩ := hdeparts.told
  have htold' : before.Told place game more :=
    htold.congr fun script => (congrFun (congrArg Scripts.module? hfirst.1) script).symm
  have hrecorded : after.deliveries = more ++ before.deliveries := by
    rw [hlast.2, hmore, hfirst.2]
  have hnone : ∀ script, ¬ outset.Has after place script := by
    rintro script ⟨found, hfound, hscript⟩
    rw [hplace found hfound.1] at hscript
    cases hscript
  have hhas : ∀ other script, outset.Has after other script ↔
      outset.Has before other script ∧ other ≠ place := by
    intro other script
    by_cases hsame : other = place
    · subst hsame
      simp [hnone script]
    · simp only [Outset.Has, Outset.New, hothers other hsame]
      simp [hsame]
  -- the script modules
  have hscripts : Scripts.Changes Touch.anything before.scripts after.scripts ∧
      after.scripts.Assigned outset (outset.Has after) ∧
      ∀ other found, other ≠ place → outset.Has before other found →
        after.module? found = before.module? found := by
    cases hscript : game.script with
    | none =>
        have hsame : after.scripts = before.scripts := by
          rw [hlast.1, hdeparts.bare hscript, hfirst.1]
        refine ⟨hsame ▸ .refl, ?_, fun _ found _ _ =>
          congrFun (congrArg Scripts.module? hsame) found⟩
        rw [hsame]
        refine hgrows.assigned.congr fun other found => ?_
        rw [hhas]
        refine ⟨And.left, fun hbefore' => ⟨hbefore', ?_⟩⟩
        rintro rfl
        obtain ⟨own, hown, hfound⟩ := hbefore'
        rw [hnew.unique hown, hscript] at hfound
        cases hfound
    | some script =>
        obtain ⟨module, hmodule⟩ := hbefore.script_lives hnew.1 hscript
        have hthere : noted.module? script = some module :=
          (congrFun (congrArg Scripts.module? hfirst.1) script).trans hmodule
        obtain ⟨hchanges, hcleared, hleft⟩ := hdeparts.down hscript hthere
        rw [hfirst.1, ← hlast.1] at hchanges
        rw [← hlast.1] at hcleared
        have hown : outset.Has before place script := ⟨game, hnew, hscript⟩
        have hworked := hchanges.mono Touch.working_of_modules
        refine ⟨hchanges.mono fun _ _ => trivial, hgrows.assigned.loses hbefore.scripts hrunning
          hown hmodule hworked (fun left hfound => hleft left ?_) hcleared
          (fun other hother => hown.unique hother) hhas, fun other found hne hfound => ?_⟩
        · exact (congrFun (congrArg Scripts.module? hlast.1) script).symm.trans hfound
        · refine hworked.module?_spared fun id htouched => hne ?_
          exact hgrows.assigned.apart (htouched.1 ▸ hfound) hown
  have helsewhere : Elsewhere outset before after place := ⟨hothers, hscripts.2.2⟩
  obtain ⟨-, hevents⟩ := htold'.events
  refine ⟨more, htold', hidle, htallies, hscripts.2.1, ?_⟩
  refine hgrows.voiced.advance hbefore.scripts hnext hscripts.1 hrecorded (fun delivery hmem => ?_)
    (helsewhere.voices hgrows.voiced hmaking hunheard (fun delivery hmem =>
      (hevents delivery hmem).1) (hvoice more htold' hidle))
  obtain ⟨hgame, -, module, hmodule, hbuilt⟩ := hevents delivery hmem
  refine ⟨hgame ▸ hnew.2, ?_, module, hmodule, by simp [hbuilt, BuildState.isTerminal]⟩
  exact hgame ▸ Nat.lt_of_lt_of_le (hgrows.lt_next hnew.1) hnext

/-- The script module of a game module that has come since is as it should be for the game
module to give it up. -/
theorem Grows.attached (hgrows : world.Grows outset making unheard lent since)
    (hworld : world.Sound held) (hnew : outset.New world place game)
    (hscript : game.script = some script) :
    ∃ module, world.module? script = some module ∧ module.state ≠ .discarded ∧
      module.hookRefs = [] ∧
      (module.state = .built → world.executor.isCompiled module.internalName = true) := by
  obtain ⟨module, hmodule⟩ := hworld.script_lives hnew.1 hscript
  obtain ⟨hfirst, hliving⟩ := hgrows.assigned.owned ⟨game, hnew, hscript⟩
  refine ⟨module, hmodule, hliving module hmodule, ?_, fun hbuilt => ?_⟩
  · cases hhooks : module.hooks with
    | none => simp [ScriptModule.hookRefs, hhooks]
    | some hooks =>
        obtain ⟨other, rfl, -⟩ := hgrows.assigned.hooked hfirst hmodule hhooks
        simp [ScriptModule.hookRefs, hhooks, Hooks.objects]
  · obtain ⟨compiled, hcompiled⟩ := (hworld.scripts.wellFormed hmodule).exists_compiled hbuilt
    exact (hgrows.usable? hworld.scripts (hworld.running_of_game hnew.1) hfirst hmodule hbuilt
      hcompiled).2

end World

namespace Act

open World

variable {outset : Outset} {making unheard lent : List Nat} {since : List Delivery}
  {held : Holdings} {world : World} {place : Nat} {game : GameModule}

/-- A game module is detached from its script module. Its imports are lent from then on. -/
theorem detachGame_grows (hgrows : world.Grows outset making unheard lent since)
    (hworld : world.Sound held) (hnew : outset.New world place game) {making' : List Nat}
    {wanted : Bool} (hwanted : wanted = false → game.initialized = false)
    (hinit : game.initialized = false → wanted = true → game.script = none)
    (hmaking : ∀ other, other ≠ place → other ∉ making' → other ∉ making)
    (honce : outset.once → game.initialized = false) :
    ∃ more, world.Told place game more ∧ (game.initialized = false → more = []) ∧
      (after (detachGame place wanted) world).Grows outset making' unheard
        (Owned.objects (result (detachGame place wanted) world) ++ lent) (more ++ since) ∧
      (∀ script ∈ Owned.modules (result (detachGame place wanted) world),
        outset.scripts.next ≤ script) ∧
      (∀ other, (after (detachGame place wanted) world).game? other =
        if place = other then
          some { game with script := none, dependencies := [], initialized := false }
        else world.game? other) ∧
      (after (detachGame place wanted) world).loader = world.loader := by
  have hrunning := hworld.running_of_game hnew.1
  have hdetaching := hworld.detaching hnew.1
  obtain ⟨hresult, hafter⟩ := detachGame_of_some hnew.1 wanted
  have hself := selfValue_keeps place (.refl hdetaching.objects)
  have hscripts := (selfValue_isQuiet place (world.detaching place)).scripts
  have hready := (selfValue_isQuiet place (world.detaching place)).sound hdetaching
  have hrecorded := selfValue_isSilent place (world.detaching place)
  generalize result (selfValue place) (world.detaching place) = self at *
  generalize after (selfValue place) (world.detaching place) = ready at *
  have hdeparts : Departs ready place game ((detachScript place game wanted self).run ready) := by
    refine detachScript_departs hready ((congrArg Scripts.running hscripts).trans hrunning)
      (fun script hscript => ?_) hwanted hinit self
    obtain ⟨module, hmodule, hliving, hbare, hentered⟩ := hgrows.attached hworld hnew hscript
    refine ⟨module, (congrFun (congrArg Scripts.module? hscripts) script).trans hmodule,
      hliving, hbare, fun hbuilt => ?_⟩
    exact (congrArg (·.compiled.has module.internalName) hscripts).trans (hentered hbuilt)
  rw [run_eq] at hdeparts
  obtain ⟨refs, hrefs, hkeeps⟩ := hdeparts.handles
  have hlast := hdeparts.modules
  dsimp only at hrefs hkeeps hlast
  -- the game module without its script module
  have hdetached : ∀ other, (after (detachScript place game wanted self) ready).game? other =
      if place = other then some { game with script := none, dependencies := [] }
      else world.game? other := by
    intro other
    refine (hkeeps.game?_eq other).trans ((hself.game?_eq other).trans ?_)
    unfold World.detaching
    rw [game?_withGame]
    split
    · rename_i hsame
      rw [← hsame, hnew.1]
      rfl
    · rfl
  have hplace : (after (detachScript place game wanted self) ready).game? place =
      some { game with script := none, dependencies := [] } := by
    rw [hdetached, if_pos rfl]
  have hgames : ∀ other, (after (detachGame place wanted) world).game? other =
      if place = other then
        some { game with script := none, dependencies := [], initialized := false }
      else world.game? other := by
    intro other
    rw [hafter, game?_withGame]
    split
    · rename_i hsame
      rw [← hsame, hplace]
      rfl
    · rename_i hne
      rw [hdetached, if_neg hne]
  -- the handles
  have hgiven : outset.objects.Tallies (game.dependencies ++ lent)
      (world.detaching place).objects :=
    hgrows.tallies.modify (get?_of_game? hnew.1) hnew.2 id ⟨_, rfl⟩
      (fun target => by simp [ObjectBody.owned, Nat.add_comm]) (by simp [ObjectBody.owned])
  have hlent := (hgiven.holds hself.objects).holds hkeeps.objects
  have htallies : outset.objects.Tallies
      (Owned.objects (result (detachGame place wanted) world) ++ lent)
      (after (detachGame place wanted) world).objects := by
    have hchanged : outset.objects.Tallies _ ((after (detachScript place game wanted self)
        ready).withGame place fun game => { game with initialized := false }).objects :=
      hlent.modify (get?_of_game? hplace) hnew.2 id ⟨_, rfl⟩ (fun _ => rfl)
        (by simp [ObjectBody.owned])
    rw [hafter, hresult, Owned.objects_append, Owned.objects_objects, hrefs]
    refine hchanged.congr fun address => ?_
    simp only [List.count_append, List.count_nil]
    omega
  have hnext : world.objects.next ≤ (after (detachGame place wanted) world).objects.next := by
    have hfirst : (world.detaching place).objects.next = world.objects.next :=
      Heap.next_modify _ _ _
    have hsecond := hself.objects.next
    have hthird := hkeeps.objects.next
    rw [hafter]
    refine Nat.le_trans ?_ (Nat.le_of_eq (Heap.next_modify _ _ _).symm)
    omega
  have hstill : (after (detachGame place wanted) world).isRunning = true :=
    (detachGame_reaches hworld place wanted).sound.running_of_game
      ((hgames place).trans (if_pos rfl))
  obtain ⟨more, htold, hidle, hgrown⟩ : ∃ more, world.Told place game more ∧
      (game.initialized = false → more = []) ∧
      (after (detachGame place wanted) world).Grows outset making' unheard
        (Owned.objects (result (detachGame place wanted) world) ++ lent) (more ++ since) := by
    refine hgrows.departs hworld hstill hnew hdeparts ⟨hscripts, hrecorded⟩
      (by rw [hafter]; exact ⟨rfl, rfl⟩) (fun changed hchanged => ?_)
      (fun other hne => by rw [hgames, if_neg (Ne.symm hne)]) htallies hnext hmaking
      (fun _ _ => id) fun more htold hidle =>
        (hgrows.voiced.voices place).detaches hnew hidle htold
          ((hgames place).trans (if_pos rfl)) rfl rfl rfl honce id
    rw [hgames, if_pos rfl] at hchanged
    cases hchanged
    rfl
  refine ⟨more, htold, hidle, hgrown, fun script hscript => ?_, hgames, ?_⟩
  · rw [hresult, Owned.modules_append, Owned.modules_objects, List.append_nil] at hscript
    exact (hgrows.assigned.owned ⟨game, hnew, hlast script hscript⟩).1
  · rw [hafter]
    exact hkeeps.loader.trans hself.loader

end Act

end ScriptHost
