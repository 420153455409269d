import ScriptHost.Proofs.Raising

/-!
Initializing a game module. It gets a script module, the handles of its imports one after
another, and its init event once the script module is built; if any of that fails it gives
up what it has got. Nobody else is concerned but those who come with its imports.
-/

namespace ScriptHost

namespace World

open Delivery

variable {outset : Outset} {making unheard lent : List Nat} {since more : List Delivery}
  {held : Holdings} {before middle after world : World} {place script count : Nat}
  {start game : GameModule}

/-- All game modules but one remain as they are. -/
def Remain (place : Nat) (before after : World) : Prop :=
  ∀ other game, other ≠ place → before.game? other = some game → after.game? other = some game

theorem Remain.trans (hfirst : Remain place before middle) (hsecond : Remain place middle after) :
    Remain place before after :=
  fun other game hne hgame => hsecond other game hne (hfirst other game hne hgame)

theorem Remain.of_eq (hgames : ∀ other, other ≠ place → after.game? other = before.game? other) :
    Remain place before after :=
  fun other _ hne hgame => (hgames other hne).trans hgame

theorem remain_withGame (world : World) (place : Nat) (change : GameModule → GameModule) :
    Remain place world (world.withGame place change) :=
  .of_eq fun other hne => by rw [game?_withGame, if_neg (Ne.symm hne)]

/-- Whoever has heard an init event goes on living. -/
theorem Hatches.remain (hhatches : Hatches more before)
    (hothers : ∀ delivery ∈ more, delivery.game ≠ place) (hremain : Remain place before after) :
    Hatches more after := by
  intro delivery hmem
  obtain ⟨hevent, game, hgame⟩ := hhatches delivery hmem
  exact ⟨hevent, game, hremain _ game (hothers delivery hmem) hgame⟩

theorem Hatches.append {later earlier : List Delivery} (hlater : Hatches later world)
    (hearlier : Hatches earlier world) : Hatches (later ++ earlier) world :=
  fun delivery hmem => (List.mem_append.mp hmem).elim (hlater delivery) (hearlier delivery)

/-- A game module that is about to be initialized gets a script module. -/
theorem Brings.gives (hbrings : world.Brings held outset (place :: making) unheard lent since)
    (hnew : outset.New world place game) (hidle : game.initialized = false)
    (hmarked : game.initializing = true) (hnone : game.script = none)
    (hbare : game.dependencies = []) (hmarks : world.Marks making) (name source : String)
    (access : AccessMask) :
    (world.giving place name source access).Rears held outset making unheard lent since place
      world.modules.next game 0 := by
  have hrunning := hbrings.sound.running_of_game hnew.1
  have hreaches := Act.createModule_reaches hbrings.sound hrunning name source
  rw [Act.result_createModule] at hreaches
  have hallowed := (Act.setAccess_isOrdinary world.modules.next fun _ => access).reaches
    hreaches.sound
  have hsound := (hallowed.sound.giveScript place).sound
  obtain ⟨horderly, hcontinues⟩ := Act.createModule_orderly name source hbrings.orderly
  have hgrows := hbrings.grows.gives hbrings.sound hrunning hnew hidle hnone List.mem_cons_self
    name source access
  have hfree := free_of_counted hbrings.grows.assigned.numbered.registered
  have hgames := game?_giving hfree place name source access
  have hothers : Remain place world (world.giving place name source access) :=
    .of_eq fun other hne => by rw [hgames, if_neg (Ne.symm hne)]
  have hplace : (world.giving place name source access).game? place =
      some { game with script := some world.modules.next } := by
    rw [hgames, if_pos rfl, hnew.1]
    rfl
  have hlives : ∀ other, (∃ found, world.game? other = some found) →
      ∃ found, (world.giving place name source access).game? other = some found := by
    rintro other ⟨found, hfound⟩
    by_cases hsame : other = place
    · subst hsame
      exact ⟨_, hplace⟩
    · exact ⟨found, hothers other found hsame hfound⟩
  refine ⟨⟨hsound, ?_, ?_, hgrows, fun other hmem => hlives other (hbrings.lives other hmem),
    hbrings.kept⟩, ⟨_, ⟨hplace, hnew.2⟩, rfl, hidle, hmarked, rfl, by rw [hbare]; rfl⟩, ?_, ?_⟩
  · exact hbrings.holds_of_continues ⟨hcontinues.files, hcontinues.rules, hcontinues.serial⟩
  · have hedited := withModule_steady (Act.after (Act.createModule name source) world)
      world.modules.next (fun module => { module with access := access })
      fun _ _ => List.Subset.refl _
    refine (horderly.steady hedited).edit (?_ : _ = some game)
      (fun game => { game with script := some world.modules.next }) rfl rfl rfl fun _ => .inl
    rw [after_createModule hfree]
    exact hnew.1
  · intro other hmem
    obtain ⟨marked, hother, hinitializing⟩ := hmarks other hmem
    by_cases hsame : other = place
    · subst hsame
      exact ⟨_, hplace, hmarked⟩
    · exact ⟨marked, hothers other marked hsame hother, hinitializing⟩
  · rintro delivery hmem - hsame
    have hbelow := (hbrings.grows.voiced.addressed delivery hmem).2.2
    rw [hsame] at hbelow
    exact Nat.lt_irrefl _ hbelow

/-- It drops the handle of an import again. -/
theorem Rears.dropsGame {target : Nat}
    (hrears : world.Rears held outset making unheard (target :: lent) since place script start
      count) (hkept : place :: making ⊆ lent) :
    ∃ more, (Act.after (Act.dropObjects [⟨.gameModule, target⟩]) world).Rears held outset making
        unheard lent (more ++ since) place script start count ∧
      ∀ delivery ∈ more, delivery.game ≠ place := by
  obtain ⟨game, hnew, hdescription, hidle, hmarked, hscript, hcount⟩ := hrears.own
  have hlent : world.Grows outset (place :: making) unheard
      ([(⟨.gameModule, target⟩ : ObjectRef)].map ObjectRef.address ++ lent) since := hrears.grows
  obtain ⟨more, hbrings, hfalls, hstays⟩ := hlent.dropsObjects hrears.sound hrears.holds
    hrears.orderly (fun other hmem => hrears.lives other (List.mem_cons_of_mem _ hmem)) hkept
  have hplace := (hstays place (hkept List.mem_cons_self)).trans hnew.1
  have hothers : ∀ delivery ∈ more, delivery.game ≠ place := by
    rintro delivery hmem rfl
    have hgone := (hfalls.heard delivery hmem).2.2
    rw [hplace] at hgone
    cases hgone
  refine ⟨more, ⟨hbrings, ⟨game, ⟨hplace, hnew.2⟩, hdescription, hidle, hmarked, hscript,
    hcount⟩, fun other hmem => ?_, fun delivery hmem hgame => ?_⟩, hothers⟩
  · rw [hstays other (hkept (List.mem_cons_of_mem _ hmem))]
    exact hrears.marks other hmem
  · rcases List.mem_append.mp hmem with hmore | hold
    · exact absurd hgame (hothers delivery hmore)
    · exact hrears.anew delivery hold hgame

/-- A game module is marked as initializing. -/
theorem Brings.marking (hbrings : world.Brings held outset making unheard lent since)
    (hmarks : world.Marks making) (hnew : outset.New world place game) (hlent : place ∈ lent)
    (hout : place ∉ making) (hidle : game.initialized = false) :
    (world.withGame place fun game => { game with initializing := true }).Brings held outset
        (place :: making) unheard lent since ∧
      outset.New (world.withGame place fun game => { game with initializing := true }) place
        { game with initializing := true } ∧
      (world.withGame place fun game => { game with initializing := true }).Marks making := by
  have hkept : place :: making ⊆ lent := List.cons_subset.mpr ⟨hlent, hbrings.kept⟩
  refine ⟨hbrings.edits hnew _ hidle hidle rfl rfl rfl (fun _ => rfl) (fun _ => rfl)
      (List.Subset.refl _) (fun other hout hmem => hout (List.mem_cons_of_mem _ hmem)) hkept
      (fun hout => absurd List.mem_cons_self hout) fun _ => .inl, ⟨?_, hnew.2⟩,
    fun other hmem => ?_⟩
  · rw [game?_withGame, if_pos rfl, hnew.1]
    rfl
  · obtain ⟨marked, hother, hinitializing⟩ := hmarks other hmem
    have hne : place ≠ other := fun hsame => hout (hsame ▸ hmem)
    rw [game?_withGame, if_neg hne]
    exact ⟨marked, hother, hinitializing⟩

/-- The world in which a game module is not marked as initializing any more. -/
def unmarking (world : World) (place : Nat) : World :=
  world.withGame place fun game => { game with initializing := false }

/-- It is not marked any more. -/
theorem Rears.unmarks
    (hrears : world.Rears held outset making unheard lent since place script start count) :
    (world.unmarking place).Brings held outset (place :: making) unheard lent since ∧
      ∃ game, outset.New (world.unmarking place) place game ∧
        game.description = start.description ∧ game.initialized = false ∧
          game.initializing = false ∧ game.script = some script ∧
            game.dependencies.length = count := by
  obtain ⟨game, hnew, hdescription, hidle, -, hscript, hcount⟩ := hrears.own
  refine ⟨hrears.toBrings.edits hnew _ hidle hidle rfl rfl rfl (fun _ => rfl) (fun _ => rfl)
      (List.Subset.refl _) (fun _ => id) hrears.kept
      (fun hout => absurd List.mem_cons_self hout) fun _ => .inl,
    { game with initializing := false }, ⟨?_, hnew.2⟩, hdescription, hidle, rfl, hscript, hcount⟩
  refine (game?_withGame _ _ _ _).trans ?_
  rw [if_pos rfl, hnew.1]
  rfl

/-- What becomes of a game module that is being initialized, where `goal` imports are to
come: others hear of that, and if nothing fails whoever has heard something lives and all
others remain. -/
structure Reared (held : Holdings) (outset : Outset) (making unheard lent : List Nat)
    (since more : List Delivery) (place script : Nat) (start : GameModule) (goal : Nat)
    (world : World) (outcome : Except LoadError Unit × World) : Prop where
  rears : ∃ count, outcome.2.Rears held outset making unheard lent (more ++ since) place script
    start count ∧ (outcome.1 = .ok () → count = goal)
  others : ∀ delivery ∈ more, delivery.game ≠ place
  hatches : outcome.1 = .ok () → Hatches more outcome.2 ∧ Remain place world outcome.2

end World

namespace Act

open World LoadAct Delivery

variable {outset : Outset} {making unheard lent : List Nat} {since : List Delivery}
  {held : Holdings} {world : World} {place script count : Nat} {start : GameModule}
  {load : String → String → LoadAct Nat}

/-- The imports are loaded one after another, and the game module gets a handle of each. -/
theorem takeImports_reared (hload : Raises load) (hunheard : unheard ⊆ place :: making)
    (requestedBy : String) (names : List String) :
    ∀ {since : List Delivery} {count : Nat} {world : World},
      world.Rears held outset making unheard lent since place script start count →
        ∃ more, Reared held outset making unheard lent since more place script start
          (count + names.length) world
            (result (takeImports load place script requestedBy names).run world,
              after (takeImports load place script requestedBy names).run world) := by
  induction names with
  | nil =>
      intro since count world hrears
      exact ⟨[], ⟨count, hrears, fun _ => rfl⟩, by simp,
        fun _ => ⟨by simp [Hatches], fun _ _ _ => id⟩⟩
  | cons name rest ih =>
      intro since count world hrears
      obtain ⟨more, hloaded, hothers, hframe, hfound⟩ :=
        load_rears hload hrears hunheard name requestedBy
      unfold takeImports
      rw [after_run_bind, result_run_bind]
      cases hresult : result (load name requestedBy).run world with
      | error err =>
          rw [hresult] at hloaded
          refine ⟨more, ⟨count, hloaded, fun hok => ?_⟩, hothers, fun hok => ?_⟩
          · cases hok
          · cases hok
      | ok target =>
          rw [hresult] at hloaded
          obtain ⟨⟨found, hlives⟩, hbegan, hhatches⟩ := hfound target hresult
          dsimp only
          rw [after_run_attempt_bind, result_run_attempt_bind]
          generalize after (load name requestedBy).run world = loaded at *
          have hadded := hloaded.attends
            (@addExports_isTending place script requestedBy target).attends
          have hgames := (addExports_isSteady requestedBy script target loaded).game?
          generalize after (addExports requestedBy script target).run loaded = added at *
          cases result (addExports requestedBy script target).run loaded with
          | error err =>
              obtain ⟨more', hdropped, hothers'⟩ := hadded.dropsGame hrears.kept
              rw [← List.append_assoc] at hdropped
              refine ⟨more' ++ more, ⟨count, hdropped, fun hok => ?_⟩, fun delivery hmem =>
                (List.mem_append.mp hmem).elim (hothers' delivery) (hothers delivery),
                fun hok => ?_⟩
              · cases hok
              · cases hok
          | ok value =>
              dsimp only
              rw [after_run_lift_bind, result_run_lift_bind, after_onGame]
              obtain ⟨more', ⟨count', hrest, hcount⟩, hothers', hhatches'⟩ :=
                ih (hadded.push hrears.kept ((hgames target).trans hlives) hbegan)
              rw [← List.append_assoc] at hrest
              refine ⟨more' ++ more, ⟨count', hrest, fun hok => ?_⟩, fun delivery hmem =>
                (List.mem_append.mp hmem).elim (hothers' delivery) (hothers delivery),
                fun hok => ?_⟩
              · rw [hcount hok, List.length_cons]
                omega
              · have hpushed : Remain place loaded (added.withGame place fun game =>
                    { game with dependencies := game.dependencies ++ [target] }) :=
                  (Remain.of_eq fun other _ => hgames other).trans (remain_withGame _ _ _)
                obtain ⟨hlater, hremain⟩ := hhatches' hok
                exact ⟨hlater.append (hhatches.remain hothers (hpushed.trans hremain)),
                  Remain.trans (fun _ _ _ => hframe) (hpushed.trans hremain)⟩

/-- A game module that is about to be initialized gets a script module and its imports, and
the script module is built for it. -/
theorem prepareScript_reared (hload : Raises load)
    (hbrings : world.Brings held outset (place :: making) unheard lent since)
    (hunheard : unheard ⊆ place :: making) (hmarks : world.Marks making)
    (hnew : outset.New world place start) (hidle : start.initialized = false)
    (hmarked : start.initializing = true) (hnone : start.script = none)
    (hbare : start.dependencies = []) (game : GameModule) :
    ∃ more, Reared held outset making unheard lent since more place world.modules.next start
        game.description.imports.length world (result (prepareScript load place game).run world,
          after (prepareScript load place game).run world) ∧
      (result (prepareScript load place game).run world = .ok () → ∃ module,
        (after (prepareScript load place game).run world).module? world.modules.next =
            some module ∧
          module.state = .built ∧ module.hooks = some (.game place)) := by
  let access := AccessMask.moduleDefault.union game.description.extraAccess
  have hgiven := hbrings.gives hnew hidle hmarked hnone hbare hmarks game.name
    game.description.path.text access
  have hothers : Remain place world (world.giving place game.name game.description.path.text
      access) := by
    refine .of_eq fun other hne => ?_
    rw [game?_giving (free_of_counted hbrings.grows.assigned.numbered.registered),
      if_neg (Ne.symm hne)]
  unfold prepareScript
  rw [after_run_lift_bind, result_run_lift_bind, after_run_lift_bind, result_run_lift_bind,
    after_run_lift_bind, result_run_lift_bind, result_createModule, after_onModule, after_onGame]
  have hsame : ((after (createModule game.name game.description.path.text) world).withModule
      world.modules.next fun module => { module with access := access }).withGame place
        (fun game => { game with script := some world.modules.next }) =
      world.giving place game.name game.description.path.text access := rfl
  rw [hsame]
  clear hsame
  generalize world.giving place game.name game.description.path.text access = given at *
  generalize world.modules.next = script at *
  have hsourced := hgiven.attends (@addSources_isTending place script game).attends
  have hgames := (addSources_isSteady game script given).game?
  rw [after_run_bind, result_run_bind]
  generalize after (addSources game script).run given = sourced at *
  have hsources : Remain place world sourced :=
    hothers.trans (.of_eq fun other _ => hgames other)
  cases result (addSources game script).run given with
  | error err =>
      exact ⟨[], ⟨⟨0, hsourced, nofun⟩, by simp, nofun⟩, nofun⟩
  | ok value =>
      dsimp only
      rw [after_run_bind, result_run_bind]
      obtain ⟨more, ⟨count, hrears, hcount⟩, hheard, hhatches⟩ :=
        takeImports_reared hload hunheard game.name game.description.imports hsourced
      dsimp only at hrears hcount hhatches
      generalize after (takeImports load place script game.name game.description.imports).run
        sourced = taken at *
      cases hresult : result (takeImports load place script game.name
          game.description.imports).run sourced with
      | error err =>
          exact ⟨more, ⟨⟨count, hrears, nofun⟩, hheard, nofun⟩, nofun⟩
      | ok value =>
          dsimp only
          obtain ⟨hhatched, hremain⟩ := hhatches hresult
          obtain ⟨found, hfound, -, hunready, -, hscript, -⟩ := hrears.own
          obtain ⟨module, -, hready⟩ := hrears.grows.ready hrears.sound hfound hscript
          have hcompiled := hrears.attends
            (@compileGame_isTending place script game).attends
          have hsteady := (compileGame_isSteady game place script taken).game?
          have hlast : Remain place taken (after (compileGame game place script).run taken) :=
            .of_eq fun other _ => hsteady other
          refine ⟨more, ⟨⟨count, hcompiled, fun _ => ?_⟩, hheard, fun _ =>
            ⟨hhatched.remain hheard hlast, hsources.trans (hremain.trans hlast)⟩⟩,
            compileGame_result hready⟩
          rw [hcount hresult, Nat.zero_add]

/-! ### The end of an initialization -/

variable {game : GameModule} {module : ScriptModule}

/-- An event that is fired at a game module whose script module is built notes the listeners
of that at most. -/
theorem fire_of_live (hworld : world.Sound held) (hrunning : world.isRunning = true)
    (hgame : world.game? place = some game) (hscript : game.script = some script)
    (hmodule : world.module? script = some module) {compiled : Compiled}
    (hcompiled : module.compiled = some compiled) (hbuilt : module.state = .built)
    (hentered : world.executor.isCompiled module.internalName = true) (event : Event) :
    world.Reaches held (Touch.working (Scripts.Alone script module.id))
        (after (fire place event) world) ∧
      ∃ listeners, (after (fire place event) world).scripts =
        world.scripts.put script (some (module.listening listeners)) := by
  have hquiet := selfValue_isQuiet place world
  have hself := (hquiet.reaches hworld :
    world.Reaches held (Touch.working (Scripts.Alone script module.id)) _)
  have hrunning' : (after (selfValue place) world).isRunning = true :=
    hquiet.settled.isRunning.trans hrunning
  unfold fire
  rw [after_get_bind, hgame, Option.bind_some, hscript, after_bind, after_bind, after_pure]
  generalize result (selfValue place) world = self
  generalize after (selfValue place) world = ready at hquiet hself hrunning'
  have hthere : ready.module? script = some module :=
    (congrFun (congrArg Scripts.module? hquiet.scripts) script).trans hmodule
  have hlive : ready.executor.isCompiled module.internalName = true :=
    (congrArg (·.compiled.has module.internalName) hquiet.scripts).trans hentered
  have hwithin : ready.Within (Touch.working (Scripts.Alone script module.id)) script := by
    intro found hfound
    rw [hthere] at hfound
    cases hfound
    exact ⟨rfl, rfl⟩
  refine ⟨hself.trans (deliver_reaches hwithin (build_reaches_of_built hself.sound hwithin
    fun found hfound => ?_) event self), ?_⟩
  · rw [hthere] at hfound
    cases hfound
    exact hbuilt
  · rw [← hquiet.scripts]
    exact deliver_of_live hthere hcompiled hbuilt hrunning' hlive event self

/-- An event that owns no handles is fired at a game module, and the handles that come up are
dropped: no game module notices. -/
theorem fire_brings (hbrings : world.Brings held outset making unheard lent since)
    (hnew : outset.New world place game) (hscript : game.script = some script)
    (hmodule : world.module? script = some module) (hbuilt : module.state = .built)
    (hhooks : module.hooks = some (.game place)) {event : Event} (hpayload : event.payload = []) :
    (after (dropAll (result (fire place event) world).2) (after (fire place event) world)).Brings
        held outset making unheard lent since ∧
      ∀ other, (after (dropAll (result (fire place event) world).2)
        (after (fire place event) world)).game? other = world.game? other := by
  have hrunning := hbrings.sound.running_of_game hnew.1
  have hfirst := (hbrings.grows.assigned.owned ⟨game, hnew, hscript⟩).1
  obtain ⟨compiled, hcompiled⟩ :=
    (hbrings.sound.scripts.wellFormed hmodule).exists_compiled hbuilt
  have hentered := (hbrings.grows.usable? hbrings.sound.scripts hrunning hfirst hmodule hbuilt
    hcompiled).2
  obtain ⟨hreaches, listeners, hscripts⟩ :=
    fire_of_live hbrings.sound hrunning hnew.1 hscript hmodule hcompiled hbuilt hentered event
  have hsilent := fire_isSilent place event world
  obtain ⟨refs, hrefs, hkeeps⟩ := fire_keeps place hpayload (.refl hbrings.sound.objects)
  obtain ⟨-, hdropped⟩ := dropAll_keeps hkeeps
  rw [List.append_nil] at hkeeps
  rw [hrefs]
  generalize after (fire place event) world = fired at *
  have hleft : fired.module? script = some (module.listening listeners) :=
    (congrFun (congrArg Scripts.module? hscripts) script).trans (Scripts.module?_put_self _ _ _)
  have hgames := hkeeps.game?_eq
  have hfired : fired.Grows outset making unheard (refs.map ObjectRef.address ++ lent) since := by
    refine hbrings.grows.works hbrings.sound.scripts ?_ hkeeps ⟨game, hnew, hscript⟩ hmodule
      hreaches.changes hsilent hleft (by simp [ScriptModule.listening, hbuilt])
      (fun hooks hsome => ?_) fun _ _ => ⟨rfl, rfl, rfl⟩
    · exact hreaches.sound.running_of_game ((hgames place).trans hnew.1)
    · rw [show (module.listening listeners).hooks = module.hooks from rfl, hhooks] at hsome
      exact (Option.some.inj hsome).symm
  obtain ⟨more, hlast, hfalls, -⟩ := hfired.dropsObjects hreaches.sound
    (hbrings.holds_of_continues hkeeps.continues) ((hbrings.orderly.keeps hkeeps).relend _ nofun)
    (fun other hmem => hgames other ▸ hbrings.lives other hmem) hbrings.kept
  have hsame : ∀ other, (after (dropObjects refs) fired).game? other = world.game? other :=
    hdropped.game?_eq
  have hnothing : more = [] := by
    rw [List.eq_nil_iff_forall_not_mem]
    intro delivery hmem
    obtain ⟨-, ⟨found, hfound⟩, hgone⟩ := hfalls.heard delivery hmem
    rw [hsame, ← hgames, hfound] at hgone
    cases hgone
  rw [hnothing] at hlast
  exact ⟨hlast, hsame⟩

/-- A game module whose script module is built is initialized and hears the init event. -/
theorem fireInit_brings (hbrings : world.Brings held outset making unheard lent since)
    {making' unheard' : List Nat} (hnew : outset.New world place game)
    (hidle : game.initialized = false) (hscript : game.script = some script)
    (hmodule : world.module? script = some module) (hbuilt : module.state = .built)
    (hhooks : module.hooks = some (.game place))
    (hcomplete : game.dependencies.length = game.description.imports.length)
    (hanew : ∀ delivery ∈ since, delivery.game = place → delivery.script ≠ script)
    (hmaking : ∀ other, other ≠ place → other ∉ making' → other ∉ making) (hkept : making' ⊆ lent)
    (hunheard : ∀ other, other ≠ place → other ∉ unheard' → other ∉ unheard) :
    ∃ delivery, delivery.game = place ∧ delivery.event = .init ∧
      (after (fireInit place) (world.withGame place fun game =>
        { game with initialized := true })).Brings held outset making' unheard' lent
          (delivery :: since) ∧
      ∀ other, (after (fireInit place) (world.withGame place fun game =>
        { game with initialized := true })).game? other =
          if place = other then some { game with initialized := true } else world.game? other := by
  have hgames : ∀ other, (world.beginning place script).game? other =
      if place = other then some { game with initialized := true } else world.game? other := by
    intro other
    refine (game?_withGame _ _ _ _).trans ?_
    split
    · rename_i hsame
      rw [← hsame, hnew.1]
      rfl
    · rfl
  obtain ⟨delivery, hplace, hevent, hgrows⟩ := hbrings.grows.initializes hbrings.sound.scripts
    (hbrings.sound.running_of_game hnew.1) hnew hidle hscript hmodule hbuilt hhooks hcomplete hanew
    hmaking hunheard
  have hinitialized : world.Reaches held Touch.anything (world.withGame place fun game =>
      { game with initialized := true }) := hbrings.sound.reaches_game trivial _ fun _ => rfl
  have hnoted := noting_steady (world.withGame place fun game => { game with initialized := true })
    place script .init
  have hbegun : (world.beginning place script).Brings held outset making' unheard' lent
      (delivery :: since) := by
    refine ⟨(hnoted.reaches hinitialized.sound .refl : World.Reaches held Touch.anything _ _).sound,
      hbrings.holds, (hbrings.orderly.edit hnew.1 (fun game => { game with initialized := true })
        rfl rfl rfl fun _ => .inl).steady hnoted, hgrows, fun other hmem => ?_, hkept⟩
    rw [hgames]
    split
    · exact ⟨_, rfl⟩
    · exact hbrings.lives other hmem
  have hbegan : outset.New (world.beginning place script) place
      { game with initialized := true } := ⟨by rw [hgames, if_pos rfl], hnew.2⟩
  obtain ⟨hfired, hsame⟩ := fire_brings hbegun hbegan hscript hmodule hbuilt hhooks
    (rfl : (Event.plain .init).payload = [])
  have hnote : after (noteInit place) (world.withGame place fun game =>
      { game with initialized := true }) = world.beginning place script := by
    unfold noteInit
    rw [after_get_bind, game?_withGame, if_pos rfl, hnew.1, Option.map_some, Option.bind_some,
      hscript]
    rfl
  have herror := error_isSteady
  refine ⟨delivery, hplace, hevent, ?_⟩
  unfold fireInit
  rw [after_bind, hnote, after_bind, after_bind]
  generalize after (dropAll _) _ = dropped at *
  split
  · exact ⟨hfired, fun other => (hsame other).trans (hgames other)⟩
  · exact ⟨hfired.steady (herror _ _) (error_isSilent _ _) rfl,
      fun other => ((herror _ _).game? other).trans ((hsame other).trans (hgames other))⟩

/-- A game module of which any handles may be around gives up its script module. -/
theorem detachGame_unkept_orderly (wanted : Bool) (hworld : world.Orderly [] [] [])
    (hgame : world.game? place = some game) :
    (after (detachGame place wanted) world).Orderly [] [] [] := by
  have hdetaching : (world.detaching place).Orderly [] [] [] :=
    hworld.edit hgame (fun game => { game with script := none, dependencies := [] }) rfl rfl rfl
      nofun
  have hdetached : (world.detaching place).game? place =
      some { game with script := none, dependencies := [] } := by
    refine (game?_withGame _ _ _ _).trans ?_
    rw [if_pos rfl, hgame]
    rfl
  obtain ⟨-, hafter⟩ := detachGame_of_some hgame wanted
  have hself := selfValue_keeps place (World.Keeps.refl hdetaching.objects)
  obtain ⟨refs, -, -, hkeeps, -⟩ := detachScript_keeps place game wanted
    (result (selfValue place) (world.detaching place)) hself
  rw [hafter]
  exact ((hdetaching.keeps hkeeps).relend [] nofun).edit (hkeeps.game? hdetached)
    (fun game => { game with initialized := false }) rfl rfl rfl fun _ => .inl

/-- A game module gives up its script module and its imports, and the handles that come up are
dropped. -/
theorem detachGame_brings {making' : List Nat} {wanted : Bool}
    (hbrings : world.Brings held outset making' unheard lent since)
    (hnew : outset.New world place game) (hwanted : wanted = false → game.initialized = false)
    (hinit : game.initialized = false → wanted = true → game.script = none)
    (hmaking : ∀ other, other ≠ place → other ∉ making → other ∉ making')
    (honce : outset.once → game.initialized = false) (hkept : making ⊆ lent) :
    ∃ told more, (game.initialized = false → told = []) ∧
      (after (dropAll (result (detachGame place wanted) world))
        (after (detachGame place wanted) world)).Brings held outset making unheard lent
          (more ++ (told ++ since)) ∧
      (place ∈ lent → (∀ delivery ∈ more, delivery.game ≠ place) ∧
        (after (dropAll (result (detachGame place wanted) world))
          (after (detachGame place wanted) world)).game? place =
            some { game with script := none, dependencies := [], initialized := false }) := by
  obtain ⟨told, -, hsilent, hgrows, hmodules, hgames, hloader⟩ :=
    detachGame_grows hbrings.grows hbrings.sound hnew hwanted hinit hmaking honce
  have hplace := hgames place
  rw [if_pos rfl] at hplace
  have hreaches := detachGame_reaches hbrings.sound place wanted
  have horderly := detachGame_unkept_orderly wanted hbrings.orderly hnew.1
  have hlives : ∀ other ∈ lent, ∃ found,
      (after (detachGame place wanted) world).game? other = some found := by
    intro other hmem
    rw [hgames]
    split
    · exact ⟨_, rfl⟩
    · exact hbrings.lives other hmem
  have hholds : 0 < held.executor + (after (detachGame place wanted) world).loaderHold := by
    unfold loaderHold
    rw [hloader]
    exact hbrings.holds
  obtain ⟨more, hdropped, hfalls, hstays⟩ :=
    hgrows.drops hreaches.sound hholds horderly hlives hkept hmodules
  refine ⟨told, more, hsilent, hdropped, fun hlent => ?_⟩
  have hlast := (hstays place hlent).trans hplace
  refine ⟨?_, hlast⟩
  rintro delivery hmem rfl
  have hgone := (hfalls.heard delivery hmem).2.2
  rw [hlast] at hgone
  cases hgone

/-- A game module that cannot be initialized gives up what it has got. -/
theorem abandon_brings (message : String)
    (hbrings : world.Brings held outset (place :: making) unheard lent since)
    (hnew : outset.New world place game) (hidle : game.initialized = false) :
    ∃ more, (after (do
        error message
        dropAll (← detachGame place false)) world).Brings held outset making unheard lent
          (more ++ since) ∧
      (∀ delivery ∈ more, delivery.game ≠ place) ∧
      (after (do
        error message
        dropAll (← detachGame place false)) world).game? place =
          some { game with script := none, dependencies := [], initialized := false } := by
  have herror := error_isSteady message world
  have hreported := hbrings.steady herror (error_isSilent message world) rfl
  have hnew' := hnew.of_eq (herror.game? place)
  rw [after_bind, after_bind]
  generalize after (error message) world = reported at *
  have hwanted : (false : Bool) = true → game.script = none := by simp
  obtain ⟨told, more, hsilent, hdropped, hlast⟩ := detachGame_brings hreported hnew'
    (fun _ => hidle) (fun _ => hwanted)
    (fun other hne hout hmem => hout ((List.mem_cons.mp hmem).resolve_left hne))
    (fun _ => hidle) fun other hmem => hbrings.kept (List.mem_cons_of_mem _ hmem)
  rw [hsilent hidle, List.nil_append] at hdropped
  exact ⟨more, hdropped, hlast (hbrings.kept List.mem_cons_self)⟩

/-- What becomes of a game module that is to be initialized: it has heard the init event, and
everyone who has heard something lives; or it is left with nothing. -/
structure Readied (held : Holdings) (outset : Outset) (making unheard unheard' lent : List Nat)
    (since more : List Delivery) (place : Nat) (outcome : Except LoadError Unit × World) :
    Prop where
  worked : outcome.1 = .ok () →
    outcome.2.Brings held outset making unheard' lent (more ++ since) ∧
      Began (more ++ since) place ∧ Hatches more outcome.2 ∧
        ∃ game, outcome.2.game? place = some game ∧ game.initializing = false
  failed : ∀ err, outcome.1 = .error err →
    outcome.2.Brings held outset making unheard lent (more ++ since) ∧
      (∀ delivery ∈ more, delivery.game ≠ place) ∧
        ∃ game, outcome.2.game? place = some game ∧ game.script = none

/-- A game module that is prepared hears the init event. -/
theorem begin_readied {more : List Delivery} {goal : Nat} {value : Unit} {prepared : World}
    (hreared : Reared held outset making unheard lent since more place script start goal world
      (.ok value, prepared)) (hgoal : goal = start.description.imports.length)
    (hmodule : prepared.module? script = some module) (hbuilt : module.state = .built)
    (hhooks : module.hooks = some (.game place)) (hkept : making ⊆ lent) {unheard' : List Nat}
    (hheard : ∀ other, other ≠ place → other ∉ unheard' → other ∉ unheard) :
    ∃ later, Readied held outset making unheard unheard' lent since later place
      (.ok (), after (fireInit place) ((prepared.unmarking place).withGame place fun game =>
        { game with initialized := true })) := by
  obtain ⟨⟨count, hrears, hcount⟩, hothers, hhatches⟩ := hreared
  dsimp only at hrears hhatches
  obtain ⟨hhatched, -⟩ := hhatches rfl
  obtain ⟨hunmarked, found, hfound, hdescription, hidle, hmarked, hscript, hlength⟩ :=
    hrears.unmarks
  have hcomplete : found.dependencies.length = found.description.imports.length := by
    rw [hlength, hcount rfl, hgoal, hdescription]
  obtain ⟨delivery, hplace, hevent, hended, hgames⟩ := fireInit_brings hunmarked hfound hidle
    hscript hmodule hbuilt hhooks hcomplete hrears.anew
    (fun other hne hout hmem => hout ((List.mem_cons.mp hmem).resolve_left hne)) hkept hheard
  have hlast := hgames place
  rw [if_pos rfl] at hlast
  have hunmarking : Remain place prepared (prepared.unmarking place) := remain_withGame _ _ _
  have hremain := hunmarking.trans (.of_eq fun other hne =>
    (hgames other).trans (if_neg (Ne.symm hne)))
  refine ⟨delivery :: more, fun _ => ⟨hended, ⟨delivery, List.mem_cons_self, hplace, hevent⟩,
    fun next hmem => ?_, _, hlast, hmarked⟩, nofun⟩
  rcases List.mem_cons.mp hmem with rfl | hmore
  · refine ⟨hevent, { found with initialized := true }, ?_⟩
    rw [hplace]
    exact hlast
  · exact hhatched.remain hothers hremain next hmore

/-- A game module that cannot be prepared is left with nothing. -/
theorem abandon_readied {more : List Delivery} {goal : Nat} {err : LoadError} {prepared : World}
    (hreared : Reared held outset making unheard lent since more place script start goal world
      (.error err, prepared)) (message : String) {unheard' : List Nat} :
    ∃ later, Readied held outset making unheard unheard' lent since later place
      (.error err, after (do
        error message
        dropAll (← detachGame place false)) (prepared.unmarking place)) := by
  obtain ⟨⟨count, hrears, -⟩, hothers, -⟩ := hreared
  dsimp only at hrears
  obtain ⟨hunmarked, found, hfound, -, hidle, -⟩ := hrears.unmarks
  obtain ⟨later, hended, hothers', hlast⟩ := abandon_brings message hunmarked hfound hidle
  rw [← List.append_assoc] at hended
  exact ⟨later ++ more, nofun, fun _ _ => ⟨hended, fun delivery hmem =>
    (List.mem_append.mp hmem).elim (hothers' delivery) (hothers delivery), _, hlast, rfl⟩⟩

/-- A game module that is not initialized yet. -/
theorem makeReady_readied (hload : Raises load)
    (hbrings : world.Brings held outset making unheard lent since) (hmarks : world.Marks making)
    (hunheard : unheard ⊆ place :: making) (hnew : outset.New world place game)
    (hlent : place ∈ lent) (hout : place ∉ making) (hidle : game.initialized = false)
    (hmarked : game.initializing = false) {unheard' : List Nat}
    (hheard : ∀ other, other ≠ place → other ∉ unheard' → other ∉ unheard) :
    ∃ more, Readied held outset making unheard unheard' lent since more place
      (result (makeReady load place).run world, after (makeReady load place).run world) := by
  obtain ⟨hnone, hbare⟩ := (hbrings.grows.voiced.voices place).idle hnew hout hidle
  obtain ⟨hbegun, hgame, hmarks'⟩ := hbrings.marking hmarks hnew hlent hout hidle
  obtain ⟨more, hreared, hbuilt⟩ :=
    prepareScript_reared hload hbegun hunheard hmarks' hgame hidle rfl hnone hbare game
  unfold makeReady
  rw [after_run_get_bind, result_run_get_bind, hnew.1]
  dsimp only
  rw [hidle, hmarked]
  simp only [Bool.false_eq_true, if_false]
  rw [after_run_lift_bind, result_run_lift_bind, after_onGame, after_run_attempt_bind,
    result_run_attempt_bind, after_run_lift_bind, result_run_lift_bind, after_onGame]
  generalize after (prepareScript load place game).run (world.withGame place fun game =>
    { game with initializing := true }) = prepared at *
  cases hresult : result (prepareScript load place game).run (world.withGame place fun game =>
      { game with initializing := true }) with
  | ok value =>
      obtain ⟨module, hmodule, hstate, hhooks⟩ := hbuilt hresult
      rw [hresult] at hreared
      dsimp only
      rw [result_run_lift_bind, after_run_lift_bind, result_run_lift, after_run_lift, after_onGame]
      exact begin_readied hreared rfl hmodule hstate hhooks hbrings.kept hheard
  | error err =>
      rw [hresult] at hreared
      exact abandon_readied hreared _

end Act

end ScriptHost
