import ScriptHost.Proofs.Answering
import ScriptHost.Proofs.Preparing

/-!
What a game module comes by while it is being initialized, if all files are in order. Its
imports are requested one after another; each of them is answered, and its exports are added,
or there is a circle of imports and the request is turned down for that.
-/

namespace ScriptHost

namespace World

variable {base before after world : World} {root request : String} {place script target : Nat}
  {game : GameModule} {description : Description} {making : List Nat} {taken : List String}
  {sources : List Segment}

/-- A circle of imports is reported, and there is one. -/
def Circular (base : World) (root : String) (err : LoadError) : Prop :=
  (∃ name requestedBy, err = .circularDependency name requestedBy) ∧ base.HasCircle root

/-- A game module that is being initialized: its imports in `taken` have been answered and lead
to no circle. -/
structure Gathers (base : World) (root : String) (making : List Nat) (place : Nat)
    (description : Description) (taken : List String) (world : World) : Prop where
  supplies : base.Supplies root (place :: making) world
  own : ∃ game, world.game? place = some game ∧ game.description = description ∧
    List.Forall₂ (base.Answers root world) taken game.dependencies
  clear : ∀ request ∈ taken, ∀ opened, base.Opens request opened → base.Clear opened
  awaits : ∀ request ∈ description.imports, base.Awaits (place :: making) request world

/-- A script module carries the sources of a description, and after them the exports of the
imports in `taken`. -/
def Furnished (base : World) (root : String) (script : Nat) (description : Description)
    (sources : List Segment) (taken : List String) (world : World) : Prop :=
  ∃ exported, List.Forall₂ (base.Exports root) taken exported ∧
    world.Carries script description (sources ++ exported.flatten)

/-- What has become of a request in a load of `root`. -/
structure Explored (base : World) (root : String) (making : List Nat) (request : String)
    (outcome : Except LoadError Nat × World) : Prop where
  works : ∀ target, outcome.1 = .ok target → base.Supplies root making outcome.2 ∧
    base.Answers root outcome.2 request target ∧
      ∀ opened, base.Opens request opened → base.Clear opened
  fails : ∀ err, outcome.1 = .error err → base.Circular root err

theorem Supplies.marks (hsupplies : base.Supplies root making world) : world.Marks making := by
  intro place hmem
  obtain ⟨hnone, game, hgame⟩ := hsupplies.stacked place hmem
  obtain ⟨-, -, hmarked, -⟩ := hsupplies.made hgame hnone
  exact ⟨game, hgame, hmarked hmem⟩

theorem Gathers.visits (hgathers : base.Gathers root making place description taken world) :
    base.Visits root description := by
  obtain ⟨game, hgame, hdescription, -⟩ := hgathers.own
  obtain ⟨hnone, -⟩ := hgathers.supplies.stacked place List.mem_cons_self
  obtain ⟨-, hvisits, -⟩ := hgathers.supplies.made hgame hnone
  exact hdescription ▸ hvisits

/-- Game modules live on, and the one that is being initialized has the same imports. -/
theorem Gathers.persists
    (hgathers : base.Gathers root making place description taken before)
    (hsupplies : base.Supplies root (place :: making) after) (hpersists : before.Persists after)
    (hown : ∀ {game}, before.game? place = some game → ∃ kept, after.game? place = some kept ∧
      kept.description = game.description ∧ kept.dependencies = game.dependencies) :
    base.Gathers root making place description taken after where
  supplies := hsupplies
  own := by
    obtain ⟨game, hgame, hdescription, hanswers⟩ := hgathers.own
    obtain ⟨kept, hkept, hsame, hdependencies⟩ := hown hgame
    refine ⟨kept, hkept, hsame.trans hdescription, ?_⟩
    rw [hdependencies]
    exact hanswers.imp fun _ _ => hpersists.answers
  clear := hgathers.clear
  awaits := fun request hmem => hpersists.awaits (hgathers.awaits request hmem)

theorem Steady.persists (hsteady : before.Steady after) : before.Persists after :=
  ⟨hsteady.continues.serial, fun {place _} hgame =>
    ⟨_, (hsteady.game? place).trans hgame, rfl, rfl⟩⟩

theorem Steady.passes (hsteady : before.Steady after) : Passes making before after where
  continues := hsteady.continues
  known := fun hloader hnow => by
    rw [hsteady.loader, hloader, Option.some.injEq] at hnow
    rw [hnow]
  games := fun place => .inl (hsteady.game? place)

theorem Gathers.steady (hgathers : base.Gathers root making place description taken before)
    (hsteady : before.Steady after) :
    base.Gathers root making place description taken after :=
  hgathers.persists (hgathers.supplies.passes hsteady.passes) hsteady.persists
    fun hgame => ⟨_, (hsteady.game? place).trans hgame, rfl, rfl⟩

/-- A game module that is being initialized changes in other respects than its description. -/
theorem passes_withGame {change : GameModule → GameModule} (hgame : world.game? place = some game)
    (hmem : place ∈ making) (hdescription : (change game).description = game.description)
    (hloader : (change game).loader = game.loader)
    (hinitializing : (change game).initializing = game.initializing) :
    Passes making world (world.withGame place change) where
  continues := continues_withGame place change
  known := fun hloader hnow => by
    rw [Option.some.inj (hloader.symm.trans hnow)]
  games := fun other => by
    rw [game?_withGame]
    split
    · rename_i hsame
      subst hsame
      exact .inr ⟨hmem, game, _, hgame, by rw [hgame]; rfl, hdescription, hloader,
        hinitializing⟩
    · exact .inl rfl

/-- It gets a handle of whoever answers the next import. -/
theorem Gathers.push (hgathers : base.Gathers root making place description taken world)
    (hanswers : base.Answers root world request target)
    (hclear : ∀ opened, base.Opens request opened → base.Clear opened) :
    base.Gathers root making place description (taken ++ [request])
      (world.withGame place fun game => { game with
        dependencies := game.dependencies ++ [target] }) := by
  obtain ⟨game, hgame, hdescription, htaken⟩ := hgathers.own
  have hpasses : Passes (place :: making) world (world.withGame place fun game => { game with
      dependencies := game.dependencies ++ [target] }) :=
    passes_withGame hgame List.mem_cons_self rfl rfl rfl
  have hpersists := hpasses.persists
  refine ⟨hgathers.supplies.passes hpasses, ⟨{ game with
    dependencies := game.dependencies ++ [target] }, ?_, hdescription, ?_⟩, ?_,
    fun other hmem => hpersists.awaits (hgathers.awaits other hmem)⟩
  · rw [game?_withGame, if_pos rfl, hgame]
    rfl
  · exact List.rel_append (htaken.imp fun _ _ => hpersists.answers)
      (.cons (hpersists.answers hanswers) .nil)
  · intro other hmem
    rcases List.mem_append.mp hmem with hearlier | hlast
    · exact hgathers.clear other hearlier
    · rw [List.mem_singleton.mp hlast]
      exact hclear

end World

namespace LoadAct

open World

variable {outset : Outset} {making unheard lent : List Nat} {since : List Delivery}
  {held : Holdings} {base world : World} {root : String} {depth script : Nat}
  {load : String → String → LoadAct Nat}

/-- Whether a load explores the imports that it comes to, as long as not more than `depth` of
them are being initialized at once. -/
structure Explores (base : World) (root : String) (depth : Nat)
    (load : String → String → LoadAct Nat) : Prop where
  run : ∀ {held outset making unheard lent since world request} (requestedBy : String),
    World.Brings held outset making unheard lent since world → unheard ⊆ making →
      base.Supplies root making world → base.Requests root request →
        base.Awaits making request world → base.files.fileCount < depth + making.length →
          base.Explored root making request (Act.result (load request requestedBy).run world,
            Act.after (load request requestedBy).run world)

/-- Script modules that are there already do not notice a load. -/
theorem Raises.module? (hload : Raises load)
    (hbrings : world.Brings held outset making unheard lent since) (name requestedBy : String)
    (hbelow : script < world.modules.next) :
    (Act.after (load name requestedBy).run world).module? script = world.module? script := by
  have hstart : world.Brings held world.outset [] [] [] [] :=
    .refl hbrings.sound hbrings.holds hbrings.orderly hbrings.grows.assigned.numbered
  obtain ⟨more, hraised⟩ := hload.run name requestedBy hstart (by simp [World.Marks])
    (List.Subset.refl [])
  have hworked : Scripts.Changes (Touch.working _) world.scripts _ :=
    hraised.brings.grows.assigned.worked
  exact hworked.module?_spared fun _ htouched => Nat.not_lt.mpr htouched.1 hbelow

end LoadAct

namespace Act

open World LoadAct

variable {outset : Outset} {making unheard lent : List Nat} {since : List Delivery}
  {held : Holdings} {base world : World} {root : String} {place script count depth : Nat}
  {start game : GameModule} {taken : List String} {sources : List Segment}
  {load : String → String → LoadAct Nat}

/-- The imports are answered one after another, unless there is a circle. -/
theorem takeImports_explored (hraises : Raises load) (hexplores : Explores base root depth load)
    (hvalid : base.Valid root) (hunheard : unheard ⊆ place :: making)
    (hdepth : base.files.fileCount < depth + (place :: making).length) (requestedBy : String)
    (names : List String) :
    ∀ {since : List Delivery} {count : Nat} {taken : List String} {world : World},
      world.Rears held outset making unheard lent since place script start count →
        base.Gathers root making place start.description taken world →
          base.Furnished root script start.description sources taken world →
            taken ++ names = start.description.imports →
        (∀ value, result (takeImports load place script requestedBy names).run world = .ok value →
          base.Gathers root making place start.description start.description.imports
              (after (takeImports load place script requestedBy names).run world) ∧
            base.Furnished root script start.description sources start.description.imports
              (after (takeImports load place script requestedBy names).run world)) ∧
        ∀ err, result (takeImports load place script requestedBy names).run world = .error err →
          base.Circular root err := by
  induction names with
  | nil =>
      intro since count taken world _ hgathers hfurnished hnames
      rw [List.append_nil] at hnames
      subst hnames
      exact ⟨fun _ _ => ⟨hgathers, hfurnished⟩, fun _ hfails => by cases hfails⟩
  | cons name rest ih =>
      intro since count taken world hrears hgathers hfurnished hnames
      have hmem : name ∈ start.description.imports := by simp [← hnames]
      have hrequests : base.Requests root name := .imported hgathers.visits hmem
      obtain ⟨exported, hexported, hcarries⟩ := hfurnished
      have hbelow : script < world.modules.next := by
        obtain ⟨_, hmodule⟩ := hcarries
        exact Heap.lt_next_of_get? hrears.sound.modules hmodule
      have hspared := hraises.module? hrears.toBrings name requestedBy hbelow
      have hexplored := hexplores.run requestedBy hrears.toBrings hunheard hgathers.supplies
        hrequests (hgathers.awaits name hmem) hdepth
      obtain ⟨more, hloaded, -, hframe, hfound⟩ :=
        load_rears hraises hrears hunheard name requestedBy
      unfold takeImports
      rw [after_run_bind, result_run_bind]
      cases hresult : result (load name requestedBy).run world with
      | error err =>
          refine ⟨fun _ hok => (by cases hok), fun cause hcause =>
            hexplored.fails cause (hresult.trans ?_)⟩
          exact congrArg Except.error (Except.error.inj hcause)
      | ok target =>
          rw [hresult] at hloaded
          obtain ⟨hsupplies, ⟨answer, hanswer, hstands⟩, hclear⟩ := hexplored.works target hresult
          obtain ⟨-, hbegan, -⟩ := hfound target hresult
          dsimp only
          rw [after_run_attempt_bind, result_run_attempt_bind]
          generalize after (load name requestedBy).run world = loaded at *
          have hpersists : world.Persists loaded :=
            ⟨hsupplies.continues.serial.trans hgathers.supplies.continues.serial.symm,
              fun hgame => ⟨_, hframe hgame, rfl, rfl⟩⟩
          have hstill := hgathers.persists hsupplies hpersists
            fun hgame => ⟨_, hframe hgame, rfl, rfl⟩
          have hcarries' : loaded.Carries script start.description
              (sources ++ exported.flatten) := by
            obtain ⟨id, hmodule⟩ := hcarries
            exact ⟨id, hspared.trans hmodule⟩
          obtain ⟨segments, hprovides⟩ := hvalid.exports name _ hrequests hstands
          obtain ⟨hok, hextended⟩ := addExports_extends requestedBy hcarries' hanswer.found
            (hprovides.continues hsupplies.continues)
          have hadded := hloaded.attends
            (@addExports_isTending place script requestedBy target).attends
          have hsteady := addExports_isSteady requestedBy script target loaded
          generalize after (addExports requestedBy script target).run loaded = added at *
          rw [hok]
          dsimp only
          rw [after_run_lift_bind, result_run_lift_bind, after_onGame]
          have hanswered : base.Answers root added name target :=
            hsteady.persists.answers ⟨answer, hanswer, hstands⟩
          refine ih (hadded.push hrears.kept ((hsteady.game? target).trans hanswer.found) hbegan)
            ((hstill.steady hsteady).push hanswered hclear)
            ⟨exported ++ [segments],
              List.rel_append hexported (.cons ⟨_, hstands, hprovides⟩ .nil), ?_⟩
            (by rw [← hnames, List.append_assoc, List.singleton_append])
          rw [List.flatten_append, List.flatten_singleton, ← List.append_assoc]
          exact hextended

/-- A game module that is being initialized gets a script module. -/
theorem giving_gathers (hcounted : world.scripts.Counted)
    (hgathers : base.Gathers root making place description taken world)
    (name source : String) (access : AccessMask) :
    base.Gathers root making place description taken (world.giving place name source access) := by
  have hfree := free_of_counted hcounted
  have hgames := game?_giving hfree place name source access
  obtain ⟨game, hgame, -⟩ := hgathers.own
  have hplace : (world.giving place name source access).game? place =
      some { game with script := some world.modules.next } := by
    rw [hgames, if_pos rfl, hgame]
    rfl
  have hcontinues : world.Continues (world.giving place name source access) := by
    rw [giving_of_free hfree]
    exact ⟨rfl, rfl, rfl⟩
  have hloader : (world.giving place name source access).loader = world.loader := by
    rw [giving_of_free hfree]
    rfl
  have hpasses : Passes (place :: making) world (world.giving place name source access) := by
    refine ⟨hcontinues, fun hbefore hafter => ?_, fun other => ?_⟩
    · rw [hloader, hbefore, Option.some.injEq] at hafter
      rw [hafter]
    · by_cases hsame : place = other
      · subst hsame
        exact .inr ⟨List.mem_cons_self, game, _, hgame, hplace, rfl, rfl, rfl⟩
      · rw [hgames, if_neg hsame]
        exact .inl rfl
  refine hgathers.persists (hgathers.supplies.passes hpasses) hpasses.persists fun hfound => ?_
  rw [hgame, Option.some.injEq] at hfound
  subst hfound
  exact ⟨_, hplace, rfl, rfl⟩

/-- The script module of a game module is built once all imports are answered. -/
theorem prepareScript_explored (hraises : Raises load) (hexplores : Explores base root depth load)
    (hvalid : base.Valid root)
    (hbrings : world.Brings held outset (place :: making) unheard lent since)
    (hunheard : unheard ⊆ place :: making) (hmarks : world.Marks making)
    (hnew : outset.New world place start) (hidle : start.initialized = false)
    (hmarked : start.initializing = true) (hnone : start.script = none)
    (hbare : start.dependencies = [])
    (hgathers : base.Gathers root making place start.description [] world)
    (hdepth : base.files.fileCount < depth + (place :: making).length)
    (hsame : game.description = start.description) :
    (∀ value, result (prepareScript load place game).run world = .ok value →
        base.Gathers root making place start.description start.description.imports
          (after (prepareScript load place game).run world)) ∧
      ∀ err, result (prepareScript load place game).run world = .error err →
        base.Circular root err := by
  have hgiven := hbrings.gives hnew hidle hmarked hnone hbare hmarks game.name
    game.description.path.text (accessOf game.description)
  have hgathered := giving_gathers hbrings.grows.assigned.numbered.registered hgathers game.name
    game.description.path.text (accessOf game.description)
  have hcarries := giving_carries hbrings.sound hbrings.grows.assigned.numbered.registered place
    game.description
  obtain ⟨sources, hsources⟩ := hvalid.sources _ hgathers.visits
  unfold prepareScript
  rw [after_run_lift_bind, result_run_lift_bind, after_run_lift_bind, result_run_lift_bind,
    after_run_lift_bind, result_run_lift_bind, result_createModule, after_onModule, after_onGame]
  have hworld : ((after (createModule game.name game.description.path.text) world).withModule
      world.modules.next fun module => { module with
        access := AccessMask.moduleDefault.union game.description.extraAccess }).withGame place
          (fun game => { game with script := some world.modules.next }) =
      world.giving place game.name game.description.path.text (accessOf game.description) := rfl
  rw [hworld]
  clear hworld
  change (world.giving place game.name game.description.path.text
    (accessOf game.description)).Carries world.modules.next game.description [] at hcarries
  generalize world.giving place game.name game.description.path.text
    (accessOf game.description) = given at *
  generalize world.modules.next = script at *
  obtain ⟨hok, hextended⟩ := addSources_extends hcarries
    (hsame.symm ▸ hsources.continues hgathered.supplies.continues)
  have hsourced := hgiven.attends (@addSources_isTending place script game).attends
  have hsteady := addSources_isSteady game script given
  have hready := hgathered.steady hsteady
  rw [after_run_bind, result_run_bind, hok]
  generalize after (addSources game script).run given = sourced at *
  dsimp only
  have hfurnished : base.Furnished root script start.description sources [] sourced :=
    ⟨[], .nil, by rwa [List.flatten_nil, List.append_nil, ← hsame]⟩
  obtain ⟨hworks, hfails⟩ := takeImports_explored hraises hexplores hvalid hunheard hdepth
    game.name game.description.imports hsourced hready hfurnished (by rw [hsame]; rfl)
  obtain ⟨more, ⟨count, hrears, -⟩, -⟩ :=
    takeImports_reared hraises hunheard game.name game.description.imports hsourced
  rw [after_run_bind, result_run_bind]
  generalize after (takeImports load place script game.name game.description.imports).run
    sourced = imported at *
  cases hresult : result (takeImports load place script game.name
      game.description.imports).run sourced with
  | error err =>
      refine ⟨nofun, fun cause hcause => hfails cause (hresult.trans ?_)⟩
      exact congrArg Except.error (Except.error.inj hcause)
  | ok value =>
      dsimp only
      obtain ⟨hanswered, exported, hexported, hcarried⟩ := hworks value hresult
      have hbuilds := hvalid.builds _ _ _ hgathers.visits hsources hexported
      obtain ⟨found, hfound, -⟩ := hrears.own
      have hcompiled : result (compileGame game place script).run imported = .ok () :=
        compileGame_compiles hcarried hbuilds hanswered.supplies.continues
          (hrears.sound.running_of_game hfound.1) place
      rw [hcompiled]
      exact ⟨fun _ _ => hanswered.steady (compileGame_isSteady game place script imported), nofun⟩

end Act

end ScriptHost
