import ScriptHost.Proofs.Furnishing
import ScriptHost.Proofs.Lifecycles

/-!
Circles of imports. A load ends, and where everything else is in order it is turned down if and
only if it comes to a circle of imports; otherwise it hands out a game module, and everything
that has come since is initialized and has its imports.
-/

namespace ScriptHost

namespace Act

open World LoadAct

variable {outset : Outset} {making unheard lent : List Nat} {since : List Delivery}
  {held : Holdings} {base world : World} {root request : String} {place depth : Nat}
  {game : GameModule} {description : Description} {loader : Loader}
  {load : String → String → LoadAct Nat}

/-- The init event leaves the loader alone. -/
theorem fireInit_keeps (place : Nat) (hobjects : world.objects.Sound) :
    world.Keeps (after (fireInit place) world) [] := by
  have hnoted := (World.Keeps.refl hobjects).steady (noteInit_isSteady place world)
  unfold fireInit
  rw [after_bind, after_bind]
  obtain ⟨refs, hrefs, hfired⟩ := fire_keeps place (rfl : (Event.plain .init).payload = []) hnoted
  obtain ⟨-, hdropped⟩ := dropAll_keeps hfired
  rw [after_bind, hrefs]
  split
  · exact hdropped
  · exact hdropped.steady (error_isSteady _ _)

/-- The initialization of a game module that is neither initialized nor being initialized. -/
theorem makeReady_idle (load : String → String → LoadAct Nat) (hgame : world.game? place = some game)
    (hidle : game.initialized = false) (hunmarked : game.initializing = false)
    {marked prepared : World}
    (hmarked : marked = world.withGame place fun game => { game with initializing := true })
    (hprepared : prepared = after (prepareScript load place game).run marked) :
    (∀ value, result (prepareScript load place game).run marked = .ok value →
        result (makeReady load place).run world = .ok () ∧
          after (makeReady load place).run world = after (fireInit place)
            ((prepared.unmarking place).withGame place fun game =>
              { game with initialized := true })) ∧
      ∀ err, result (prepareScript load place game).run marked = .error err →
        result (makeReady load place).run world = .error err := by
  subst hmarked hprepared
  unfold makeReady
  rw [after_run_get_bind, result_run_get_bind, hgame]
  dsimp only
  rw [hidle, hunmarked]
  simp only [Bool.false_eq_true, if_false]
  rw [after_run_lift_bind, result_run_lift_bind, after_onGame, after_run_attempt_bind,
    result_run_attempt_bind, after_run_lift_bind, result_run_lift_bind, after_onGame]
  constructor
  · intro value hvalue
    rw [hvalue]
    dsimp only
    rw [after_run_lift_bind, result_run_lift_bind, after_onGame, after_run_lift, result_run_lift,
      unmarking]
    exact ⟨congrArg Except.ok (Subsingleton.elim _ ()), rfl⟩
  · intro err herr
    rw [herr]
    dsimp only
    rw [result_run_lift_bind, result_run_lift_bind, result_run_lift_bind, result_run_throw]

/-- A game module whose imports have been answered is initialized. -/
theorem initialized_of_gathers {prepared : World}
    (hgathers : base.Gathers root making place description description.imports prepared)
    (hobjects : ((prepared.unmarking place).withGame place fun game =>
      { game with initialized := true }).objects.Sound) :
    base.Supplies root making (after (fireInit place) ((prepared.unmarking place).withGame place
        fun game => { game with initialized := true })) ∧
      base.Clear description ∧ ∃ found,
        (after (fireInit place) ((prepared.unmarking place).withGame place fun game =>
          { game with initialized := true })).game? place = some found ∧
            found.description = description := by
  have hclear : base.Clear description := .intro _ fun imported himports => by
    obtain ⟨request, hmem, hopens⟩ := himports
    exact hgathers.clear request hmem imported hopens
  obtain ⟨game, hgame, hdescription, hanswers⟩ := hgathers.own
  have hkeeps := fireInit_keeps place hobjects
  have hgames : ∀ other, (after (fireInit place) ((prepared.unmarking place).withGame place
      fun game => { game with initialized := true })).game? other =
        if place = other then some { game with initializing := false, initialized := true }
        else prepared.game? other := by
    intro other
    rw [hkeeps.game?_eq, game?_withGame]
    unfold unmarking
    rw [game?_withGame]
    split
    · rename_i hsame
      rw [← hsame, hgame]
      rfl
    · rfl
  have hcontinues : prepared.Continues (after (fireInit place) ((prepared.unmarking place).withGame
      place fun game => { game with initialized := true })) :=
    ⟨hkeeps.continues.files, hkeeps.continues.rules, hkeeps.continues.serial⟩
  have hloader : (after (fireInit place) ((prepared.unmarking place).withGame place
      fun game => { game with initialized := true })).loader = prepared.loader := hkeeps.loader
  generalize after (fireInit place) _ = initialized at *
  refine ⟨hgathers.supplies.finishes hcontinues hgame hgames rfl rfl rfl rfl
    (hdescription ▸ hclear) (hdescription ▸ hanswers) fun hbefore hafter => ?_,
    hclear, { game with initializing := false, initialized := true }, ?_, hdescription⟩
  · rw [hloader, hbefore, Option.some.injEq] at hafter
    rw [hafter]
  · rw [hgames, if_pos rfl]

/-- A game module is initialized once its imports are answered, unless there is a circle. -/
theorem makeReady_explored (hraises : Raises load) (hexplores : Explores base root depth load)
    (hvalid : base.Valid root)
    (hbrings : world.Brings held outset making unheard lent since) (hmarks : world.Marks making)
    (hunheard : unheard ⊆ place :: making) (hnew : outset.New world place game)
    (hlent : place ∈ lent) (hout : place ∉ making) (hidle : game.initialized = false)
    (hunmarked : game.initializing = false)
    (hgathers : base.Gathers root making place game.description []
      (world.withGame place fun game => { game with initializing := true }))
    (hdepth : base.files.fileCount < depth + (place :: making).length) :
    (∀ value, result (makeReady load place).run world = .ok value →
        base.Supplies root making (after (makeReady load place).run world) ∧
          base.Clear game.description ∧ ∃ found,
            (after (makeReady load place).run world).game? place = some found ∧
              found.description = game.description) ∧
      ∀ err, result (makeReady load place).run world = .error err → base.Circular root err := by
  obtain ⟨hnone, hbare⟩ := (hbrings.grows.voiced.voices place).idle hnew hout hidle
  obtain ⟨hbegun, hmarked, hmarks'⟩ := hbrings.marking hmarks hnew hlent hout hidle
  obtain ⟨hworks, hfails⟩ := makeReady_idle load hnew.1 hidle hunmarked rfl rfl
  obtain ⟨hprepares, hcircles⟩ := prepareScript_explored hraises hexplores hvalid hbegun hunheard
    hmarks' hmarked hidle rfl hnone hbare hgathers hdepth (rfl : game.description = _)
  obtain ⟨more, ⟨⟨count, hrears, -⟩, -⟩, -⟩ :=
    prepareScript_reared hraises hbegun hunheard hmarks' hmarked hidle rfl hnone hbare game
  generalize world.withGame place (fun game => { game with initializing := true }) = marked at *
  cases hresult : result (prepareScript load place game).run marked with
  | error err =>
      rw [hfails err hresult]
      exact ⟨nofun, fun cause hcause => hcircles cause (hresult.trans
        (congrArg Except.error (Except.error.inj hcause)))⟩
  | ok value =>
      obtain ⟨hok, hafter⟩ := hworks value hresult
      rw [hok, hafter]
      refine ⟨fun _ _ => initialized_of_gathers (hprepares value hresult) ?_, nofun⟩
      exact hrears.sound.objects.modify place _ |>.modify place _

/-- A game module is made for a description that a request has opened. -/
theorem makeGame_gathers (hsupplies : base.Supplies root making world)
    (hrequests : base.Requests root request) (hawaits : base.Awaits making request world)
    (hworld : world.Orderly [] [] []) (hloader : world.loader = some loader)
    (hopens : world.Opens request description) {requestedBy : String} {made : World}
    (hmade : made = after (makeGame loader description requestedBy) world) :
    base.Gathers root making world.objects.next description []
      (made.withGame world.objects.next fun game => { game with initializing := true }) := by
  obtain ⟨-, -, hcontinues⟩ := makeGame_orderly hworld hloader hopens.unmade requestedBy
  rw [← hmade] at hcontinues
  let game := { newGame loader description requestedBy with initializing := true }
  have hgames : ∀ other, (made.withGame world.objects.next fun game =>
      { game with initializing := true }).game? other =
        if world.objects.next = other then some game else world.game? other := by
    have hearlier : ∀ other, made.game? other = if world.objects.next = other then
        some (newGame loader description requestedBy) else world.game? other := by
      rw [hmade]
      exact game?_withNewGame world (newGame loader description requestedBy)
    intro other
    rw [game?_withGame, hearlier]
    split
    · rfl
    · rfl
  have hbefore : world.game? world.objects.next = none := by
    rw [Option.eq_none_iff_forall_ne_some]
    intro found hfound
    exact Nat.lt_irrefl _ (hworld.lt_next hfound)
  have hknown : ∀ {earlier now}, world.loader = some earlier → made.loader = some now →
      ∀ other, now.known.get? other = earlier.known.get? other ∨ other = description.name := by
    intro earlier now hearlier hnow other
    rw [hloader, Option.some.injEq] at hearlier
    have hchanged : made.loader = world.loader.map fun found => { found with
        known := if loader.known.has description.name then loader.known
          else loader.known.setSorted description.name (world.files.normalize description.path)
        arena := (loader.arena.allocate description.name).2.occupy
          (loader.arena.allocate description.name).1 ⟨description.name, world.objects.next⟩ } := by
      rw [hmade]
      rfl
    rw [hchanged, hloader, Option.map_some, Option.some.injEq] at hnow
    rw [← hnow, ← hearlier]
    dsimp only
    split
    · exact .inl rfl
    · rw [Table.get?_setSorted]
      split
      · rename_i hsame
        exact .inr hsame.symm
      · exact .inl rfl
  have hentered : base.Supplies root (world.objects.next :: making)
      (made.withGame world.objects.next fun game => { game with initializing := true }) :=
    hsupplies.enters hrequests hopens (hcontinues.trans (continues_withGame _ _)) hbefore hgames
      rfl rfl (by rw [hloader]; rfl) hknown
  refine ⟨hentered, ⟨game, by rw [hgames, if_pos rfl], rfl, .nil⟩, by simp,
    fun imported himported other hmem => ?_⟩
  rcases List.mem_cons.mp hmem with rfl | hrest
  · exact ⟨game, by rw [hgames, if_pos rfl], .of_mem himported⟩
  · obtain ⟨found, hfound, hleads⟩ := hawaits other hrest
    refine ⟨found, ?_, hleads.trans (hsupplies.opens hopens) himported⟩
    rw [hgames, if_neg, hfound]
    rintro rfl
    rw [hbefore] at hfound
    cases hfound

/-- A request that opens a description is answered by the game module that is made for it. -/
theorem loadDescription_explored (hraises : Raises load)
    (hexplores : Explores base root depth load) (hvalid : base.Valid root)
    (hbrings : world.Brings held outset making unheard lent since) (hunheard : unheard ⊆ making)
    (hsupplies : base.Supplies root making world) (hrequests : base.Requests root request)
    (hawaits : base.Awaits making request world) (hloader : world.loader = some loader)
    (hopens : world.Opens request description)
    (hdepth : base.files.fileCount < depth + 1 + making.length) (requestedBy : String) :
    base.Explored root making request
      (result (loadDescription load loader description requestedBy).run world,
        after (loadDescription load loader description requestedBy).run world) := by
  obtain ⟨hmade, hgames⟩ := makeGame_brings hbrings hloader hopens.unmade requestedBy
  have hgathers := @makeGame_gathers _ _ _ _ _ _ _ hsupplies hrequests hawaits hbrings.orderly
    hloader hopens requestedBy _ rfl
  have hnew : outset.New (after (makeGame loader description requestedBy) world)
      world.objects.next (newGame loader description requestedBy) :=
    ⟨by rw [hgames, if_pos rfl],
      hbrings.grows.tallies.first.get?_next hbrings.grows.tallies.next⟩
  obtain ⟨hout, -⟩ := List.nodup_cons.mp hgathers.supplies.distinct
  have hmarks : (after (makeGame loader description requestedBy) world).Marks making := by
    intro other hmem
    obtain ⟨found, hfound, hmarked⟩ := hsupplies.marks other hmem
    refine ⟨found, ?_, hmarked⟩
    rw [hgames, if_neg, hfound]
    rintro rfl
    exact hout hmem
  obtain ⟨hworks, hfails⟩ := makeReady_explored hraises hexplores hvalid hmade hmarks
    (List.cons_subset_cons _ hunheard) hnew List.mem_cons_self hout rfl rfl hgathers
    (by rw [List.length_cons]; omega)
  obtain ⟨hnone, -⟩ := hgathers.supplies.stacked _ List.mem_cons_self
  obtain ⟨hresult, -⟩ := makeGame_orderly hbrings.orderly hloader hopens.unmade requestedBy
  unfold loadDescription
  rw [after_run_lift_bind, result_run_lift_bind, hresult]
  dsimp only
  rw [after_run_attempt_bind, result_run_attempt_bind]
  generalize after (makeReady load world.objects.next).run
    (after (makeGame loader description requestedBy) world) = ready at *
  cases hended : result (makeReady load world.objects.next).run
      (after (makeGame loader description requestedBy) world) with
  | ok value =>
      obtain ⟨hready, hclear, found, hfound, hdescription⟩ := hworks value hended
      have hfirst := hsupplies.opens hopens
      refine ⟨fun target htarget => ?_, nofun⟩
      cases htarget
      obtain ⟨hinstance, -⟩ := hready.made hfound hnone
      refine ⟨hready, ⟨found, hinstance, ?_⟩, fun opened hopened => ?_⟩
      · rw [hdescription]
        exact .opened hfirst (hrequests.visits hfirst) rfl
      · rw [hfirst.leads.unique hopened.leads]
        exact hclear
  | error err =>
      dsimp only
      rw [result_run_lift_bind, result_run_lift_bind, result_run_throw]
      refine ⟨nofun, fun cause hcause => hfails cause ?_⟩
      exact hended.trans (congrArg Except.error (Except.error.inj hcause))

/-- A request that finds a game module by its name has its answer, unless there is a circle. -/
theorem liveInstance_explored (hvalid : base.Valid root) (hworld : world.Orderly [] [] [])
    (hdrained : world.IsDrained) (hsupplies : base.Supplies root making world)
    (hrequests : base.Requests root request) (hawaits : base.Awaits making request world)
    {name requestedBy : String} (hdenotes : world.Denotes name request)
    {next : Option Nat → LoadAct Nat} (hsome : ∀ address, next (some address) = pure address)
    (hnext : (∀ address game, ¬ world.IsInstance name address game) →
      base.Explored root making request (result (next none).run world,
        after (next none).run world)) :
    base.Explored root making request
      (result (liveInstance name requestedBy >>= next).run world,
        after (liveInstance name requestedBy >>= next).run world) := by
  rw [after_run_bind, result_run_bind]
  rcases liveInstance_cases hworld hdrained name requestedBy with
    ⟨hresult, hafter, hnone⟩ | ⟨address, game, hfound, hcase⟩
  · rw [hresult, hafter]
    exact hnext hnone
  · obtain rfl := hfound.named
    rcases hcase with ⟨hunmarked, hresult, hafter⟩ | ⟨hmarked, hresult, -⟩
    · obtain ⟨hanswers, hclear⟩ :=
        hsupplies.answered hvalid hworld hrequests hfound hdenotes hunmarked
      have hkeeps := (World.Keeps.refl hworld.objects).retain [⟨.gameModule, address⟩]
      have hpasses : Passes making world (world.retain [⟨.gameModule, address⟩]) :=
        ⟨hkeeps.continues, fun hbefore hnow => by
          rw [Option.some.inj (hbefore.symm.trans hnow)], fun other => .inl (hkeeps.game?_eq other)⟩
      rw [hresult, hafter]
      dsimp only
      rw [hsome, after_run_pure, result_run_pure]
      refine ⟨fun target htarget => ?_, nofun⟩
      cases htarget
      exact ⟨hsupplies.passes hpasses, hpasses.persists.answers hanswers, hclear⟩
    · rw [hresult]
      refine ⟨nofun, fun cause hcause => ?_⟩
      cases hcause
      exact ⟨⟨_, _, rfl⟩, hsupplies.closes hvalid hworld hrequests hawaits hfound hdenotes hmarked⟩

theorem loadWith_explored (hraises : Raises load) (hvalid : base.Valid root)
    (hexplores : Explores base root depth load) : Explores base root (depth + 1) (loadWith load) := by
  refine ⟨fun {held outset making unheard lent since world request} requestedBy hbrings hunheard
    hsupplies hrequests hawaits hdepth => ?_⟩
  have hready := hbrings.changingLoader Loader.drained hbrings.orderly.drained
  have hdrained := isDrained_drained world
  have hpasses : Passes making world (world.changingLoader Loader.drained) := by
    refine ⟨continues_changingLoader _ fun _ => rfl, fun hbefore hnow => ?_, fun _ => .inl rfl⟩
    unfold changingLoader at hnow
    rw [hbefore, Option.map_some, Option.some.injEq] at hnow
    rw [← hnow]
    rfl
  have hsupplied := hsupplies.passes hpasses
  have hawaited := hpasses.persists.awaits hawaits
  unfold loadWith
  rw [after_run_lift_bind, result_run_lift_bind, after_onLoader]
  generalize world.changingLoader Loader.drained = drained at *
  refine liveInstance_explored hvalid hready.orderly hdrained hsupplied hrequests hawaited .name
    (fun _ => rfl) fun hunnamed => ?_
  obtain ⟨description, hleads⟩ := hsupplied.exists_leadsTo hvalid hrequests hunnamed
  obtain ⟨loader, path, hloader, hpath, hload⟩ := id hleads
  rw [after_run_get_bind, result_run_get_bind, hloader]
  dsimp only
  rw [hpath]
  dsimp only
  rw [hload]
  refine liveInstance_explored hvalid hready.orderly hdrained hsupplied hrequests hawaited
    (.file hunnamed hloader hpath hload rfl) (fun _ => rfl) fun hunmade => ?_
  exact loadDescription_explored hraises hexplores hvalid hready hunheard hsupplied hrequests
    hawaited hloader ⟨hunnamed, hleads, hunmade⟩ hdepth requestedBy

/-- Loads explore the imports that they come to, however deep they may nest. -/
theorem loadNested_explored (hvalid : base.Valid root) (depth : Nat) :
    Explores base root depth (loadNested depth) := by
  induction depth with
  | zero =>
      refine ⟨fun _ hbrings _ hsupplies _ _ hdepth => ?_⟩
      have hlength := hsupplies.length_le hbrings.orderly
      omega
  | succ depth ih => exact loadWith_explored (loadNested_raises depth) hvalid ih

end Act

namespace World

variable {held : Holdings} {world : World} {name : String}

/-- What a load makes of a world in which everything but circles is in order: a circle is
reported if and only if the load comes to one. Otherwise a game module answers the request,
everything that lives is initialized, and what has come since has its imports. -/
structure Detects (before : World) (request : String) (outcome : Except LoadError Nat × World) :
    Prop where
  circular : (∃ name requestedBy, outcome.1 = .error (.circularDependency name requestedBy)) ↔
    before.HasCircle request
  loaded : ¬ before.HasCircle request → ∃ target, outcome.1 = .ok target ∧
    before.Answers request outcome.2 request target
  initialized : ∀ target, outcome.1 = .ok target → ∀ place game,
    outcome.2.game? place = some game → game.initialized = true ∧ game.initializing = false
  imports : ∀ target, outcome.1 = .ok target → ∀ place game, outcome.2.game? place = some game →
    before.game? place = none →
      List.Forall₂ (before.Answers request outcome.2) game.description.imports game.dependencies

/-- Whatever has been explored is settled once nothing is being initialized any more. -/
theorem Explored.detects {outcome : Except LoadError Nat × World} (hvalid : world.Valid name)
    (hexplored : world.Explored name [] name outcome) : world.Detects name outcome := by
  obtain ⟨hworks, hfails⟩ := hexplored
  have hdone : ∀ {target}, outcome.1 = .ok target → ∀ {place game},
      outcome.2.game? place = some game → world.game? place = none →
        game.initialized = true ∧ game.initializing = false ∧
          List.Forall₂ (world.Answers name outcome.2) game.description.imports
            game.dependencies := by
    intro target hok place game hgame hnone
    obtain ⟨hsupplies, -⟩ := hworks target hok
    obtain ⟨-, -, -, hmade⟩ := hsupplies.made hgame hnone
    obtain ⟨hidle, hinit, -, hanswers⟩ := hmade List.not_mem_nil
    exact ⟨hinit, hidle, hanswers⟩
  refine ⟨⟨?_, fun hcircle => ?_⟩, fun hnone => ?_, fun target hok place game hgame => ?_,
    fun target hok place game hgame hnone => (hdone hok hgame hnone).2.2⟩
  · rintro ⟨circling, requestedBy, hresult⟩
    exact (hfails _ hresult).2
  · cases hresult : outcome.1 with
    | ok target =>
        obtain ⟨-, -, hclear⟩ := hworks target hresult
        exact absurd hcircle (not_hasCircle hclear)
    | error err =>
        obtain ⟨⟨circling, requestedBy, herr⟩, -⟩ := hfails err hresult
        exact ⟨circling, requestedBy, congrArg Except.error herr⟩
  · cases hresult : outcome.1 with
    | ok target => exact ⟨target, rfl, (hworks target hresult).2.1⟩
    | error err => exact absurd (hfails err hresult).2 hnone
  · cases hbefore : world.game? place with
    | none =>
        obtain ⟨hinit, hidle, -⟩ := hdone hok hgame hbefore
        exact ⟨hinit, hidle⟩
    | some earlier =>
        have hsame := (hworks target hok).1.old hbefore
        rw [hgame, Option.some.injEq] at hsame
        exact hsame ▸ hvalid.live place earlier hbefore

end World

namespace Act

open World LoadAct

variable {held : Holdings} {world : World} {name : String}

theorem load_run (name requestedBy : String) (world : World) :
    (Act.load name requestedBy).run world =
      (loadNested (nestingBound world) name requestedBy).run.run world := by
  unfold Act.load
  rw [run_eq, result_get_bind, after_get_bind, run_eq]

/-- A load that may nest deeper comes to the same. -/
theorem load_terminates (hworld : world.Orderly [] [] []) (name requestedBy : String)
    (extra : Nat) : (loadNested (nestingBound world + extra) name requestedBy).run.run world =
      (Act.load name requestedBy).run world := by
  have hstacked : world.Stacked [] := ⟨by simp, by simp, by simp, by simp⟩
  have hdepth : world.files.fileCount < nestingBound world + ([] : List (Nat × GameModule)).length :=
    Nat.lt_succ_self _
  obtain ⟨hresult, hafter⟩ := loadNested_agree extra hworld hstacked hdepth name requestedBy
  rw [load_run, run_eq, run_eq, hresult, hafter]

/-- A loader is there wherever something answers a request. -/
theorem exists_loader_of_valid (hvalid : world.Valid name) :
    ∃ loader, world.loader = some loader := by
  obtain ⟨answer, hstands⟩ := hvalid.stands name .root
  cases hstands with
  | living hfound =>
      obtain ⟨loader, hloader, -⟩ := hfound.exists_loader
      exact ⟨loader, hloader⟩
  | declared _ hleads _ =>
      obtain ⟨loader, _, hloader, -⟩ := hleads
      exact ⟨loader, hloader⟩
  | opened hopens _ _ =>
      obtain ⟨loader, _, hloader, -⟩ := hopens.leads
      exact ⟨loader, hloader⟩

/-- A load detects circles. -/
theorem load_detects (hworld : world.Sound held) (horderly : world.Orderly [] [] [])
    (hnumbered : world.scripts.Numbered) (hvalid : world.Valid name) (requestedBy : String) :
    world.Detects name ((Act.load name requestedBy).run world) := by
  obtain ⟨loader, hloader⟩ := exists_loader_of_valid hvalid
  have hbrings : world.Brings held world.outset [] [] [] [] :=
    .refl hworld (by simp [loaderHold, hloader]) horderly hnumbered
  rw [load_run, run_eq]
  exact Explored.detects hvalid ((loadNested_explored hvalid (nestingBound world)).run requestedBy
    hbrings (List.Subset.refl _) (.refl world name) .root (by simp [Awaits])
    (Nat.lt_succ_self _))

end Act

namespace Session

open World

variable {steps : List Step}

/-- Loads end: none of them nests as deep as it may, so that a deeper bound changes nothing. And
where everything else is in order, circles of imports are detected exactly, whatever steps have been
taken before, as long as no number is in use that the counter has still to come to. -/
theorem circular_imports_detected (files : FileTree) (plan : ExecutorPlan)
    (hplain : ∀ step ∈ steps, step.IsPlain)
    (hnumbered : ((begin files plan).run steps).world.scripts.Numbered)
    (name requestedBy : String) :
    let world := ((begin files plan).run steps).world
    (∀ extra, (Act.loadNested (Act.nestingBound world + extra) name requestedBy).run.run world =
      (Act.load name requestedBy).run world) ∧
    (world.Valid name → world.Detects name ((Act.load name requestedBy).run world)) := by
  have hsound : ((begin files plan).run steps).Sound := begin_run_sound files plan steps
  have horderly := (run_keeps_order (begin_sound files plan) (begin_keeps_order files plan)
    hplain).world
  exact ⟨Act.load_terminates horderly name requestedBy, fun hvalid => Act.load_detects hsound
    horderly hnumbered hvalid requestedBy⟩

/-- A description of a game module that imports itself. -/
def loopFiles : FileTree where
  root := .directory [("game.src", .file (.text "")),
    ("loop.json", describing "loop" "\"/loop.json\"" "game.src")]
  workingDirectory := []

/-- What that file describes. -/
def loop : Description :=
  ⟨⟨"/loop.json"⟩, "loop", "0", .nothing, ["/loop.json"], [], ["game.src"]⟩

/-- A session that has made a loader for it. -/
def looping : Session :=
  (begin loopFiles ⟨none, none, none, none, []⟩).run [.onGames (.loader none "json")]

/-- The one segment of the game module. -/
def loopSource : Segment := ⟨"/game.src", 1, "", true⟩

/-- The script module that is made of it. -/
def loopModule : ScriptModule :=
  (ScriptModule.create 0 "loop" "/loop.json").furnished [loopSource] (accessOf loop)

/-- The description and the source file are found and read, no game module is loaded, and the script
module can be compiled. -/
theorem looping_computed :
    looping.world.loader.bind (·.descriptionPath? looping.world.files "/loop.json") =
        some ⟨"/loop.json"⟩ ∧
      (Description.load looping.world.files ⟨"/loop.json"⟩).toOption = some loop ∧
      looping.world.objects.cells.isEmpty = true ∧
      looping.world.executor.search.findSource looping.world.files "game.src"
        loop.baseDirectory? = some ⟨"/game.src"⟩ ∧
      (Segment.ofFile looping.world.files ⟨"/game.src"⟩).toOption = some loopSource ∧
      loopModule.state = .readyToBuild ∧
      (loopModule.compile looping.world.executor looping.world.files).1.isOk = true := by
  decide +kernel

theorem looping_leadsTo {description : Description} :
    looping.world.LeadsTo "/loop.json" description ↔ description = loop := by
  obtain ⟨hpath, hload, -⟩ := looping_computed
  obtain ⟨loader, hloader, hpath⟩ := Option.bind_eq_some_iff.mp hpath
  have hloop : looping.world.LeadsTo "/loop.json" loop := by
    refine ⟨loader, _, hloader, hpath, ?_⟩
    cases hresult : Description.load looping.world.files ⟨"/loop.json"⟩ with
    | error err =>
        rw [hresult] at hload
        cases hload
    | ok found =>
        rw [hresult] at hload
        exact congrArg Except.ok (Option.some.inj hload)
  exact ⟨fun hleads => hloop.unique hleads, fun hsame => hsame ▸ hloop⟩

/-- Nothing has been loaded. -/
theorem looping_game? (place : Nat) : looping.world.game? place = none :=
  World.game?_of_empty looping_computed.2.2.1 place

theorem looping_opens : looping.world.Opens "/loop.json" loop where
  unnamed := fun place _ hinstance => nomatch (looping_game? place).symm.trans hinstance.found
  leads := looping_leadsTo.mpr rfl
  unmade := fun place _ hinstance => nomatch (looping_game? place).symm.trans hinstance.found

theorem looping_imports : looping.world.Imports loop loop :=
  ⟨"/loop.json", List.mem_singleton_self _, looping_opens⟩

theorem looping_visits {description : Description} :
    looping.world.Visits "/loop.json" description ↔ description = loop := by
  constructor
  · rintro ⟨first, hopens, hpath⟩
    obtain rfl := looping_leadsTo.mp hopens.leads
    induction hpath with
    | refl => rfl
    | tail _ himports ih =>
        subst ih
        obtain ⟨request, hmem, hopens⟩ := himports
        obtain rfl := List.mem_singleton.mp hmem
        exact looping_leadsTo.mp hopens.leads
  · rintro rfl
    exact ⟨loop, looping_opens, .refl⟩

theorem looping_requests {request : String} (hrequests : looping.world.Requests "/loop.json" request) :
    request = "/loop.json" := by
  cases hrequests with
  | root => rfl
  | imported hvisits hmem =>
      obtain rfl := looping_visits.mp hvisits
      exact List.mem_singleton.mp hmem

theorem looping_stands {description : Description}
    (hstands : looping.world.Stands "/loop.json" "/loop.json" description) :
    description = loop := by
  cases hstands with
  | living hinstance => cases (looping_game? _).symm.trans hinstance.found
  | declared _ _ hinstance => cases (looping_game? _).symm.trans hinstance.found
  | opened _ hvisits _ => exact looping_visits.mp hvisits

theorem looping_provides {segments : List Segment} :
    looping.world.Provides loop loop.sourceFiles segments ↔ segments = [loopSource] := by
  obtain ⟨-, -, -, hpath, hread, -⟩ := looping_computed
  have hsource : Segment.ofFile looping.world.files ⟨"/game.src"⟩ = .ok loopSource := by
    cases hresult : Segment.ofFile looping.world.files ⟨"/game.src"⟩ with
    | error err =>
        rw [hresult] at hread
        cases hread
    | ok segment =>
        rw [hresult] at hread
        exact congrArg Except.ok (Option.some.inj hread)
  constructor
  · intro hprovides
    obtain ⟨segment, rest, ⟨path, hfound, hsegment⟩, hrest, rfl⟩ :=
      List.forall₂_cons_left_iff.mp hprovides
    obtain rfl := Option.some.inj (hpath.symm.trans hfound)
    obtain rfl := Except.ok.inj (hsource.symm.trans hsegment)
    rw [List.forall₂_nil_left_iff.mp hrest]
  · rintro rfl
    exact .cons ⟨_, hpath, hsource⟩ .nil

/-- Everything but the circle is in order. -/
theorem looping_valid : looping.world.Valid "/loop.json" where
  stands := fun request hrequest => by
    obtain rfl := looping_requests hrequest
    exact ⟨loop, .opened looping_opens (looping_visits.mpr rfl) rfl⟩
  distinct := fun hrequest hother hleads hfound _ => by
    obtain rfl := looping_requests hrequest
    obtain rfl := looping_requests hother
    obtain rfl := looping_leadsTo.mp hleads
    obtain rfl := looping_leadsTo.mp hfound
    rfl
  sources := fun description hvisits => by
    obtain rfl := looping_visits.mp hvisits
    exact ⟨_, looping_provides.mpr rfl⟩
  exports := fun request description hrequest hstands => by
    obtain rfl := looping_requests hrequest
    obtain rfl := looping_stands hstands
    exact ⟨[], .nil⟩
  builds := fun description sources exported hvisits hsources hexported => by
    obtain rfl := looping_visits.mp hvisits
    obtain rfl := looping_provides.mp hsources
    obtain ⟨segments, rest, ⟨other, hstands, hprovides⟩, hrest, rfl⟩ :=
      List.forall₂_cons_left_iff.mp hexported
    obtain rfl := looping_stands hstands
    obtain rfl := List.forall₂_nil_left_iff.mp hprovides
    obtain rfl := List.forall₂_nil_left_iff.mp hrest
    obtain ⟨-, -, -, -, -, hready, hcompiles⟩ := looping_computed
    cases hresult : (loopModule.compile looping.world.executor looping.world.files).1 with
    | error err =>
        rw [hresult] at hcompiles
        cases hcompiles
    | ok built => exact ⟨hready, built, hresult⟩
  live := fun place _ hgame => nomatch (looping_game? place).symm.trans hgame

theorem circular_imports_detected_loop :
    looping.world.Valid "/loop.json" ∧ ∃ name requestedBy,
      Act.result (Act.load "/loop.json" "host") looping.world =
        .error (.circularDependency name requestedBy) := by
  obtain ⟨hmodules, hregistry, hwatcher⟩ : looping.world.modules.cells.isEmpty = true ∧
      looping.world.executor.registry.isEmpty = true ∧
      looping.world.executor.watcher.isNone = true := by decide +kernel
  have hdetected := circular_imports_detected loopFiles ⟨none, none, none, none, []⟩
    (by simp [Step.IsPlain]) (World.numbered_of_empty hmodules hregistry hwatcher) "/loop.json"
    "host"
  refine ⟨looping_valid, (hdetected.2 looping_valid).circular.mpr ?_⟩
  exact ⟨loop, looping_visits.mpr rfl, .single looping_imports⟩

end Session

end ScriptHost
