import ScriptHost.Proofs.Restoring
import ScriptHost.Proofs.Upkeep

/-!
A failed load leaves no trace. Nothing that has come with it lives, so nothing is recorded for
it, and what was there before has been left alone: the script modules with all that is recorded
of them, and the game modules with their handles.
-/

namespace ScriptHost

namespace Scripts

variable {may : Touch → Prop} {before after : Scripts}

/-- Whatever there is has a number that the counter has passed. -/
structure Identified (scripts : Scripts) : Prop where
  modules : ∀ {address module}, scripts.module? address = some module →
    module.id < scripts.counter
  registered : scripts.Counted

theorem Changes.identified (hchanges : Changes may before after) (hbefore : before.Consistent)
    (hchosen : before.ChoosesBelow may) (hidentified : before.Identified) :
    after.Identified := by
  induction hchanges with
  | refl => exact hidentified
  | tail hearlier hchange ih =>
      have hcounted := hchange.counted ih.registered fun name id hmay =>
        Nat.lt_of_lt_of_le (hchosen name id hmay) (Changes.counter_le hearlier)
      refine ⟨fun hmodule => ?_, hcounted⟩
      rcases hchange.there_or_registered (Changes.consistent hearlier hbefore) hmodule with
        ⟨earlier, hthere, hid⟩ | hnew
      · exact hid ▸ Nat.lt_of_lt_of_le (ih.modules hthere) hchange.counter_le
      · exact hcounted _ _ hnew

/-- What is recorded of script modules is the same, and so are those that were there. -/
structure Agrees (before after : Scripts) : Prop where
  modules : ∀ {address module}, before.module? address = some module →
    after.module? address = some module
  registry : ∀ id, after.registry.get? id = before.registry.get? id
  compiled : ∀ name, after.compiled.get? name = before.compiled.get? name
  grants : ∀ name, after.grants.get? name = before.grants.get? name
  watches : ∀ registration, after.Watches registration ↔ before.Watches registration

/-- Where no new game module has a script module, nothing has been recorded. -/
theorem Assigned.agrees {outset : Outset} {has : Nat → Nat → Prop} {scripts : Scripts}
    (hassigned : scripts.Assigned outset has)
    (hmay : outset.may = Touch.working fun address id =>
      outset.scripts.next ≤ address ∧ outset.scripts.counter ≤ id)
    (hfirst : outset.scripts.Consistent) (hnumbered : outset.scripts.Numbered)
    (hrunning : scripts.running = true) (hnone : ∀ place script, ¬ has place script) :
    outset.scripts.Agrees scripts := by
  have hworked := hassigned.worked
  rw [hmay] at hworked
  have hlast := Changes.consistent hworked hfirst
  -- script modules that were there have smaller addresses and smaller numbers
  have hspares : ∀ {address module}, outset.scripts.module? address = some module →
      outset.scripts.LeavesAlone scripts address module := fun hmodule =>
    hworked.spared hfirst hrunning hmodule fun other id htouched => by
      refine ⟨?_, fun hregistered => ?_⟩
      · rintro rfl
        exact Nat.lt_irrefl _ (Nat.lt_of_lt_of_le (hfirst.below hmodule) htouched.1)
      · exact Nat.lt_irrefl _
          (Nat.lt_of_lt_of_le (hnumbered.registered _ _ hregistered) htouched.2)
  have hold : ∀ {id}, id < outset.scripts.counter →
      scripts.registry.get? id = outset.scripts.registry.get? id ∧
        ∀ registration, registration.id = id →
          (scripts.Watches registration ↔ outset.scripts.Watches registration) :=
    fun hbelow => hworked.number_spared hrunning fun _ htouched =>
      Nat.lt_irrefl _ (Nat.lt_of_lt_of_le hbelow htouched.2)
  have hcompiled : ∀ name, scripts.compiled.get? name = outset.scripts.compiled.get? name := by
    intro name
    refine Option.ext fun compiled => ⟨fun hentered => ?_, fun hentered => ?_⟩
    · obtain ⟨rfl, address, module, hmodule, howns⟩ := hlast.owned hentered
      by_cases hnew : outset.scripts.next ≤ address
      · have hliving : module.state ≠ .discarded := fun hdiscarded => by
          rw [(hlast.wellFormed hmodule).compiled_none (by simp [hdiscarded])] at howns
          cases howns
        obtain ⟨place, hhas⟩ := hassigned.given hnew hmodule hliving
        exact absurd hhas (hnone _ _)
      · have hthere : outset.scripts.module? address = some module := by
          rw [← hmodule]
          exact (hworked.module?_spared fun id htouched => hnew htouched.1).symm
        exact ((hspares hthere).entered compiled howns).1 ▸ hentered
    · obtain ⟨rfl, address, module, hmodule, howns⟩ := hfirst.owned hentered
      rw [((hspares hmodule).entered compiled howns).1]
      exact hentered
  refine ⟨fun hmodule => (hspares hmodule).still, fun id => ?_, hcompiled, fun name => ?_,
    fun registration => ?_⟩
  · by_cases hbelow : id < outset.scripts.counter
    · exact (hold hbelow).1
    · have hafter : scripts.registry.get? id = none := by
        refine Option.eq_none_iff_forall_ne_some.mpr fun address hregistered => ?_
        obtain ⟨place, hhas⟩ := hassigned.registered (Nat.not_lt.mp hbelow) hregistered
        exact hnone _ _ hhas
      have hbefore : outset.scripts.registry.get? id = none :=
        Option.eq_none_iff_forall_ne_some.mpr fun address hregistered =>
          hbelow (hnumbered.registered _ _ hregistered)
      rw [hafter, hbefore]
  · rw [hlast.granted, hfirst.granted, hcompiled]
  · by_cases hbelow : registration.id < outset.scripts.counter
    · exact (hold hbelow).2 registration rfl
    · refine ⟨fun hwatches => ?_, fun hwatches => absurd (hnumbered.watched hwatches) hbelow⟩
      obtain ⟨place, script, -, hhas, -⟩ := hassigned.watched (Nat.not_lt.mp hbelow) hwatches
      exact absurd hhas (hnone _ _)

end Scripts

/-- Whether a load has failed. -/
def Answer.failed : Answer → Bool
  | .notLoaded _ => true
  | _ => false

theorem Answer.failed_iff {answer : Answer} :
    answer.failed = true ↔ ∃ cause, answer = .notLoaded cause := by
  cases answer <;> simp [failed]

namespace World

open Delivery

variable {held : Holdings} {before after world : World} {outset : Outset}
  {since : List Delivery}

/-- What a failed load leaves behind: the game modules that lived, in the same state and with
the same handles, the answers for every name, and what is recorded of script modules. -/
structure Restored (before after : World) : Prop where
  games : ∀ place, after.game? place = before.game? place
  handles : ∀ {place game}, before.game? place = some game →
    after.objects.strongCount place = before.objects.strongCount place
  answers : ∀ {loader loader'}, before.loader = some loader → after.loader = some loader' →
    ∀ name, GameStep.loadedAnswer loader' after name = GameStep.loadedAnswer loader before name
  scripts : before.scripts.Agrees after.scripts

/-- Where no handles are lent and nothing that has come since lives, the handles are those of
before. -/
theorem Grows.strongCount_eq {making unheard : List Nat}
    (hgrows : world.Grows outset making unheard [] since)
    (hnone : ∀ place game, ¬ outset.New world place game) {address : Nat} {body : ObjectBody}
    (hbody : outset.objects.get? address = some body) :
    world.objects.strongCount address = outset.objects.strongCount address := by
  have hclaimed : outset.objects.claimed world.objects address = 0 := by
    by_contra hsome
    obtain ⟨place, owner, howner, hnew, hmem⟩ := Heap.exists_owner (Nat.pos_of_ne_zero hsome)
    have hbare : ¬ owner.IsBare := fun hbare => by
      rw [hbare.owned] at hmem
      cases hmem
    obtain ⟨-, game, rfl⟩ := hgrows.tallies.born howner hnew hbare
    exact hnone place game ⟨(game?_eq_some_iff _ _ _).mpr howner, hnew⟩
  have hhandles := hgrows.tallies.handles (hgrows.tallies.old hbody)
    (.inl (by rw [hbody]; exact Option.some_ne_none _))
  simpa [hclaimed] using hhandles

/-- The answer for a name is about the living game module of the name, if there is one. -/
theorem Orderly.loadedAnswer_eq (hworld : world.Orderly [] [] []) {loader : Loader}
    (hloader : world.loader = some loader) (name : String) (answer : Answer) :
    GameStep.loadedAnswer loader world name = answer ↔
      (∃ address game, world.IsInstance name address game ∧ answer = .text game.text) ∨
        (∀ address game, ¬ world.IsInstance name address game) ∧ answer = .nothing := by
  have hfound : ∀ game, (loader.arena.address? name).bind world.game? = some game ↔
      ∃ address, world.IsInstance name address game := by
    intro game
    constructor
    · intro hsome
      obtain ⟨address, haddress, hgame⟩ := Option.bind_eq_some_iff.mp hsome
      obtain ⟨key, -, hholds⟩ :=
        ((hworld.houses hloader).toSound.address?_eq_some_iff).mp haddress
      obtain ⟨hname, hmade⟩ := hworld.filled hloader hholds hgame
      exact ⟨address, hgame, hname, by rw [hloader, hmade]; rfl⟩
    · rintro ⟨address, hinstance⟩
      rw [(hworld.houses hloader).address?_of_seat (hinstance.seat hloader)]
      exact hinstance.found
  unfold GameStep.loadedAnswer
  cases hsome : (loader.arena.address? name).bind world.game? with
  | some game =>
      obtain ⟨address, hinstance⟩ := (hfound game).mp hsome
      constructor
      · exact fun hanswer => .inl ⟨address, game, hinstance, hanswer.symm⟩
      · rintro (⟨other, found, hother, rfl⟩ | ⟨hnone, -⟩)
        · have hsame := hworld.instance_unique hinstance hother
          subst hsame
          rw [Option.some.inj (hother.found.symm.trans hinstance.found)]
        · exact absurd hinstance (hnone _ _)
  | none =>
      have hnone : ∀ address game, ¬ world.IsInstance name address game :=
        fun address game hinstance => by
          rw [(hfound game).mpr ⟨address, hinstance⟩] at hsome
          cases hsome
      constructor
      · exact fun hanswer => .inr ⟨hnone, hanswer.symm⟩
      · rintro (⟨address, game, hinstance, -⟩ | ⟨-, rfl⟩)
        · exact absurd hinstance (hnone _ _)
        · rfl

/-- Where the same game modules live and the loader is the same one, the answers are. -/
theorem Orderly.loadedAnswer_congr (hbefore : before.Orderly [] [] [])
    (hafter : after.Orderly [] [] [])
    (hserial : after.loader.map Loader.serial = before.loader.map Loader.serial)
    (hgames : ∀ place, after.game? place = before.game? place) {loader loader' : Loader}
    (hloader : before.loader = some loader) (hloader' : after.loader = some loader')
    (name : String) :
    GameStep.loadedAnswer loader' after name = GameStep.loadedAnswer loader before name := by
  have hinstance : ∀ address game,
      after.IsInstance name address game ↔ before.IsInstance name address game :=
    fun address game => ⟨fun ⟨hfound, hnamed, hmade⟩ =>
        ⟨hgames address ▸ hfound, hnamed, hserial ▸ hmade⟩,
      fun ⟨hfound, hnamed, hmade⟩ => ⟨hgames address ▸ hfound, hnamed, hserial ▸ hmade⟩⟩
  refine (hafter.loadedAnswer_eq hloader' name _).mpr ?_
  simp only [hinstance]
  exact (hbefore.loadedAnswer_eq hloader name _).mp rfl

/-- The game modules that live are those that were there, if nothing that has come since
lives. -/
theorem Grows.game?_eq {making unheard lent : List Nat} {base : World}
    (hgrows : world.Grows base.outset making unheard lent since)
    (hnone : ∀ place game, ¬ base.outset.New world place game) (place : Nat) :
    world.game? place = base.game? place := by
  refine Option.ext fun game => ⟨fun hgame => ?_, fun hgame => ?_⟩
  · cases hbody : base.objects.get? place with
    | none => exact absurd ⟨hgame, hbody⟩ (hnone place game)
    | some body =>
        have hstill := hgrows.tallies.old hbody
        rw [(game?_eq_some_iff _ _ _).mp hgame] at hstill
        cases hstill
        exact (game?_eq_some_iff _ _ _).mpr hbody
  · exact hgrows.old ((game?_eq_some_iff _ _ _).mp hgame)

end World

/-- A load that fails leaves no trace. -/
theorem LoadAct.Raises.restores {load : String → String → LoadAct Nat} (hload : Raises load)
    (harranges : Arranges load) {held : Holdings} {world : World} (hworld : world.Sound held)
    {loader : Loader} (hloader : world.loader = some loader) (horderly : world.Orderly [] [] [])
    (hnumbered : world.scripts.Numbered) {name requestedBy : String} {cause : LoadError}
    (hfailed : Act.result (load name requestedBy).run world = .error cause) :
    world.Restored (Act.after (load name requestedBy).run world) := by
  have hholds : 0 < held.executor + world.loaderHold := by
    simp [World.loaderHold, hloader]
  obtain ⟨hordered, hcontinues, -⟩ := harranges.run name requestedBy horderly (by simp)
  obtain ⟨more, hbrings, -⟩ := hload.run name requestedBy
    (World.Brings.refl hworld hholds horderly hnumbered) (by simp [World.Marks])
    (List.nil_subset _)
  rw [hfailed] at hbrings
  dsimp only [World.loaded, List.nil_append] at hbrings
  generalize Act.after (load name requestedBy).run world = after
    at hordered hcontinues hbrings ⊢
  have hserial := hcontinues.serial
  rw [hloader] at hserial
  obtain ⟨loader', hloader', -⟩ := Option.map_eq_some_iff.mp hserial
  have hnone := hbrings.grows.no_survivors trivial
  have hgames := hbrings.grows.game?_eq hnone
  exact
    { games := hgames
      handles := fun hgame => hbrings.grows.strongCount_eq hnone
        ((World.game?_eq_some_iff _ _ _).mp hgame)
      answers := fun hbefore hafter => horderly.loadedAnswer_congr hordered
        hcontinues.serial hgames hbefore hafter
      scripts := hbrings.grows.assigned.agrees rfl hworld.scripts hnumbered
        (hbrings.sound.running_of_loader hloader') fun place script hhas => by
          obtain ⟨game, hnew, -⟩ := hhas
          exact hnone place game hnew }

/-- Whatever is recorded has a number that the counter has passed. -/
theorem Act.load_restores {held : Holdings} {world : World} (hworld : world.Sound held)
    {loader : Loader} (hloader : world.loader = some loader) (horderly : world.Orderly [] [] [])
    (hnumbered : world.scripts.Numbered) {name requestedBy : String} {cause : LoadError}
    (hfailed : result (Act.load name requestedBy) world = .error cause) :
    world.Restored (after (Act.load name requestedBy) world) := by
  unfold Act.load at *
  rw [result_get_bind] at hfailed
  rw [after_get_bind]
  exact (loadNested_raises _).restores (loadNested_arranges _) hworld hloader horderly hnumbered
    hfailed

namespace Session

open SessionAct

variable {session : Session} {steps : List Step}

/-- Where no step chooses a number, whatever there is has one that the counter has passed. -/
theorem run_identified (hsession : session.Sound) (hidentified : session.world.scripts.Identified)
    (hchosen : ∀ step ∈ steps, step.chosen = none) :
    (session.run steps).world.scripts.Identified := by
  induction steps generalizing session with
  | nil => exact hidentified
  | cons step rest ih =>
      have hadvances := step_advances hsession step
      refine ih hadvances.sound (hadvances.world.changes.identified hsession.scripts
        (fun name id hmay => ?_) hidentified) fun other hother =>
          hchosen other (List.mem_cons_of_mem step hother)
      have hsome : step.chosen = some (name, id) := hmay
      rw [hchosen step List.mem_cons_self] at hsome
      cases hsome

theorem begin_identified (files : FileTree) (plan : ExecutorPlan) :
    (begin files plan).world.scripts.Identified where
  modules := nofun
  registered := begin_counted files plan

/-- What a load that fails makes of a session. -/
theorem step_failed_load {name requestedBy : String} {target : Option String}
    {cause : LoadError}
    (hfailed : (session.step (.onGames (.load name requestedBy target))).1.answer =
      .notLoaded cause) :
    ∃ loader, session.world.loader = some loader ∧
      Act.result (Act.load name requestedBy) session.world = .error cause ∧
      (session.step (.onGames (.load name requestedBy target))).2 =
        { session with world := Act.after (Act.load name requestedBy) session.world }.cleared := by
  have hperform : perform (.onGames (.load name requestedBy target)) =
      GameStep.loadAnswer name requestedBy target := rfl
  have hstep : (session.step (.onGames (.load name requestedBy target))).2 =
      (after (perform (.onGames (.load name requestedBy target))) session).cleared := rfl
  rw [step_answer, hperform] at hfailed
  rw [hstep, hperform]
  unfold GameStep.loadAnswer at *
  rw [outcome_needLoader_bind] at hfailed
  rw [after_needLoader_bind]
  cases hloader : session.world.loader with
  | none =>
      rw [hloader] at hfailed
      cases hfailed
  | some loader =>
      rw [hloader] at hfailed
      dsimp only at hfailed ⊢
      rw [outcome_bind, outcome_act, after_act] at hfailed
      rw [after_bind, outcome_act, after_act]
      cases hresult : Act.result (Act.load name requestedBy) session.world with
      | error err =>
          rw [hresult] at hfailed
          cases hfailed
          exact ⟨loader, rfl, rfl, rfl⟩
      | ok address =>
          rw [hresult] at hfailed
          unfold SessionAct.world at hfailed
          simp only [bind_assoc, pure_bind] at hfailed
          rw [outcome_get_bind, outcome_bind] at hfailed
          cases hbound : outcome (bindGame target address)
              { session with world := Act.after (Act.load name requestedBy) session.world } with
          | error absent =>
              rw [hbound] at hfailed
              cases hfailed
          | ok value =>
              rw [hbound] at hfailed
              dsimp only at hfailed
              rw [outcome_pure] at hfailed
              dsimp only at hfailed
              split at hfailed
              · cases hfailed
              · cases hfailed

/-- A failed load leaves no trace, whatever has happened before: the host has chosen no numbers
for modules, it has registered no files under numbers that have not been given yet, and values
that it has given as ones without objects have had none. Listeners keep no handles here. -/
theorem failed_load_leaves_no_trace (files : FileTree) (plan : ExecutorPlan)
    (hplain : ∀ step ∈ steps, step.IsPlain) (hchosen : ∀ step ∈ steps, step.chosen = none)
    (hwatched : ∀ registration, ((begin files plan).run steps).world.scripts.Watches registration →
      registration.id < ((begin files plan).run steps).world.executor.nextId)
    {name requestedBy : String} {target : Option String}
    (hfailed : (((begin files plan).run steps).step
      (.onGames (.load name requestedBy target))).1.answer.failed = true) :
    ((begin files plan).run steps).world.Restored (((begin files plan).run steps).step
      (.onGames (.load name requestedBy target))).2.world := by
  have hsound : ((begin files plan).run steps).Sound := begin_run_sound files plan steps
  have horderly := (run_keeps_order (begin_sound files plan) (begin_keeps_order files plan)
    hplain).world
  have hidentified := run_identified (begin_sound files plan) (begin_identified files plan) hchosen
  generalize (begin files plan).run steps = session at *
  obtain ⟨cause, hcause⟩ := Answer.failed_iff.mp hfailed
  obtain ⟨loader, hloader, hresult, hafter⟩ := step_failed_load hcause
  have hnumbered : session.world.scripts.Numbered :=
    ⟨hidentified.modules, hidentified.registered, fun hwatches => hwatched _ hwatches⟩
  have hrestored := Act.load_restores hsound hloader horderly hnumbered hresult
  rw [hafter]
  exact ⟨hrestored.games, hrestored.handles, hrestored.answers, hrestored.scripts⟩

/-- A description of a game module without imports whose source file is not there, and one that
imports it after a game module that can be loaded. -/
def brokenFiles : FileTree where
  root := .directory [("a.txt", .file (.text "")), ("game.src", .file (.text "")),
    ("game.json", describing "game" "" "game.src"), ("lost.json", describing "lost" "" "lost.src"),
    ("main.json", describing "main" "\"/game.json\", \"/lost.json\"" "game.src")]
  workingDirectory := []

/-- A session that follows the changes of files. -/
def following : Session :=
  begin brokenFiles ⟨none, none, some true, none, []⟩

/-- The steps by which the host builds a script module and makes a loader. -/
def followingSteps : List Step :=
  [.onModules (.create (some "m") "M" "host" none),
    .onModules (.addFile "m" ⟨"/a.txt"⟩),
    .onModules (.build "m" none),
    .onGames (.loader none "json")]

/-- A load that fails for the second of two imports, after the first one has been loaded. -/
theorem failed_load_leaves_no_trace_import :
    ((following.run followingSteps).step
      (.onGames (.load "/main.json" "host" none))).1.answer.failed = true ∧
    (following.run followingSteps).world.Restored ((following.run followingSteps).step
      (.onGames (.load "/main.json" "host" none))).2.world := by
  have hfailed : ((following.run followingSteps).step
      (.onGames (.load "/main.json" "host" none))).1.answer.failed = true := by
    decide +kernel
  have hnumbers : ((following.run followingSteps).world.executor.watcher.map fun watcher =>
      watcher.registrations.map Registration.id) = some [1] ∧
        (following.run followingSteps).world.executor.nextId = 2 := by
    decide +kernel
  have hplain : ∀ step ∈ followingSteps, step.IsPlain := by
    simp [followingSteps, Step.IsPlain, ModuleStep.IsPlain]
  have hchosen : ∀ step ∈ followingSteps, step.chosen = none := by
    simp [followingSteps, Step.chosen, ModuleStep.chosen]
  have hrestores := @failed_load_leaves_no_trace followingSteps brokenFiles
    ⟨none, none, some true, none, []⟩ hplain hchosen
  rw [← following] at hrestores
  generalize following.run followingSteps = session at *
  refine ⟨hfailed, hrestores ?_ hfailed⟩
  rintro registration ⟨watcher, hwatcher, hmem⟩
  have hsome : session.world.executor.watcher = some watcher := hwatcher
  rw [hsome, Option.map_some, Option.some.injEq] at hnumbers
  have hid : registration.id ∈ watcher.registrations.map Registration.id :=
    List.mem_map_of_mem hmem
  rw [hnumbers.1, List.mem_singleton] at hid
  rw [hid, hnumbers.2]
  decide

/-- The steps by which the host registers a file under the number that comes next. -/
def registeringSteps : List Step :=
  followingSteps ++ [.onFiles (.watch "m" [⟨"/a.txt"⟩] (some 2))]

/-- A failed load ends a registration of files under the number that its script module has
got. -/
theorem failed_load_ends_registration :
    (∀ step ∈ registeringSteps, step.chosen = none) ∧
      ((following.run registeringSteps).step
        (.onGames (.load "/lost.json" "host" none))).1.answer.failed = true ∧
      ((following.run registeringSteps).world.executor.watcher.map (·.isWatching 2)) =
        some true ∧
      (((following.run registeringSteps).step
        (.onGames (.load "/lost.json" "host" none))).2.world.executor.watcher.map
          (·.isWatching 2)) = some false := by
  refine ⟨?_, ?_, ?_, ?_⟩
  · simp [registeringSteps, followingSteps, Step.chosen, ModuleStep.chosen]
  · decide +kernel
  · decide +kernel
  · decide +kernel

end Session

end ScriptHost
