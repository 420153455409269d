import ScriptHost.Proofs.Cycles
import ScriptHost.Proofs.Lifecycles

/-!
Game modules that are loaded, reloaded, released and initialized again, in whatever order. Each
of them hears the init event first, and init and release events in turn after that. Once its
script module could not be built again, it hears nothing from this any more.
-/

namespace ScriptHost

namespace Delivery

/-- The first event is an init event where init and release events come in turn. -/
theorem Alternates.starts {history : List Delivery} (halternates : Alternates history) :
    ∀ first ∈ history.getLast?, first.event = .init := by
  induction history with
  | nil => simp
  | cons next earlier ih =>
      cases earlier with
      | nil =>
          rintro first hfirst
          obtain rfl : next = first := by simpa using hfirst
          rcases halternates.1 with ⟨_, hevent, -, -, -⟩ | ⟨_, -, -, _, _, hnil, -⟩
          · exact hevent
          · cases hnil
      | cons before rest =>
          rw [List.getLast?_cons_cons]
          exact ih halternates.2

end Delivery

/-- A world, to be compared with what becomes of it while script modules are reloaded. -/
def World.course (world : World) (hushed : Nat → List Delivery → Prop) : Outset where
  objects := world.objects
  scripts := world.scripts
  deliveries := world.deliveries
  may := Touch.anything
  allows := fun _ _ => trivial
  once := False
  hushed := hushed

namespace World

open Delivery

variable {outset : Outset} {unheard lent : List Nat} {since : List Delivery}
  {held : Holdings} {world : World} {place : Nat} {game : GameModule}

/-- Nothing has come yet. -/
theorem Grows.begins (hworld : world.Sound held) (hnumbered : world.scripts.Numbered) :
    world.Grows (world.course fun _ _ => False) [] [] [] [] := by
  have hgrows := Grows.refl hworld hnumbered
  exact
    { tallies := hgrows.tallies
      assigned := { hgrows.assigned with worked := .refl }
      voiced :=
        { recorded := rfl
          addressed := nofun
          voices := fun place => { hgrows.voiced.voices place with once := fun honce => honce.elim }
          hushed := fun hhushed => hhushed.elim } }

/-- It is remembered what has been heard from script modules that have ended. -/
theorem Grows.hushes (hgrows : world.Grows outset [] unheard lent since)
    {hushed : Nat → List Delivery → Prop} (hhushed : ∀ {script told}, hushed script told →
      (∀ module, world.module? script = some module → module.state.isTerminal = true) ∧
        script < world.modules.next ∧ since.filter (·.script = script) = told) :
    world.Grows { outset with hushed := hushed } [] unheard lent since :=
  { tallies := hgrows.tallies
    assigned := { hgrows.assigned with worked := hgrows.assigned.worked }
    voiced :=
      { recorded := hgrows.voiced.recorded
        addressed := hgrows.voiced.addressed
        voices := fun place => { hgrows.voiced.voices place with
          alternates := (hgrows.voiced.voices place).alternates }
        hushed := hhushed } }

/-- Every game module has come since. -/
theorem Grows.new (hgrows : world.Grows outset [] unheard lent since) (hcyclic : outset.Cyclic)
    (hgame : world.game? place = some game) : outset.New world place game := by
  refine ⟨hgame, Option.eq_none_iff_forall_ne_some.mpr fun body hbody => ?_⟩
  have hstill := hgrows.tallies.old hbody
  rw [get?_of_game? hgame, Option.some.injEq] at hstill
  exact hcyclic.games place game (hstill ▸ hbody)

/-- Handles of script modules are dropped that have come since. -/
theorem Grows.dropsModules (hgrows : world.Grows outset [] unheard lent since)
    {scripts : List Nat} (hworld : world.Sound (held.taking scripts))
    (hholds : 0 < held.executor + world.loaderHold)
    (hfirst : ∀ script ∈ scripts, outset.scripts.next ≤ script) :
    (∃ more, (Act.after (Act.dropAll (scripts.map Owned.module)) world).Grows outset [] unheard
      lent (more ++ since)) ∧
      (Act.after (Act.dropAll (scripts.map Owned.module)) world).loaderHold = world.loaderHold ∧
      ∀ place ∈ lent, (Act.after (Act.dropAll (scripts.map Owned.module)) world).game? place =
        world.game? place := by
  have hmodules := Owned.modules_modules scripts
  rw [← hmodules] at hworld hfirst
  obtain ⟨⟨more, hgrown, hfalls⟩, hstays⟩ := Act.dropAll_grows (scripts.map Owned.module)
    (by rw [Owned.objects_modules]; exact hgrows) hworld hholds (List.nil_subset _) hfirst
  exact ⟨⟨more, hgrown⟩, Act.loaderHold_of_continues hfalls.toContinues, hstays⟩

end World

/-- A step in the course of which game modules that have come since are loaded and initialized
again, their script modules are reloaded and released, handles of them are dropped, or files
change. The names are ones that a session has not given. -/
def Step.IsTurn (session : Session) : Step → Prop
  | .onGames (.load _ _ target) => ∀ name ∈ target, session.games.get? name = none
  | .onGames (.makeReady name) => session.games.get? name = none
  | .onGames (.releaseScript name) => session.games.get? name = none
  | .onGames (.script name target) => session.games.get? name = none ∧
      ∀ label ∈ target, session.modules.get? label = none
  | .onModules (.reload _) => True
  | .onFiles (.write _ _) => True
  | .onFiles (.remove _) => True
  | .onFiles (.changed _) => True
  | .onFiles .poll => True
  | .onFiles (.drop .game name) => session.games.get? name = none
  | .onFiles (.drop .module name) => session.modules.get? name = none
  | _ => False

/-- Such a step gives no values as hooks. -/
theorem Step.IsTurn.isPlain {session : Session} {step : Step} (hturn : step.IsTurn session) :
    step.IsPlain := by
  match step, hturn with
  | .onModules (.reload _), _ => trivial
  | .onGames _, _ => trivial
  | .onFiles _, _ => trivial

namespace Session

open SessionAct World Delivery

variable {outset : Outset} {lent : List Nat} {since : List Delivery} {held : Holdings}
  {base session : Session} {steps turns : List Step} {name : String}

/-- A session in which game modules have come since another one. Names that the other one has
not given stand for what has come. -/
structure Cycles (base : Session) (outset : Outset) (session : Session) : Prop where
  holds : 0 < session.held.executor + session.world.loaderHold
  grows : ∃ lent since, session.world.Grows outset [] [] lent since ∧
    (∀ place ∈ lent, ∃ game, session.world.game? place = some game) ∧
    ∀ address, (base.borrowed session).count address ≤ lent.count address
  modules : ∀ {name address}, base.modules.get? name = none →
    session.modules.get? name = some address → outset.scripts.next ≤ address

/-- Whatever an operation on game modules has brought. -/
theorem Cycles.of_brings (left : Session) (hcycles : base.Cycles outset session)
    (hbrings : left.world.Brings held outset [] [] lent since)
    (hheld : held.executor = left.held.executor)
    (hlent : ∀ address, (base.borrowed left).count address ≤ lent.count address)
    (hmodules : left.modules = session.modules) : base.Cycles outset left where
  holds := hheld ▸ hbrings.holds
  grows := ⟨lent, since, hbrings.grows, hbrings.lives, hlent⟩
  modules := by
    rw [hmodules]
    exact hcycles.modules

theorem Cycles.brings (hcycles : base.Cycles outset session) (hsound : session.Sound)
    (horderly : session.Orderly) : ∃ lent since,
      session.world.Brings session.held outset [] [] lent since ∧
        ∀ address, (base.borrowed session).count address ≤ lent.count address := by
  obtain ⟨lent, since, hgrows, hlives, hlent⟩ := hcycles.grows
  exact ⟨lent, since, ⟨hsound, hcycles.holds, horderly.world, hgrows, hlives, List.nil_subset _⟩,
    hlent⟩

/-- The executor is there as long as somebody holds it. -/
theorem Cycles.running (hcycles : base.Cycles outset session) (hsound : session.Sound) :
    session.world.isRunning = true := by
  have hholders := hsound.holders [] List.nodup_nil (by simp)
  have hholds := hcycles.holds
  rw [isRunning_iff]
  simp only [List.length_nil] at hholders
  omega

/-- Nothing but the world changes, and game modules stay in it. -/
theorem Cycles.refreshes {after : World} (hcycles : base.Cycles outset session)
    (hrefreshes : ∀ lent since, session.world.Grows outset [] [] lent since →
      Refreshes outset [] lent since session.world after) :
    base.Cycles outset { session with world := after } := by
  obtain ⟨lent, since, hgrows, hlives, hlent⟩ := hcycles.grows
  obtain ⟨⟨more, hgrows'⟩, hloader, hgames⟩ := hrefreshes lent since hgrows
  refine ⟨?_, ⟨lent, more ++ since, hgrows', fun place hmem => ?_, hlent⟩, hcycles.modules⟩
  · show 0 < session.held.executor + after.loaderHold
    rw [hloader]
    exact hcycles.holds
  · exact hgames place ▸ hlives place hmem

/-- Handles of game modules that are not under a name any more are dropped. -/
theorem Cycles.dropsGames (hcycles : base.Cycles outset session) (games : Table String Nat)
    {refs : List ObjectRef} {world : World}
    (hbrings : world.Brings session.held outset [] [] lent since)
    (hleft : ∀ address, (base.borrowed { session with games := games }).count address +
      (refs.map ObjectRef.address).count address ≤ lent.count address) :
    base.Cycles outset { session with
      games := games
      world := Act.after (Act.dropObjects refs) world } := by
  obtain ⟨hgiven, hremains⟩ := count_remainder hleft
  obtain ⟨more, hdropped, -⟩ := (hbrings.grows.relend hgiven).dropsObjects hbrings.sound
    hbrings.holds hbrings.orderly
    (fun place hmem => hbrings.lives place (List.diff_subset _ _ hmem)) (List.nil_subset _)
  exact Cycles.of_brings { session with
    games := games
    world := Act.after (Act.dropObjects refs) world } hcycles hdropped rfl hremains rfl

/-- Handles of script modules that are not under a name any more are dropped. -/
theorem Cycles.dropsModules (modules : Table String Nat) (scripts : List Nat) {world : World}
    (hgrows : world.Grows outset [] [] lent since)
    (hworld : world.Sound (({ session with modules := modules } : Session).held.taking scripts))
    (hholds : 0 < session.held.executor + world.loaderHold)
    (hlives : ∀ place ∈ lent, ∃ game, world.game? place = some game)
    (hlent : ∀ address, (base.borrowed session).count address ≤ lent.count address)
    (hmodules : ∀ {name address}, base.modules.get? name = none →
      modules.get? name = some address → outset.scripts.next ≤ address)
    (hfirst : ∀ script ∈ scripts, outset.scripts.next ≤ script) :
    base.Cycles outset { session with
      modules := modules
      world := Act.after (Act.dropAll (scripts.map Owned.module)) world } := by
  obtain ⟨⟨more, hgrows'⟩, hloader, hstays⟩ := hgrows.dropsModules hworld hholds hfirst
  refine ⟨?_, ⟨lent, more ++ since, hgrows', fun place hmem => ?_, hlent⟩, hmodules⟩
  · show 0 < session.held.executor + World.loaderHold _
    rw [hloader]
    exact hholds
  · exact hstays place hmem ▸ hlives place hmem

/-! ### Steps -/

theorem Cycles.loads (hcycles : base.Cycles outset session) (hsound : session.Sound)
    (horderly : session.Orderly) (name requestedBy : String) {target : Option String}
    (htarget : ∀ name ∈ target, base.games.get? name = none) :
    base.Cycles outset (after (GameStep.loadAnswer name requestedBy target) session) := by
  obtain ⟨lent, since, hbrings, hlent⟩ := hcycles.brings hsound horderly
  obtain ⟨given, more, games, refs, world, hgiven, hleft, hafter⟩ :=
    loadAnswer_leaves hbrings hlent name requestedBy htarget
  rw [hafter]
  exact hcycles.dropsGames games hgiven hleft

/-- A game module that has a name of its own is lent. -/
theorem borrowed_of_named (hname : base.games.get? name = none) {address : Nat}
    (hgiven : session.games.get? name = some address) : address ∈ base.borrowed session := by
  unfold borrowed
  rw [← Table.get?_filter base.lacks session.games (lacks_of_none hname)] at hgiven
  exact List.mem_map.mpr ⟨_, Table.mem_of_get? _ hgiven, rfl⟩

/-- An operation on the game module of a name. -/
theorem Cycles.named (hcycles : base.Cycles outset session) (hcyclic : outset.Cyclic)
    (hsound : session.Sound) (horderly : session.Orderly)
    (hname : base.games.get? name = none) {address : Nat}
    (hgiven : session.games.get? name = some address) {after : World}
    (hbrings : ∀ {lent since game}, session.world.Brings session.held outset [] [] lent since →
      outset.New session.world address game → address ∈ lent →
        ∃ more, after.Brings session.held outset [] [] lent (more ++ since)) :
    base.Cycles outset { session with world := after } := by
  obtain ⟨lent, since, hbefore, hlent⟩ := hcycles.brings hsound horderly
  have hmem : address ∈ lent := List.count_pos_iff.mp
    (Nat.lt_of_lt_of_le (List.count_pos_iff.mpr (borrowed_of_named hname hgiven)) (hlent address))
  obtain ⟨game, hgame⟩ := hbefore.lives address hmem
  obtain ⟨more, hafter⟩ := hbrings hbefore (hbefore.grows.new hcyclic hgame) hmem
  exact Cycles.of_brings { session with world := after } hcycles hafter rfl hlent rfl

/-- A script module that has come since gets a name, with a handle of its own. -/
theorem Cycles.binds (hcycles : base.Cycles outset session) (hsound : session.Sound)
    {script : Nat} {module : ScriptModule} (hmodule : session.world.module? script = some module)
    (hfirst : outset.scripts.next ≤ script) {target : Option String}
    (htarget : ∀ label ∈ target, base.modules.get? label = none) :
    base.Cycles outset (after (bindModule target script)
      { session with world := session.world.retaining [script] }) := by
  obtain ⟨lent, since, hgrows, hlives, hlent⟩ := hcycles.grows
  have hretained : session.world.Reaches (session.held.taking [script]) Touch.anything
      (session.world.retaining [script]) :=
    hsound.retaining fun other hother => by
      rw [List.mem_singleton.mp hother, hmodule]
      rfl
  have hkept : (session.world.retaining [script]).Grows outset [] [] lent since :=
    hgrows.of_tallies hsound.scripts hgrows.tallies (Nat.le_refl _) (fun _ => rfl)
      (retaining_scripts hsound.modules _) rfl
  cases target with
  | none =>
      exact Cycles.dropsModules session.modules [script] hkept hretained.sound hcycles.holds hlives
        hlent hcycles.modules (by simpa using hfirst)
  | some label =>
      refine Cycles.dropsModules (session.modules.set label script)
        (session.modules.get? label).toList hkept ?_ hcycles.holds hlives hlent
        (fun {other address} hother hgiven => ?_) fun other hmem => ?_
      · refine hretained.sound.forget (Nat.le_refl _) fun other => ?_
        have hcount := Table.count_set session.modules label script other
        simp only [Holdings.taking, Session.held, List.count_append, List.count_cons,
          List.count_nil] at hcount ⊢
        omega
      · rw [Table.get?_set] at hgiven
        split at hgiven
        · cases hgiven
          exact hfirst
        · exact hcycles.modules hother hgiven
      · exact hcycles.modules (htarget label rfl) (Option.mem_toList.mp hmem)

/-- The script module of a game module gets a name. -/
theorem Cycles.names (hcycles : base.Cycles outset session) (hcyclic : outset.Cyclic)
    (hsound : session.Sound) (name : String) {target : Option String}
    (htarget : ∀ label ∈ target, base.modules.get? label = none) :
    base.Cycles outset (after (GameStep.scriptAnswer name target) session) := by
  unfold GameStep.scriptAnswer
  rw [after_gameState_bind]
  cases hfound : (session.games.get? name).bind session.world.game? with
  | none => exact hcycles
  | some game =>
      obtain ⟨place, -, hgame⟩ := Option.bind_eq_some_iff.mp hfound
      dsimp only
      cases hscript : game.script with
      | none => exact hcycles
      | some script =>
          obtain ⟨lent, since, hgrows, -, -⟩ := hcycles.grows
          have hhas : outset.Has session.world place script :=
            ⟨game, hgrows.new hcyclic hgame, hscript⟩
          obtain ⟨module, hmodule⟩ := hsound.script_lives hgame hscript
          have hbound := hcycles.binds hsound hmodule (hgrows.assigned.owned hhas).1 htarget
          dsimp only
          rw [after_bind, outcome_act, after_act]
          dsimp only
          rw [after_bind]
          split
          · exact hbound
          · exact hbound

/-- A name of a script module is dropped. -/
theorem Cycles.dropsModule (hcycles : base.Cycles outset session) (hsound : session.Sound)
    (hname : base.modules.get? name = none) :
    base.Cycles outset (after (FileStep.dropModule name) session) := by
  obtain ⟨lent, since, hgrows, hlives, hlent⟩ := hcycles.grows
  refine Cycles.dropsModules (session.modules.erase name) (session.modules.get? name).toList
    hgrows ?_ hcycles.holds hlives hlent (fun {other address} hother hgiven => ?_)
    fun other hmem => ?_
  · refine hsound.forget (Nat.le_refl _) fun other => ?_
    have hcount := Table.count_erase session.modules name other
    simp only [Holdings.taking, Session.held, List.count_append] at hcount ⊢
    omega
  · rw [Table.get?_erase] at hgiven
    split at hgiven
    · cases hgiven
    · exact hcycles.modules hother hgiven
  · exact hcycles.modules hname (Option.mem_toList.mp hmem)

/-- Changes of files are handled. -/
theorem Cycles.changes (hcycles : base.Cycles outset session) {operation : Act Nat}
    (hoperation : ∀ {lent since}, session.world.Grows outset [] [] lent since →
      Refreshes outset [] lent since session.world (Act.after operation session.world)) :
    base.Cycles outset (after (do
      let _ ← needExecutor
      return Answer.number (← act operation)) session) := by
  rw [after_needExecutor_bind]
  split
  · exact hcycles.refreshes fun lent since hgrows => hoperation hgrows
  · exact hcycles

/-- Each turn goes on from a session in which game modules have come. -/
theorem Cycles.perform (hcycles : base.Cycles outset session) (hcyclic : outset.Cyclic)
    (hsound : session.Sound) (horderly : session.Orderly) {step : Step}
    (hturn : step.IsTurn base) : base.Cycles outset (after (perform step) session) := by
  have hrunning := hcycles.running hsound
  match step, hturn with
  | .onGames (.load name requestedBy target), htarget =>
      exact hcycles.loads hsound horderly name requestedBy htarget
  | .onGames (.script name target), hnames => exact hcycles.names hcyclic hsound name hnames.2
  | .onGames (.makeReady name), hname =>
      show base.Cycles outset (after (gameNamed name >>= _) session)
      rw [after_gameNamed_bind]
      split
      · rename_i address hgiven
        rw [after_needLoader_bind]
        split
        · exact hcycles.named hcyclic hsound horderly hname hgiven
            fun hbrings hnew hmem => Act.initializeGame_brings hbrings hnew hmem
        · exact hcycles
      · exact hcycles
  | .onGames (.releaseScript name), hname =>
      show base.Cycles outset (after (gameNamed name >>= _) session)
      rw [after_gameNamed_bind]
      split
      · rename_i address hgiven
        exact hcycles.named hcyclic hsound horderly hname hgiven
          fun hbrings hnew _ => Act.releaseScript_brings hbrings hcyclic.again hnew
      · exact hcycles
  | .onModules (.reload module), _ =>
      show base.Cycles outset (after (moduleNamed module >>= _) session)
      rw [after_moduleNamed_bind]
      split
      · rename_i address hgiven
        exact hcycles.refreshes fun lent since hgrows =>
          hgrows.recasts hsound hrunning hcyclic (Act.reload_recasts hsound address)
      · exact hcycles
  | .onFiles (.write path node), _ =>
      refine hcycles.refreshes fun lent since hgrows =>
        hgrows.refreshes hsound.scripts ?_ ?_ ?_ ?_
      all_goals
        unfold World.write
        dsimp only
        split <;> rfl
  | .onFiles (.remove path), _ =>
      exact hcycles.refreshes fun lent since hgrows =>
        hgrows.refreshes hsound.scripts rfl rfl rfl rfl
  | .onFiles (.changed paths), _ =>
      exact hcycles.changes fun hgrows =>
        Act.handleChanges_refreshes hcyclic hgrows hsound hrunning paths
  | .onFiles .poll, _ =>
      exact hcycles.changes fun hgrows =>
        Act.poll_refreshes hcyclic hgrows hsound hrunning
  | .onFiles (.drop .game name), hname =>
      obtain ⟨lent, since, hbrings, hlent⟩ := hcycles.brings hsound horderly
      exact hcycles.dropsGames (session.games.erase name) hbrings fun address =>
        Nat.le_trans (borrowed_erase hname address) (hlent address)
  | .onFiles (.drop .module name), hname => exact hcycles.dropsModule hsound hname

theorem Cycles.run (hcycles : base.Cycles outset session) (hcyclic : outset.Cyclic)
    (hsound : session.Sound) (horderly : session.Orderly)
    (hturns : ∀ step ∈ turns, step.IsTurn base) :
    base.Cycles outset (session.run turns) := by
  induction turns generalizing session with
  | nil => exact hcycles
  | cons step rest ih =>
      have hturn := hturns step List.mem_cons_self
      have hperformed := hcycles.perform hcyclic hsound horderly hturn
      have hcleared : base.Cycles outset (session.step step).2 := by
        obtain ⟨lent, since, hgrows, hlives, hlent⟩ := hperformed.grows
        exact ⟨hperformed.holds, ⟨lent, since, hgrows.of_tallies
          (perform_advances hsound step).sound.scripts hgrows.tallies (Nat.le_refl _)
            (fun _ => rfl) rfl rfl, hlives, hlent⟩, hperformed.modules⟩
      exact ih hcleared (step_advances hsound step).sound
        (step_keeps_order hsound horderly hturn.isPlain)
        fun other hother => hturns other (List.mem_cons_of_mem step hother)

/-- No game module has come yet. -/
theorem Cycles.refl (hsound : session.Sound) (hnumbered : session.world.scripts.Numbered)
    (hloader : session.world.loader.isSome = true) :
    session.Cycles (session.world.course fun _ _ => False) session where
  holds := by
    obtain ⟨loader, hloader⟩ := Option.isSome_iff_exists.mp hloader
    simp [World.loaderHold, hloader]
  grows := ⟨[], [], .begins hsound hnumbered, by simp, fun address => by
    rw [borrowed_self]⟩
  modules := fun hnone hgiven => by cases hnone.symm.trans hgiven

/-- A script module that has ended is not heard from any more, whatever turns come. -/
theorem Cycles.hushed {hushed : Nat → List Delivery → Prop}
    (hcycles : base.Cycles (base.world.course hushed) session)
    (hcyclic : ∀ hushed, (base.world.course hushed).Cyclic) (hsound : session.Sound)
    (horderly : session.Orderly) {script : Nat} {module : ScriptModule}
    (hmodule : session.world.module? script = some module)
    (hended : module.state.isTerminal = true) (hturns : ∀ step ∈ turns, step.IsTurn base) :
    (session.run turns).world.deliveries.filter (·.script = script) =
      session.world.deliveries.filter (·.script = script) := by
  obtain ⟨lent, since, hgrows, hlives, hlent⟩ := hcycles.grows
  let told : Nat → List Delivery → Prop := fun own heard =>
    own = script ∧ heard = since.filter (·.script = script)
  have hhushes : session.world.Grows (base.world.course told) [] [] lent since := by
    refine hgrows.hushes ?_
    rintro own heard ⟨rfl, rfl⟩
    refine ⟨fun found hfound => ?_, hsound.scripts.below hmodule, rfl⟩
    cases hmodule.symm.trans hfound
    exact hended
  have hstart : base.Cycles (base.world.course told) session :=
    ⟨hcycles.holds, ⟨lent, since, hhushes, hlives, hlent⟩, hcycles.modules⟩
  obtain ⟨given, later, hlater, -⟩ := (hstart.run (hcyclic told) hsound horderly hturns).grows
  have hsame := (hlater.voiced.hushed ⟨rfl, rfl⟩).2.2
  rw [hlater.voiced.recorded, hgrows.voiced.recorded, List.filter_append, List.filter_append,
    hsame]
  rfl

/-- Whatever is loaded, reloaded, released, initialized again and dropped, init and release
events come to each game module in turn, the init event first. A compiled script that is in use
has brought the init event last. The release event of a reload comes from the compiled script
that was there before it, and the init event from the next one; a script module that could not
be built again is not heard from any more. There is no game module at first, and no script
module has hooks of one. -/
theorem lifecycle_events_alternate (files : FileTree) (plan : ExecutorPlan)
    (hplain : ∀ step ∈ steps, step.IsPlain)
    (hnumbered : ((begin files plan).run steps).world.scripts.Numbered)
    (hloader : ((begin files plan).run steps).world.loader.isSome = true)
    (hgames : ∀ place, ((begin files plan).run steps).world.game? place = none)
    (hunhooked : ∀ script module place,
      ((begin files plan).run steps).world.module? script = some module →
        module.hooks ≠ some (.game place))
    (hturns : ∀ step ∈ turns, step.IsTurn ((begin files plan).run steps)) :
    let base := (begin files plan).run steps
    let session := base.run turns
    ∃ since, session.world.deliveries = since ++ base.world.deliveries ∧
      (∀ place, Alternates (heard place since) ∧
        (∀ first ∈ (heard place since).getLast?, first.event = .init) ∧
        ((∀ game, session.world.game? place = some game → game.initialized = false) →
          Closed (heard place since))) ∧
      (∀ place game script module compiled, session.world.game? place = some game →
        game.script = some script → session.world.module? script = some module →
          module.state = .built → module.compiled = some compiled →
            Opened (heard place since) script compiled ∧
              session.world.Retells place script compiled) ∧
      ∀ script module later, session.world.module? script = some module →
        module.state.isTerminal = true → (∀ step ∈ later, step.IsTurn base) →
          (session.run later).world.deliveries.filter (·.script = script) =
            session.world.deliveries.filter (·.script = script) := by
  have hsound : ((begin files plan).run steps).Sound := begin_run_sound files plan steps
  have horderly := run_keeps_order (begin_sound files plan) (begin_keeps_order files plan) hplain
  generalize (begin files plan).run steps = base at *
  intro base session
  have hcyclic : ∀ hushed, (base.world.course hushed).Cyclic := fun hushed =>
    { again := id
      may := fun _ => trivial
      games := fun place game hgame => by
        have hnone := hgames place
        rw [(game?_eq_some_iff base.world place game).mpr hgame] at hnone
        cases hnone
      unhooked := fun hmodule => hunhooked _ _ _ hmodule }
  have hcycles : base.Cycles (base.world.course fun _ _ => False) session :=
    (Cycles.refl hsound hnumbered hloader).run (hcyclic _) hsound horderly hturns
  have hsound' : session.Sound := run_sound hsound turns
  have horderly' : session.Orderly :=
    run_keeps_order hsound horderly fun step hmem => (hturns step hmem).isPlain
  obtain ⟨lent, since, hgrows, -, -⟩ := hcycles.grows
  refine ⟨since, hgrows.voiced.recorded, fun place => ?_, ?_, ?_⟩
  · have hvoice := hgrows.voiced.voices place
    exact ⟨hvoice.alternates, hvoice.alternates.starts, fun hidle =>
      hvoice.closed fun game hnew => hidle game hnew.1⟩
  · intro place game script module compiled hgame hscript hmodule hbuilt hcompiled
    have hnew := hgrows.new (hcyclic _) hgame
    obtain ⟨-, -, own, hown, hopened⟩ := hgrows.listens hnew hscript hmodule hbuilt
    cases hcompiled.symm.trans hown
    exact ⟨hopened, hgrows.retells hsound' (hcycles.running hsound') hnew hscript hmodule hbuilt
      hcompiled⟩
  · intro script module later hmodule hended hlater
    exact hcycles.hushed hcyclic hsound' horderly' hmodule hended hlater

/-- A description of a game module and its source file. -/
def cyclingFiles : FileTree where
  root := .directory [("game.src", .file (.text "")),
    ("main.json", describing "main" "" "game.src")]
  workingDirectory := []

/-- A session that has made a loader for it. -/
def cycling : Session :=
  (begin cyclingFiles ⟨none, none, none, none, []⟩).run [.onGames (.loader none "json")]

/-- A game module is loaded, its script module is reloaded and released, and it is initialized
again; its script module cannot be built again, is released, and the game module is dropped. -/
def cyclingTurns : List Step :=
  [.onGames (.load "/main.json" "host" (some "m")), .onGames (.script "m" (some "s")),
    .onModules (.reload "s"), .onGames (.releaseScript "m"), .onGames (.makeReady "m"),
    .onGames (.script "m" (some "s")), .onFiles (.write ⟨"/game.src"⟩ (.file (.text "fn"))),
    .onModules (.reload "s"), .onGames (.releaseScript "m"), .onFiles (.drop .game "m")]

/-- After the reload that has failed there is no release event. -/
theorem lifecycle_events_alternate_cycling :
    (∃ since, (cycling.run cyclingTurns).world.deliveries =
        since ++ cycling.world.deliveries ∧ ∀ place, Alternates (heard place since)) ∧
      (cycling.run cyclingTurns).world.deliveries.map
        (fun delivery => (delivery.script, delivery.event)) =
          [(2, .release), (2, .init), (1, .release), (1, .init), (1, .release), (1, .init)] := by
  refine ⟨?_, by decide +kernel⟩
  obtain ⟨hobjects, hmodules, hregistry, hwatcher⟩ :
      cycling.world.objects.cells.isEmpty = true ∧ cycling.world.modules.cells.isEmpty = true ∧
        cycling.world.executor.registry.isEmpty = true ∧
        cycling.world.executor.watcher.isNone = true := by
    decide +kernel
  obtain ⟨hloader, hgame, hscript⟩ : cycling.world.loader.isSome = true ∧
      cycling.games.get? "m" = none ∧ cycling.modules.get? "s" = none := by
    decide +kernel
  have hturns : ∀ step ∈ cyclingTurns, step.IsTurn cycling := by
    simp [cyclingTurns, Step.IsTurn, hgame, hscript]
  have hgames : ∀ place, cycling.world.game? place = none := World.game?_of_empty hobjects
  have hunhooked : ∀ script module place, cycling.world.module? script = some module →
      module.hooks ≠ some (.game place) := by
    intro script module place hmodule
    cases (World.module?_of_empty hmodules script).symm.trans hmodule
  have halternate := @lifecycle_events_alternate [.onGames (.loader none "json")] cyclingTurns
    cyclingFiles ⟨none, none, none, none, []⟩ (by simp [Step.IsPlain])
  rw [← cycling] at halternate
  obtain ⟨since, hsince, hheard, -⟩ := halternate
    (World.numbered_of_empty hmodules hregistry hwatcher) hloader hgames hunhooked hturns
  exact ⟨since, hsince, fun place => (hheard place).1⟩

end Session

end ScriptHost
