import ScriptHost.Proofs.Undoing

/-!
Loads and drops one after another. A load that succeeds delivers the init event to the game
modules that come with it, once to each and after its imports; a load that fails takes back
whatever it has begun. When handles are dropped, each game module that dies hears the release
event once, before its imports do.
-/

namespace ScriptHost

namespace Delivery

variable {since history : List Delivery} {place : Nat}

/-- Who has heard one event has heard the init event. -/
theorem Alternates.opening (halternates : Alternates history) (hsome : history ≠ [])
    (hlength : history.length ≤ 1) : ∃ first, history = [first] ∧ first.event = .init := by
  have hone : history.length = 1 :=
    Nat.le_antisymm hlength (List.length_pos_of_ne_nil hsome)
  obtain ⟨first, rfl⟩ := List.length_eq_one_iff.mp hone
  refine ⟨first, rfl, ?_⟩
  rcases halternates.1 with ⟨_, hevent, -, -, -⟩ | ⟨_, -, -, last, earlier, hnil, -⟩
  · exact hevent
  · cases hnil

/-- Who has heard two events at most and is to hear no more has heard nothing, or the init
event and then the release event, with the same compiled script. -/
theorem Alternates.pair (halternates : Alternates history) (hclosed : Closed history)
    (hlength : history.length ≤ 2) : history = [] ∨
      ∃ last first, history = [last, first] ∧ last.event = .release ∧ first.event = .init ∧
        last.script = first.script ∧ last.compiled = first.compiled := by
  cases history with
  | nil => exact .inl rfl
  | cons last earlier =>
      have hevent := hclosed last rfl
      rcases halternates.1 with ⟨_, hinit, -, -, -⟩ | ⟨compiled, -, hbuilt, hopened⟩
      · rw [hevent] at hinit
        cases hinit
      · obtain ⟨first, rest, rfl, hinit, hscript, hcompiled⟩ := hopened
        simp only [List.length_cons] at hlength
        have hrest : rest = [] := List.length_eq_zero_iff.mp (by omega)
        subst hrest
        exact .inr ⟨last, first, rfl, hevent, hinit, hscript.symm, hbuilt.trans hcompiled.symm⟩

end Delivery

namespace Table

variable {κ α : Type} [DecidableEq κ] (keep : κ → Bool) (table : Table κ α) {key : κ}

theorem get?_filter (hkeep : keep key = true) :
    Table.get? (table.filter fun entry => keep entry.1) key = table.get? key := by
  induction table with
  | nil => rfl
  | cons entry rest ih =>
      obtain ⟨k, a⟩ := entry
      by_cases hk : k = key
      · subst hk
        simp [Table.get?, hkeep]
      · cases hkept : keep k <;> simp [Table.get?, hkept, hk, ih]

theorem exists_get? {entry : κ × α} (hmem : entry ∈ table) :
    ∃ value, table.get? entry.1 = some value := by
  induction table with
  | nil => cases hmem
  | cons head rest ih =>
      by_cases hk : head.1 = entry.1
      · exact ⟨head.2, by simp [Table.get?, hk]⟩
      · have hrest := (List.mem_cons.mp hmem).resolve_left fun hsame => hk (hsame ▸ rfl)
        simpa [Table.get?, hk] using ih hrest

theorem filter_set (hkeep : keep key = true) (value : α) :
    (table.set key value).filter (fun entry => keep entry.1) =
      Table.set (table.filter fun entry => keep entry.1) key value := by
  induction table with
  | nil => simp [Table.set, hkeep]
  | cons entry rest ih =>
      obtain ⟨k, a⟩ := entry
      by_cases hk : k = key
      · subst hk
        simp [Table.set, hkeep]
      · cases hkept : keep k <;> simp [Table.set, hkept, hk, ih]

end Table

namespace World

open Delivery

variable {outset : Outset} {making unheard lent : List Nat} {since more : List Delivery}
  {held : Holdings} {base before after world : World} {place root : Nat} {game : GameModule}

/-- What a load has told that has succeeded: the init event, once to each game module that has
come with it, after those of its imports that have come with it too. -/
structure Welcomes (before after : World) (more : List Delivery) : Prop where
  recorded : after.deliveries = more ++ before.deliveries
  only : ∀ delivery ∈ more, delivery.event = .init ∧ before.game? delivery.game = none ∧
    ∃ game, after.game? delivery.game = some game
  each : ∀ {place game}, after.game? place = some game → before.game? place = none →
    (heard place more).length = 1
  imports : ∀ {place game}, after.game? place = some game → before.game? place = none →
    game.dependencies.length = game.description.imports.length
  order : ∀ {place game target}, after.game? place = some game → before.game? place = none →
    target ∈ game.dependencies → before.objects.get? target = none → Precedes more target place

/-- What a load has told that has failed: nothing to whoever is there before it or after it, and
to others the release event if they have heard the init event. -/
structure Retracts (before after : World) (more : List Delivery) : Prop where
  recorded : after.deliveries = more ++ before.deliveries
  only : ∀ delivery ∈ more, before.game? delivery.game = none ∧ after.game? delivery.game = none
  each : ∀ place, heard place more = [] ∨
    ∃ last first, heard place more = [last, first] ∧ last.event = .release ∧
      first.event = .init ∧ last.script = first.script ∧ last.compiled = first.compiled

/-- What has been told when a handle was dropped: the release event, once to each game module
that is gone, before its imports. -/
structure Dismisses (before after : World) (more : List Delivery) : Prop where
  recorded : after.deliveries = more ++ before.deliveries
  only : ∀ delivery ∈ more, delivery.event = .release ∧
    (∃ game, before.game? delivery.game = some game) ∧ after.game? delivery.game = none
  each : ∀ {place game}, before.game? place = some game → after.game? place = none →
    (heard place more).length = 1
  order : more.Pairwise fun later earlier => ∀ game, before.game? later.game = some game →
    earlier.game ∉ game.dependencies

/-- A game module that was not there has come since. -/
theorem Grows.new_of (hgrows : world.Grows base.outset making unheard lent since)
    (hgame : world.game? place = some game) (hnone : base.game? place = none) :
    base.outset.New world place game := by
  refine ⟨hgame, Option.eq_none_iff_forall_ne_some.mpr fun body hbody => ?_⟩
  have hstill := hgrows.tallies.old hbody
  rw [get?_of_game? hgame, Option.some.injEq] at hstill
  rw [(game?_eq_some_iff base place game).mpr (hstill ▸ hbody)] at hnone
  cases hnone

/-- Who is told something was not there. -/
theorem Grows.addressed (hgrows : world.Grows base.outset making unheard lent since)
    {delivery : Delivery} (hmem : delivery ∈ since) : base.game? delivery.game = none := by
  refine Option.eq_none_iff_forall_ne_some.mpr fun game hgame => ?_
  have hnone : base.objects.get? delivery.game = none := (hgrows.voiced.addressed delivery hmem).1
  rw [get?_of_game? hgame] at hnone
  cases hnone

/-- A game module that has come since and is not initialized any more has heard the init event,
and nothing else if it is initialized once only. -/
theorem Grows.heard_init (hgrows : world.Grows outset making [] lent since) (honce : outset.once)
    (hnew : outset.New world place game) :
    game.initialized = true ∧ ∃ first, heard place since = [first] ∧ first.event = .init := by
  have hvoice := hgrows.voiced.voices place
  obtain ⟨hlength, hidle⟩ := (hvoice.once honce).2 game hnew
  obtain ⟨delivery, hmem, hplace, -⟩ := hvoice.began hnew List.not_mem_nil
  have hsome : heard place since ≠ [] := List.ne_nil_of_mem (mem_heard.mpr ⟨hmem, hplace⟩)
  refine ⟨?_, hvoice.alternates.opening hsome hlength⟩
  by_contra hinit
  exact hsome (hidle (by simpa using hinit))

/-- What a game module has heard that is gone. -/
theorem Grows.heard_gone (hgrows : world.Grows outset making unheard lent since)
    (honce : outset.once) (hgone : ∀ game, ¬ outset.New world place game) :
    heard place since = [] ∨ ∃ last first, heard place since = [last, first] ∧
      last.event = .release ∧ first.event = .init ∧ last.script = first.script ∧
        last.compiled = first.compiled := by
  have hvoice := hgrows.voiced.voices place
  exact hvoice.alternates.pair (hvoice.closed fun game hnew => absurd hnew (hgone game))
    (hvoice.once honce).1

theorem Raised.welcomes
    (hraised : Raised held before.outset [] [] [] [] more (.ok root, after)) :
    before.Welcomes after more := by
  obtain ⟨hbrings, hfound⟩ := hraised
  rw [List.append_nil more] at hbrings hfound
  have hgrows : after.Grows before.outset [] [] [root] more := hbrings.grows
  obtain ⟨-, -, hhatches⟩ := hfound root rfl
  refine
    { recorded := hgrows.voiced.recorded
      only := fun delivery hmem =>
        ⟨(hhatches delivery hmem).1, hgrows.addressed hmem, (hhatches delivery hmem).2⟩
      each := fun hgame hnone => ?_
      imports := fun hgame hnone => ?_
      order := fun hgame hnone htarget hmissing => ?_ }
  · obtain ⟨-, first, hheard, -⟩ := hgrows.heard_init trivial (hgrows.new_of hgame hnone)
    simp [hheard]
  · have hnew := hgrows.new_of hgame hnone
    exact (hgrows.voiced.voices _).complete hnew (hgrows.heard_init trivial hnew).1
  · have hnew := hgrows.new_of hgame hnone
    exact ((hgrows.voiced.voices _).order hnew (hgrows.heard_init trivial hnew).1 _
      htarget).resolve_left fun hold => hold hmissing

theorem Raised.retracts {cause : LoadError}
    (hraised : Raised held before.outset [] [] [] [] more (.error cause, after)) :
    before.Retracts after more := by
  obtain ⟨hbrings, -⟩ := hraised
  rw [List.append_nil more] at hbrings
  have hgrows : after.Grows before.outset [] [] [] more := hbrings.grows
  have hnone := hgrows.no_survivors trivial
  refine ⟨hgrows.voiced.recorded, fun delivery hmem => ⟨hgrows.addressed hmem, ?_⟩, fun place =>
    hgrows.heard_gone trivial (hnone place)⟩
  refine Option.eq_none_iff_forall_ne_some.mpr fun game hgame => ?_
  exact hnone delivery.game game (hgrows.new_of hgame (hgrows.addressed hmem))

/-- Handles that are lent are dropped. -/
theorem Brings.dismisses {given : List Nat} {refs : List ObjectRef}
    (hbrings : world.Brings held base.outset [] [] given since)
    (hgiven : ∀ address,
      (refs.map ObjectRef.address ++ lent).count address = given.count address) :
    ∃ more, (Act.after (Act.dropObjects refs) world).Brings held base.outset [] [] lent
        (more ++ since) ∧
      world.Dismisses (Act.after (Act.dropObjects refs) world) more := by
  have hlives : ∀ place ∈ lent, ∃ game, world.game? place = some game := by
    intro place hmem
    refine hbrings.lives place (List.count_pos_iff.mp ?_)
    rw [← hgiven]
    exact List.count_pos_iff.mpr (List.mem_append_right _ hmem)
  obtain ⟨more, hdropped, hfalls, -⟩ := (hbrings.grows.relend hgiven).dropsObjects hbrings.sound
    hbrings.holds hbrings.orderly hlives (List.nil_subset _)
  refine ⟨more, hdropped, ⟨?_, hfalls.heard, fun {place game} hgame hgone => ?_,
    hfalls.order.imp And.right⟩⟩
  · rw [hdropped.grows.voiced.recorded, hbrings.grows.voiced.recorded, List.append_assoc]
  · have hnew : base.outset.New world place game := by
      refine hbrings.grows.new_of hgame (Option.eq_none_iff_forall_ne_some.mpr fun old hold => ?_)
      rw [hdropped.grows.old (get?_of_game? hold)] at hgone
      cases hgone
    obtain ⟨-, first, hfirst, -⟩ := hbrings.grows.heard_init trivial hnew
    have hlost : ∀ left, ¬ base.outset.New (Act.after (Act.dropObjects refs) world) place left :=
      fun left hleft => absurd (hleft.1.symm.trans hgone) nofun
    have hheard := hdropped.grows.heard_gone trivial hlost
    rw [heard_append, hfirst] at hheard
    rcases hheard with hnothing | ⟨last, begun, hpair, -⟩
    · simp at hnothing
    · have hlength := congrArg List.length hpair
      simp only [List.length_append, List.length_cons, List.length_nil] at hlength
      omega

end World

/-- A step that loads a game module, or drops one that has been loaded, under a name that a
session has not given. -/
def Step.IsErrand (session : Session) : Step → Prop
  | .onGames (.load _ _ target) => ∀ name ∈ target, session.games.get? name = none
  | .onFiles (.drop .game name) => session.games.get? name = none
  | _ => False

namespace Session

open SessionAct World

variable {held : Holdings} {since : List Delivery} {lent : List Nat}
  {base session : Session} {steps errands : List Step} {name requestedBy : String}

/-- Whether a session has no game module of a name. -/
def lacks (session : Session) (name : String) : Bool :=
  (session.games.get? name).isNone

/-- The handles of game modules that a session has under names which another one has not
given. -/
def borrowed (base session : Session) : List Nat :=
  (session.games.filter fun entry => base.lacks entry.1).map Prod.snd

theorem lacks_of_none (hname : base.games.get? name = none) : base.lacks name = true := by
  simp [lacks, hname]

/-- A session has given itself all names that it has. -/
theorem borrowed_self (session : Session) : session.borrowed session = [] := by
  have hnone : session.games.filter (fun entry => session.lacks entry.1) = [] := by
    refine List.filter_eq_nil_iff.mpr fun entry hmem => ?_
    obtain ⟨address, haddress⟩ := Table.exists_get? session.games hmem
    simp [lacks, haddress]
  simp [borrowed, hnone]

/-- The addresses of the handle that a name has, if it has one. -/
theorem addresses_handles (address? : Option Nat) :
    (address?.toList.map fun address => (⟨.gameModule, address⟩ : ObjectRef)).map
      ObjectRef.address = address?.toList := by
  cases address? <;> rfl

theorem borrowed_set (hname : base.games.get? name = none) (address other : Nat) :
    (base.borrowed { session with games := session.games.set name address }).count other +
        (((session.games.get? name).toList.map fun address =>
          (⟨.gameModule, address⟩ : ObjectRef)).map ObjectRef.address).count other =
      (base.borrowed session).count other + [address].count other := by
  unfold borrowed
  rw [addresses_handles, Table.filter_set base.lacks session.games (lacks_of_none hname),
    ← Table.get?_filter base.lacks session.games (lacks_of_none hname)]
  exact Table.count_set _ name address other

theorem borrowed_erase (hname : base.games.get? name = none) (other : Nat) :
    (base.borrowed { session with games := session.games.erase name }).count other +
        (((session.games.get? name).toList.map fun address =>
          (⟨.gameModule, address⟩ : ObjectRef)).map ObjectRef.address).count other ≤
      (base.borrowed session).count other := by
  have hcomm : (session.games.erase name).filter (fun entry => base.lacks entry.1) =
      Table.erase (session.games.filter fun entry => base.lacks entry.1) name := by
    simp [Table.erase, List.filter_filter, Bool.and_comm]
  unfold borrowed
  rw [addresses_handles, hcomm,
    ← Table.get?_filter base.lacks session.games (lacks_of_none hname)]
  exact Table.count_erase _ name other

/-- A session in which game modules have been loaded and dropped since another one. -/
structure Runs (base session : Session) : Prop where
  brings : ∃ lent since, session.world.Brings base.held base.world.outset [] [] lent since ∧
    ∀ address, (base.borrowed session).count address ≤ lent.count address

/-- Some handles are given back, and enough is left for the others. -/
theorem count_remainder {left given all : List Nat}
    (hfits : ∀ address, left.count address + given.count address ≤ all.count address) :
    (∀ address, (given ++ all.diff given).count address = all.count address) ∧
      ∀ address, left.count address ≤ (all.diff given).count address := by
  constructor
  · intro address
    have hcount := hfits address
    rw [List.count_append, List.count_diff]
    omega
  · intro address
    have hcount := hfits address
    rw [List.count_diff]
    omega

/-- The handles that are left when some of those are dropped that are lent. -/
theorem Brings.drops {refs : List ObjectRef} {left : List Nat}
    (hbrings : session.world.Brings base.held base.world.outset [] [] lent since)
    (hleft : ∀ address, left.count address + (refs.map ObjectRef.address).count address ≤
      lent.count address) :
    ∃ given more, (∀ address, left.count address ≤ given.count address) ∧
      (Act.after (Act.dropObjects refs) session.world).Brings base.held base.world.outset [] []
        given (more ++ since) ∧
      session.world.Dismisses (Act.after (Act.dropObjects refs) session.world) more := by
  obtain ⟨hgiven, hremains⟩ := count_remainder hleft
  obtain ⟨more, hdropped, hdismisses⟩ := hbrings.dismisses hgiven
  exact ⟨_, more, hremains, hdropped, hdismisses⟩

/-- Handles that are not under a name any more are dropped. -/
theorem Runs.drops (session : Session) (games : Table String Nat) {refs : List ObjectRef}
    {world : World} (hbrings : world.Brings base.held base.world.outset [] [] lent since)
    (hleft : ∀ address, (base.borrowed { session with games := games }).count address +
      (refs.map ObjectRef.address).count address ≤ lent.count address) :
    base.Runs { session with
      games := games
      world := Act.after (Act.dropObjects refs) world } := by
  obtain ⟨given, more, hgiven, hdropped, -⟩ :=
    @Brings.drops since lent base { session with world := world } refs _ hbrings hleft
  exact ⟨given, more ++ since, hdropped, hgiven⟩

/-- What a load step makes of a session. -/
theorem after_loadAnswer (target : Option String) {loader : Loader}
    (hloader : session.world.loader = some loader) :
    after (GameStep.loadAnswer name requestedBy target) session =
      match Act.result (Act.load name requestedBy) session.world with
      | .ok root => after (bindGame target root)
          { session with world := Act.after (Act.load name requestedBy) session.world }
      | .error _ =>
          { session with world := Act.after (Act.load name requestedBy) session.world } := by
  unfold GameStep.loadAnswer
  rw [after_needLoader_bind, hloader]
  dsimp only
  rw [after_bind, outcome_act, after_act]
  cases Act.result (Act.load name requestedBy) session.world with
  | error cause => rfl
  | ok root =>
      dsimp only
      unfold SessionAct.world
      simp only [bind_assoc, pure_bind]
      rw [after_get_bind, after_bind]
      cases outcome (bindGame target root)
        { session with world := Act.after (Act.load name requestedBy) session.world } <;> rfl

/-- What loads have told and given. -/
theorem Brings.load {outset : Outset}
    (hbrings : session.world.Brings held outset [] [] lent since)
    (name requestedBy : String) :
    ∃ more, Raised held outset [] [] lent since more
      (Act.result (Act.load name requestedBy) session.world,
        Act.after (Act.load name requestedBy) session.world) := by
  unfold Act.load
  rw [Act.result_get_bind, Act.after_get_bind]
  exact (Act.loadNested_raises _).run name requestedBy hbrings (by simp [Marks])
    (List.nil_subset _)

/-- What becomes of a session in a load: the game module that is loaded gets the name, and handles
are dropped that have none. -/
theorem loadAnswer_leaves {outset : Outset}
    (hbrings : session.world.Brings held outset [] [] lent since)
    (hlent : ∀ address, (base.borrowed session).count address ≤ lent.count address)
    (name requestedBy : String) {target : Option String}
    (htarget : ∀ name ∈ target, base.games.get? name = none) :
    ∃ given more games refs world, World.Brings held outset [] [] given (more ++ since) world ∧
      (∀ address, (base.borrowed { session with games := games }).count address +
        (refs.map ObjectRef.address).count address ≤ given.count address) ∧
      after (GameStep.loadAnswer name requestedBy target) session = { session with
        games := games
        world := Act.after (Act.dropObjects refs) world } := by
  have hnothing : ∀ world, Act.after (Act.dropObjects []) world = world := fun world =>
    Act.dropAll_of_dropSome rfl
  cases hloader : session.world.loader with
  | none =>
      refine ⟨lent, [], session.games, [], session.world, hbrings, hlent, ?_⟩
      unfold GameStep.loadAnswer
      rw [after_needLoader_bind, hloader, hnothing]
  | some loader =>
      obtain ⟨more, hloaded, -⟩ := Brings.load hbrings name requestedBy
      rw [after_loadAnswer target hloader]
      cases hresult : Act.result (Act.load name requestedBy) session.world with
      | error cause =>
          rw [hresult] at hloaded
          exact ⟨lent, more, session.games, [], _, hloaded, hlent, by rw [hnothing]⟩
      | ok root =>
          rw [hresult] at hloaded
          unfold bindGame
          cases target with
          | none =>
              refine ⟨root :: lent, more, session.games, [⟨.gameModule, root⟩], _, hloaded,
                fun address => ?_, rfl⟩
              have hcount := hlent address
              show (base.borrowed session).count address + [root].count address ≤ _
              simp only [List.count_cons, List.count_nil]
              omega
          | some label =>
              have hname := htarget label rfl
              refine ⟨root :: lent, more, session.games.set label root, _, _, hloaded,
                fun address => ?_, rfl⟩
              rw [borrowed_set hname root address, List.count_cons, List.count_cons,
                List.count_nil]
              have hcount := hlent address
              omega

theorem Runs.loads (hruns : base.Runs session) (name requestedBy : String)
    {target : Option String} (htarget : ∀ name ∈ target, base.games.get? name = none) :
    base.Runs (after (GameStep.loadAnswer name requestedBy target) session) := by
  obtain ⟨lent, since, hbrings, hlent⟩ := hruns.brings
  obtain ⟨given, more, games, refs, world, hgiven, hleft, hafter⟩ :=
    loadAnswer_leaves hbrings hlent name requestedBy htarget
  rw [hafter]
  exact Runs.drops session games hgiven hleft

/-- A handle is dropped. -/
theorem Runs.dropsGame (hruns : base.Runs session) (hname : base.games.get? name = none) :
    base.Runs (after (FileStep.dropGame name) session) := by
  obtain ⟨lent, since, hbrings, hlent⟩ := hruns.brings
  exact Runs.drops session (session.games.erase name) hbrings fun address =>
    Nat.le_trans (borrowed_erase hname address) (hlent address)

theorem Runs.cleared (hruns : base.Runs session) : base.Runs session.cleared := by
  obtain ⟨lent, since, hbrings, hlent⟩ := hruns.brings
  have hsteady : session.world.Steady session.cleared.world :=
    ⟨rfl, rfl, rfl, rfl, rfl, rfl, fun _ => rfl, rfl, fun _ => rfl, id, id⟩
  exact ⟨lent, since, hbrings.steady hsteady rfl rfl, hlent⟩

/-- Each errand goes on from a session in which game modules have been loaded and dropped. -/
theorem Runs.step (hruns : base.Runs session) {step : Step} (herrand : step.IsErrand base) :
    base.Runs (session.step step).2 := by
  refine Runs.cleared ?_
  match step, herrand with
  | .onGames (.load name requestedBy target), htarget => exact hruns.loads name requestedBy htarget
  | .onFiles (.drop .game name), hname => exact hruns.dropsGame hname

theorem Runs.run (hruns : base.Runs session) (herrands : ∀ step ∈ errands, step.IsErrand base) :
    base.Runs (session.run errands) := by
  induction errands generalizing session with
  | nil => exact hruns
  | cons step rest ih =>
      exact ih (hruns.step (herrands step List.mem_cons_self)) fun other hother =>
        herrands other (List.mem_cons_of_mem step hother)

/-- A load brings game modules into being that were not there before it. -/
theorem Runs.raised (hruns : base.Runs session) (name requestedBy : String) :
    ∃ more, Raised base.held session.world.outset [] [] [] [] more
      (Act.result (Act.load name requestedBy) session.world,
        Act.after (Act.load name requestedBy) session.world) := by
  obtain ⟨lent, since, hbrings, -⟩ := hruns.brings
  have hstart : session.world.Brings base.held session.world.outset [] [] [] [] :=
    .refl hbrings.sound hbrings.holds hbrings.orderly hbrings.grows.assigned.numbered
  exact Brings.load hstart name requestedBy

/-- A handle that is dropped dismisses the game modules that die with it. -/
theorem Runs.dismisses (hruns : base.Runs session) (hname : base.games.get? name = none) :
    ∃ more, session.world.Dismisses (session.step (.onFiles (.drop .game name))).2.world more := by
  obtain ⟨lent, since, hbrings, hlent⟩ := hruns.brings
  obtain ⟨given, more, -, -, hdismisses⟩ := Brings.drops hbrings fun address =>
    Nat.le_trans (borrowed_erase hname address) (hlent address)
  exact ⟨more, hdismisses.recorded, hdismisses.only, hdismisses.each, hdismisses.order⟩

/-- A session in which nothing has been loaded or dropped yet. -/
theorem Runs.refl (hsound : session.Sound) (horderly : session.world.Orderly [] [] [])
    (hnumbered : session.world.scripts.Numbered) {loader : Loader}
    (hloader : session.world.loader = some loader) : session.Runs session := by
  have hholds : 0 < session.held.executor + session.world.loaderHold := by
    simp [World.loaderHold, hloader]
  refine ⟨[], [], .refl hsound hholds horderly hnumbered, fun address => ?_⟩
  rw [borrowed_self]

/-- The game modules that a session loads and drops are initialized and released in order,
whatever has happened before to others: the host has chosen no numbers for modules, it has
registered no files under numbers that have not been given yet, and values that it has given as
ones without objects have had none. -/
theorem initialized_and_released_in_order (files : FileTree) (plan : ExecutorPlan)
    (hplain : ∀ step ∈ steps, step.IsPlain) (hchosen : ∀ step ∈ steps, step.chosen = none)
    (hwatched : ∀ registration, ((begin files plan).run steps).world.scripts.Watches registration →
      registration.id < ((begin files plan).run steps).world.executor.nextId)
    (hloader : ((begin files plan).run steps).world.loader.isSome = true)
    (herrands : ∀ step ∈ errands, step.IsErrand ((begin files plan).run steps)) :
    let base := (begin files plan).run steps
    let session := base.run errands
    (∀ name requestedBy root,
      Act.result (Act.load name requestedBy) session.world = .ok root → ∃ more,
        session.world.Welcomes (Act.after (Act.load name requestedBy) session.world) more) ∧
    (∀ name, base.games.get? name = none → ∃ more,
      session.world.Dismisses (session.step (.onFiles (.drop .game name))).2.world more) ∧
    ∀ name requestedBy cause,
      Act.result (Act.load name requestedBy) session.world = .error cause → ∃ more,
        session.world.Retracts (Act.after (Act.load name requestedBy) session.world) more := by
  have hsound : ((begin files plan).run steps).Sound := begin_run_sound files plan steps
  have horderly := (run_keeps_order (begin_sound files plan) (begin_keeps_order files plan)
    hplain).world
  have hidentified := run_identified (begin_sound files plan) (begin_identified files plan) hchosen
  generalize (begin files plan).run steps = base at *
  intro base session
  obtain ⟨loader, hloader⟩ := Option.isSome_iff_exists.mp hloader
  have hruns : base.Runs session := (Runs.refl hsound horderly
    ⟨hidentified.modules, hidentified.registered, fun hwatches => hwatched _ hwatches⟩
    hloader).run herrands
  refine ⟨fun name requestedBy root hloaded => ?_, fun name hname => ?_,
    fun name requestedBy cause hfailed => ?_⟩
  · obtain ⟨more, hraised⟩ := hruns.raised name requestedBy
    rw [hloaded] at hraised
    exact ⟨more, hraised.welcomes⟩
  · exact hruns.dismisses hname
  · obtain ⟨more, hraised⟩ := hruns.raised name requestedBy
    rw [hfailed] at hraised
    exact ⟨more, hraised.retracts⟩

/-- Descriptions of a game module without imports, of one that imports it, and of one that
imports both. -/
def sharedFiles : FileTree where
  root := .directory [("game.src", .file (.text "")),
    ("core.json", describing "core" "" "game.src"),
    ("left.json", describing "left" "\"/core.json\"" "game.src"),
    ("main.json", describing "main" "\"/left.json\", \"/core.json\"" "game.src")]
  workingDirectory := []

/-- A session that has made a loader for these descriptions. -/
def sharing : Session :=
  (begin sharedFiles ⟨none, none, none, none, []⟩).run [.onGames (.loader none "json")]

/-- The load of the game module that imports both others. -/
def sharedErrands : List Step :=
  [.onGames (.load "/main.json" "host" (some "m"))]

/-- The game module that is imported twice is initialized first and released last. -/
theorem initialized_and_released_in_order_shared :
    (∃ more, (sharing.run sharedErrands).world.Dismisses
      ((sharing.run sharedErrands).step (.onFiles (.drop .game "m"))).2.world more) ∧
    ((sharing.run sharedErrands).step (.onFiles (.drop .game "m"))).2.world.deliveries.map
      (fun delivery => (delivery.game, delivery.event)) =
        [(3, .release), (2, .release), (1, .release), (1, .init), (2, .init), (3, .init)] := by
  refine ⟨?_, by decide +kernel⟩
  obtain ⟨hwatcher, hloader, hname⟩ : sharing.world.executor.watcher.isNone = true ∧
      sharing.world.loader.isSome = true ∧ sharing.games.get? "m" = none := by
    decide +kernel
  have hwatched : ∀ registration, sharing.world.scripts.Watches registration →
      registration.id < sharing.world.executor.nextId := by
    rintro registration ⟨watcher, hsome, -⟩
    have hnone := hsome.symm.trans (Option.isNone_iff_eq_none.mp hwatcher)
    cases hnone
  have herrands : ∀ step ∈ sharedErrands, step.IsErrand sharing := by
    simpa [sharedErrands, Step.IsErrand] using hname
  have hordered := @initialized_and_released_in_order [.onGames (.loader none "json")]
    sharedErrands sharedFiles ⟨none, none, none, none, []⟩ (by simp [Step.IsPlain])
    (by simp [Step.chosen])
  rw [← sharing] at hordered
  exact (hordered hwatched hloader herrands).2.1 "m" hname
end Session

end ScriptHost
