import ScriptHost.Proofs.Loading
import ScriptHost.Session.Step

/-!
Sessions and what their parts make of them. A session holds the executor until it
has let it go, and one handle of a script module for every name that stands for
one. Handles that a part of a step has taken beyond these are accounted for
separately until they are dropped or given a name.
-/

namespace ScriptHost

namespace Session

/-- What a session holds of its world. -/
def held (session : Session) : Holdings where
  executor := if session.hasExecutor then 1 else 0
  modules := session.modules.map Prod.snd

/-- Whether a session still holds on to a compiled script, by itself, in a function
or in a callback. -/
def Holds (session : Session) (compiled : Compiled) : Prop :=
  (∃ name, session.compiled.get? name = some compiled) ∨
  (∃ name function, session.functions.get? name = some function ∧
    function.compiled = compiled) ∨
  ∃ name callback function, session.callbacks.get? name = some callback ∧
    callback.function = some function ∧ function.compiled = compiled

/-- Whether an object has a name in a session. -/
def Named (session : Session) (ref : ObjectRef) : Prop :=
  ∃ name, session.objects.get? name = some ref

/-- A session that follows another one. Its world comes of the other one's, with the
handles of `left` besides those that the session holds, and it does not hold on to
compiled scripts that the other one did not, other than those `given`. What has a name
as an object had one before, or it is in its world. -/
structure Follows (given : Compiled → Prop) (left : List Nat)
    (before after : Session) : Prop where
  world : before.world.Reaches (after.held.taking left) Touch.ordinary after.world
  holds : ∀ {compiled}, after.Holds compiled →
    before.Holds compiled ∨ given compiled
  named : ∀ {ref}, after.Named ref →
    before.Named ref ∨ ref.address < after.world.objects.next

variable {given : Compiled → Prop}

theorem Follows.trans {left left' : List Nat} {first second third : Session}
    (hfirst : first.Follows given left second)
    (hsecond : second.Follows given left' third) :
    first.Follows given left' third where
  world := hfirst.world.trans hsecond.world
  holds := fun hholds => (hsecond.holds hholds).elim hfirst.holds .inr
  named := fun hnamed => (hsecond.named hnamed).elim
    (fun hnamed => (hfirst.named hnamed).imp_right fun hthere =>
      Nat.lt_of_lt_of_le hthere hsecond.world.issues.next) .inr

/-- A session whose names remain as they are. -/
theorem Follows.of_world {left : List Nat} {session : Session} {world : World}
    (hworld : session.world.Reaches (session.held.taking left) Touch.ordinary world) :
    session.Follows given left { session with world := world } where
  world := hworld
  holds := .inl
  named := .inl

end Session

namespace SessionAct

variable {α β : Type} {given : Compiled → Prop} {left : List Nat} {session : Session}

/-- What a part of a step gives. -/
def outcome (act : SessionAct α) (session : Session) : Except Missing α :=
  (act.run.run session).1

/-- The session that a part of a step leaves behind. -/
def after (act : SessionAct α) (session : Session) : Session :=
  (act.run.run session).2

@[simp]
theorem outcome_pure (value : α) (session : Session) :
    outcome (pure value) session = .ok value := rfl

@[simp]
theorem after_pure (value : α) (session : Session) :
    after (pure value) session = session := rfl

/-- What two parts of a step leave behind, of which the second is taken if the first
one has found its names. -/
theorem after_bind (act : SessionAct α) (next : α → SessionAct β) (session : Session) :
    after (act >>= next) session =
      match outcome act session with
      | .ok value => after (next value) (after act session)
      | .error _ => after act session := by
  have hbind : (act >>= next).run = (act.run >>= ExceptT.bindCont next) := rfl
  unfold after outcome
  rw [hbind]
  simp only [StateT.run_bind]
  cases act.run.run session with
  | mk found session =>
      cases found with
      | ok value => rfl
      | error absent => rfl

theorem outcome_bind (act : SessionAct α) (next : α → SessionAct β) (session : Session) :
    outcome (act >>= next) session =
      match outcome act session with
      | .ok value => outcome (next value) (after act session)
      | .error absent => .error absent := by
  have hbind : (act >>= next).run = (act.run >>= ExceptT.bindCont next) := rfl
  unfold after outcome
  rw [hbind]
  simp only [StateT.run_bind]
  cases act.run.run session with
  | mk found session =>
      cases found with
      | ok value => rfl
      | error absent => rfl

theorem after_get_bind (next : Session → SessionAct β) (session : Session) :
    after (get >>= next) session = after (next session) session := rfl

theorem outcome_get_bind (next : Session → SessionAct β) (session : Session) :
    outcome (get >>= next) session = outcome (next session) session := rfl

/-- What a name that may stand for nothing gives. -/
theorem outcome_found (name : String) (value : Option α) (session : Session) :
    outcome (found name value) session =
      match value with
      | some value => .ok value
      | none => .error ⟨name⟩ := by
  cases value <;> rfl

@[simp]
theorem after_found (name : String) (value : Option α) (session : Session) :
    after (found name value) session = session := by
  cases value <;> rfl

@[simp]
theorem outcome_act (operation : Act α) (session : Session) :
    outcome (act operation) session = .ok (Act.result operation session.world) := rfl

@[simp]
theorem after_act (operation : Act α) (session : Session) :
    after (act operation) session =
      { session with world := Act.after operation session.world } := rfl

/-- Whether a part of a step can be put together freely with others: whatever handles
have been taken before it are still there afterwards, and the session gets hold of
no compiled scripts but those `given`. -/
structure Gives (given : Compiled → Prop) (act : SessionAct α) : Prop where
  follows : ∀ {left : List Nat} {session : Session},
    session.world.Sound (session.held.taking left) →
      session.Follows given left (after act session)

/-- Whether a part of a step can be put together freely with others and gets hold of
no compiled scripts. -/
abbrev IsOrdinary (act : SessionAct α) : Prop :=
  Gives (fun _ => False) act

theorem follows_refl (hsession : session.world.Sound (session.held.taking left)) :
    session.Follows given left session :=
  ⟨.refl hsession, .inl, .inl⟩

theorem Gives.mono {less : Compiled → Prop} {act : SessionAct α}
    (hact : Gives less act) (hmono : ∀ compiled, less compiled → given compiled) :
    Gives given act :=
  ⟨fun hsession => ⟨(hact.follows hsession).world,
    fun hholds => ((hact.follows hsession).holds hholds).imp_right (hmono _),
    (hact.follows hsession).named⟩⟩

theorem IsOrdinary.gives {act : SessionAct α} (hact : IsOrdinary act) :
    Gives given act :=
  hact.mono fun _ => False.elim

theorem Gives.pure (value : α) : Gives given (Pure.pure value : SessionAct α) :=
  ⟨follows_refl⟩

theorem Gives.throw (absent : Missing) :
    Gives given (throw absent : SessionAct α) :=
  ⟨follows_refl⟩

theorem Gives.get : Gives given (MonadState.get : SessionAct Session) :=
  ⟨follows_refl⟩

theorem Gives.bind {act : SessionAct α} {next : α → SessionAct β}
    (hact : Gives given act) (hnext : ∀ value, Gives given (next value)) :
    Gives given (act >>= next) := by
  refine ⟨fun {left session} hsession => ?_⟩
  have hfirst := hact.follows hsession
  rw [after_bind]
  split
  · rename_i value _
    exact hfirst.trans ((hnext value).follows hfirst.world.sound)
  · exact hfirst

/-- Two parts of a step, of which the second needs to know something about what the
first one gives. -/
theorem Gives.bind_of {act : SessionAct α} {next : α → SessionAct β}
    (good : α → Prop) (hact : Gives given act)
    (hgood : ∀ session value, outcome act session = .ok value → good value)
    (hnext : ∀ value, good value → Gives given (next value)) :
    Gives given (act >>= next) := by
  refine ⟨fun {left session} hsession => ?_⟩
  have hfirst := hact.follows hsession
  rw [after_bind]
  split
  · rename_i value hvalue
    exact hfirst.trans
      ((hnext value (hgood session value hvalue)).follows hfirst.world.sound)
  · exact hfirst

theorem act_isOrdinary {operation : Act α} (hoperation : operation.IsOrdinary) :
    IsOrdinary (act operation) :=
  ⟨fun hsession => .of_world (hoperation.reaches hsession)⟩

/-- An operation that has accounted for what is to be dropped after it. -/
theorem actDropping_isOrdinary {operation : Act (α × List Owned)}
    (hoperation : ∀ {held : Holdings} {world : World}, world.Sound held →
      world.Reaches (held.taking (Owned.modules (Act.result operation world).2))
        Touch.ordinary (Act.after operation world)) :
    IsOrdinary (actDropping operation) :=
  act_isOrdinary ⟨fun hworld => Act.dropping_reaches (hoperation hworld)⟩

theorem world_isOrdinary : IsOrdinary world :=
  .bind .get fun _ => .pure _

theorem found_isOrdinary (name : String) (value : Option α) :
    IsOrdinary (found name value) := by
  cases value with
  | some value => exact .pure value
  | none => exact .throw _

theorem needExecutor_isOrdinary : IsOrdinary needExecutor := by
  refine .bind .get fun session => ?_
  split
  · exact .pure _
  · exact .throw _

theorem needLoader_isOrdinary : IsOrdinary needLoader :=
  .bind world_isOrdinary fun _ => found_isOrdinary _ _

theorem moduleNamed_isOrdinary (name : String) : IsOrdinary (moduleNamed name) :=
  .bind .get fun _ => found_isOrdinary _ _

theorem moduleState_isOrdinary (name : String) : IsOrdinary (moduleState name) :=
  .bind (moduleNamed_isOrdinary name) fun _ =>
    .bind world_isOrdinary fun _ => found_isOrdinary _ _

theorem compiledNamed_isOrdinary (name : String) : IsOrdinary (compiledNamed name) :=
  .bind .get fun _ => found_isOrdinary _ _

theorem functionNamed_isOrdinary (name : String) : IsOrdinary (functionNamed name) :=
  .bind .get fun _ => found_isOrdinary _ _

theorem gameNamed_isOrdinary (name : String) : IsOrdinary (gameNamed name) :=
  .bind .get fun _ => found_isOrdinary _ _

theorem gameState_isOrdinary (name : String) : IsOrdinary (gameState name) :=
  .bind (gameNamed_isOrdinary name) fun _ =>
    .bind world_isOrdinary fun _ => found_isOrdinary _ _

theorem objectNamed_isOrdinary (name : String) : IsOrdinary (objectNamed name) :=
  .bind .get fun _ => found_isOrdinary _ _

/-- A change of names that stand for no script module. -/
theorem modify_gives (change : Session → Session)
    (hworld : ∀ session, (change session).world = session.world)
    (hheld : ∀ session, (change session).held = session.held)
    (hnamed : ∀ session ref, (change session).Named ref → session.Named ref)
    (hholds : ∀ {session compiled}, (change session).Holds compiled →
      session.Holds compiled ∨ given compiled) :
    Gives given (modify change : SessionAct PUnit) := by
  refine ⟨fun {left session} hsession => ?_⟩
  have hafter : after (modify change : SessionAct PUnit) session = change session := rfl
  rw [hafter]
  refine ⟨?_, hholds, fun hold => .inl (hnamed _ _ hold)⟩
  rw [hworld, hheld]
  exact .refl hsession

/-- What an operation hands out may be dropped as the next thing, if the operation has
accounted for it. -/
theorem Gives.act_dropping {operation : Act α} (owned : α → List Owned)
    {next : α → SessionAct β}
    (hoperation : ∀ {held : Holdings} {world : World}, world.Sound held →
      world.Reaches
        (held.taking (Owned.modules (owned (Act.result operation world))))
        Touch.ordinary (Act.after operation world))
    (hnext : ∀ value, Gives given (next value)) :
    Gives given (do
      let value ← act operation
      act (Act.dropAll (owned value))
      next value) := by
  refine ⟨fun {left session} hsession => ?_⟩
  have hfirst := hoperation hsession
  have hdropped := hfirst.trans (Act.dropAll_reaches hfirst.sound)
  rw [after_bind, outcome_act, after_act]
  dsimp only
  rw [after_bind, outcome_act, after_act]
  exact (Session.Follows.of_world hdropped).trans ((hnext _).follows hdropped.sound)

/-- What is done with the executor is done while the host holds it. -/
theorem needExecutor_bind {next : Executor → SessionAct β}
    (hnext : ∀ {left : List Nat} {session : Session}, session.hasExecutor = true →
      session.world.Sound (session.held.taking left) →
        session.Follows given left (after (next session.world.executor) session)) :
    Gives given (needExecutor >>= next) := by
  refine ⟨fun {left session} hsession => ?_⟩
  unfold needExecutor
  rw [bind_assoc, after_get_bind]
  split
  · rename_i hexecutor
    exact hnext hexecutor hsession
  · exact follows_refl hsession

/-- What is done with the executor, if the host holds it. -/
theorem after_needExecutor_bind (next : Executor → SessionAct β) (session : Session) :
    after (needExecutor >>= next) session =
      if session.hasExecutor then after (next session.world.executor) session
      else session := by
  unfold needExecutor
  rw [bind_assoc, after_get_bind]
  cases session.hasExecutor <;> rfl

theorem outcome_needExecutor_bind (next : Executor → SessionAct β) (session : Session) :
    outcome (needExecutor >>= next) session =
      if session.hasExecutor then outcome (next session.world.executor) session
      else .error ⟨"executor"⟩ := by
  unfold needExecutor
  rw [bind_assoc, outcome_get_bind]
  cases session.hasExecutor <;> rfl

/-- What is done with the loader, if there is one. -/
theorem after_needLoader_bind (next : Loader → SessionAct β) (session : Session) :
    after (needLoader >>= next) session =
      match session.world.loader with
      | some loader => after (next loader) session
      | none => session := by
  unfold needLoader world
  simp only [bind_assoc, pure_bind]
  rw [after_get_bind, after_bind, outcome_found, after_found]
  cases session.world.loader <;> rfl

theorem outcome_needLoader_bind (next : Loader → SessionAct β) (session : Session) :
    outcome (needLoader >>= next) session =
      match session.world.loader with
      | some loader => outcome (next loader) session
      | none => .error ⟨"loader"⟩ := by
  unfold needLoader world
  simp only [bind_assoc, pure_bind]
  rw [outcome_get_bind, outcome_bind, outcome_found, after_found]
  cases session.world.loader <;> rfl

/-- What is done with the script module of a name. -/
theorem after_moduleNamed_bind (name : String) (next : Nat → SessionAct β)
    (session : Session) : after (moduleNamed name >>= next) session =
      match session.modules.get? name with
      | some address => after (next address) session
      | none => session := by
  unfold moduleNamed
  rw [bind_assoc, after_get_bind, after_bind, outcome_found, after_found]
  cases session.modules.get? name with
  | none => rfl
  | some address => rfl

theorem outcome_moduleNamed_bind (name : String) (next : Nat → SessionAct β)
    (session : Session) : outcome (moduleNamed name >>= next) session =
      match session.modules.get? name with
      | some address => outcome (next address) session
      | none => .error ⟨name⟩ := by
  unfold moduleNamed
  rw [bind_assoc, outcome_get_bind, outcome_bind, outcome_found, after_found]
  cases session.modules.get? name with
  | none => rfl
  | some address => rfl

/-- What is done with the address of a game module of a name. -/
theorem after_gameNamed_bind (name : String) (next : Nat → SessionAct β)
    (session : Session) : after (gameNamed name >>= next) session =
      match session.games.get? name with
      | some address => after (next address) session
      | none => session := by
  unfold gameNamed
  rw [bind_assoc, after_get_bind, after_bind, outcome_found, after_found]
  cases session.games.get? name with
  | none => rfl
  | some address => rfl

/-- What is done with a living game module of a name. -/
theorem after_gameState_bind (name : String) (next : GameModule → SessionAct β)
    (session : Session) : after (gameState name >>= next) session =
      match (session.games.get? name).bind session.world.game? with
      | some game => after (next game) session
      | none => session := by
  unfold gameState SessionAct.world
  simp only [bind_assoc, pure_bind]
  rw [after_gameNamed_bind]
  cases session.games.get? name with
  | none => rfl
  | some place =>
      dsimp only [Option.bind_some]
      rw [after_get_bind, after_bind, outcome_found, after_found]
      cases session.world.game? place with
      | none => rfl
      | some game => rfl

/-- What is done with a game module of a name is done while it lives. -/
theorem gameState_bind {name : String} {next : GameModule → SessionAct β}
    (hnext : ∀ {left : List Nat} {session : Session} {place : Nat} {game : GameModule},
      session.world.Sound (session.held.taking left) →
        session.world.game? place = some game →
          session.Follows given left (after (next game) session)) :
    Gives given (gameState name >>= next) := by
  refine ⟨fun {left session} hsession => ?_⟩
  rw [after_gameState_bind]
  cases hfound : (session.games.get? name).bind session.world.game? with
  | some game =>
      obtain ⟨place, -, hplace⟩ := Option.bind_eq_some_iff.mp hfound
      exact hnext hsession hplace
  | none => exact follows_refl hsession

/-! ### Names -/

/-- A name takes a handle of a script module over, and the handle that it had is
dropped. -/
theorem bindModule_follows {address : Nat}
    (hsession : session.world.Sound (session.held.taking (address :: left)))
    (name : Option String) :
    session.Follows given left (after (bindModule name address) session) := by
  cases name with
  | none =>
      have hdropped : session.world.Reaches (session.held.taking left) Touch.ordinary
          (Act.after (Act.dropAll [.module address]) session.world) := by
        refine Act.dropAll_reaches (hsession.forget (Nat.le_refl _) fun other => ?_)
        simp only [Holdings.taking, Owned.modules_module, Owned.modules_nil,
          List.cons_append, List.nil_append]
        exact Nat.le_refl _
      exact .of_world hdropped
  | some name =>
      let named : Session :=
        { session with modules := session.modules.set name address }
      have hdropped : session.world.Reaches (named.held.taking left) Touch.ordinary
          (Act.after (Act.dropAll ((session.modules.get? name).toList.map Owned.module))
            session.world) := by
        refine Act.dropAll_reaches (hsession.forget (Nat.le_refl _) fun other => ?_)
        have hcount := Table.count_set session.modules name address other
        rw [Owned.modules_modules]
        simp only [Holdings.taking, Session.held, named, List.count_append,
          List.count_cons, List.count_nil] at hcount ⊢
        omega
      exact ⟨hdropped, .inl, .inl⟩

theorem bindGame_isOrdinary (name : Option String) (address : Nat) :
    IsOrdinary (bindGame name address) := by
  unfold bindGame
  split
  · exact act_isOrdinary (Act.dropObjects_isOrdinary _)
  · exact .bind .get fun _ =>
      .bind (modify_gives _ (fun _ => rfl) (fun _ => rfl) (fun _ _ => id) .inl) fun _ =>
        act_isOrdinary (Act.dropObjects_isOrdinary _)

/-- A name takes an object over that is there. -/
theorem bindObject_follows {ref : ObjectRef}
    (hsession : session.world.Sound (session.held.taking left))
    (hthere : session.Named ref ∨ ref.address < session.world.objects.next) (name : String) :
    session.Follows given left (after (bindObject name ref) session) := by
  let named : Session := { session with objects := session.objects.set name ref }
  have hdropped : session.world.Reaches (named.held.taking left) Touch.ordinary
      (Act.after (Act.dropObjects (session.objects.get? name).toList) session.world) :=
    (Act.dropObjects_isOrdinary _).reaches hsession
  refine ⟨hdropped, .inl, ?_⟩
  rintro other ⟨given, hgiven⟩
  have hget : (session.objects.set name ref).get? given = some other := hgiven
  rw [Table.get?_set] at hget
  split at hget
  · cases hget
    exact hthere.imp_right fun hbelow => Nat.lt_of_lt_of_le hbelow hdropped.issues.next
  · exact .inl ⟨given, hget⟩

/-! ### Values that a step gives -/

theorem allocate_isOrdinary (type : ObjectType) (text : String) (value : Int64) :
    Act.IsOrdinary (do
      let ref ← Act.allocate type (.thing text)
      modify fun world => { world with host := world.host.setValue ref.address value }
      return ref) :=
  .bind (Act.allocate_isQuiet type (by simp)).ordinary fun _ =>
    .bind ⟨fun hworld => (World.Quiet.of_host _).reaches hworld⟩ fun _ => .pure _

theorem takeObject_isOrdinary (given : GivenObject) : IsOrdinary (takeObject given) := by
  cases given with
  | named name =>
      exact .bind (objectNamed_isOrdinary name) fun _ =>
        .bind (act_isOrdinary (Act.retain_isQuiet _).ordinary) fun _ => .pure _
  | fresh type text value => exact act_isOrdinary (allocate_isOrdinary type text value)

/-- What a step gives is there, or it has a name already. -/
theorem takeObject_there {given : GivenObject} {ref : ObjectRef}
    (htaken : outcome (takeObject given) session = .ok ref) :
    (after (takeObject given) session).Named ref ∨
      ref.address < (after (takeObject given) session).world.objects.next := by
  cases given with
  | named name =>
      have hnamed : takeObject (.named name) = get >>= fun session =>
          found name (session.objects.get? name) >>= fun ref =>
            act (Act.retain [ref]) >>= fun _ => pure ref := rfl
      rw [hnamed, outcome_get_bind, outcome_bind, outcome_found, after_found] at htaken
      rw [hnamed, after_get_bind, after_bind, outcome_found, after_found]
      cases hget : session.objects.get? name with
      | none =>
          rw [hget] at htaken
          cases htaken
      | some found =>
          rw [hget] at htaken
          cases htaken
          exact .inl ⟨name, hget⟩
  | fresh type text value =>
      cases htaken
      exact .inr (Nat.lt_succ_self _)

/-- What holds of taking objects and of parts of a step that are put together. It holds of
taking any values that a step gives. -/
structure IsTaking (motive : ∀ {α : Type}, SessionAct α → Prop) : Prop where
  pure : ∀ {α : Type} (value : α), motive (pure value)
  bind : ∀ {α β : Type} {act : SessionAct α} {next : α → SessionAct β}, motive act →
    (∀ value, motive (next value)) → motive (act >>= next)
  object : ∀ given : GivenObject, motive (takeObject given)

mutual

theorem IsTaking.script {motive : ∀ {α : Type}, SessionAct α → Prop}
    (htaking : IsTaking motive) : ∀ given : GivenScript, motive (takeScript given)
  | .unit | .bool _ | .int _ | .float _ | .char _ | .string _ => by
      unfold takeScript
      exact htaking.pure _
  | .array items => by
      unfold takeScript
      exact htaking.bind (htaking.items items) fun _ => htaking.pure _
  | .map entries => by
      unfold takeScript
      exact htaking.bind (htaking.entries entries) fun _ => htaking.pure _
  | .object given => by
      unfold takeScript
      exact htaking.bind (htaking.object given) fun _ => htaking.pure _

theorem IsTaking.items {motive : ∀ {α : Type}, SessionAct α → Prop}
    (htaking : IsTaking motive) : ∀ items : List GivenScript, motive (takeItems items)
  | [] => by
      unfold takeItems
      exact htaking.pure _
  | item :: rest => by
      unfold takeItems
      exact htaking.bind (htaking.script item) fun _ =>
        htaking.bind (htaking.items rest) fun _ => htaking.pure _

theorem IsTaking.entries {motive : ∀ {α : Type}, SessionAct α → Prop}
    (htaking : IsTaking motive) :
    ∀ entries : List (String × GivenScript), motive (takeEntries entries)
  | [] => by
      unfold takeEntries
      exact htaking.pure _
  | (key, item) :: rest => by
      unfold takeEntries
      exact htaking.bind (htaking.script item) fun _ =>
        htaking.bind (htaking.entries rest) fun _ => htaking.pure _

end

theorem IsTaking.natives {motive : ∀ {α : Type}, SessionAct α → Prop}
    (htaking : IsTaking motive) : ∀ given : List GivenNative, motive (takeNatives given)
  | [] => htaking.pure _
  | first :: rest => by
      have hfirst : motive (takeNative first) := by
        cases first with
        | plain value => exact htaking.pure _
        | object given => exact htaking.bind (htaking.object given) fun _ => htaking.pure _
        | script given => exact htaking.bind (htaking.script given) fun _ => htaking.pure _
      exact htaking.bind hfirst fun _ =>
        htaking.bind (htaking.natives rest) fun _ => htaking.pure _

theorem isTaking_isOrdinary : IsTaking IsOrdinary :=
  ⟨.pure, .bind, takeObject_isOrdinary⟩

theorem takeScript_isOrdinary (given : GivenScript) : IsOrdinary (takeScript given) :=
  isTaking_isOrdinary.script given

theorem takeEntries_isOrdinary (entries : List (String × GivenScript)) :
    IsOrdinary (takeEntries entries) :=
  isTaking_isOrdinary.entries entries

theorem takeNatives_isOrdinary (given : List GivenNative) : IsOrdinary (takeNatives given) :=
  isTaking_isOrdinary.natives given

theorem dropNatives_isOrdinary (values : List NativeValue) :
    IsOrdinary (dropNatives values) :=
  act_isOrdinary (Act.dropObjects_isOrdinary _)

end SessionAct

end ScriptHost
