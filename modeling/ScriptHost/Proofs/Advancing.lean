import ScriptHost.Proofs.Stepping

/-!
Runs of a session. Whatever steps are taken, in whatever order, the session remains
sound and its script modules make a run of transitions; only a step in which the
host registers files for a module may touch more than ordinary things.
-/

namespace ScriptHost

namespace Session

open SessionAct

/-- Whether a session is sound: it accounts for all that it holds. -/
def Sound (session : Session) : Prop :=
  session.world.Sound session.held

/-- A session that comes of another one by a step. Whatever compiled script it holds
on to and the other one did not is that of a script module, and what has a new name as an
object is there. -/
structure Advances (may : Touch → Prop) (before after : Session) : Prop where
  world : before.world.Reaches after.held may after.world
  holds : ∀ {compiled}, after.Holds compiled →
    before.Holds compiled ∨ after.world.Owns compiled
  named : ∀ {ref}, after.Named ref →
    before.Named ref ∨ ref.address < after.world.objects.next

theorem Follows.advances {given : Compiled → Prop} {before after : Session}
    (hfollows : before.Follows given [] after)
    (hgiven : ∀ compiled, given compiled → after.world.Owns compiled) :
    before.Advances Touch.ordinary after :=
  ⟨hfollows.world, fun hholds => (hfollows.holds hholds).imp_right (hgiven _), hfollows.named⟩

theorem Advances.sound {may : Touch → Prop} {before after : Session}
    (hadvances : before.Advances may after) : after.Sound :=
  hadvances.world.sound

end Session

namespace Step

/-- The name and number that a step chooses for a module that it makes. -/
def chosen : Step → Option (String × Nat)
  | .onModules step => step.chosen
  | _ => none

/-- What a step may touch: everything but numbers that it does not choose, and
registrations of files that it does not make. -/
def may (step : Step) : Touch → Prop
  | .number name id => step.chosen = some (name, id)
  | .registrations => ∃ module files id, step = .onFiles (.watch module files id)
  | _ => True

theorem may_of_ordinary (step : Step) (touch : Touch) (hordinary : Touch.ordinary touch) :
    step.may touch := by
  cases touch with
  | number name id => exact hordinary.elim
  | registrations => exact hordinary.elim
  | _ => trivial

end Step

namespace Session

open SessionAct

variable {session : Session}

/-- The host may register files for a module under any number. -/
private theorem watchAnswer_advances (hsession : session.Sound) (module : String)
    (files : List Path) (id : Option Nat) {may : Touch → Prop}
    (hmay : may .registrations) :
    session.Advances may (after (FileStep.watchAnswer module files id) session) := by
  have hstill : session.Advances may session := ⟨.refl hsession, .inl, .inl⟩
  unfold FileStep.watchAnswer
  rw [after_moduleNamed_bind]
  split
  · rename_i address haddress
    unfold needExecutor SessionAct.world
    simp only [bind_assoc, pure_bind]
    rw [after_get_bind]
    split
    · rw [pure_bind, after_get_bind]
      split
      · exact hstill
      · have hregistered := Act.watchFiles_reaches hsession
          (id.getD (((session.world.module? address).map ScriptModule.id).getD 0))
          address files hmay
        rw [after_bind, outcome_act, after_act]
        dsimp only
        split
        · exact ⟨hregistered, .inl, .inl⟩
        · exact ⟨hregistered, .inl, .inl⟩
    · exact hstill
  · exact hstill

/-- The host may make a module under any number. -/
private theorem createNumbered_advances (hsession : session.Sound)
    (target : Option String) (name source : String) (id : Nat) :
    session.Advances (Step.may (.onModules (.create target name source (some id))))
      (after (perform (.onModules (.create target name source (some id)))) session) := by
  obtain ⟨hworld, hholds, hnamed⟩ :=
    ModuleStep.createNumbered_reaches hsession target name source id
  refine ⟨hworld.mono fun touch hmay => ?_, fun hcompiled => .inl (hholds _ hcompiled),
    fun {ref} => hnamed ref⟩
  rcases hmay with hordinary | rfl
  · exact Step.may_of_ordinary _ touch hordinary
  · exact rfl

theorem perform_advances (hsession : session.Sound) (step : Step) :
    session.Advances step.may (after (perform step) session) := by
  have hordinary : ∀ {after : Session}, session.Advances Touch.ordinary after →
      session.Advances step.may after :=
    fun hadvances => ⟨hadvances.world.mono step.may_of_ordinary, hadvances.holds,
      hadvances.named⟩
  have hfree : ∀ {act : SessionAct Answer}, IsOrdinary act →
      session.Advances step.may (after act session) :=
    fun hact => hordinary ((hact.follows hsession : session.Follows _ [] _).advances
      fun _ => False.elim)
  have hgiven : ∀ {act : SessionAct Answer},
      session.Follows (after act session).world.Owns [] (after act session) →
        session.Advances step.may (after act session) :=
    fun hfollows => hordinary (hfollows.advances fun _ => id)
  cases step with
  | onModules step =>
      by_cases hfinds : step.Finds
      · refine hgiven ?_
        cases step with
        | build module target =>
            exact ModuleStep.buildAnswer_follows module target hsession
        | function module name count target =>
            exact ModuleStep.functionAnswer_follows module name count target hsession
        | findListener module name genericType target =>
            exact ModuleStep.findAnswer_follows module name genericType target hsession
        | _ => exact hfinds.elim
      · cases hchosen : step.chosen with
        | none => exact hfree (ModuleStep.perform_isOrdinary hfinds hchosen)
        | some pair =>
            cases step with
            | create target name source id =>
                cases id with
                | none => cases hchosen
                | some id => exact createNumbered_advances hsession target name source id
            | _ => cases hchosen
  | onCalls step => exact hfree (CallStep.perform_isOrdinary step)
  | onGames step => exact hfree (GameStep.perform_isOrdinary step)
  | onFiles step =>
      by_cases hregisters : step.Registers
      · cases step with
        | watch module files id =>
            exact watchAnswer_advances hsession module files id ⟨module, files, id, rfl⟩
        | _ => exact hregisters.elim
      · exact hfree (FileStep.perform_isOrdinary hregisters)

/-- What is reported and emitted concerns nothing else. -/
theorem cleared_quiet (session : Session) :
    session.world.Quiet session.cleared.world :=
  .of_host _

/-- What a step answers. -/
theorem step_answer (session : Session) (step : Step) :
    (session.step step).1.answer =
      match outcome (perform step) session with
      | .ok answer => answer
      | .error absent => .missing absent.name := rfl

/-- What a step makes of the script modules. -/
theorem step_scripts (session : Session) (step : Step) :
    (session.step step).2.world.scripts =
      (after (perform step) session).world.scripts := rfl

/-- Every step keeps a session sound. -/
theorem step_advances (hsession : session.Sound) (step : Step) :
    session.Advances step.may (session.step step).2 := by
  have hperformed := perform_advances hsession step
  have hafter : (session.step step).2 = (after (perform step) session).cleared := rfl
  have hcleared := (after (perform step) session).cleared_quiet
  rw [hafter]
  refine ⟨hperformed.world.trans (hcleared.reaches hperformed.sound), fun hholds => ?_,
    hperformed.named⟩
  refine (hperformed.holds hholds).imp_right ?_
  rintro ⟨address, module, hmodule, hcompiled⟩
  exact ⟨address, module, (hcleared.module? address).trans hmodule, hcompiled⟩

/-! ### Runs of a session -/

/-- The session after some steps. -/
def run (session : Session) (steps : List Step) : Session :=
  steps.foldl (fun session step => (session.step step).2) session

@[simp]
theorem run_nil (session : Session) : session.run [] = session := rfl

@[simp]
theorem run_cons (session : Session) (step : Step) (steps : List Step) :
    session.run (step :: steps) = (session.step step).2.run steps := rfl

/-- What every step keeps, every run keeps. -/
theorem run_keeps {kept : Session → Prop} (hsession : session.Sound)
    (hkept : kept session)
    (hstep : ∀ {session : Session} (step : Step), session.Sound → kept session →
      kept (session.step step).2) (steps : List Step) : kept (session.run steps) := by
  induction steps generalizing session with
  | nil => exact hkept
  | cons step rest ih =>
      exact ih (step_advances hsession step).sound (hstep step hsession hkept)

theorem run_sound (hsession : session.Sound) (steps : List Step) :
    (session.run steps).Sound :=
  run_keeps hsession hsession (fun step hsession _ => (step_advances hsession step).sound)
    steps

/-- The run of transitions that the steps of a session are. -/
theorem run_changes (hsession : session.Sound) (steps : List Step) :
    Scripts.Changes Touch.anything session.world.scripts
      (session.run steps).world.scripts := by
  induction steps generalizing session with
  | nil => exact .refl
  | cons step rest ih =>
      have hstep := step_advances hsession step
      have hchanges : Scripts.Changes Touch.anything session.world.scripts _ :=
        hstep.world.changes.mono fun _ _ => trivial
      exact hchanges.trans (ih hstep.sound)

end Session

end ScriptHost
