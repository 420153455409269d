import ScriptHost.Proofs.Numbering

/-!
The access of compiled scripts that someone still holds on to. Access is granted by
internal name, and what is held may be older than the module that has the name now.
As long as the host makes no module with the name and number of a compiled script
that the session holds, nothing else is ever entered under its internal name, and
what it is granted is the access that it was built with or nothing.
-/

namespace ScriptHost

/-- Whether a module will not be built any more as long as it has been reloaded no
more than `reloads` times. -/
def ScriptModule.IsPast (module : ScriptModule) (reloads : Nat) : Prop :=
  module.state = .discarded ∨ reloads < module.reloads ∨
    module.reloads = reloads ∧ (module.state = .built ∨ module.state = .failed)

theorem ScriptModule.IsPast.turn {running : Bool} {module turned : ScriptModule}
    {reloads : Nat} (hpast : module.IsPast reloads) (hturn : module.Turn running turned) :
    turned.IsPast reloads := by
  have hle := hturn.reloads_le
  rcases hpast with hdiscarded | hmore | ⟨hsame, hbuilt | hfailed⟩
  · exact .inl (hturn.discarded hdiscarded)
  · exact .inr (.inl (by omega))
  · rcases hturn.built hbuilt with hdiscarded | hreloaded | ⟨hstill, -, hreloads⟩
    · exact .inl hdiscarded
    · exact .inr (.inl (by omega))
    · exact .inr (.inr ⟨by omega, .inl hstill⟩)
  · rcases hturn.failed hfailed with hdiscarded | ⟨hstill, hreloads⟩
    · exact .inl hdiscarded
    · exact .inr (.inr ⟨by omega, .inr hstill⟩)

theorem ScriptModule.IsPast.not_ready {module : ScriptModule} {reloads : Nat}
    (hpast : module.IsPast reloads) (hreloads : module.reloads = reloads) :
    module.state ≠ .readyToBuild := by
  rintro hready
  rcases hpast with hdiscarded | hmore | ⟨-, hbuilt | hfailed⟩
  · simp [hready] at hdiscarded
  · omega
  · simp [hready] at hbuilt
  · simp [hready] at hfailed

namespace Scripts

/-- Whether some script module has a compiled script. -/
def Owns (scripts : Scripts) (compiled : Compiled) : Prop :=
  ∃ address module, scripts.module? address = some module ∧
    module.compiled = some compiled

/-- A compiled script of a module with a name and number, under whose internal name
nothing else is entered and no module will be built. -/
structure Confines (scripts : Scripts) (compiled : Compiled) (name : String)
    (id reloads : Nat) : Prop where
  named : compiled.internalName = internalNameOf name id reloads
  counted : id < scripts.counter
  entered : ∀ {found}, scripts.compiled.get? compiled.internalName = some found →
    found = compiled
  past : ∀ {address module}, scripts.module? address = some module →
    module.name = name → module.id = id → module.IsPast reloads

variable {may : Touch → Prop} {before after : Scripts} {compiled : Compiled}
  {name : String} {id reloads : Nat}

/-- Whoever has a compiled script is registered under the number of this script, so
that the number is not free. -/
theorem Confines.not_vacant (hconfines : before.Confines compiled name id reloads)
    (hconsistent : before.Consistent) (howned : before.Owns compiled)
    (hrunning : before.running = true) : ¬ before.IsVacant id := by
  intro hvacant
  obtain ⟨address, module, hmodule, hcompiled⟩ := howned
  have hwell := hconsistent.wellFormed hmodule
  have hbuilt : module.state = .built := hwell.built.mp (by simp [hcompiled])
  have hregistered := hconsistent.registered hrunning hmodule (by simp [hbuilt])
  have hsame := (hwell.own compiled hcompiled).symm.trans hconfines.named
  rw [hwell.named] at hsame
  obtain ⟨-, hid, -⟩ := internalNameOf_injective hsame
  rw [hid] at hregistered
  have hdiscarded := hvacant address module hregistered hmodule
  simp [hbuilt] at hdiscarded

/-- A transition leaves a compiled script alone with its internal name, if a module
still has it or the host does not choose its name and number again. -/
theorem Change.confines (hchange : Change may before after)
    (hconsistent : before.Consistent)
    (hbefore : before.Confines compiled name id reloads)
    (hchosen : before.Owns compiled ∨ ¬ may (.number name id)) :
    after.Confines compiled name id reloads where
  named := hbefore.named
  counted := Nat.lt_of_lt_of_le hbefore.counted hchange.counter_le
  entered := by
    intro found hentered
    rcases hchange.entry hentered with hold | ⟨address, module, hmodule, hready, -, hnamed, -⟩
    · exact hbefore.entered hold
    · rw [hbefore.named, (hconsistent.wellFormed hmodule).named] at hnamed
      obtain ⟨hname, hid, hreloads⟩ := internalNameOf_injective hnamed
      exact absurd hready ((hbefore.past hmodule hname hid).not_ready hreloads)
  past := by
    intro address module hmodule hname hid
    rcases hchange.turn hmodule with ⟨earlier, hearlier, hturn⟩ | hmakes
    · obtain ⟨hsameId, hsameName⟩ := hturn.identity
      exact (hbefore.past hearlier (hsameName ▸ hname) (hsameId ▸ hid)).turn hturn
    · have hvacant := hmakes.vacant
      rw [hid] at hvacant
      rcases hmakes.number with hnext | hmay
      · have hcounted := hbefore.counted
        omega
      · rcases hchosen with howned | hunchosen
        · exact absurd hvacant (hbefore.not_vacant hconsistent howned hmakes.running)
        · rw [hname, hid] at hmay
          exact absurd hmay hunchosen

/-- What a module has just been built to is alone with its internal name. -/
theorem Consistent.confines_built (hafter : after.Consistent)
    (hrunning : after.running = true) (hcounted : after.Counted) {address : Nat}
    {module : ScriptModule} (hmodule : after.module? address = some module)
    (hcompiled : module.compiled = some compiled) :
    after.Confines compiled module.name module.id module.reloads := by
  have hwell := hafter.wellFormed hmodule
  have hbuilt : module.state = .built := hwell.built.mp (by simp [hcompiled])
  have hnamed := hwell.own compiled hcompiled
  refine ⟨hnamed.trans hwell.named, ?_, ?_, ?_⟩
  · exact hcounted _ _ (hafter.registered hrunning hmodule (by simp [hbuilt]))
  · intro found hentered
    rw [hnamed] at hentered
    have hfound := hafter.entered_eq hmodule (by simp [hbuilt]) hentered
    exact Option.some.inj (hfound.symm.trans hcompiled)
  · intro other found hother _ hid
    by_cases hstate : found.state = .discarded
    · exact .inl hstate
    · have hsame := hafter.address_unique hrunning hother hmodule hstate
        (by simp [hbuilt]) hid
      rw [hsame, hmodule] at hother
      cases hother
      exact .inr (.inr ⟨rfl, .inl hbuilt⟩)

/-- Every compiled script that is held from outside, or that a module has, is alone with
its internal name. -/
def ConfinesAll (held : Compiled → Prop) (scripts : Scripts) : Prop :=
  ∀ compiled, held compiled ∨ scripts.Owns compiled →
    ∃ name id reloads, scripts.Confines compiled name id reloads

/-- The numbers that may be chosen are those of no compiled script that is held. -/
def AvoidsHeld (may : Touch → Prop) (held : Compiled → Prop) : Prop :=
  ∀ compiled name id reloads, held compiled →
    compiled.internalName = internalNameOf name id reloads → ¬ may (.number name id)

variable {held : Compiled → Prop}

theorem Change.confinesAll (hchange : Change may before after)
    (hconsistent : before.Consistent) (hcounted : after.Counted)
    (havoids : AvoidsHeld may held) (hbefore : before.ConfinesAll held) :
    after.ConfinesAll held := by
  have hkeep : ∀ {compiled}, held compiled ∨ before.Owns compiled →
      (∀ name id reloads, before.Confines compiled name id reloads →
        before.Owns compiled ∨ ¬ may (.number name id)) →
      ∃ name id reloads, after.Confines compiled name id reloads := by
    intro compiled hheld hchosen
    obtain ⟨name, id, reloads, hconfines⟩ := hbefore compiled hheld
    exact ⟨name, id, reloads, hchange.confines hconsistent hconfines
      (hchosen name id reloads hconfines)⟩
  rintro compiled (hheld | ⟨address, module, hmodule, hcompiled⟩)
  · refine hkeep (.inl hheld) fun name id reloads hconfines => .inr ?_
    exact havoids compiled name id reloads hheld hconfines.named
  · rcases hchange.turn hmodule with ⟨earlier, hearlier, hturn⟩ | hmakes
    · rcases hturn.compiled hcompiled with hold | ⟨hready, hrunning, hbuilt⟩
      · have howned : before.Owns compiled := ⟨address, earlier, hearlier, hold⟩
        exact hkeep (.inr howned) fun _ _ _ _ => .inl howned
      · refine ⟨_, _, _, (hchange.consistent hconsistent).confines_built ?_ hcounted
          hmodule hcompiled⟩
        rcases hchange.running_or_close with hsame | hclosed
        · exact hsame.trans hrunning
        · -- Nothing is built when the executor goes.
          rw [hclosed] at hmodule
          cases hearlier.symm.trans hmodule
          rw [hbuilt] at hready
          cases hready
    · rw [hmakes.state.2] at hcompiled
      cases hcompiled

theorem Changes.confinesAll (hchanges : Changes may before after)
    (hconsistent : before.Consistent) (hcounted : before.Counted)
    (hchosen : before.ChoosesBelow may) (havoids : AvoidsHeld may held)
    (hbefore : before.ConfinesAll held) : after.ConfinesAll held := by
  induction hchanges with
  | refl => exact hbefore
  | tail hearlier hchange ih =>
      have hlater := Changes.counted (.tail hearlier hchange) hcounted hchosen
      exact hchange.confinesAll (Changes.consistent hearlier hconsistent) hlater havoids ih

end Scripts

namespace Session

/-- Every name and number that a run of steps chooses for a script module is one that
no compiled script has which the session holds at that time, and the counter has
passed the number. -/
def ChoosesUnheld : Session → List Step → Prop
  | _, [] => True
  | session, step :: rest =>
    (∀ name id, step.chosen = some (name, id) →
      id < session.world.executor.nextId ∧
        ∀ compiled reloads, session.Holds compiled →
          compiled.internalName ≠ internalNameOf name id reloads) ∧
      ChoosesUnheld (session.step step).2 rest

/-- Compiled scripts that a session holds are alone with their internal names, as long
as their names and numbers are not chosen again. -/
theorem run_confinesAll {session : Session} {steps : List Step}
    (hsession : session.Sound) (hcounted : session.world.scripts.Counted)
    (hconfines : session.world.scripts.ConfinesAll session.Holds)
    (hunheld : session.ChoosesUnheld steps) :
    (session.run steps).world.scripts.ConfinesAll (session.run steps).Holds := by
  induction steps generalizing session with
  | nil => exact hconfines
  | cons step rest ih =>
      obtain ⟨hstep, hrest⟩ := hunheld
      have hadvances := step_advances hsession step
      have hbelow : session.world.scripts.ChoosesBelow step.may :=
        fun name id hchosen => (hstep name id hchosen).1
      have havoids : Scripts.AvoidsHeld step.may session.Holds :=
        fun compiled name id reloads hheld hnamed hchosen =>
          (hstep name id hchosen).2 compiled reloads hheld hnamed
      have hafter := hadvances.world.changes.confinesAll hsession.scripts hcounted hbelow
        havoids hconfines
      refine ih hadvances.sound (hadvances.world.changes.counted hcounted hbelow) ?_ hrest
      rintro compiled (hholds | howned)
      · exact hafter compiled (hadvances.holds hholds)
      · exact hafter compiled (.inr howned)

theorem begin_confinesAll (files : FileTree) (plan : ExecutorPlan) :
    (begin files plan).world.scripts.ConfinesAll (begin files plan).Holds := by
  rintro compiled (hholds | ⟨address, module, hmodule, -⟩)
  · rcases hholds with ⟨name, hname⟩ | ⟨name, function, hname, -⟩ |
      ⟨name, callback, function, hname, -⟩
    · cases hname
    · cases hname
    · cases hname
  · cases hmodule

/-- As long as the host makes no module with the name and number of a compiled script
that the session holds, by itself, in a function or in a callback, that script is
granted what it was built with or nothing. -/
theorem held_access_confined (files : FileTree) (plan : ExecutorPlan)
    {steps : List Step} (hunheld : (begin files plan).ChoosesUnheld steps)
    {compiled : Compiled} (hholds : ((begin files plan).run steps).Holds compiled) :
    let executor := ((begin files plan).run steps).world.executor
    executor.compiled.get? compiled.internalName = none ∧
        executor.granted (some compiled.internalName) = .nothing ∨
      executor.compiled.get? compiled.internalName = some compiled ∧
        executor.granted (some compiled.internalName) = compiled.access := by
  intro executor
  have hsound : ((begin files plan).run steps).Sound := begin_run_sound files plan steps
  obtain ⟨name, id, reloads, hconfines⟩ := run_confinesAll (begin_sound files plan)
    (begin_counted files plan) (begin_confinesAll files plan) hunheld compiled
    (.inl hholds)
  have hgranted : executor.grants.get? compiled.internalName =
      (executor.compiled.get? compiled.internalName).map Compiled.access :=
    hsound.scripts.granted compiled.internalName
  simp only [Executor.granted, Option.bind_some, hgranted]
  cases hentered : executor.compiled.get? compiled.internalName with
  | none => exact .inl ⟨rfl, rfl⟩
  | some found =>
      have hsame : found = compiled := hconfines.entered hentered
      exact .inr ⟨congrArg some hsame, congrArg Compiled.access hsame⟩

/-- Steps that choose no number at all choose none that is held. -/
theorem choosesUnheld_of_automatic {session : Session} {steps : List Step}
    (hautomatic : ∀ step ∈ steps, step.chosen = none) : session.ChoosesUnheld steps := by
  induction steps generalizing session with
  | nil => trivial
  | cons step rest ih =>
      refine ⟨fun name id hchosen => ?_, ih fun later hlater => ?_⟩
      · rw [hautomatic step List.mem_cons_self] at hchosen
        cases hchosen
      · exact hautomatic later (List.mem_cons_of_mem _ hlater)

/-- The steps by which a function is looked up in a module, whose access is changed
before it is reloaded. -/
def reloadingSteps : List Step :=
  [.onModules (.create (some "m") "M" "host" none),
    .onModules (.addSegment "m" "m.txt" 1 "fn f() { 1 }"),
    .onModules (.function "m" "f" 0 (some "f")),
    .onModules (.setAccess "m" .filesOnly),
    .onModules (.reload "m")]

/-- A function that is older than the last reload of its module is granted nothing. -/
theorem held_access_confined_reloaded : bare.ChoosesUnheld reloadingSteps ∧
    ∃ function, (bare.run reloadingSteps).functions.get? "f" = some function ∧
      (bare.run reloadingSteps).world.executor.granted
        (some function.compiled.internalName) = .nothing := by
  have hunheld : bare.ChoosesUnheld reloadingSteps :=
    choosesUnheld_of_automatic
      (by simp [reloadingSteps, Step.chosen, ModuleStep.chosen])
  have hname : ((bare.run reloadingSteps).functions.get? "f").map
      (fun function => function.compiled.internalName) = some "M-1" := by decide +kernel
  have hgone : (bare.run reloadingSteps).world.executor.compiled.has "M-1" = false := by
    decide +kernel
  refine ⟨hunheld, ?_⟩
  obtain ⟨function, hfunction, hname⟩ := Option.map_eq_some_iff.mp hname
  refine ⟨function, hfunction, ?_⟩
  rw [bare] at hunheld hfunction hgone ⊢
  rcases held_access_confined _ _ hunheld
    (.inr (.inl ⟨"f", function, hfunction, rfl⟩)) with ⟨-, hnothing⟩ | ⟨hentered, -⟩
  · exact hnothing
  · rw [hname] at hentered
    have hhas := (Table.has_eq_true_iff _ _).mpr ⟨_, hentered⟩
    rw [hgone] at hhas
    cases hhas

/-- The steps by which a function is looked up in a module, and another module is made
with the same name and number, and built with access to files. -/
def renamingSteps : List Step :=
  [.onModules (.create (some "a") "Old" "host" (some 7)),
    .onModules (.addSegment "a" "a.txt" 1 "fn f() { 1 }"),
    .onModules (.function "a" "f" 0 (some "f")),
    .onModules (.create (some "b") "Old" "host" (some 7)),
    .onModules (.setAccess "b" .filesOnly),
    .onModules (.addSegment "b" "b.txt" 1 ""),
    .onModules (.build "b" none)]

/-- The function of a module that is gone is granted the access of another one. -/
theorem held_access_taken_over :
    ((bare.run renamingSteps).functions.get? "f").map (fun function =>
      (function.compiled.access, (bare.run renamingSteps).world.executor.granted
        (some function.compiled.internalName))) = some (.moduleDefault, .filesOnly) := by
  decide +kernel

end Session

end ScriptHost
