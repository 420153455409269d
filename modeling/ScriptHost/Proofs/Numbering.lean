import ScriptHost.Proofs.Turns

/-!
The numbers of script modules. Those that modules get by themselves come from a
counter, and the host may choose others. As long as the host chooses numbers that
the counter has passed already, the next number of the counter is free: a module
that is made under it takes nobody's place.
-/

namespace ScriptHost

namespace Scripts

/-- The counter has passed the number of every registered module. -/
def Counted (scripts : Scripts) : Prop :=
  ∀ id address, scripts.registry.get? id = some address → id < scripts.counter

/-- Numbers are chosen among those that the counter has passed. -/
def ChoosesBelow (may : Touch → Prop) (scripts : Scripts) : Prop :=
  ∀ name id, may (.number name id) → id < scripts.counter

variable {may : Touch → Prop} {before after : Scripts} {id address : Nat}

/-- What is registered was registered before, unless it is a new module, whose number
has been taken from the counter or chosen. -/
theorem Change.numbers (hchange : Change may before after)
    (hregistered : after.registry.get? id = some address) :
    before.registry.get? id = some address ∨
      (id = before.counter ∧ after.counter = before.counter + 1 ∨
        ∃ name, may (.number name id)) := by
  cases hchange with
  | discard => rw [registry_leave] at hregistered; exact .inl hregistered
  | renew => rw [registry_leave] at hregistered; exact .inl hregistered
  | vanish => rw [registry_leave] at hregistered; exact .inl hregistered
  | create name source number counter _ _ hnumber =>
      simp only [Scripts.create, Table.get?_set] at hregistered
      split at hregistered
      · rename_i hsame
        have hid : number = id := hsame
        subst hid
        rcases hnumber with ⟨hnext, hcounter⟩ | ⟨hchosen, -⟩
        · exact .inr (.inl ⟨hnext, hcounter⟩)
        · exact .inr (.inr ⟨name, hchosen⟩)
      · exact .inl hregistered
  | unregister number =>
      simp only [Scripts.unregister, Table.get?_erase] at hregistered
      split at hregistered
      · cases hregistered
      · exact .inl hregistered
  | close => cases hregistered
  | _ => exact .inl hregistered

theorem Change.counted (hchange : Change may before after) (hbefore : before.Counted)
    (hchosen : before.ChoosesBelow may) : after.Counted := by
  intro id address hregistered
  have hcounter := hchange.counter_le
  rcases hchange.numbers hregistered with hold | ⟨hnext, hused⟩ | ⟨name, hmay⟩
  · exact Nat.lt_of_lt_of_le (hbefore id address hold) hcounter
  · omega
  · exact Nat.lt_of_lt_of_le (hchosen name id hmay) hcounter

theorem Changes.counted (hchanges : Changes may before after) (hbefore : before.Counted)
    (hchosen : before.ChoosesBelow may) : after.Counted := by
  induction hchanges with
  | refl => exact hbefore
  | tail hearlier hchange ih =>
      exact hchange.counted ih fun name id hmay =>
        Nat.lt_of_lt_of_le (hchosen name id hmay) (Changes.counter_le hearlier)

/-- Where no numbers are chosen, a number that the counter has passed does not come to
stand for another module. -/
theorem Changes.keeps_number (hchanges : Changes may before after)
    (hnone : ∀ name id, ¬ may (.number name id)) (hcounted : before.Counted)
    (hregistered : before.registry.get? id = some address) :
    ∀ {other}, after.registry.get? id = some other → other = address := by
  induction hchanges with
  | refl => exact fun hother => Option.some.inj (hother.symm.trans hregistered)
  | tail hearlier hchange ih =>
      intro other hother
      rcases hchange.numbers hother with hold | ⟨hnext, -⟩ | ⟨name, hmay⟩
      · exact ih hold
      · have hpassed := Nat.lt_of_lt_of_le (hcounted _ _ hregistered)
          (Changes.counter_le hearlier)
        omega
      · exact absurd hmay (hnone name id)

end Scripts

namespace Session

/-- Every number that a run of steps chooses for a script module is one that the
counter has passed at that time. -/
def ChoosesBelow : Session → List Step → Prop
  | _, [] => True
  | session, step :: rest =>
    (∀ name id, step.chosen = some (name, id) → id < session.world.executor.nextId) ∧
      ChoosesBelow (session.step step).2 rest

/-- Choosing numbers that the counter has passed keeps them all below it. -/
theorem run_counted {session : Session} {steps : List Step} (hsession : session.Sound)
    (hcounted : session.world.scripts.Counted) (hbelow : session.ChoosesBelow steps) :
    (session.run steps).world.scripts.Counted := by
  induction steps generalizing session with
  | nil => exact hcounted
  | cons step rest ih =>
      obtain ⟨hstep, hrest⟩ := hbelow
      have hadvances := step_advances hsession step
      exact ih hadvances.sound (hadvances.world.changes.counted hcounted hstep) hrest

theorem begin_counted (files : FileTree) (plan : ExecutorPlan) :
    (begin files plan).world.scripts.Counted := by
  intro id address hregistered
  have hempty : (begin files plan).world.scripts.registry = [] :=
    plan.executor_isFresh.registry
  rw [hempty] at hregistered
  cases hregistered

end Session

/-- A script module is added to a world, under a number that no registered module has,
and everything else about script modules remains as it is. -/
structure World.Adds (before after : World) (address id : Nat) (module : ScriptModule) :
    Prop where
  free : ∀ other, before.executor.registry.get? id ≠ some other
  fresh : before.module? address = none
  module : after.module? address = some module ∧ module.id = id
  others : ∀ other, other ≠ address → after.module? other = before.module? other
  registry : ∀ number, after.executor.registry.get? number =
    if id = number then some address else before.executor.registry.get? number
  compiled : after.executor.compiled = before.executor.compiled
  grants : after.executor.grants = before.executor.grants
  watcher : after.executor.watcher = before.executor.watcher

/-- Making a module under the next number takes nobody's place, if the counter has
passed all numbers that are in use. -/
theorem Act.createModule_adds {held : Holdings} {world : World} (hworld : world.Sound held)
    (hcounted : world.scripts.Counted) (name source : String) :
    world.Adds (after (createModule name source) world)
      (result (createModule name source) world) world.executor.nextId
      (.create world.executor.nextId name source) := by
  have hfree : world.executor.registry.get? world.executor.nextId = none := by
    rw [Option.eq_none_iff_forall_ne_some]
    intro other hother
    exact Nat.lt_irrefl _ (hcounted _ _ hother)
  let numbered := world.withExecutor fun executor =>
    { executor with nextId := world.executor.nextId + 1 }
  have hresult : result (createModule name source) world = world.modules.next :=
    createModuleWithId_result name source world.executor.nextId numbered
  have hfree' : numbered.executor.registry.get? world.executor.nextId = none := hfree
  have hafter : after (createModule name source) world =
      world.made (world.executor.nextId + 1)
        (.create world.executor.nextId name source) :=
    createModuleWithId_of_free name source hfree'
  rw [hresult, hafter]
  have hmodule := World.module?_made hworld.modules (world.executor.nextId + 1)
    (.create world.executor.nextId name source)
  refine ⟨fun other hother => ?_, hworld.modules.get?_next (Nat.le_refl _),
    ⟨?_, rfl⟩, fun other hne => ?_, fun number => ?_, rfl, rfl, rfl⟩
  · rw [hfree] at hother
    cases hother
  · rw [hmodule, if_pos rfl]
  · rw [hmodule, if_neg (Ne.symm hne)]
  · exact Table.get?_set _ _ _ _

namespace Session

/-- Where the host only chooses numbers that the counter has passed, a module that
gets its number from the counter takes nobody's place. The same goes for all steps in
which the host chooses no number, such as loading a game module: no number comes to
stand for another module. -/
theorem counter_number_free (files : FileTree) (plan : ExecutorPlan)
    {steps : List Step} (hbelow : (begin files plan).ChoosesBelow steps) :
    let session := (begin files plan).run steps
    (∀ name source, session.world.Adds
      (Act.after (Act.createModule name source) session.world)
      (Act.result (Act.createModule name source) session.world)
      session.world.executor.nextId
      (.create session.world.executor.nextId name source)) ∧
    ∀ step id address other, step.chosen = none →
      session.world.executor.registry.get? id = some address →
        (session.step step).2.world.executor.registry.get? id = some other →
          other = address := by
  intro session
  have hsound : session.Sound := begin_run_sound files plan steps
  have hcounted : session.world.scripts.Counted :=
    run_counted (begin_sound files plan) (begin_counted files plan) hbelow
  refine ⟨fun name source => Act.createModule_adds hsound hcounted name source, ?_⟩
  intro step id address other hchosen hregistered hother
  refine (step_advances hsound step).world.changes.keeps_number ?_ hcounted hregistered hother
  intro name number hmay
  have hsome : step.chosen = some (name, number) := hmay
  rw [hchosen] at hsome
  cases hsome

/-- The steps by which the host makes a module and then another one under the number
that the counter has given to the first one. -/
def replacingSteps : List Step :=
  [.onModules (.create (some "a") "A" "host" none),
    .onModules (.create (some "b") "B" "host" (some 1))]

/-- The host may take a number again that the counter has given. -/
theorem counter_number_free_again : bare.ChoosesBelow replacingSteps ∧
    ∀ name source, (bare.run replacingSteps).world.Adds
      (Act.after (Act.createModule name source) (bare.run replacingSteps).world)
      (Act.result (Act.createModule name source) (bare.run replacingSteps).world) 2
      (.create 2 name source) := by
  have hbelow : bare.ChoosesBelow replacingSteps := by
    refine ⟨fun name id hchosen => ?_, fun name id hchosen => ?_, trivial⟩
    · cases hchosen
    · cases hchosen
      decide +kernel
  exact ⟨hbelow, (counter_number_free _ _ hbelow).1⟩

/-- The steps by which the host makes and builds a module under a number that the
counter has not reached yet. -/
def numberingSteps : List Step :=
  [.onModules (.create (some "host") "Host" "host" (some 1)),
    .onModules (.addSegment "host" "host.txt" 1 ""),
    .onModules (.build "host" none)]

/-- The counter gives a number that the host has chosen before, and the module that
had it is discarded. -/
theorem counter_number_taken :
    ((bare.run numberingSteps).world.module? 1).map ScriptModule.state = some .built ∧
      ((bare.run numberingSteps).step
        (.onModules (.create (some "m") "M" "host" none))).1.answer = .number 1 ∧
      (((bare.run numberingSteps).step (.onModules
        (.create (some "m") "M" "host" none))).2.world.module? 1).map
          ScriptModule.state = some .discarded :=
  ⟨by decide +kernel, rfl, by decide +kernel⟩

end Session

end ScriptHost
