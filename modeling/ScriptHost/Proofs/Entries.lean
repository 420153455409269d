import ScriptHost.Proofs.Reachable

/-!
The compiled scripts that are entered in an executor. Entries and grants go
together, every entry is that of one registered module, and under the internal
name of a module nothing is ever found but what this module holds.
-/

namespace ScriptHost

/-- The registry holds a living script module at an address. -/
def World.Registers (world : World) (address : Nat) (module : ScriptModule) : Prop :=
  world.module? address = some module ∧
    world.executor.registry.get? module.id = some address

/-- The entries of an executor are those of its script modules. -/
structure World.EntriesAgree (world : World) : Prop where
  /-- Grants and compiled scripts have the same names, and each grant is the access
  that its compiled script was built with. -/
  granted : ∀ name, world.executor.grants.get? name =
    (world.executor.compiled.get? name).map Compiled.access
  /-- An entry is that of a registered module that is built; no other registered
  module has its name, or holds it. -/
  owned : ∀ {name compiled}, world.executor.compiled.get? name = some compiled →
    ∃ address module, world.Registers address module ∧ module.state = .built ∧
      module.internalName = name ∧ module.compiled = some compiled ∧
      ∀ other rival, world.Registers other rival →
        rival.internalName = name ∨ rival.compiled = some compiled →
          other = address
  /-- A module finds what it holds under its internal name, or nothing. -/
  found : ∀ {address module compiled}, world.module? address = some module →
    module.compiled = some compiled →
      world.executor.compiled.get? module.internalName = some compiled ∨
        world.executor.compiled.get? module.internalName = none

/-- Consistent script modules make the entries agree with them. -/
theorem Scripts.Consistent.entriesAgree {world : World}
    (hscripts : world.scripts.Consistent) : world.EntriesAgree where
  granted := hscripts.granted
  owned := by
    intro name compiled hentered
    have hrunning := hscripts.running_of_entered hentered
    obtain ⟨hname, address, module, hmodule, hcompiled⟩ := hscripts.owned hentered
    have hwell := hscripts.wellFormed hmodule
    have hbuilt : module.state = .built := hwell.built.mp (by simp [hcompiled])
    have hinternal : module.internalName = name :=
      (hwell.own compiled hcompiled).symm.trans hname
    have hregistered := hscripts.registered hrunning hmodule (by simp [hbuilt])
    refine ⟨address, module, ⟨hmodule, hregistered⟩, hbuilt, hinternal, hcompiled, ?_⟩
    rintro other rival ⟨hother, hotherRegistered⟩ hshared
    have hotherWell := hscripts.wellFormed hother
    -- A registered module has the number in its internal name, discarded or not.
    have hsame : rival.internalName = module.internalName := by
      rcases hshared with hshared | hshared
      · exact hshared.trans hinternal.symm
      · exact (hotherWell.own compiled hshared).symm.trans
          (hwell.own compiled hcompiled)
    rw [hotherWell.named, hwell.named] at hsame
    obtain ⟨-, hid, -⟩ := internalNameOf_injective hsame
    rw [hid] at hotherRegistered
    exact Option.some.inj (hotherRegistered.symm.trans hregistered)
  found := by
    intro address module compiled hmodule hcompiled
    have hbuilt : module.state = .built :=
      (hscripts.wellFormed hmodule).built.mp (by simp [hcompiled])
    cases hentered : world.executor.compiled.get? module.internalName with
    | none => exact .inr rfl
    | some found =>
        have hfound := hscripts.entered_eq hmodule (by simp [hbuilt]) hentered
        exact .inl (hfound.symm.trans hcompiled)

namespace Session

/-- Whatever is done with a session, the entries of its executor are those of the
registered script modules. -/
theorem run_entries_agree (files : FileTree) (plan : ExecutorPlan)
    (steps : List Step) : ((begin files plan).run steps).world.EntriesAgree :=
  (begin_run_sound files plan steps).scripts.entriesAgree

end Session

end ScriptHost
