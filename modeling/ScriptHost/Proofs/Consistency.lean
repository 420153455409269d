import ScriptHost.Proofs.Transition
import ScriptHost.Proofs.Watching

/-!
The invariant of script modules. While the executor is there, a module that is
not discarded is registered under its number, so that no two such modules share
a number; an internal name says which module it is of; and a compiled script is
entered, together with its access, by the one module that holds it.
-/

namespace ScriptHost

/-- Segments that do not repeat each other: if they are of one file, their first lines
are more than two apart. -/
def Segment.Apart (first second : Segment) : Prop :=
  first.file = second.file → 2 < lineDistance first.startLine second.startLine

/-- What a script module says about itself fits together. -/
structure ScriptModule.WellFormed (module : ScriptModule) : Prop where
  named : module.internalName =
    internalNameOf module.name module.id module.reloads
  own : ∀ compiled, module.compiled = some compiled →
    compiled.internalName = module.internalName
  built : module.compiled.isSome = true ↔ module.state = .built
  listed : ∀ index, module.listeners = some index →
    ∃ compiled, module.compiled = some compiled ∧
      ScriptModule.ListenersOf index compiled
  followed : module.watched ≠ [] → module.state = .built
  apart : module.segments.Pairwise Segment.Apart

theorem Segment.apart_of_overlaps {first second : Segment}
    (hoverlaps : first.overlaps second.file second.startLine = false) :
    first.Apart second := by
  intro hfile
  simpa [Segment.overlaps, hfile] using hoverlaps

namespace ScriptModule

theorem create_wellFormed (id : Nat) (name source : String) :
    (create id name source).WellFormed where
  named := rfl
  own := by simp [create]
  built := by simp [create]
  listed := by simp [create]
  followed := by simp [create]
  apart := by simp [create]

theorem WellFormed.compiled_none {module : ScriptModule}
    (hmodule : module.WellFormed) (hstate : module.state ≠ .built) :
    module.compiled = none := by
  cases hc : module.compiled with
  | none => rfl
  | some compiled => exact absurd (hmodule.built.mp (by simp [hc])) hstate

theorem WellFormed.exists_compiled {module : ScriptModule}
    (hmodule : module.WellFormed) (hstate : module.state = .built) :
    ∃ compiled, module.compiled = some compiled :=
  Option.isSome_iff_exists.mp (hmodule.built.mpr hstate)

theorem WellFormed.edit {module edited : ScriptModule}
    (hmodule : module.WellFormed) (hedit : module.Edit edited) :
    edited.WellFormed where
  named := by
    rw [hedit.internalName, hedit.name, hedit.id, hedit.reloads, hmodule.named]
  own := by
    intro compiled hcompiled
    rw [hedit.internalName]
    exact hmodule.own compiled (hedit.compiled ▸ hcompiled)
  built := by
    rw [hedit.compiled, hmodule.built]
    rcases hedit.state with hsame | ⟨hbefore, hafter, -⟩ | ⟨hbefore, hafter⟩
    · rw [hsame]
    · simp [hbefore, hafter]
    · simp [hbefore, hafter]
  listed := by
    intro index hindex
    rcases hedit.listeners with hsame | ⟨compiled, hcompiled, hbuilt⟩
    · rw [hedit.compiled]
      exact hmodule.listed index (hsame ▸ hindex)
    · rw [hbuilt] at hindex
      cases hindex
      exact ⟨compiled, hedit.compiled.trans hcompiled,
        (ListenerIndex.build_keyed compiled).listed⟩
  followed := by
    intro hwatched
    have hbuilt : module.state = .built := by
      rcases hedit.watched with hsame | hnone | hbuilt
      · exact hmodule.followed (hsame ▸ hwatched)
      · exact absurd hnone hwatched
      · exact hbuilt
    rcases hedit.state with hsame | ⟨hempty, -⟩ | ⟨hready, -⟩
    · exact hsame.trans hbuilt
    · simp [hbuilt] at hempty
    · simp [hbuilt] at hready
  apart := by
    rcases hedit.segments with hsame | ⟨segment, -, hnew, hadded⟩
    · exact hsame ▸ hmodule.apart
    · rw [hadded]
      refine List.pairwise_append.mpr ⟨hmodule.apart, List.pairwise_singleton _ _, ?_⟩
      intro existing hexisting other hother
      cases List.mem_singleton.mp hother
      refine Segment.apart_of_overlaps (Bool.eq_false_iff.mpr fun hoverlaps => ?_)
      rw [overlaps, List.any_eq_false] at hnew
      exact hnew existing hexisting hoverlaps

theorem WellFormed.withBuild {module : ScriptModule}
    (hmodule : module.WellFormed) {compiled : Compiled}
    (hname : compiled.internalName = module.internalName) :
    (module.withBuild compiled).WellFormed where
  named := hmodule.named
  own := by
    intro other hother
    cases hother
    exact hname
  built := by simp [ScriptModule.withBuild]
  listed := by simp [ScriptModule.withBuild]
  followed := fun _ => rfl
  apart := hmodule.apart

theorem WellFormed.discarded {module : ScriptModule}
    (hmodule : module.WellFormed) : module.discarded.WellFormed where
  named := hmodule.named
  own := by simp [ScriptModule.discarded]
  built := by simp [ScriptModule.discarded]
  listed := by simp [ScriptModule.discarded]
  followed := by simp [ScriptModule.discarded]
  apart := hmodule.apart

theorem file_rereadSegment (tree : FileTree) (segment : Segment) :
    (rereadSegment tree segment).1.file = segment.file := by
  unfold rereadSegment
  split
  · split <;> rfl
  · rfl

theorem startLine_rereadSegment (tree : FileTree) (segment : Segment) :
    (rereadSegment tree segment).1.startLine = segment.startLine := by
  unfold rereadSegment
  split
  · split <;> rfl
  · rfl

theorem WellFormed.renewed {module : ScriptModule}
    (hmodule : module.WellFormed) (tree : FileTree) :
    (module.renewed tree).WellFormed where
  named := by
    simp [ScriptModule.renewed, internalNameOf, hmodule.named]
  own := by simp [ScriptModule.renewed]
  built := by simp [ScriptModule.renewed]
  listed := by simp [ScriptModule.renewed]
  followed := by simp [ScriptModule.renewed]
  apart := by
    refine List.pairwise_map.mpr (hmodule.apart.imp fun {first second} hapart => ?_)
    simpa [Segment.Apart, file_rereadSegment, startLine_rereadSegment] using hapart

end ScriptModule

namespace Scripts

/-- Without the executor nothing is entered, registered or watched. -/
def Closed (scripts : Scripts) : Prop :=
  scripts.running = false →
    scripts.compiled = [] ∧ scripts.grants = [] ∧ scripts.registry = [] ∧
      scripts.watcher = none

/-- The invariant of script modules. -/
structure Consistent (scripts : Scripts) : Prop where
  below : ∀ {address module},
    scripts.module? address = some module → address < scripts.next
  registeredBelow : ∀ {id address},
    scripts.registry.get? id = some address → address < scripts.next
  wellFormed : ∀ {address module},
    scripts.module? address = some module → module.WellFormed
  registered : scripts.running = true → ∀ {address module},
    scripts.module? address = some module → module.state ≠ .discarded →
      scripts.registry.get? module.id = some address
  live : ∀ {id address}, scripts.registry.get? id = some address →
    ∃ module, scripts.module? address = some module
  numbered : ∀ {id address module},
    scripts.registry.get? id = some address →
      scripts.module? address = some module → module.id = id
  owned : ∀ {name compiled}, scripts.compiled.get? name = some compiled →
    compiled.internalName = name ∧ ∃ address module,
      scripts.module? address = some module ∧ module.compiled = some compiled
  granted : ∀ name,
    scripts.grants.get? name = (scripts.compiled.get? name).map Compiled.access
  distinct : ∀ {watcher}, scripts.watcher = some watcher → watcher.Distinct
  closed : scripts.Closed

/-- While the executor is there, modules that are not discarded have numbers of
their own. -/
theorem Consistent.address_unique {scripts : Scripts}
    (hscripts : scripts.Consistent) (hrunning : scripts.running = true)
    {address address' : Nat} {module module' : ScriptModule}
    (hmodule : scripts.module? address = some module)
    (hmodule' : scripts.module? address' = some module')
    (hstate : module.state ≠ .discarded) (hstate' : module'.state ≠ .discarded)
    (hid : module.id = module'.id) : address = address' := by
  have hregistered := hscripts.registered hrunning hmodule hstate
  have hregistered' := hscripts.registered hrunning hmodule' hstate'
  rw [hid, hregistered'] at hregistered
  exact (Option.some.inj hregistered).symm

/-- Without the executor nothing is entered. -/
theorem Consistent.running_of_entered {scripts : Scripts}
    (hscripts : scripts.Consistent) {name : String} {compiled : Compiled}
    (hentered : scripts.compiled.get? name = some compiled) :
    scripts.running = true := by
  cases hrunning : scripts.running with
  | true => rfl
  | false =>
      rw [(hscripts.closed hrunning).1] at hentered
      simp at hentered

/-- Two built modules with one internal name are one module, while the executor
is there. -/
theorem Consistent.owner_unique {scripts : Scripts}
    (hscripts : scripts.Consistent) (hrunning : scripts.running = true)
    {address address' : Nat} {module module' : ScriptModule}
    (hmodule : scripts.module? address = some module)
    (hmodule' : scripts.module? address' = some module')
    (hstate : module.state ≠ .discarded) (hstate' : module'.state ≠ .discarded)
    (hname : module.internalName = module'.internalName) :
    address = address' := by
  rw [(hscripts.wellFormed hmodule).named,
    (hscripts.wellFormed hmodule').named] at hname
  obtain ⟨-, hid, -⟩ := internalNameOf_injective hname
  exact hscripts.address_unique hrunning hmodule hmodule' hstate hstate' hid

/-- What is entered under the internal name of a built module is what this
module holds. -/
theorem Consistent.entered_eq {scripts : Scripts}
    (hscripts : scripts.Consistent) {address : Nat} {module : ScriptModule}
    (hmodule : scripts.module? address = some module)
    (hstate : module.state ≠ .discarded) {compiled : Compiled}
    (hentered : scripts.compiled.get? module.internalName = some compiled) :
    module.compiled = some compiled := by
  have hrunning := hscripts.running_of_entered hentered
  obtain ⟨hname, address', module', hmodule', hcompiled⟩ := hscripts.owned hentered
  have hwell' := hscripts.wellFormed hmodule'
  have hbuilt' : module'.state = .built := hwell'.built.mp (by simp [hcompiled])
  have hsame : module.internalName = module'.internalName := by
    rw [← hname, hwell'.own compiled hcompiled]
  have haddress := hscripts.owner_unique hrunning hmodule hmodule' hstate
    (by simp [hbuilt']) hsame
  subst haddress
  rw [hmodule] at hmodule'
  cases hmodule'
  exact hcompiled

/-! ### Every transition keeps the invariant -/

/-- Entered compiled scripts are accounted for in the tables of `after`. -/
structure Accounts (after : Scripts) : Prop where
  owned : ∀ {name compiled}, after.compiled.get? name = some compiled →
    compiled.internalName = name ∧ ∃ address module,
      after.module? address = some module ∧ module.compiled = some compiled
  granted : ∀ name,
    after.grants.get? name = (after.compiled.get? name).map Compiled.access
  closed : after.running = false → after.compiled = [] ∧ after.grants = []

theorem Consistent.accounts {scripts : Scripts} (hscripts : scripts.Consistent) :
    scripts.Accounts where
  owned := hscripts.owned
  granted := hscripts.granted
  closed := fun hrunning =>
    ⟨(hscripts.closed hrunning).1, (hscripts.closed hrunning).2.1⟩

/-- A module may be replaced by another state of it, if the tables still account
for the compiled scripts. -/
theorem Consistent.replace {before after : Scripts}
    (hbefore : before.Consistent) {address : Nat} {module changed : ScriptModule}
    (hmodule : before.module? address = some module)
    (hid : changed.id = module.id) (hwell : changed.WellFormed)
    (hstate : changed.state ≠ .discarded → module.state ≠ .discarded)
    (hmodules : after.module? = (before.put address (some changed)).module?)
    (hnext : after.next = before.next)
    (hregistry : after.registry = before.registry)
    (hrunning : after.running = before.running)
    (hwatcher : after.watcher = before.watcher)
    (haccounts : after.Accounts) : after.Consistent where
  below := by
    intro other found hfound
    rw [hmodules, module?_put] at hfound
    rw [hnext]
    by_cases ha : address = other
    · exact ha ▸ hbefore.below hmodule
    · rw [if_neg ha] at hfound
      exact hbefore.below hfound
  registeredBelow := by
    intro id other hother
    rw [hnext]
    exact hbefore.registeredBelow (hregistry ▸ hother)
  wellFormed := by
    intro other found hfound
    rw [hmodules, module?_put] at hfound
    by_cases ha : address = other
    · rw [if_pos ha] at hfound
      cases hfound
      exact hwell
    · rw [if_neg ha] at hfound
      exact hbefore.wellFormed hfound
  registered := by
    intro hrun other found hfound hlive
    rw [hrunning] at hrun
    rw [hmodules, module?_put] at hfound
    rw [hregistry]
    by_cases ha : address = other
    · rw [if_pos ha] at hfound
      cases hfound
      rw [hid, ← ha]
      exact hbefore.registered hrun hmodule (hstate hlive)
    · rw [if_neg ha] at hfound
      exact hbefore.registered hrun hfound hlive
  live := by
    intro id other hother
    rw [hregistry] at hother
    obtain ⟨found, hfound⟩ := hbefore.live hother
    rw [hmodules]
    by_cases ha : address = other
    · exact ⟨changed, by simp [ha]⟩
    · exact ⟨found, by simpa [ha] using hfound⟩
  numbered := by
    intro id other found hother hfound
    rw [hregistry] at hother
    rw [hmodules, module?_put] at hfound
    by_cases ha : address = other
    · rw [if_pos ha] at hfound
      cases hfound
      rw [hid]
      exact hbefore.numbered hother (ha ▸ hmodule)
    · rw [if_neg ha] at hfound
      exact hbefore.numbered hother hfound
  owned := haccounts.owned
  granted := haccounts.granted
  distinct := fun hsome => hbefore.distinct (hwatcher ▸ hsome)
  closed := by
    intro hrun
    obtain ⟨hcompiled, hgrants⟩ := haccounts.closed hrun
    rw [hrunning] at hrun
    obtain ⟨-, -, hregistered, hwatched⟩ := hbefore.closed hrun
    exact ⟨hcompiled, hgrants, hregistry ▸ hregistered, hwatcher ▸ hwatched⟩

private theorem edit_consistent {scripts : Scripts} (hscripts : scripts.Consistent)
    {address : Nat} {module edited : ScriptModule}
    (hmodule : scripts.module? address = some module)
    (hedit : module.Edit edited) :
    (scripts.put address (some edited)).Consistent := by
  have hstate : edited.state ≠ .discarded → module.state ≠ .discarded := by
    intro hlive hdead
    apply hlive
    rcases hedit.state with hsame | ⟨hbefore, -⟩ | ⟨hbefore, -⟩
    · rw [hsame, hdead]
    · simp [hdead] at hbefore
    · simp [hdead] at hbefore
  refine hscripts.replace hmodule hedit.id
    ((hscripts.wellFormed hmodule).edit hedit) hstate rfl rfl rfl rfl rfl ?_
  refine ⟨?_, hscripts.granted, hscripts.accounts.closed⟩
  intro name compiled hentered
  obtain ⟨hname, owner, owning, howner, hcompiled⟩ := hscripts.owned hentered
  refine ⟨hname, owner, ?_⟩
  by_cases ha : address = owner
  · subst ha
    rw [hmodule] at howner
    cases howner
    exact ⟨edited, by simp, hedit.compiled.trans hcompiled⟩
  · exact ⟨owning, by simpa [ha] using howner, hcompiled⟩

/-- Where a module's own compiled script is taken out together with the module's
hold on it, the rest is still accounted for. -/
private theorem leave_accounts {scripts : Scripts} (hscripts : scripts.Consistent)
    {address : Nat} {module : ScriptModule}
    (hmodule : scripts.module? address = some module)
    (replacement : Option ScriptModule) :
    ((scripts.put address replacement).leave module.compiled).Accounts := by
  have hput : ∀ name, ((scripts.put address replacement).leave
      module.compiled).compiled.get? name =
        if module.compiled.map Compiled.internalName = some name then none
        else scripts.compiled.get? name := by
    intro name
    rw [get?_compiled_leave]
    rfl
  constructor
  · intro name compiled hentered
    rw [hput] at hentered
    split at hentered
    · cases hentered
    · rename_i hother
      obtain ⟨hname, owner, owning, howner, hcompiled⟩ := hscripts.owned hentered
      refine ⟨hname, owner, owning, ?_, hcompiled⟩
      rw [module?_leave, module?_put]
      by_cases ha : address = owner
      · subst ha
        rw [hmodule] at howner
        cases howner
        rw [hcompiled] at hother
        simp [hname] at hother
      · simpa [ha] using howner
  · intro name
    rw [hput, get?_grants_leave]
    split
    · rfl
    · exact hscripts.granted name
  · intro hrunning
    rw [running_leave] at hrunning
    obtain ⟨hcompiled, hgrants, -, -⟩ := hscripts.closed hrunning
    have hcompiled' : (scripts.put address replacement).compiled = [] := hcompiled
    have hgrants' : (scripts.put address replacement).grants = [] := hgrants
    cases module.compiled with
    | none => exact ⟨hcompiled', hgrants'⟩
    | some compiled =>
        simp [leave, remove, hcompiled', hgrants', Table.erase]

private theorem leave_consistent {scripts : Scripts}
    (hscripts : scripts.Consistent) {address : Nat}
    {module changed : ScriptModule}
    (hmodule : scripts.module? address = some module)
    (hid : changed.id = module.id) (hwell : changed.WellFormed)
    (hstate : changed.state ≠ .discarded → module.state ≠ .discarded) :
    ((scripts.put address (some changed)).leave module.compiled).Consistent := by
  refine hscripts.replace hmodule hid hwell hstate (by simp) ?_ ?_ ?_ ?_
    (leave_accounts hscripts hmodule (some changed))
  · rw [next_leave]
    rfl
  · rw [registry_leave]
    rfl
  · rw [running_leave]
    rfl
  · rw [watcher_leave]
    rfl

private theorem vanish_consistent {scripts : Scripts}
    (hscripts : scripts.Consistent) {address : Nat} {module : ScriptModule}
    (hmodule : scripts.module? address = some module)
    (hfree : ∀ id, scripts.registry.get? id ≠ some address) :
    ((scripts.put address none).leave module.compiled).Consistent := by
  have haccounts := leave_accounts hscripts hmodule none
  have hfound : ∀ {other found},
      ((scripts.put address none).leave module.compiled).module? other =
        some found → scripts.module? other = some found := by
    intro other found hother
    rw [module?_leave, module?_put] at hother
    split at hother
    · cases hother
    · exact hother
  refine ⟨?_, ?_, ?_, ?_, ?_, ?_, haccounts.owned, haccounts.granted, ?_, ?_⟩
  · intro other found hother
    rw [next_leave]
    exact hscripts.below (hfound hother)
  · intro id other hother
    rw [registry_leave] at hother
    rw [next_leave]
    exact hscripts.registeredBelow hother
  · intro other found hother
    exact hscripts.wellFormed (hfound hother)
  · intro hrunning other found hother hlive
    rw [running_leave] at hrunning
    rw [registry_leave]
    exact hscripts.registered hrunning (hfound hother) hlive
  · intro id other hother
    rw [registry_leave] at hother
    have hne : address ≠ other := by
      rintro rfl
      exact hfree id hother
    rw [module?_leave, module?_put_other _ _ hne]
    exact hscripts.live hother
  · intro id other found hother hother'
    rw [registry_leave] at hother
    exact hscripts.numbered hother (hfound hother')
  · intro watcher hwatcher
    rw [watcher_leave] at hwatcher
    exact hscripts.distinct hwatcher
  · intro hrunning
    obtain ⟨hcompiled, hgrants⟩ := haccounts.closed hrunning
    rw [running_leave] at hrunning
    obtain ⟨-, -, hregistry, hwatcher⟩ := hscripts.closed hrunning
    refine ⟨hcompiled, hgrants, ?_, ?_⟩
    · rw [registry_leave]
      exact hregistry
    · rw [watcher_leave]
      exact hwatcher

private theorem build_consistent {scripts : Scripts}
    (hscripts : scripts.Consistent) {address : Nat} {module : ScriptModule}
    (hmodule : scripts.module? address = some module)
    (hready : module.state = .readyToBuild) (hrunning : scripts.running = true)
    {compiled : Compiled} (hname : compiled.internalName = module.internalName) :
    ((scripts.put address (some (module.withBuild compiled))).enter
      compiled).Consistent := by
  have hwell := hscripts.wellFormed hmodule
  have hempty : module.compiled = none :=
    hwell.compiled_none (by simp [hready])
  have hid : (module.withBuild compiled).id = module.id := rfl
  refine hscripts.replace hmodule hid (hwell.withBuild hname) (by simp [hready])
    rfl rfl rfl rfl rfl ⟨?_, ?_, ?_⟩
  · intro name other hentered
    simp only [enter, Table.get?_set] at hentered
    by_cases hn : compiled.internalName = name
    · rw [if_pos hn] at hentered
      cases hentered
      exact ⟨hn, address, module.withBuild compiled, module?_put_self _ _ _, rfl⟩
    · rw [if_neg hn] at hentered
      obtain ⟨hother, owner, owning, howner, hcompiled⟩ := hscripts.owned hentered
      refine ⟨hother, owner, owning, ?_, hcompiled⟩
      by_cases ha : address = owner
      · subst ha
        rw [hmodule] at howner
        cases howner
        rw [hempty] at hcompiled
        cases hcompiled
      · exact (module?_put_other _ _ ha).trans howner
  · intro name
    simp only [enter, Table.get?_set]
    split
    · rfl
    · exact hscripts.granted name
  · intro hstopped
    have hstopped' : scripts.running = false := hstopped
    simp [hrunning] at hstopped'

private theorem watcher_consistent {scripts : Scripts}
    (hscripts : scripts.Consistent) {change : Watcher → Watcher}
    (hchange : ∀ {watcher : Watcher}, watcher.Distinct → (change watcher).Distinct) :
    (scripts.withWatcher change).Consistent where
  below := hscripts.below
  registeredBelow := hscripts.registeredBelow
  wellFormed := hscripts.wellFormed
  registered := hscripts.registered
  live := hscripts.live
  numbered := hscripts.numbered
  owned := hscripts.owned
  granted := hscripts.granted
  distinct := by
    intro watcher hwatcher
    obtain ⟨earlier, hearlier, rfl⟩ := Option.map_eq_some_iff.mp hwatcher
    exact hchange (hscripts.distinct hearlier)
  closed := by
    intro hrunning
    obtain ⟨hcompiled, hgrants, hregistry, hwatcher⟩ := hscripts.closed hrunning
    exact ⟨hcompiled, hgrants, hregistry, by simp [withWatcher, hwatcher]⟩

private theorem revoke_consistent {scripts : Scripts}
    (hscripts : scripts.Consistent) (internalName : String) :
    (scripts.remove internalName).Consistent where
  below := hscripts.below
  registeredBelow := hscripts.registeredBelow
  wellFormed := hscripts.wellFormed
  registered := hscripts.registered
  live := hscripts.live
  numbered := hscripts.numbered
  owned := by
    intro name compiled hentered
    simp only [remove, Table.get?_erase] at hentered
    split at hentered
    · cases hentered
    · exact hscripts.owned hentered
  granted := by
    intro name
    simp only [remove, Table.get?_erase]
    split
    · rfl
    · exact hscripts.granted name
  distinct := hscripts.distinct
  closed := by
    intro hrunning
    obtain ⟨hcompiled, hgrants, hregistry, hwatcher⟩ := hscripts.closed hrunning
    simp [remove, hcompiled, hgrants, hregistry, hwatcher, Table.erase]

private theorem create_consistent {scripts : Scripts}
    (hscripts : scripts.Consistent) (hrunning : scripts.running = true)
    {name source : String} {id : Nat} (counter : Nat) (hvacant : scripts.IsVacant id) :
    (scripts.create counter (.create id name source)).Consistent where
  below := by
    intro other found hother
    simp only [create, put] at hother ⊢
    split at hother
    · omega
    · have hlt := hscripts.below hother
      omega
  registeredBelow := by
    intro number other hother
    simp only [create, Table.get?_set] at hother ⊢
    split at hother
    · cases hother
      omega
    · have hlt := hscripts.registeredBelow hother
      omega
  wellFormed := by
    intro other found hother
    simp only [create, put] at hother
    split at hother
    · cases hother
      exact ScriptModule.create_wellFormed id name source
    · exact hscripts.wellFormed hother
  registered := by
    intro _ other found hother hlive
    simp only [create, put] at hother
    simp only [create, Table.get?_set, ScriptModule.create]
    split at hother
    · rename_i hnext
      cases hother
      simp [ScriptModule.create, hnext]
    · have hregistered := hscripts.registered hrunning hother hlive
      have hne : ¬ id = found.id := by
        intro hid
        rw [← hid] at hregistered
        exact hlive (hvacant other found hregistered hother)
      rw [if_neg hne]
      exact hregistered
  live := by
    intro number other hother
    simp only [create, Table.get?_set] at hother
    simp only [create, put]
    split at hother
    · cases hother
      exact ⟨.create id name source, if_pos rfl⟩
    · have hlt := hscripts.registeredBelow hother
      rw [if_neg (by omega)]
      exact hscripts.live hother
  numbered := by
    intro number other found hregistered hother
    simp only [create, Table.get?_set, ScriptModule.create] at hregistered
    simp only [create, put] at hother
    split at hregistered
    · rename_i hid
      cases hregistered
      simp only [if_true, Option.some.injEq] at hother
      rw [← hother]
      exact hid
    · have hlt := hscripts.registeredBelow hregistered
      rw [if_neg (by omega)] at hother
      exact hscripts.numbered hregistered hother
  owned := by
    intro internalName compiled hentered
    obtain ⟨hname, owner, owning, howner, hcompiled⟩ := hscripts.owned hentered
    refine ⟨hname, owner, owning, ?_, hcompiled⟩
    have hlt := hscripts.below howner
    simp only [create, put]
    rw [if_neg (by omega)]
    exact howner
  granted := hscripts.granted
  distinct := hscripts.distinct
  closed := by
    intro hstopped
    have hstopped' : scripts.running = false := hstopped
    simp [hrunning] at hstopped'

private theorem unregister_consistent {scripts : Scripts}
    (hscripts : scripts.Consistent) {id : Nat} (hvacant : scripts.IsVacant id) :
    (scripts.unregister id).Consistent where
  below := hscripts.below
  registeredBelow := by
    intro number other hother
    simp only [unregister, Table.get?_erase] at hother
    split at hother
    · cases hother
    · exact hscripts.registeredBelow hother
  wellFormed := hscripts.wellFormed
  registered := by
    intro hrunning other found hother hlive
    have hregistered := hscripts.registered hrunning hother hlive
    simp only [unregister, Table.get?_erase]
    have hne : ¬ id = found.id := by
      intro hid
      rw [← hid] at hregistered
      exact hlive (hvacant other found hregistered hother)
    rw [if_neg hne]
    exact hregistered
  live := by
    intro number other hother
    simp only [unregister, Table.get?_erase] at hother
    split at hother
    · cases hother
    · exact hscripts.live hother
  numbered := by
    intro number other found hregistered hother
    simp only [unregister, Table.get?_erase] at hregistered
    split at hregistered
    · cases hregistered
    · exact hscripts.numbered hregistered hother
  owned := hscripts.owned
  granted := hscripts.granted
  distinct := hscripts.distinct
  closed := by
    intro hrunning
    obtain ⟨hcompiled, hgrants, hregistry, hwatcher⟩ := hscripts.closed hrunning
    exact ⟨hcompiled, hgrants, by simp [unregister, hregistry, Table.erase], hwatcher⟩

private theorem close_consistent {scripts : Scripts}
    (hscripts : scripts.Consistent) : scripts.close.Consistent where
  below := hscripts.below
  registeredBelow := by simp [close]
  wellFormed := hscripts.wellFormed
  registered := by simp [close]
  live := by simp [close]
  numbered := by simp [close]
  owned := by simp [close]
  granted := by simp [close]
  distinct := by simp [close]
  closed := fun _ => ⟨rfl, rfl, rfl, rfl⟩

/-- Every transition keeps the invariant. -/
theorem Change.consistent {may : Touch → Prop} {before after : Scripts}
    (hchange : Change may before after) (hbefore : before.Consistent) :
    after.Consistent := by
  cases hchange with
  | edit edited hmodule _ hedit => exact edit_consistent hbefore hmodule hedit
  | build compiled hmodule _ hready hrunning hname =>
      exact build_consistent hbefore hmodule hready hrunning hname
  | discard hmodule _ =>
      exact leave_consistent hbefore hmodule rfl
        (hbefore.wellFormed hmodule).discarded (fun h => absurd rfl h)
  | renew tree hmodule _ hbuilt =>
      exact leave_consistent hbefore hmodule rfl
        ((hbefore.wellFormed hmodule).renewed tree) (fun _ => by simp [hbuilt])
  | vanish hmodule _ hfree => exact vanish_consistent hbefore hmodule hfree
  | unwatch id _ => exact watcher_consistent hbefore fun hwatcher => hwatcher.unwatch id
  | watch tree files _ _ _ =>
      exact watcher_consistent hbefore fun hwatcher => hwatcher.watch tree _ _ files
  | register tree id address files _ =>
      exact watcher_consistent hbefore fun hwatcher =>
        hwatcher.watch tree id address files
  | collect tree paths _ =>
      exact watcher_consistent hbefore fun hwatcher => hwatcher.collectTargets paths
  | revoke internalName _ => exact revoke_consistent hbefore internalName
  | create name source id counter _ _ _ hrunning hvacant =>
      exact create_consistent hbefore hrunning counter hvacant
  | unregister id _ _ hvacant => exact unregister_consistent hbefore hvacant
  | close => exact close_consistent hbefore

/-- Every run keeps the invariant. -/
theorem Changes.consistent {may : Touch → Prop} {before after : Scripts}
    (hchanges : Changes may before after) (hbefore : before.Consistent) :
    after.Consistent := by
  induction hchanges with
  | refl => exact hbefore
  | tail _ hchange ih => exact hchange.consistent ih

/-- What is registered was registered before, or is a new module. -/
theorem Change.registry {may : Touch → Prop} {before after : Scripts}
    (hchange : Change may before after) {id address : Nat}
    (hregistered : after.registry.get? id = some address) :
    before.registry.get? id = some address ∨ before.next ≤ address := by
  cases hchange with
  | discard => rw [registry_leave] at hregistered; exact .inl hregistered
  | renew => rw [registry_leave] at hregistered; exact .inl hregistered
  | vanish => rw [registry_leave] at hregistered; exact .inl hregistered
  | create name source number counter =>
      simp only [Scripts.create, Table.get?_set] at hregistered
      split at hregistered
      · cases hregistered
        exact .inr (Nat.le_refl _)
      · exact .inl hregistered
  | unregister number =>
      simp only [Scripts.unregister, Table.get?_erase] at hregistered
      split at hregistered
      · cases hregistered
      · exact .inl hregistered
  | close => cases hregistered
  | _ => exact .inl hregistered

theorem Change.next_le {may : Touch → Prop} {before after : Scripts}
    (hchange : Change may before after) : before.next ≤ after.next := by
  cases hchange with
  | discard => rw [next_leave]; exact Nat.le_refl _
  | renew => rw [next_leave]; exact Nat.le_refl _
  | vanish => rw [next_leave]; exact Nat.le_refl _
  | create => exact Nat.le_succ _
  | _ => exact Nat.le_refl _

theorem Changes.next_le {may : Touch → Prop} {before after : Scripts}
    (hchanges : Changes may before after) : before.next ≤ after.next := by
  induction hchanges with
  | refl => exact Nat.le_refl _
  | tail _ hchange ih => exact Nat.le_trans ih hchange.next_le

/-- The numbers that modules get by themselves only grow. -/
theorem Change.counter_le {may : Touch → Prop} {before after : Scripts}
    (hchange : Change may before after) : before.counter ≤ after.counter := by
  cases hchange with
  | discard => rw [counter_leave]; exact Nat.le_refl _
  | renew => rw [counter_leave]; exact Nat.le_refl _
  | vanish => rw [counter_leave]; exact Nat.le_refl _
  | create name source id counter _ _ hnumber =>
      rcases hnumber with ⟨-, hcounter⟩ | ⟨-, hcounter⟩
      · exact Nat.le_of_lt (hcounter ▸ Nat.lt_succ_self _)
      · exact Nat.le_of_eq hcounter.symm
  | _ => exact Nat.le_refl _

theorem Changes.counter_le {may : Touch → Prop} {before after : Scripts}
    (hchanges : Changes may before after) : before.counter ≤ after.counter := by
  induction hchanges with
  | refl => exact Nat.le_refl _
  | tail _ hchange ih => exact Nat.le_trans ih hchange.counter_le

theorem Changes.registry {may : Touch → Prop} {before after : Scripts}
    (hchanges : Changes may before after) {id address : Nat}
    (hregistered : after.registry.get? id = some address) :
    before.registry.get? id = some address ∨ before.next ≤ address := by
  induction hchanges with
  | refl => exact .inl hregistered
  | tail hearlier hchange ih =>
      rcases hchange.registry hregistered with hold | hnew
      · exact ih hold
      · exact .inr (Nat.le_trans (Changes.next_le hearlier) hnew)

/-- What every transition keeps, every run keeps. -/
theorem Changes.keeps {may : Touch → Prop} {kept : Scripts → Prop}
    (hstep : ∀ {before after}, before.Consistent → kept before →
      Change may before after → kept after)
    {before after : Scripts} (hchanges : Changes may before after)
    (hbefore : before.Consistent) (hkept : kept before) : kept after := by
  induction hchanges with
  | refl => exact hkept
  | tail hearlier hchange ih =>
      exact hstep (Changes.consistent hearlier hbefore) ih hchange

end Scripts

end ScriptHost
