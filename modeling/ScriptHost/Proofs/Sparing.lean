import ScriptHost.Proofs.Dropping

/-!
What is left alone when other modules are worked on. A module is touched by its handle, and
what is recorded elsewhere by its number. Hence a module remains as it is, with all that is
recorded of it, as long as neither it nor one of the numbers that it is registered under is
touched.
-/

namespace ScriptHost

namespace Scripts

/-- Whether the watcher has a registration. -/
def Watches (scripts : Scripts) (registration : Registration) : Prop :=
  ∃ watcher, scripts.watcher = some watcher ∧ registration ∈ watcher.registrations

/-- A module that is left alone. It remains as it is, and so do its record in the
registry, the entry of its compiled script, and the files that are registered under
its number while it has this number. -/
structure LeavesAlone (before after : Scripts) (address : Nat) (module : ScriptModule) :
    Prop where
  still : after.module? address = some module
  registered : ∀ id, after.registry.get? id = some address ↔
    before.registry.get? id = some address
  entered : ∀ compiled, module.compiled = some compiled →
    after.compiled.get? compiled.internalName =
        before.compiled.get? compiled.internalName ∧
      after.grants.get? compiled.internalName = before.grants.get? compiled.internalName
  watched : before.registry.get? module.id = some address → ∀ registration,
    registration.id = module.id → (after.Watches registration ↔ before.Watches registration)

variable {touched : Nat → Nat → Prop} {before middle after : Scripts} {address : Nat}
  {module : ScriptModule}

theorem LeavesAlone.refl (hmodule : before.module? address = some module) :
    before.LeavesAlone before address module :=
  ⟨hmodule, fun _ => Iff.rfl, fun _ _ => ⟨rfl, rfl⟩, fun _ _ _ => Iff.rfl⟩

theorem LeavesAlone.trans (hfirst : before.LeavesAlone middle address module)
    (hsecond : middle.LeavesAlone after address module) :
    before.LeavesAlone after address module where
  still := hsecond.still
  registered := fun id => (hsecond.registered id).trans (hfirst.registered id)
  entered := by
    intro compiled hcompiled
    obtain ⟨hentry, hgrant⟩ := hfirst.entered compiled hcompiled
    obtain ⟨hentry', hgrant'⟩ := hsecond.entered compiled hcompiled
    exact ⟨hentry'.trans hentry, hgrant'.trans hgrant⟩
  watched := by
    intro hregistered registration hid
    have hstill := (hfirst.registered module.id).mpr hregistered
    exact (hsecond.watched hstill registration hid).trans
      (hfirst.watched hregistered registration hid)

/-- What may be touched is neither the module at an address nor a number that it is
registered under. -/
def Spares (touched : Nat → Nat → Prop) (scripts : Scripts) (address : Nat) : Prop :=
  ∀ other id, touched other id → other ≠ address ∧ scripts.registry.get? id ≠ some address

/-- Modules under other numbers have other internal names than a compiled script. -/
theorem Consistent.internalName_ne (hbefore : before.Consistent)
    (hrunning : before.running = true) (hmodule : before.module? address = some module)
    {compiled : Compiled} (hcompiled : module.compiled = some compiled) {other : Nat}
    {found : ScriptModule} (hother : before.module? other = some found)
    (hnumber : before.registry.get? found.id ≠ some address) :
    found.internalName ≠ compiled.internalName := by
  intro hsame
  have hwell := hbefore.wellFormed hmodule
  have hbuilt : module.state = .built := hwell.built.mp (by simp [hcompiled])
  have hregistered := hbefore.registered hrunning hmodule (by simp [hbuilt])
  rw [hwell.own compiled hcompiled, hwell.named, (hbefore.wellFormed hother).named] at hsame
  obtain ⟨-, hid, -⟩ := internalNameOf_injective hsame
  exact hnumber (hid ▸ hregistered)

/-- Taking out the compiled script of a module under another number leaves the entry of
a compiled script. -/
theorem Consistent.entered_leave (hbefore : before.Consistent)
    (hrunning : before.running = true) (hmodule : before.module? address = some module)
    {compiled : Compiled} (hcompiled : module.compiled = some compiled) {other : Nat}
    {found : ScriptModule} (hother : before.module? other = some found)
    (hnumber : before.registry.get? found.id ≠ some address)
    (there : Option ScriptModule) :
    ((before.put other there).leave found.compiled).compiled.get? compiled.internalName =
        before.compiled.get? compiled.internalName ∧
      ((before.put other there).leave found.compiled).grants.get? compiled.internalName =
        before.grants.get? compiled.internalName := by
  have hne := hbefore.internalName_ne hrunning hmodule hcompiled hother hnumber
  have hleft : found.compiled.map Compiled.internalName ≠ some compiled.internalName := by
    intro hsame
    obtain ⟨taken, htaken, hname⟩ := Option.map_eq_some_iff.mp hsame
    exact hne (((hbefore.wellFormed hother).own taken htaken).symm.trans hname)
  rw [get?_compiled_leave, get?_grants_leave, if_neg hleft, if_neg hleft]
  exact ⟨rfl, rfl⟩

/-- Ending the registration under a number leaves those under others. -/
theorem watches_unwatch {id : Nat} {registration : Registration}
    (hid : registration.id ≠ id) :
    (before.withWatcher (·.unwatch id)).Watches registration ↔
      before.Watches registration := by
  constructor
  · rintro ⟨watcher, hwatcher, hmem⟩
    obtain ⟨earlier, hearlier, rfl⟩ := Option.map_eq_some_iff.mp hwatcher
    exact ⟨earlier, hearlier, Watcher.mem_of_mem_unwatch hmem⟩
  · rintro ⟨watcher, hwatcher, hmem⟩
    exact ⟨watcher.unwatch id, by simp [withWatcher, hwatcher],
      Watcher.mem_unwatch_of_ne hmem hid⟩

/-- A module at another address is put in its place. -/
private theorem put_leavesAlone {other : Nat} (there : Option ScriptModule)
    (hmodule : before.module? address = some module) (hne : other ≠ address) :
    before.LeavesAlone (before.put other there) address module :=
  ⟨(before.module?_put_other there hne).trans hmodule, fun _ => Iff.rfl,
    fun _ _ => ⟨rfl, rfl⟩, fun _ _ _ => Iff.rfl⟩

/-- A module at another address and under another number is put in its place, and its
compiled script is taken out. -/
private theorem leave_leavesAlone (hbefore : before.Consistent)
    (hrunning : before.running = true) (hmodule : before.module? address = some module)
    {other : Nat} {found : ScriptModule} (hother : before.module? other = some found)
    (hspared : other ≠ address ∧ before.registry.get? found.id ≠ some address)
    (there : Option ScriptModule) :
    before.LeavesAlone ((before.put other there).leave found.compiled) address module where
  still := by
    rw [module?_leave, before.module?_put_other there hspared.1, hmodule]
  registered := by
    intro id
    rw [registry_leave]
    rfl
  entered := fun compiled hcompiled =>
    hbefore.entered_leave hrunning hmodule hcompiled hother hspared.2 there
  watched := by
    intro _ registration _
    unfold Watches
    rw [watcher_leave]
    rfl

/-- Registering files under a number leaves the registrations under others. -/
theorem watches_watch {id target : Nat} {files : List Path} {tree : FileTree}
    {registration : Registration} (hid : registration.id ≠ id) :
    (before.withWatcher fun watcher => (watcher.watch tree id target files).1).Watches
        registration ↔
      before.Watches registration := by
  constructor
  · rintro ⟨watcher, hwatcher, hmem⟩
    obtain ⟨earlier, hearlier, rfl⟩ := Option.map_eq_some_iff.mp hwatcher
    rcases Watcher.mem_watch hmem with rfl | hold
    · exact absurd rfl hid
    · exact ⟨earlier, hearlier, hold⟩
  · rintro ⟨watcher, hwatcher, hmem⟩
    refine ⟨(watcher.watch tree id target files).1, by simp [withWatcher, hwatcher], ?_⟩
    have hkept := Watcher.mem_unwatch_of_ne hmem hid
    rcases watcher.watch_registrations tree id target files with hsame | hmore
    · rw [hsame]
      exact hkept
    · rw [hmore]
      exact List.mem_append_left _ hkept

theorem Change.spared (hchange : Change (Touch.working touched) before after)
    (hbefore : before.Consistent) (hrunning : after.running = true)
    (hmodule : before.module? address = some module)
    (hspares : before.Spares touched address) :
    before.LeavesAlone after address module := by
  have hearlier : before.running = true := Changes.running (.single hchange) hrunning
  cases hchange with
  | edit edited _ hmay => exact put_leavesAlone _ hmodule (hspares _ _ hmay).1
  | @build other found built hother hmay _ _ hname =>
      obtain ⟨hne, hnumber⟩ := hspares _ _ hmay
      have hput := put_leavesAlone (some (found.withBuild built)) hmodule hne
      refine ⟨hput.still, hput.registered, fun compiled hcompiled => ?_, hput.watched⟩
      have hnames := hbefore.internalName_ne hearlier hmodule hcompiled hother hnumber
      rw [← hname] at hnames
      simp only [enter, Table.get?_set, if_neg hnames]
      exact ⟨rfl, rfl⟩
  | discard hother hmay =>
      exact leave_leavesAlone hbefore hearlier hmodule hother (hspares _ _ hmay) _
  | renew tree hother hmay =>
      exact leave_leavesAlone hbefore hearlier hmodule hother (hspares _ _ hmay) _
  | vanish hother hmay =>
      exact leave_leavesAlone hbefore hearlier hmodule hother (hspares _ _ hmay) _
  | unwatch id hmay =>
      refine ⟨hmodule, fun _ => Iff.rfl, fun _ _ => ⟨rfl, rfl⟩, ?_⟩
      intro hregistered registration hid
      refine watches_unwatch ?_
      rintro rfl
      exact (hspares _ _ hmay).2 (hid ▸ hregistered)
  | watch tree files hother hmay hwatch =>
      refine ⟨hmodule, fun _ => Iff.rfl, fun _ _ => ⟨rfl, rfl⟩, ?_⟩
      intro hregistered registration hid
      refine watches_watch ?_
      intro hsame
      exact (hspares _ _ hmay).2 (hsame ▸ hid ▸ hregistered)
  | register _ _ _ _ hmay => exact hmay.elim
  | collect _ _ hmay => exact hmay.elim
  | revoke _ hmay => exact hmay.elim
  | create name source id counter hmay hself hnumber hearlier hvacant =>
      obtain ⟨hne, hnumber⟩ := hspares _ _ hself
      refine ⟨(before.module?_put_other _ hne).trans hmodule, fun number => ?_,
        fun _ _ => ⟨rfl, rfl⟩, fun _ _ _ => Iff.rfl⟩
      simp only [Scripts.create, Table.get?_set]
      split
      · rename_i hsame
        have hid : id = number := hsame
        rw [hid] at hnumber
        exact iff_of_false (by simpa using hne) hnumber
      · exact Iff.rfl
  | unregister id hmay =>
      refine ⟨hmodule, fun number => ?_, fun _ _ => ⟨rfl, rfl⟩, fun _ _ _ => Iff.rfl⟩
      simp only [Scripts.unregister, Table.get?_erase]
      split
      · rename_i hsame
        have hid : id = number := hsame
        have hnumber := (hspares _ _ hmay).2
        rw [hid] at hnumber
        exact iff_of_false (by simp) hnumber
      · exact Iff.rfl
  | close => cases hrunning

theorem Changes.spared (hchanges : Changes (Touch.working touched) before after)
    (hbefore : before.Consistent) (hrunning : after.running = true)
    (hmodule : before.module? address = some module)
    (hspares : before.Spares touched address) :
    before.LeavesAlone after address module := by
  induction hchanges with
  | refl => exact .refl hmodule
  | tail hearlier hchange ih =>
      have hmiddle := ih (Changes.running (.single hchange) hrunning)
      refine hmiddle.trans (hchange.spared (Changes.consistent hearlier hbefore)
        hrunning hmiddle.still fun other id hmay => ?_)
      obtain ⟨hne, hnumber⟩ := hspares other id hmay
      exact ⟨hne, fun hregistered => hnumber ((hmiddle.registered id).mp hregistered)⟩

/-- Where no modules are made or built. -/
theorem Changes.leavesAlone (hchanges : Changes (Touch.modules touched) before after)
    (hbefore : before.Consistent) (hrunning : after.running = true)
    (hmodule : before.module? address = some module)
    (hspares : before.Spares touched address) :
    before.LeavesAlone after address module :=
  (hchanges.mono Touch.working_of_modules).spared hbefore hrunning hmodule hspares

/-- A module that is not touched remains as it is. -/
theorem Change.module?_spared (hchange : Change (Touch.working touched) before after)
    (hspared : ∀ id, ¬ touched address id) :
    after.module? address = before.module? address := by
  have hput : ∀ {place id : Nat} (there : Option ScriptModule), touched place id →
      (before.put place there).module? address = before.module? address := by
    intro place id there htouched
    refine before.module?_put_other there ?_
    rintro rfl
    exact hspared id htouched
  cases hchange with
  | edit edited _ hmay => exact hput _ hmay
  | build compiled _ hmay => exact hput _ hmay
  | discard _ hmay => rw [module?_leave]; exact hput _ hmay
  | renew tree _ hmay => rw [module?_leave]; exact hput _ hmay
  | vanish _ hmay => rw [module?_leave]; exact hput _ hmay
  | create name source id counter hmay hself => exact hput _ hself
  | _ => rfl

theorem Changes.module?_spared (hchanges : Changes (Touch.working touched) before after)
    (hspared : ∀ id, ¬ touched address id) :
    after.module? address = before.module? address := by
  induction hchanges with
  | refl => rfl
  | tail _ hchange ih => exact (hchange.module?_spared hspared).trans ih

/-! ### Numbers and names -/

/-- What is recorded under a number that is not touched. -/
theorem Change.number_spared (hchange : Change (Touch.working touched) before after)
    (hrunning : after.running = true) {id : Nat} (hspared : ∀ other, ¬ touched other id) :
    after.registry.get? id = before.registry.get? id ∧
      ∀ registration, registration.id = id →
        (after.Watches registration ↔ before.Watches registration) := by
  have hleft : ∀ (other : Nat) (there : Option ScriptModule) (compiled : Option Compiled),
      ((before.put other there).leave compiled).registry.get? id = before.registry.get? id ∧
        ∀ registration, registration.id = id →
          (((before.put other there).leave compiled).Watches registration ↔
            before.Watches registration) := by
    intro other there compiled
    unfold Watches
    rw [registry_leave, watcher_leave]
    exact ⟨rfl, fun _ _ => Iff.rfl⟩
  cases hchange with
  | edit => exact ⟨rfl, fun _ _ => Iff.rfl⟩
  | build => exact ⟨rfl, fun _ _ => Iff.rfl⟩
  | discard => exact hleft _ _ _
  | renew => exact hleft _ _ _
  | vanish => exact hleft _ _ _
  | unwatch number hmay =>
      refine ⟨rfl, fun registration hid => watches_unwatch ?_⟩
      rintro rfl
      exact hspared _ (hid ▸ hmay)
  | watch tree files hmodule hmay =>
      refine ⟨rfl, fun registration hid => watches_watch fun hsame => ?_⟩
      exact hspared _ (hid ▸ hsame ▸ hmay)
  | register _ _ _ _ hmay => exact hmay.elim
  | collect _ _ hmay => exact hmay.elim
  | revoke _ hmay => exact hmay.elim
  | create name source number counter hmay hself =>
      refine ⟨?_, fun _ _ => Iff.rfl⟩
      simp only [Scripts.create, Table.get?_set]
      refine if_neg fun hsame => hspared before.next ?_
      exact hsame ▸ hself
  | unregister number hmay =>
      refine ⟨?_, fun _ _ => Iff.rfl⟩
      simp only [Scripts.unregister, Table.get?_erase]
      rw [if_neg]
      rintro rfl
      exact hspared _ hmay
  | close => cases hrunning

theorem Changes.number_spared (hchanges : Changes (Touch.working touched) before after)
    (hrunning : after.running = true) {id : Nat} (hspared : ∀ other, ¬ touched other id) :
    after.registry.get? id = before.registry.get? id ∧
      ∀ registration, registration.id = id →
        (after.Watches registration ↔ before.Watches registration) := by
  induction hchanges with
  | refl => exact ⟨rfl, fun _ _ => Iff.rfl⟩
  | tail hearlier hchange ih =>
      obtain ⟨hregistry, hwatches⟩ := ih (Changes.running (.single hchange) hrunning)
      obtain ⟨hregistry', hwatches'⟩ := hchange.number_spared hrunning hspared
      exact ⟨hregistry'.trans hregistry, fun registration hid =>
        (hwatches' registration hid).trans (hwatches registration hid)⟩

/-- Nothing comes to be recorded under a number that is not touched. -/
theorem Changes.cleared (hchanges : Changes (Touch.working touched) before after)
    (hbefore : before.Consistent) {id : Nat} (hspared : ∀ other, ¬ touched other id)
    (hcleared : before.Cleared id) : after.Cleared id := by
  by_cases hrunning : after.running = true
  · obtain ⟨hregistry, hwatches⟩ := hchanges.number_spared hrunning hspared
    refine ⟨hregistry.trans hcleared.registry, fun hwatcher registration hmem hid => ?_⟩
    obtain ⟨watcher, hearlier, hthere⟩ := (hwatches registration hid).mp ⟨_, hwatcher, hmem⟩
    exact hcleared.watcher hearlier registration hthere hid
  · have hstopped : after.running = false := by simpa using hrunning
    exact (Changes.consistent hchanges hbefore).closed.cleared hstopped id

/-- The compiled scripts of modules from an address on are all entered. -/
def EntersFrom (first : Nat) (scripts : Scripts) : Prop :=
  scripts.running = true → ∀ {address module compiled}, first ≤ address →
    scripts.module? address = some module → module.compiled = some compiled →
      scripts.compiled.get? compiled.internalName = some compiled

/-- Taking out the compiled script of one module leaves those of others. -/
private theorem leave_entersFrom {first : Nat} (hbefore : before.Consistent)
    (henters : before.EntersFrom first) {other : Nat} {found : ScriptModule}
    (hother : before.module? other = some found) {there : Option ScriptModule}
    (hthere : ∀ module, there = some module → module.compiled = none) :
    ((before.put other there).leave found.compiled).EntersFrom first := by
  intro hrunning address module compiled hfirst hmodule hcompiled
  have hearlier : before.running = true := by
    cases hfound : found.compiled <;> simpa [leave, remove, put, hfound] using hrunning
  rw [module?_leave, module?_put] at hmodule
  split at hmodule
  · rw [hthere module hmodule] at hcompiled
    cases hcompiled
  · rename_i hne
    have hentered := henters hearlier hfirst hmodule hcompiled
    rw [get?_compiled_leave, if_neg]
    · exact hentered
    · intro hsame
      obtain ⟨taken, htaken, hname⟩ := Option.map_eq_some_iff.mp hsame
      have hwell := hbefore.wellFormed hmodule
      have hwell' := hbefore.wellFormed hother
      have hbuilt : module.state = .built := hwell.built.mp (by simp [hcompiled])
      have hbuilt' : found.state = .built := hwell'.built.mp (by simp [htaken])
      refine hne (hbefore.owner_unique hearlier hother hmodule (by simp [hbuilt'])
        (by simp [hbuilt]) ?_)
      rw [← hwell'.own taken htaken, ← hwell.own compiled hcompiled, hname]

theorem Change.entersFrom {first : Nat}
    (hchange : Change (Touch.working touched) before after) (hbefore : before.Consistent)
    (henters : before.EntersFrom first) : after.EntersFrom first := by
  cases hchange with
  | @edit other found edited hother _ hedit =>
      intro hrunning address module compiled hfirst hmodule hcompiled
      rw [module?_put] at hmodule
      split at hmodule
      · rename_i hsame
        cases hmodule
        exact henters hrunning (hsame ▸ hfirst) hother (hedit.compiled ▸ hcompiled)
      · exact henters hrunning hfirst hmodule hcompiled
  | @build other found built hother _ hready hearlier hname =>
      intro hrunning address module compiled hfirst hmodule hcompiled
      simp only [enter, module?_put] at hmodule
      simp only [enter, Table.get?_set]
      split at hmodule
      · cases hmodule
        cases hcompiled
        simp
      · rename_i hne
        have hwell := hbefore.wellFormed hmodule
        have hbuilt : module.state = .built := hwell.built.mp (by simp [hcompiled])
        rw [if_neg]
        · exact henters hearlier hfirst hmodule hcompiled
        · intro hsame
          refine hne (hbefore.owner_unique hearlier hother hmodule (by simp [hready])
            (by simp [hbuilt]) ?_)
          rw [← hname, hsame, hwell.own compiled hcompiled]
  | discard hother =>
      refine leave_entersFrom hbefore henters hother ?_
      rintro _ ⟨⟩
      rfl
  | renew tree hother =>
      refine leave_entersFrom hbefore henters hother ?_
      rintro _ ⟨⟩
      rfl
  | vanish hother =>
      refine leave_entersFrom hbefore henters hother ?_
      intro _ hnone
      cases hnone
  | unwatch => exact henters
  | watch => exact henters
  | register _ _ _ _ hmay => exact hmay.elim
  | collect _ _ hmay => exact hmay.elim
  | revoke _ hmay => exact hmay.elim
  | create name source number counter hmay hself hnumber hearlier hvacant =>
      intro hrunning address module compiled hfirst hmodule hcompiled
      simp only [Scripts.create, module?_put] at hmodule
      split at hmodule
      · cases hmodule
        cases hcompiled
      · exact henters hearlier hfirst hmodule hcompiled
  | unregister => exact henters
  | close => exact fun hrunning => by cases hrunning

theorem Changes.entersFrom {first : Nat}
    (hchanges : Changes (Touch.working touched) before after) (hbefore : before.Consistent)
    (henters : before.EntersFrom first) : after.EntersFrom first :=
  hchanges.keeps (fun hconsistent hkept hchange => hchange.entersFrom hconsistent hkept)
    hbefore henters

/-- Every module was there before, or it has been made by whoever may touch it. -/
theorem Changes.origin {may : Touch → Prop} (hchanges : Changes may before after)
    (hmodule : after.module? address = some module) :
    (∃ earlier, before.module? address = some earlier ∧ module.id = earlier.id) ∨
      before.next ≤ address ∧ may (.module address module.id) := by
  induction hchanges generalizing module with
  | refl => exact .inl ⟨module, hmodule, rfl⟩
  | tail hearlier hchange ih =>
      rcases hchange.identity hmodule with ⟨found, hfound, hid, -, -⟩ | ⟨rfl, -, hmay⟩
      · rcases ih hfound with ⟨first, hfirst, hsame⟩ | ⟨hnext, hmay⟩
        · exact .inl ⟨first, hfirst, hid.trans hsame⟩
        · exact .inr ⟨hnext, hid ▸ hmay⟩
      · exact .inr ⟨Changes.next_le hearlier, hmay⟩

end Scripts

end ScriptHost
