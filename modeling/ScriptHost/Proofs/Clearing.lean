import ScriptHost.Proofs.Listening

/-!
What is left when script modules are taken away. Where no module is made and none
is built, modules and registrations only become fewer, so that a number under
which nothing is registered remains free. The handles of script modules among
those that are to be dropped are counted by their addresses.
-/

namespace ScriptHost

/-- The script modules among some handles, each as often as there are handles. -/
def Owned.modules (handles : List Owned) : List Nat :=
  handles.filterMap fun handle => match handle with
    | .module address => some address
    | .object _ => none

/-- The objects among some handles, each as often as there are handles. -/
def Owned.objects (handles : List Owned) : List Nat :=
  handles.filterMap fun handle => match handle with
    | .module _ => none
    | .object ref => some ref.address

namespace Owned

@[simp]
theorem modules_nil : Owned.modules [] = [] := rfl

@[simp]
theorem modules_append (first second : List Owned) :
    Owned.modules (first ++ second) = Owned.modules first ++ Owned.modules second := by
  simp [Owned.modules]

@[simp]
theorem modules_module (address : Nat) (rest : List Owned) :
    Owned.modules (.module address :: rest) = address :: Owned.modules rest := by
  simp [Owned.modules]

@[simp]
theorem modules_object (ref : ObjectRef) (rest : List Owned) :
    Owned.modules (.object ref :: rest) = Owned.modules rest := by
  simp [Owned.modules]

@[simp]
theorem modules_objects (refs : List ObjectRef) :
    Owned.modules (refs.map Owned.object) = [] := by
  induction refs with
  | nil => rfl
  | cons ref rest ih => simpa using ih

@[simp]
theorem modules_resultObjects (outcome : Except InvokeError (Option NativeValue)) :
    Owned.modules (Act.resultObjects outcome) = [] := by
  unfold Act.resultObjects
  split
  · exact modules_objects _
  · rfl

@[simp]
theorem objects_nil : Owned.objects [] = [] := rfl

@[simp]
theorem objects_append (first second : List Owned) :
    Owned.objects (first ++ second) = Owned.objects first ++ Owned.objects second := by
  simp [Owned.objects]

@[simp]
theorem objects_module (address : Nat) (rest : List Owned) :
    Owned.objects (.module address :: rest) = Owned.objects rest := by
  simp [Owned.objects]

@[simp]
theorem objects_object (ref : ObjectRef) (rest : List Owned) :
    Owned.objects (.object ref :: rest) = ref.address :: Owned.objects rest := by
  simp [Owned.objects]

theorem modules_modules (addresses : List Nat) :
    Owned.modules (addresses.map Owned.module) = addresses := by
  induction addresses with
  | nil => rfl
  | cons address rest ih => rw [List.map_cons, modules_module, ih]

theorem objects_modules (addresses : List Nat) :
    Owned.objects (addresses.map Owned.module) = [] := by
  induction addresses with
  | nil => rfl
  | cons address rest ih => rw [List.map_cons, objects_module, ih]

@[simp]
theorem objects_objects (refs : List ObjectRef) :
    Owned.objects (refs.map Owned.object) = refs.map ObjectRef.address := by
  induction refs with
  | nil => rfl
  | cons ref rest ih => simpa using ih

end Owned

namespace Scripts

/-- Nothing is registered under a number, neither a module nor files. -/
structure Cleared (scripts : Scripts) (id : Nat) : Prop where
  registry : scripts.registry.get? id = none
  watcher : ∀ {watcher}, scripts.watcher = some watcher →
    ∀ registration ∈ watcher.registrations, registration.id ≠ id

/-- Without the executor nothing is registered. -/
theorem Closed.cleared {scripts : Scripts} (hclosed : scripts.Closed)
    (hstopped : scripts.running = false) (id : Nat) : scripts.Cleared id := by
  obtain ⟨-, -, hregistry, hwatcher⟩ := hclosed hstopped
  refine ⟨by rw [hregistry]; rfl, fun hsome => ?_⟩
  rw [hwatcher] at hsome
  cases hsome

/-- What one transition leaves is what was there before. -/
structure Shrinks (before after : Scripts) : Prop where
  modules : ∀ {address module}, after.module? address = some module →
    ∃ earlier, before.module? address = some earlier ∧ module.id = earlier.id
  registry : ∀ {id address}, after.registry.get? id = some address →
    before.registry.get? id = some address
  watcher : ∀ {watcher}, after.watcher = some watcher →
    ∃ earlier, before.watcher = some earlier ∧
      ∀ registration ∈ watcher.registrations, registration ∈ earlier.registrations

theorem Shrinks.refl (scripts : Scripts) : scripts.Shrinks scripts :=
  ⟨fun hmodule => ⟨_, hmodule, rfl⟩, id, fun hwatcher => ⟨_, hwatcher, fun _ => id⟩⟩

theorem Shrinks.trans {first second third : Scripts}
    (hfirst : first.Shrinks second) (hsecond : second.Shrinks third) :
    first.Shrinks third where
  modules := by
    intro address module hmodule
    obtain ⟨middle, hmiddle, hid⟩ := hsecond.modules hmodule
    obtain ⟨earlier, hearlier, hid'⟩ := hfirst.modules hmiddle
    exact ⟨earlier, hearlier, hid.trans hid'⟩
  registry := fun hregistered => hfirst.registry (hsecond.registry hregistered)
  watcher := by
    intro watcher hwatcher
    obtain ⟨middle, hmiddle, hsub⟩ := hsecond.watcher hwatcher
    obtain ⟨earlier, hearlier, hsub'⟩ := hfirst.watcher hmiddle
    exact ⟨earlier, hearlier, fun registration hmem => hsub' _ (hsub _ hmem)⟩

theorem Cleared.of_shrinks {before after : Scripts} {id : Nat}
    (hcleared : before.Cleared id) (hshrinks : before.Shrinks after) :
    after.Cleared id where
  registry := by
    cases hregistered : after.registry.get? id with
    | none => rfl
    | some address =>
        have hbefore := hshrinks.registry hregistered
        rw [hcleared.registry] at hbefore
        cases hbefore
  watcher := by
    intro watcher hwatcher registration hmem
    obtain ⟨earlier, hearlier, hsub⟩ := hshrinks.watcher hwatcher
    exact hcleared.watcher hearlier registration (hsub registration hmem)

/-- The scripts after a transition, where modules, the registry and the
registrations of files have at most become fewer. -/
private theorem shrinks_of_subset {before after : Scripts}
    (hmodules : ∀ {address module}, after.module? address = some module →
      ∃ earlier, before.module? address = some earlier ∧ module.id = earlier.id)
    (hregistry : after.registry = before.registry)
    (hwatcher : after.watcher = before.watcher) : before.Shrinks after :=
  ⟨hmodules, fun hregistered => hregistry ▸ hregistered,
    fun hsome => ⟨_, hwatcher ▸ hsome, fun _ => id⟩⟩

/-- Where no module is made and no files are registered, what there is only
becomes less. -/
theorem Change.shrinks {touched : Nat → Nat → Prop} {before after : Scripts}
    (hchange : Change (Touch.modules touched) before after) :
    before.Shrinks after := by
  have hmodules : ∀ {address module}, after.module? address = some module →
      ∃ earlier, before.module? address = some earlier ∧
        module.id = earlier.id := by
    intro address module hmodule
    rcases hchange.identity hmodule with ⟨earlier, hearlier, hid, -, -⟩ | ⟨-, hmay, -⟩
    · exact ⟨earlier, hearlier, hid⟩
    · exact hmay.elim
  cases hchange with
  | edit => exact shrinks_of_subset hmodules rfl rfl
  | build => exact shrinks_of_subset hmodules rfl rfl
  | discard => exact shrinks_of_subset hmodules (registry_leave _ _) (watcher_leave _ _)
  | renew => exact shrinks_of_subset hmodules (registry_leave _ _) (watcher_leave _ _)
  | vanish => exact shrinks_of_subset hmodules (registry_leave _ _) (watcher_leave _ _)
  | unwatch number _ =>
      refine ⟨hmodules, fun hregistered => hregistered, ?_⟩
      intro watcher hwatcher
      obtain ⟨earlier, hearlier, rfl⟩ := Option.map_eq_some_iff.mp hwatcher
      exact ⟨earlier, hearlier, fun _ => Watcher.mem_of_mem_unwatch⟩
  | watch _ _ _ _ hwatch => exact hwatch.elim
  | register _ _ _ _ hmay => exact hmay.elim
  | collect _ _ hmay => exact hmay.elim
  | revoke _ hmay => exact hmay.elim
  | create _ _ _ _ hmay => exact hmay.elim
  | unregister erased _ _ _ =>
      refine ⟨hmodules, ?_, fun hwatcher => ⟨_, hwatcher, fun _ => id⟩⟩
      intro number address hregistered
      simp only [Scripts.unregister, Table.get?_erase] at hregistered
      split at hregistered
      · cases hregistered
      · exact hregistered
  | close => exact ⟨hmodules, by simp [Scripts.close], by simp [Scripts.close]⟩

theorem Changes.shrinks {touched : Nat → Nat → Prop} {before after : Scripts}
    (hchanges : Changes (Touch.modules touched) before after) :
    before.Shrinks after := by
  induction hchanges with
  | refl => exact .refl before
  | tail _ hchange ih => exact ih.trans hchange.shrinks

end Scripts

end ScriptHost
