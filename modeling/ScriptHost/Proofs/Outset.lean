import ScriptHost.Proofs.Following
import ScriptHost.Proofs.Numbering
import ScriptHost.Proofs.Sparing

/-!
The script modules of the game modules that have come since some time. Each of them belongs
to one game module, whose hooks it has, and whatever has been recorded since under new numbers
is that of a script module which a living game module has.
-/

namespace ScriptHost

namespace Scripts

variable {may : Touch → Prop} {before after scripts : Scripts}

/-- The counter has passed all numbers under which something is recorded. -/
structure Numbered (scripts : Scripts) : Prop where
  modules : ∀ {address module}, scripts.module? address = some module →
    module.id < scripts.counter
  registered : scripts.Counted
  watched : ∀ {registration}, scripts.Watches registration →
    registration.id < scripts.counter

/-- A module was there before, or it is registered under the number it is made with. -/
theorem Change.there_or_registered (hchange : Change may before after)
    (hbefore : before.Consistent) {address : Nat} {module : ScriptModule}
    (hmodule : after.module? address = some module) :
    (∃ earlier, before.module? address = some earlier ∧ module.id = earlier.id) ∨
      after.registry.get? module.id = some address := by
  rcases hchange.identity hmodule with ⟨earlier, hearlier, hid, -, -⟩ | ⟨hnext, -, -⟩
  · exact .inl ⟨earlier, hearlier, hid⟩
  · have hnone : before.module? address = none := by
      by_contra hsome
      obtain ⟨found, hfound⟩ := Option.ne_none_iff_exists'.mp hsome
      have hbelow := hbefore.below hfound
      omega
    have hput : ∀ {other found} (changed : Option ScriptModule),
        before.module? other = some found → (before.put other changed).module? address = none := by
      intro other found changed hfound
      rw [module?_put_other, hnone]
      rintro rfl
      rw [hnone] at hfound
      cases hfound
    refine .inr ?_
    cases hchange with
    | edit edited hother => rw [hput _ hother] at hmodule; cases hmodule
    | build compiled hother => exact absurd (hmodule.symm.trans (hput _ hother)) nofun
    | discard hother => rw [module?_leave, hput _ hother] at hmodule; cases hmodule
    | renew tree hother => rw [module?_leave, hput _ hother] at hmodule; cases hmodule
    | vanish hother => rw [module?_leave, hput _ hother] at hmodule; cases hmodule
    | create name source id counter =>
        subst hnext
        simp only [Scripts.create, module?_put_self, Option.some.injEq] at hmodule
        subst hmodule
        simp [Scripts.create]
    | _ => exact absurd (hmodule.symm.trans hnone) nofun

theorem Change.numbered (hchange : Change may before after) (hbefore : before.Consistent)
    (hchosen : before.ChoosesBelow may) (hunregistered : ¬ may .registrations)
    (hnumbered : before.Numbered) : after.Numbered := by
  have hcounter := hchange.counter_le
  have hcounted := hchange.counted hnumbered.registered hchosen
  refine ⟨fun hmodule => ?_, hcounted, ?_⟩
  · rcases hchange.there_or_registered hbefore hmodule with ⟨earlier, hearlier, hid⟩ | hnew
    · exact hid ▸ Nat.lt_of_lt_of_le (hnumbered.modules hearlier) hcounter
    · exact hcounted _ _ hnew
  · rintro registration ⟨watcher, hwatcher, hmem⟩
    rcases hchange.registration hunregistered hwatcher hmem with
      ⟨earlier, hearlier, hthere⟩ | ⟨module, hmodule, hid⟩
    · exact Nat.lt_of_lt_of_le (hnumbered.watched ⟨earlier, hearlier, hthere⟩) hcounter
    · exact hid ▸ Nat.lt_of_lt_of_le (hnumbered.modules hmodule) hcounter

theorem Changes.numbered (hchanges : Changes may before after) (hbefore : before.Consistent)
    (hchosen : before.ChoosesBelow may) (hunregistered : ¬ may .registrations)
    (hnumbered : before.Numbered) : after.Numbered := by
  induction hchanges with
  | refl => exact hnumbered
  | tail hearlier hchange ih =>
      exact hchange.numbered (Changes.consistent hearlier hbefore)
        (fun name id hmay => Nat.lt_of_lt_of_le (hchosen name id hmay)
          (Changes.counter_le hearlier)) hunregistered ih

end Scripts

namespace World

variable {world : World}

/-- There is no script module where there is nothing. -/
theorem module?_of_empty (hmodules : world.modules.cells.isEmpty = true) (address : Nat) :
    world.module? address = none := by
  rw [List.isEmpty_iff] at hmodules
  simp [World.module?, Heap.get?, Heap.cell?, hmodules]

theorem game?_of_empty (hobjects : world.objects.cells.isEmpty = true) (place : Nat) :
    world.game? place = none := by
  rw [List.isEmpty_iff] at hobjects
  simp [World.game?, Heap.get?, Heap.cell?, hobjects]

/-- Nothing is recorded under a number yet. -/
theorem numbered_of_empty (hmodules : world.modules.cells.isEmpty = true)
    (hregistry : world.executor.registry.isEmpty = true)
    (hwatcher : world.executor.watcher.isNone = true) : world.scripts.Numbered where
  modules := fun {address module} hmodule => by
    cases (module?_of_empty hmodules address).symm.trans hmodule
  registered := fun id address hentry => by
    have hnone : world.executor.registry.get? id = none := by
      simp [List.isEmpty_iff.mp hregistry]
    cases hnone.symm.trans hentry
  watched := by
    rintro registration ⟨watcher, hsome, -⟩
    cases (Option.isNone_iff_eq_none.mp hwatcher).symm.trans hsome

end World

/-- What is remembered of a world, to tell what has come since, and what may become of its
script modules meanwhile. -/
structure Outset where
  objects : Heap ObjectBody
  scripts : Scripts
  deliveries : List Delivery
  may : Touch → Prop
  /-- New script modules may be worked on. -/
  allows : ∀ touch, Touch.working (fun address id =>
    scripts.next ≤ address ∧ scripts.counter ≤ id) touch → may touch
  /-- Whether what comes since is initialized once only. -/
  once : Prop
  /-- Script modules that have nothing to say any more, with what they have been told. -/
  hushed : Nat → List Delivery → Prop

/-- A world, to be compared with what becomes of it in a load. -/
def World.outset (world : World) : Outset where
  objects := world.objects
  scripts := world.scripts
  deliveries := world.deliveries
  may := Touch.working fun address id =>
    world.scripts.next ≤ address ∧ world.scripts.counter ≤ id
  allows := fun _ hmay => hmay
  once := True
  hushed := fun _ _ => False

namespace Outset

/-- A living game module that has come since. -/
def New (outset : Outset) (world : World) (place : Nat) (game : GameModule) : Prop :=
  world.game? place = some game ∧ outset.objects.get? place = none

/-- A game module that has come since has a script module. -/
def Has (outset : Outset) (world : World) (place script : Nat) : Prop :=
  ∃ game, outset.New world place game ∧ game.script = some script

variable {outset : Outset} {before after world : World} {place script : Nat}
  {game found : GameModule}

theorem New.unique (hnew : outset.New world place game) (hfound : outset.New world place found) :
    found = game :=
  Option.some.inj (hfound.1.symm.trans hnew.1)

theorem New.of_eq (hnew : outset.New before place game)
    (hsame : after.game? place = before.game? place) : outset.New after place game :=
  ⟨hsame.trans hnew.1, hnew.2⟩

theorem Has.unique (hhas : outset.Has world place script) {other : Nat}
    (hother : outset.Has world place other) : other = script := by
  obtain ⟨game, hgame, hscript⟩ := hhas
  obtain ⟨found, hfound, hscript'⟩ := hother
  rw [hgame.unique hfound, hscript] at hscript'
  exact (Option.some.inj hscript').symm

theorem has_congr (hgames : ∀ place, after.game? place = before.game? place)
    (place script : Nat) :
    outset.Has after place script ↔ outset.Has before place script := by
  simp only [Has, New, hgames]

end Outset

namespace Scripts

/-- The script modules that have come since some time, where `has` tells which game module
has which of them: nothing else has been recorded. -/
structure Assigned (outset : Outset) (has : Nat → Nat → Prop) (scripts : Scripts) : Prop where
  worked : Changes outset.may outset.scripts scripts
  numbered : scripts.Numbered
  /-- Those that were there bear their old numbers, and they have come by no hooks. -/
  older : ∀ {script module}, script < outset.scripts.next →
    scripts.module? script = some module → module.id < outset.scripts.counter ∧
      ∀ hooks, module.hooks = some hooks → ∃ earlier,
        outset.scripts.module? script = some earlier ∧ earlier.hooks = some hooks
  numbers : ∀ {script module}, outset.scripts.next ≤ script →
    scripts.module? script = some module → outset.scripts.counter ≤ module.id
  owned : ∀ {place script}, has place script → outset.scripts.next ≤ script ∧
    ∀ module, scripts.module? script = some module → module.state ≠ .discarded
  apart : ∀ {place other script}, has place script → has other script → place = other
  hooked : ∀ {script module hooks}, outset.scripts.next ≤ script →
    scripts.module? script = some module → module.hooks = some hooks →
      ∃ place, hooks = .game place ∧ has place script
  given : ∀ {script module}, outset.scripts.next ≤ script →
    scripts.module? script = some module → module.state ≠ .discarded →
      ∃ place, has place script
  registered : ∀ {id script}, outset.scripts.counter ≤ id →
    scripts.registry.get? id = some script → ∃ place, has place script
  watched : ∀ {registration}, outset.scripts.counter ≤ registration.id →
    scripts.Watches registration → ∃ place script module, has place script ∧
      scripts.module? script = some module ∧ module.id = registration.id
  entered : scripts.EntersFrom outset.scripts.next

variable {outset : Outset} {has has' : Nat → Nat → Prop} {before after scripts : Scripts}
  {place script id : Nat} {module : ScriptModule}

theorem Assigned.congr (hassigned : scripts.Assigned outset has)
    (hhas : ∀ place script, has' place script ↔ has place script) :
    scripts.Assigned outset has' := by
  have heq : has' = has := funext fun place => funext fun script => propext (hhas place script)
  exact heq ▸ hassigned

theorem Assigned.next_le (hassigned : scripts.Assigned outset has) :
    outset.scripts.next ≤ scripts.next :=
  Changes.next_le hassigned.worked

theorem Assigned.counter_le (hassigned : scripts.Assigned outset has) :
    outset.scripts.counter ≤ scripts.counter :=
  Changes.counter_le hassigned.worked

/-- Nothing has come yet. -/
theorem Assigned.refl {world : World} (hscripts : world.scripts.Consistent)
    (hnumbered : world.scripts.Numbered) (hnone : ∀ place script, ¬ has place script) :
    world.scripts.Assigned world.outset has where
  worked := .refl
  numbered := hnumbered
  older := fun _ hmodule => ⟨hnumbered.modules hmodule, fun _ hhooks => ⟨_, hmodule, hhooks⟩⟩
  numbers := fun hfirst hmodule => absurd (hscripts.below hmodule) (Nat.not_lt.mpr hfirst)
  owned := fun hhas => absurd hhas (hnone _ _)
  apart := fun hhas => absurd hhas (hnone _ _)
  hooked := fun hfirst hmodule => absurd (hscripts.below hmodule) (Nat.not_lt.mpr hfirst)
  given := fun hfirst hmodule => absurd (hscripts.below hmodule) (Nat.not_lt.mpr hfirst)
  registered := fun hnumber hregistered =>
    absurd (hnumbered.registered _ _ hregistered) (Nat.not_lt.mpr hnumber)
  watched := fun hnumber hwatches =>
    absurd (hnumbered.watched hwatches) (Nat.not_lt.mpr hnumber)
  entered := fun _ _ _ _ hfirst hmodule =>
    absurd (hscripts.below hmodule) (Nat.not_lt.mpr hfirst)

/-- Numbers remain counted where script modules are worked on. -/
theorem Numbered.worked {touched : Nat → Nat → Prop} (hbefore : before.Consistent)
    (hnumbered : before.Numbered) (hchanges : Changes (Touch.working touched) before after) :
    after.Numbered :=
  Changes.numbered hchanges hbefore (fun _ _ hmay => hmay.elim) (fun hmay => hmay) hnumbered

/-- One script module may be worked on, with all that is recorded under its number. -/
def Alone (script id : Nat) (address number : Nat) : Prop :=
  address = script ∧ number = id

/-- What is worked on has come since. -/
theorem Assigned.allows (hassigned : before.Assigned outset has)
    (hmodule : before.module? script = some module) (hfirst : outset.scripts.next ≤ script)
    (touch : Touch) (hmay : Touch.working (Alone script module.id) touch) :
    outset.may touch :=
  outset.allows touch (Touch.working_mono (by
    rintro address number ⟨rfl, rfl⟩
    exact ⟨hfirst, hassigned.numbers hfirst hmodule⟩) touch hmay)

/-- The script module of a game module is worked on. It does not come by other hooks, and it
is not discarded. -/
theorem Assigned.works (hassigned : before.Assigned outset has) (hbefore : before.Consistent)
    (hrunning : after.running = true) (hhas : has place script)
    (hmodule : before.module? script = some module)
    (hchanges : Changes (Touch.working (Alone script module.id)) before after)
    (hstays : ∃ left, after.module? script = some left ∧ left.state ≠ .discarded ∧
      ∀ hooks, left.hooks = some hooks → hooks = .game place) :
    after.Assigned outset has := by
  obtain ⟨left, hleft, hstate, hhooks⟩ := hstays
  have hafter := Changes.consistent hchanges hbefore
  have hfirst := (hassigned.owned hhas).1
  have helsewhere : ∀ {other}, other ≠ script → after.module? other = before.module? other :=
    fun hne => hchanges.module?_spared fun number hmay => hne hmay.1
  have hid : left.id = module.id := by
    rcases Changes.origin hchanges hleft with ⟨earlier, hearlier, hid⟩ | ⟨hnext, -⟩
    · rw [hmodule] at hearlier
      cases hearlier
      exact hid
    · exact absurd (hbefore.below hmodule) (Nat.not_lt.mpr hnext)
  have hnumber : ∀ {number}, number ≠ module.id →
      after.registry.get? number = before.registry.get? number ∧
        ∀ registration, registration.id = number →
          (after.Watches registration ↔ before.Watches registration) :=
    fun hne => hchanges.number_spared hrunning fun other hmay => hne hmay.2
  refine
    { worked := hassigned.worked.trans
        (hchanges.mono (hassigned.allows hmodule hfirst))
      numbered := hassigned.numbered.worked hbefore hchanges
      older := fun hold hfound => hassigned.older hold
        (helsewhere (Nat.ne_of_lt (Nat.lt_of_lt_of_le hold hfirst)) ▸ hfound)
      numbers := ?_
      owned := fun howner => ⟨(hassigned.owned howner).1, ?_⟩
      apart := hassigned.apart
      hooked := ?_
      given := ?_
      registered := ?_
      watched := ?_
      entered := hchanges.entersFrom hbefore hassigned.entered }
  · intro other found hother hfound
    by_cases hsame : other = script
    · subst hsame
      rw [hleft] at hfound
      cases hfound
      exact hid ▸ hassigned.numbers hother hmodule
    · exact hassigned.numbers hother (helsewhere hsame ▸ hfound)
  · intro found hfound
    by_cases hsame : ‹Nat› = script
    · subst hsame
      rw [hleft] at hfound
      cases hfound
      exact hstate
    · exact (hassigned.owned howner).2 found (helsewhere hsame ▸ hfound)
  · intro other found hooks hother hfound hhooked
    by_cases hsame : other = script
    · subst hsame
      rw [hleft] at hfound
      cases hfound
      exact ⟨place, hhooks hooks hhooked, hhas⟩
    · exact hassigned.hooked hother (helsewhere hsame ▸ hfound) hhooked
  · intro other found hother hfound hliving
    by_cases hsame : other = script
    · exact ⟨place, hsame ▸ hhas⟩
    · exact hassigned.given hother (helsewhere hsame ▸ hfound) hliving
  · intro number other hcounter hregistered
    by_cases hsame : number = module.id
    · have hown := hafter.registered hrunning hleft hstate
      rw [hid, ← hsame, hregistered] at hown
      cases hown
      exact ⟨place, hhas⟩
    · exact hassigned.registered hcounter ((hnumber hsame).1 ▸ hregistered)
  · intro registration hcounter hwatches
    by_cases hsame : registration.id = module.id
    · exact ⟨place, script, left, hhas, hleft, hid.trans hsame.symm⟩
    · obtain ⟨owner, other, found, howner, hfound, hnumbered⟩ :=
        hassigned.watched hcounter (((hnumber hsame).2 registration rfl).mp hwatches)
      have hne : other ≠ script := by
        rintro rfl
        rw [hmodule] at hfound
        cases hfound
        exact hsame hnumbered.symm
      exact ⟨owner, other, found, howner, (helsewhere hne).trans hfound, hnumbered⟩

/-- A script module is made for a game module that has none. -/
theorem Assigned.creates (hassigned : before.Assigned outset has) (hbefore : before.Consistent)
    (hrunning : before.running = true) (hunheld : ∀ place, ¬ has place before.next)
    (name source : String) (hnone : ∀ script, ¬ has place script)
    (hhas : ∀ other script, has' other script ↔
      has other script ∨ other = place ∧ script = before.next) :
    (before.create (before.counter + 1) (.create before.counter name source)).Assigned
      outset has' := by
  have hfree : before.registry.get? before.counter = none := by
    by_contra hsome
    obtain ⟨address, haddress⟩ := Option.ne_none_iff_exists'.mp hsome
    exact absurd (hassigned.numbered.registered _ _ haddress) (Nat.lt_irrefl _)
  have hmade : Change (Touch.working fun address id =>
      outset.scripts.next ≤ address ∧ outset.scripts.counter ≤ id) before
      (before.create (before.counter + 1) (.create before.counter name source)) :=
    .create name source before.counter (before.counter + 1) trivial
      ⟨hassigned.next_le, hassigned.counter_le⟩ (.inl ⟨rfl, rfl⟩) hrunning
      fun address module hregistered => by rw [hfree] at hregistered; cases hregistered
  have hmodules : ∀ other,
      (before.create (before.counter + 1) (.create before.counter name source)).module? other =
        if before.next = other then some (.create before.counter name source)
        else before.module? other := fun other => rfl
  refine
    { worked := hassigned.worked.tail (hmade.mono outset.allows)
      numbered := hassigned.numbered.worked hbefore (.single hmade)
      older := ?_
      numbers := ?_
      owned := ?_
      apart := ?_
      hooked := ?_
      given := ?_
      registered := ?_
      watched := ?_
      entered := Changes.entersFrom (.single hmade) hbefore hassigned.entered }
  · intro other found hold hfound
    have hnext := hassigned.next_le
    rw [hmodules, if_neg (by omega)] at hfound
    exact hassigned.older hold hfound
  · intro other found hother hfound
    rw [hmodules] at hfound
    split at hfound
    · cases hfound
      exact hassigned.counter_le
    · exact hassigned.numbers hother hfound
  · intro owner other howner
    rcases (hhas _ _).mp howner with hold | ⟨-, rfl⟩
    · refine ⟨(hassigned.owned hold).1, fun found hfound => ?_⟩
      rw [hmodules, if_neg (by rintro rfl; exact hunheld _ hold)] at hfound
      exact (hassigned.owned hold).2 found hfound
    · refine ⟨hassigned.next_le, fun found hfound => ?_⟩
      rw [hmodules, if_pos rfl] at hfound
      cases hfound
      simp [ScriptModule.create]
  · intro owner other script howner hother
    rcases (hhas _ _).mp howner with hold | ⟨rfl, rfl⟩ <;>
      rcases (hhas _ _).mp hother with hold' | ⟨rfl, hnew⟩
    · exact hassigned.apart hold hold'
    · exact absurd (hnew ▸ hold) (hunheld _)
    · exact absurd hold' (hunheld _)
    · rfl
  · intro other found hooks hother hfound hhooked
    rw [hmodules] at hfound
    split at hfound
    · cases hfound
      cases hhooked
    · obtain ⟨owner, hhooks, howner⟩ := hassigned.hooked hother hfound hhooked
      exact ⟨owner, hhooks, (hhas _ _).mpr (.inl howner)⟩
  · intro other found hother hfound hstate
    rw [hmodules] at hfound
    split at hfound
    · exact ⟨place, (hhas _ _).mpr (.inr ⟨rfl, (‹before.next = other›).symm⟩)⟩
    · obtain ⟨owner, howner⟩ := hassigned.given hother hfound hstate
      exact ⟨owner, (hhas _ _).mpr (.inl howner)⟩
  · intro number other hcounter hregistered
    simp only [Scripts.create, Table.get?_set] at hregistered
    split at hregistered
    · cases hregistered
      exact ⟨place, (hhas _ _).mpr (.inr ⟨rfl, rfl⟩)⟩
    · obtain ⟨owner, howner⟩ := hassigned.registered hcounter hregistered
      exact ⟨owner, (hhas _ _).mpr (.inl howner)⟩
  · intro registration hcounter hwatches
    obtain ⟨owner, other, found, howner, hfound, hid⟩ := hassigned.watched hcounter hwatches
    refine ⟨owner, other, found, (hhas _ _).mpr (.inl howner), ?_, hid⟩
    rw [hmodules, if_neg (by rintro rfl; exact hunheld _ howner)]
    exact hfound

/-- A game module loses its script module, and nothing remains recorded under the number of
that. -/
theorem Assigned.loses (hassigned : before.Assigned outset has) (hbefore : before.Consistent)
    (hrunning : after.running = true) (hhas : has place script)
    (hmodule : before.module? script = some module)
    (hchanges : Changes (Touch.working (Alone script module.id)) before after)
    (hleft : ∀ left, after.module? script = some left →
      left.state = .discarded ∧ left.hooks = none)
    (hcleared : after.Cleared module.id)
    (hsingle : ∀ other, has place other → other = script)
    (hhas' : ∀ other script, has' other script ↔ has other script ∧ other ≠ place) :
    after.Assigned outset has' := by
  have hfirst := (hassigned.owned hhas).1
  have helsewhere : ∀ {other}, other ≠ script → after.module? other = before.module? other :=
    fun hne => hchanges.module?_spared fun number hmay => hne hmay.1
  have hnumber : ∀ {number}, number ≠ module.id →
      after.registry.get? number = before.registry.get? number ∧
        ∀ registration, registration.id = number →
          (after.Watches registration ↔ before.Watches registration) :=
    fun hne => hchanges.number_spared hrunning fun other hmay => hne hmay.2
  -- the other game modules are those that have another script module
  have hothers : ∀ {owner other}, has owner other → other ≠ script → has' owner other :=
    fun howner hne => (hhas' _ _).mpr ⟨howner, fun hsame => hne (hsingle _ (hsame ▸ howner))⟩
  have hapart : ∀ {owner other}, has' owner other → has owner other ∧ other ≠ script := by
    intro owner other howner
    obtain ⟨hold, hne⟩ := (hhas' _ _).mp howner
    exact ⟨hold, fun hsame => hne (hassigned.apart (hsame ▸ hold) hhas)⟩
  refine
    { worked := hassigned.worked.trans
        (hchanges.mono (hassigned.allows hmodule hfirst))
      numbered := hassigned.numbered.worked hbefore hchanges
      older := fun hold hfound => hassigned.older hold
        (helsewhere (Nat.ne_of_lt (Nat.lt_of_lt_of_le hold hfirst)) ▸ hfound)
      numbers := ?_
      owned := ?_
      apart := fun howner hother => hassigned.apart (hapart howner).1 (hapart hother).1
      hooked := ?_
      given := ?_
      registered := ?_
      watched := ?_
      entered := hchanges.entersFrom hbefore hassigned.entered }
  · intro other found hother hfound
    rcases Changes.origin hchanges hfound with ⟨earlier, hearlier, hid⟩ | ⟨-, rfl, hid⟩
    · exact hid ▸ hassigned.numbers hother hearlier
    · exact hid ▸ hassigned.numbers hfirst hmodule
  · intro owner other howner
    obtain ⟨hold, hne⟩ := hapart howner
    refine ⟨(hassigned.owned hold).1, fun found hfound => ?_⟩
    exact (hassigned.owned hold).2 found (helsewhere hne ▸ hfound)
  · intro other found hooks hother hfound hhooked
    have hne : other ≠ script := by
      rintro rfl
      rw [(hleft found hfound).2] at hhooked
      cases hhooked
    obtain ⟨owner, hhooks, howner⟩ := hassigned.hooked hother (helsewhere hne ▸ hfound) hhooked
    exact ⟨owner, hhooks, hothers howner hne⟩
  · intro other found hother hfound hstate
    have hne : other ≠ script := by
      rintro rfl
      exact hstate (hleft found hfound).1
    obtain ⟨owner, howner⟩ := hassigned.given hother (helsewhere hne ▸ hfound) hstate
    exact ⟨owner, hothers howner hne⟩
  · intro number other hcounter hregistered
    by_cases hsame : number = module.id
    · rw [hsame, hcleared.registry] at hregistered
      cases hregistered
    · rw [(hnumber hsame).1] at hregistered
      obtain ⟨owner, howner⟩ := hassigned.registered hcounter hregistered
      refine ⟨owner, hothers howner ?_⟩
      rintro rfl
      exact hsame (hbefore.numbered hregistered hmodule).symm
  · intro registration hcounter hwatches
    have hsame : registration.id ≠ module.id := by
      obtain ⟨watcher, hwatcher, hmem⟩ := hwatches
      exact hcleared.watcher hwatcher registration hmem
    obtain ⟨owner, other, found, howner, hfound, hid⟩ :=
      hassigned.watched hcounter (((hnumber hsame).2 registration rfl).mp hwatches)
    have hne : other ≠ script := by
      rintro rfl
      rw [hmodule] at hfound
      cases hfound
      exact hsame hid.symm
    exact ⟨owner, other, found, hothers howner hne, (helsewhere hne).trans hfound, hid⟩

/-- A script module that is discarded goes. -/
theorem Assigned.vanishes (hassigned : before.Assigned outset has)
    (hbefore : before.Consistent) (hfirst : outset.scripts.next ≤ script)
    (hmodule : before.module? script = some module) (hdiscarded : module.state = .discarded)
    (hfree : ∀ id, before.registry.get? id ≠ some script)
    (hunowned : ∀ place, ¬ has place script) :
    (before.put script none).Assigned outset has := by
  have hcompiled : module.compiled = none :=
    (hbefore.wellFormed hmodule).compiled_none (by simp [hdiscarded])
  have hgone : Change (Touch.working (Alone script module.id)) before
      (before.put script none) := by
    have hvanish : Change (Touch.working (Alone script module.id)) before
        ((before.put script none).leave module.compiled) := .vanish hmodule ⟨rfl, rfl⟩ hfree
    rwa [hcompiled] at hvanish
  have hthere : ∀ {other found}, (before.put script none).module? other = some found →
      before.module? other = some found := by
    intro other found hfound
    rw [module?_put] at hfound
    split at hfound
    · cases hfound
    · exact hfound
  refine
    { worked := hassigned.worked.tail (hgone.mono (hassigned.allows hmodule hfirst))
      numbered := hassigned.numbered.worked hbefore (.single hgone)
      older := fun hold hfound => hassigned.older hold (hthere hfound)
      numbers := fun hother hfound => hassigned.numbers hother (hthere hfound)
      owned := fun howner => ⟨(hassigned.owned howner).1,
        fun found hfound => (hassigned.owned howner).2 found (hthere hfound)⟩
      apart := hassigned.apart
      hooked := fun hother hfound => hassigned.hooked hother (hthere hfound)
      given := fun hother hfound => hassigned.given hother (hthere hfound)
      registered := hassigned.registered
      watched := ?_
      entered := Changes.entersFrom (.single hgone) hbefore hassigned.entered }
  intro registration hcounter hwatches
  obtain ⟨owner, other, found, howner, hfound, hid⟩ := hassigned.watched hcounter hwatches
  refine ⟨owner, other, found, howner, ?_, hid⟩
  rw [module?_put_other _ _ (by rintro rfl; exact hunowned _ howner)]
  exact hfound

/-- A script module is worked on that was there before, and it comes by no hooks. -/
theorem Assigned.spares (hassigned : before.Assigned outset has) (hbefore : before.Consistent)
    (hrunning : after.running = true) (hold : script < outset.scripts.next)
    (hmodule : before.module? script = some module)
    (hchanges : Changes (Touch.working (Alone script module.id)) before after)
    (hmay : ∀ touch, Touch.working (Alone script module.id) touch → outset.may touch)
    (hhooks : ∀ left, after.module? script = some left → left.hooks = module.hooks) :
    after.Assigned outset has := by
  have helsewhere : ∀ {other}, other ≠ script → after.module? other = before.module? other :=
    fun hne => hchanges.module?_spared fun number hmay => hne hmay.1
  have hnew : ∀ {other}, outset.scripts.next ≤ other →
      after.module? other = before.module? other :=
    fun hfirst => helsewhere (Nat.ne_of_gt (Nat.lt_of_lt_of_le hold hfirst))
  obtain ⟨hbelow, -⟩ := hassigned.older hold hmodule
  have hnumber : ∀ {number}, outset.scripts.counter ≤ number →
      after.registry.get? number = before.registry.get? number ∧
        ∀ registration, registration.id = number →
          (after.Watches registration ↔ before.Watches registration) := fun hcounter =>
    hchanges.number_spared hrunning fun other hmay =>
      absurd hmay.2 (Nat.ne_of_gt (Nat.lt_of_lt_of_le hbelow hcounter))
  refine
    { worked := hassigned.worked.trans (hchanges.mono hmay)
      numbered := hassigned.numbered.worked hbefore hchanges
      older := ?_
      numbers := fun hfirst hfound => hassigned.numbers hfirst (hnew hfirst ▸ hfound)
      owned := fun howner => ⟨(hassigned.owned howner).1, fun found hfound =>
        (hassigned.owned howner).2 found (hnew (hassigned.owned howner).1 ▸ hfound)⟩
      apart := hassigned.apart
      hooked := fun hfirst hfound => hassigned.hooked hfirst (hnew hfirst ▸ hfound)
      given := fun hfirst hfound => hassigned.given hfirst (hnew hfirst ▸ hfound)
      registered := fun hcounter hregistered =>
        hassigned.registered hcounter ((hnumber hcounter).1 ▸ hregistered)
      watched := fun {registration} hcounter hwatches => ?_
      entered := hchanges.entersFrom hbefore hassigned.entered }
  · intro other found hother hfound
    by_cases hsame : other = script
    · subst hsame
      obtain ⟨hid, hearlier⟩ := hassigned.older hold hmodule
      have hsame : found.id = module.id := by
        rcases Changes.origin hchanges hfound with ⟨earlier, hthere, hid⟩ | ⟨hnext, -⟩
        · rw [hmodule] at hthere
          cases hthere
          exact hid
        · exact absurd (hbefore.below hmodule) (Nat.not_lt.mpr hnext)
      exact ⟨hsame ▸ hid, hhooks found hfound ▸ hearlier⟩
    · exact hassigned.older hother (helsewhere hsame ▸ hfound)
  · obtain ⟨owner, other, found, howner, hfound, hid⟩ :=
      hassigned.watched hcounter (((hnumber hcounter).2 registration rfl).mp hwatches)
    exact ⟨owner, other, found, howner, (hnew (hassigned.owned howner).1).trans hfound, hid⟩

/-- Registrations of files end. -/
theorem Assigned.rewatches (hassigned : before.Assigned outset has)
    {change : Watcher → Watcher} (hworked : Change outset.may before (before.withWatcher change))
    (hfewer : ∀ watcher, ∀ registration ∈ (change watcher).registrations,
      registration ∈ watcher.registrations) :
    (before.withWatcher change).Assigned outset has := by
  have hearlier : ∀ {registration}, (before.withWatcher change).Watches registration →
      before.Watches registration := by
    rintro registration ⟨watcher, hwatcher, hmem⟩
    obtain ⟨earlier, hearlier, rfl⟩ := Option.map_eq_some_iff.mp hwatcher
    exact ⟨earlier, hearlier, hfewer earlier registration hmem⟩
  exact
    { hassigned with
      worked := hassigned.worked.tail hworked
      numbered :=
        { modules := hassigned.numbered.modules
          registered := hassigned.numbered.registered
          watched := fun hwatches => hassigned.numbered.watched (hearlier hwatches) }
      watched := fun hcounter hwatches => hassigned.watched hcounter (hearlier hwatches) }

end Scripts

end ScriptHost
