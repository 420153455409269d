import ScriptHost.Proofs.Hooks
import ScriptHost.Proofs.Tallies

/-!
Accounts of all handles of the objects in a world. A handle is owned by an object or
by the hooks of a script module, or it is in the hands of someone outside, who keeps
some of them and has lent others for the time being. Dropping what is lent keeps
the account: whatever goes meanwhile hands out exactly the handles that it owned.
The account is kept of the objects that were there when it was opened. What comes
to live since owns nothing, and a script may name an address as the object of its
result under which nothing has come to live yet.
-/

namespace ScriptHost

namespace World

variable {bound : Nat} {kept loose : List Nat} {base before after world : World}
  {address place : Nat}

/-- The addresses of the objects that the object at a place owns handles of. -/
def ownedAt (world : World) (place : Nat) : List Nat :=
  ((world.objects.get? place).map ObjectBody.owned).getD []

/-- The number of handles of an object that objects and hooks own. -/
def owed (world : World) (address : Nat) : Nat :=
  ∑ place ∈ Finset.range world.objects.next, (world.ownedAt place).count address +
    ∑ place ∈ Finset.range world.modules.next, (world.hookedAt place).count address

theorem ownedAt_of_some {body : ObjectBody} (hget : world.objects.get? place = some body) :
    world.ownedAt place = body.owned := by
  simp [ownedAt, hget]

theorem ownedAt_of_none (hnone : world.objects.get? place = none) : world.ownedAt place = [] := by
  simp [ownedAt, hnone]

theorem ownedAt_of_beyond (hobjects : world.objects.Sound) (hbeyond : world.objects.next ≤ place)
    (address : Nat) : (world.ownedAt place).count address = 0 := by
  rw [ownedAt_of_none (hobjects.get?_next hbeyond), List.count_nil]

theorem hookedAt_of_beyond (hmodules : world.modules.Sound)
    (hbeyond : world.modules.next ≤ place) (address : Nat) :
    (world.hookedAt place).count address = 0 := by
  rw [hookedAt_of_none (hmodules.get?_next hbeyond), List.count_nil]

/-- What is owned changes by what one object owns and by what the hooks of one script
module do. -/
theorem owed_of_elsewhere (hobjects : before.objects.Sound) (hobjects' : after.objects.Sound)
    (hmodules : before.modules.Sound) (hmodules' : after.modules.Sound) (place script : Nat)
    (howned : ∀ other, other ≠ place → after.ownedAt other = before.ownedAt other)
    (hhooked : ∀ other, other ≠ script → after.hookedAt other = before.hookedAt other)
    (address : Nat) :
    after.owed address + ((before.ownedAt place).count address +
        (before.hookedAt script).count address) =
      before.owed address + ((after.ownedAt place).count address +
        (after.hookedAt script).count address) := by
  have hbodies := sum_range_of_elsewhere (g := fun other => (after.ownedAt other).count address)
    place (fun _ hbeyond => ownedAt_of_beyond hobjects hbeyond address)
    (fun _ hbeyond => ownedAt_of_beyond hobjects' hbeyond address)
    fun other hother => by rw [howned other hother]
  have hscripts := sum_range_of_elsewhere (g := fun other => (after.hookedAt other).count address)
    script (fun _ hbeyond => hookedAt_of_beyond hmodules hbeyond address)
    (fun _ hbeyond => hookedAt_of_beyond hmodules' hbeyond address)
    fun other hother => by rw [hhooked other hother]
  simp only [owed]
  omega

/-- Where every object and all hooks own what they did, as much is owned. -/
theorem owed_congr (hobjects : before.objects.Sound) (hobjects' : after.objects.Sound)
    (hmodules : before.modules.Sound) (hmodules' : after.modules.Sound)
    (howned : ∀ place, after.ownedAt place = before.ownedAt place)
    (hhooked : ∀ place, after.hookedAt place = before.hookedAt place) (address : Nat) :
    after.owed address = before.owed address := by
  have hdiff := owed_of_elsewhere hobjects hobjects' hmodules hmodules' 0 0
    (fun place _ => howned place) (fun place _ => hhooked place) address
  rw [howned, hhooked] at hdiff
  omega

/-- An account of the handles of all objects below an address: each handle is owned,
kept by someone outside or lent. What is kept does not go, and what is gone has no
handles but those that were lent by mistake. -/
structure Accounts (bound : Nat) (kept loose : List Nat) (world : World) : Prop where
  objects : world.objects.Sound
  modules : world.modules.Sound
  next : bound ≤ world.objects.next
  counts : ∀ {address body}, address < bound → world.objects.get? address = some body →
    world.objects.strongCount address =
      kept.count address + loose.count address + world.owed address
  gone : ∀ {address}, address < bound → world.objects.get? address = none →
    world.objects.strongCount address ≤ loose.count address
  kept : ∀ {address}, address ∈ kept → address < bound →
    (world.objects.get? address).isSome = true

/-- What is gone is not kept. -/
theorem Accounts.kept_of_gone (haccount : world.Accounts bound kept loose)
    (hbound : address < bound) (hnone : world.objects.get? address = none) :
    kept.count address = 0 := by
  refine List.count_eq_zero_of_not_mem fun hmem => ?_
  have hlives := haccount.kept hmem hbound
  rw [hnone] at hlives
  cases hlives

/-- As long as nothing is lent, what has handles is not gone. -/
theorem Accounts.isSome_of_alive (haccount : world.Accounts bound kept [])
    (hbound : address < bound) (halive : world.objects.isAlive address = true) :
    (world.objects.get? address).isSome = true := by
  cases hget : world.objects.get? address with
  | some body => rfl
  | none =>
    have hgone := haccount.gone hbound hget
    have hpositive : 0 < world.objects.strongCount address := of_decide_eq_true halive
    rw [List.count_nil] at hgone
    omega

/-- Objects stay as they are, and what is owned less is lent. -/
theorem Accounts.hands (haccount : world.Accounts bound kept loose)
    (hobjects : after.objects = world.objects) (hmodules : after.modules.Sound)
    {handed : List Nat}
    (howed : ∀ target, after.owed target + handed.count target = world.owed target) :
    after.Accounts bound kept (handed ++ loose) where
  objects := hobjects ▸ haccount.objects
  modules := hmodules
  next := hobjects ▸ haccount.next
  counts := by
    intro target body hbound hget
    rw [hobjects] at hget ⊢
    have hcounts := haccount.counts hbound hget
    have hmoved := howed target
    rw [List.count_append]
    omega
  gone := by
    intro target hbound hnone
    rw [hobjects] at hnone ⊢
    have hgone := haccount.gone hbound hnone
    rw [List.count_append]
    omega
  kept := by
    intro target hmem hbound
    rw [hobjects]
    exact haccount.kept hmem hbound

/-- An account depends on objects and hooks alone. -/
theorem Accounts.of_hooks (haccount : world.Accounts bound kept loose)
    (hobjects : after.objects = world.objects) (hmodules : after.modules.Sound)
    (hhooked : ∀ place, after.hookedAt place = world.hookedAt place) :
    after.Accounts bound kept loose := by
  have howed := owed_congr haccount.objects (hobjects ▸ haccount.objects) haccount.modules
    hmodules (fun place => by simp only [ownedAt, hobjects]) hhooked
  have hhands : after.Accounts bound kept ([] ++ loose) :=
    haccount.hands hobjects hmodules fun target => howed target
  exact hhands

theorem Accounts.of_eq (haccount : world.Accounts bound kept loose)
    (hobjects : after.objects = world.objects) (hmodules : after.modules = world.modules) :
    after.Accounts bound kept loose :=
  haccount.of_hooks hobjects (hmodules ▸ haccount.modules) (hookedAt_of_modules hmodules)

/-- The order of handles does not matter, and what is kept may be lent. -/
theorem Accounts.lend (haccount : world.Accounts bound kept loose) {fewer more : List Nat}
    (hsame : ∀ address, fewer.count address + more.count address =
      kept.count address + loose.count address)
    (hfewer : ∀ address, fewer.count address ≤ kept.count address) :
    world.Accounts bound fewer more where
  objects := haccount.objects
  modules := haccount.modules
  next := haccount.next
  counts := by
    intro address body hbound hget
    have hcounts := haccount.counts hbound hget
    have hshift := hsame address
    omega
  gone := by
    intro address hbound hnone
    have hgone := haccount.gone hbound hnone
    have hshift := hsame address
    have hunkept := haccount.kept_of_gone hbound hnone
    have hle := hfewer address
    omega
  kept := by
    intro address hmem hbound
    refine haccount.kept (List.count_pos_iff.mp ?_) hbound
    have hpos := List.count_pos_iff.mpr hmem
    have hle := hfewer address
    omega

theorem Accounts.relend (haccount : world.Accounts bound kept loose) {same : List Nat}
    (hsame : ∀ address, same.count address = loose.count address) :
    world.Accounts bound kept same :=
  haccount.lend (fun address => by rw [hsame]) fun _ => Nat.le_refl _

theorem Accounts.rekeep (haccount : world.Accounts bound kept loose) {same : List Nat}
    (hsame : ∀ address, same.count address = kept.count address) :
    world.Accounts bound same loose :=
  haccount.lend (fun address => by rw [hsame]) fun address => (hsame address).le

/-- Lent handles of what lives are kept from now on. -/
theorem Accounts.keep (haccount : world.Accounts bound kept loose) {more fewer : List Nat}
    (hsame : ∀ address, more.count address + fewer.count address =
      kept.count address + loose.count address)
    (hlives : ∀ address ∈ more, address < bound → address ∈ kept ∨
      (world.objects.get? address).isSome = true) :
    world.Accounts bound more fewer where
  objects := haccount.objects
  modules := haccount.modules
  next := haccount.next
  counts := by
    intro address body hbound hget
    have hcounts := haccount.counts hbound hget
    have hshift := hsame address
    omega
  gone := by
    intro address hbound hnone
    have hgone := haccount.gone hbound hnone
    have hshift := hsame address
    have hunkept := haccount.kept_of_gone hbound hnone
    have hnot : more.count address = 0 := by
      refine List.count_eq_zero_of_not_mem fun hmem => ?_
      rcases hlives address hmem hbound with hkept | hsome
      · have hpos := List.count_pos_iff.mpr hkept
        omega
      · rw [hnone] at hsome
        cases hsome
    omega
  kept := fun hmem hbound =>
    (hlives _ hmem hbound).elim (fun hkept => haccount.kept hkept hbound) id

/-- An operation that keeps what lives and leaves hooks alone lends what it hands out. -/
theorem Accounts.keeps (haccount : base.Accounts bound kept loose) {lent : List Nat}
    (hkeeps : base.Keeps world lent)
    (hhooked : ∀ place, world.hookedAt place = base.hookedAt place) :
    world.Accounts bound kept (lent ++ loose) := by
  have hearlier : ∀ {address body}, address < bound → world.objects.get? address = some body →
      base.objects.get? address = some body := by
    intro address body hbound hget
    refine (hkeeps.objects.fresh hget).resolve_right fun hfresh => ?_
    have hbeyond := hfresh.2
    have hnext := haccount.next
    omega
  have howned : ∀ place, world.ownedAt place = base.ownedAt place := by
    intro place
    cases hbase : base.objects.get? place with
    | some body =>
      rw [ownedAt_of_some hbase, ownedAt_of_some (hkeeps.objects.kept hbase).1]
    | none =>
      rw [ownedAt_of_none hbase]
      cases hget : world.objects.get? place with
      | none => exact ownedAt_of_none hget
      | some body =>
        have hbare := ((hkeeps.objects.fresh hget).resolve_left (by simp [hbase])).1
        rw [ownedAt_of_some hget, hbare.owned]
  have howed := owed_congr haccount.objects hkeeps.objects.sound haccount.modules
    (hkeeps.modules haccount.modules) howned hhooked
  refine ⟨hkeeps.objects.sound, hkeeps.modules haccount.modules,
    Nat.le_trans haccount.next hkeeps.objects.next, ?_, ?_, ?_⟩
  · intro address body hbound hget
    have hbase := hearlier hbound hget
    rw [(hkeeps.objects.kept hbase).2, haccount.counts hbound hbase, howed, List.count_append]
    omega
  · intro address hbound hnone
    have hbase : base.objects.get? address = none := by
      rw [Option.eq_none_iff_forall_ne_some]
      intro body hbase
      rw [(hkeeps.objects.kept hbase).1] at hnone
      cases hnone
    have hgone := hkeeps.objects.gone (Nat.lt_of_lt_of_le hbound haccount.next) hbase
    have hbefore := haccount.gone hbound hbase
    rw [List.count_append]
    omega
  · intro address hmem hbound
    obtain ⟨body, hbody⟩ := Option.isSome_iff_exists.mp (haccount.kept hmem hbound)
    rw [(hkeeps.objects.kept hbody).1]
    rfl

/-- A steady change that leaves hooks alone concerns no handles. -/
theorem Accounts.steady (haccount : world.Accounts bound kept loose)
    (hsteady : world.Steady after)
    (hhooked : ∀ place, after.hookedAt place = world.hookedAt place) :
    after.Accounts bound kept loose :=
  haccount.keeps ((World.Keeps.refl haccount.objects).steady hsteady) hhooked

/-- Hooks that are taken away lend their handles. -/
theorem Accounts.takes (haccount : world.Accounts bound kept loose)
    (hobjects : after.objects = world.objects) (hmodules : after.modules.Sound)
    {handed : List Nat} (htakes : Act.TakesHooks address handed world after) :
    after.Accounts bound kept (handed ++ loose) := by
  refine haccount.hands hobjects hmodules fun target => ?_
  have howned : ∀ place, after.ownedAt place = world.ownedAt place := fun place => by
    simp only [ownedAt, hobjects]
  have hdiff := owed_of_elsewhere haccount.objects (hobjects ▸ haccount.objects)
    haccount.modules hmodules 0 address (fun place _ => howned place)
    (fun place hplace => by rw [htakes.hooks, if_neg (Ne.symm hplace)]) target
  rw [howned, htakes.hooks, if_pos rfl, ← htakes.handed, List.count_nil] at hdiff
  omega

/-! ### Single handles -/

/-- A handle of a script module is dropped, and others are left or there was nothing. -/
theorem Accounts.releaseModule_none (haccount : world.Accounts bound kept loose)
    (hnone : (world.modules.release address).2 = none) :
    { world with modules := (world.modules.release address).1 }.Accounts bound kept loose := by
  refine haccount.of_hooks rfl (haccount.modules.release address) fun place => ?_
  unfold hookedAt module?
  rw [haccount.modules.get?_release_of_none hnone]

/-- The last handle of a script module is dropped, and the handles that its hooks had are
lent. -/
theorem Accounts.releaseModule_some (haccount : world.Accounts bound kept loose)
    {module : ScriptModule} (hsome : (world.modules.release address).2 = some module) :
    { world with modules := (world.modules.release address).1 }.Accounts bound kept
      (module.hookRefs.map ObjectRef.address ++ loose) := by
  obtain ⟨hget, hgone⟩ := haccount.modules.get?_release_of_some hsome
  have hobjects : { world with modules := (world.modules.release address).1 }.objects =
      world.objects := rfl
  have htakes : Act.TakesHooks address (module.hookRefs.map ObjectRef.address) world
      { world with modules := (world.modules.release address).1 } := by
    refine ⟨(hookedAt_of_some hget).symm, fun place => ?_⟩
    unfold hookedAt module?
    rw [hgone]
    split <;> rfl
  exact haccount.takes hobjects (haccount.modules.release address) htakes

/-- The end of the destruction of a script module concerns no handles. -/
theorem Accounts.finishModule (haccount : world.Accounts bound kept loose) (address : Nat) :
    { world with modules := world.modules.finish address }.Accounts bound kept loose := by
  refine haccount.of_hooks rfl (haccount.modules.finish address) fun place => ?_
  unfold hookedAt module?
  rw [Heap.get?_finish]

/-- A lent handle is dropped, and others are left or there was nothing. -/
theorem Accounts.release_none (haccount : world.Accounts bound kept (address :: loose))
    (hnone : (world.objects.release address).2 = none) :
    { world with objects := (world.objects.release address).1 }.Accounts bound kept loose := by
  have hget := haccount.objects.get?_release_of_none hnone
  have howed : ∀ target,
      World.owed { world with objects := (world.objects.release address).1 } target =
        world.owed target :=
    owed_congr haccount.objects (haccount.objects.release address) haccount.modules
      haccount.modules (fun place => by simp only [ownedAt, hget]) fun _ => rfl
  refine ⟨haccount.objects.release address, haccount.modules,
    (world.objects.next_release address).symm ▸ haccount.next, ?_, ?_, ?_⟩
  · intro target body hbound hthere
    have hbefore : world.objects.get? target = some body := (hget target).symm.trans hthere
    have hcounts := haccount.counts hbound hbefore
    have hpositive := Heap.strongCount_pos_of_get? hbefore
    rw [howed, Heap.strongCount_release]
    simp only [List.count_cons, beq_iff_eq] at hcounts
    omega
  · intro target hbound hthere
    have hgone := haccount.gone hbound ((hget target).symm.trans hthere)
    rw [Heap.strongCount_release]
    simp only [List.count_cons, beq_iff_eq] at hgone
    omega
  · intro target hmem hbound
    have hlives := haccount.kept hmem hbound
    rw [← hget target] at hlives
    exact hlives

/-- The last handle of an object is dropped, and the handles that the object owned are
lent. -/
theorem Accounts.release_some (haccount : world.Accounts bound kept (address :: loose))
    {body : ObjectBody} (hsome : (world.objects.release address).2 = some body) :
    { world with objects := (world.objects.release address).1 }.Accounts bound kept
      (body.owned ++ loose) := by
  obtain ⟨hget, hafter⟩ := haccount.objects.get?_release_of_some hsome
  have hlast : world.objects.strongCount address = 1 := by
    rw [haccount.objects.release_snd] at hsome
    split at hsome
    · assumption
    · cases hsome
  have hthere : ∀ {target found}, (world.objects.release address).1.get? target = some found →
      address ≠ target ∧ world.objects.get? target = some found := by
    intro target found hfound
    rw [hafter] at hfound
    split at hfound
    · cases hfound
    · exact ⟨‹_›, hfound⟩
  have howed : ∀ target,
      World.owed { world with objects := (world.objects.release address).1 } target +
        body.owned.count target = world.owed target := by
    intro target
    have hdiff := @owed_of_elsewhere world
      { world with objects := (world.objects.release address).1 } haccount.objects
      (haccount.objects.release address) haccount.modules haccount.modules address 0
      (fun place hplace => by simp only [ownedAt, hafter, if_neg (Ne.symm hplace)])
      (fun _ _ => rfl) target
    rw [ownedAt_of_some hget, ownedAt_of_none (by simp [hafter] :
      (world.objects.release address).1.get? address = none), List.count_nil] at hdiff
    have hhooks : World.hookedAt { world with objects := (world.objects.release address).1 } 0 =
        world.hookedAt 0 := rfl
    rw [hhooks] at hdiff
    omega
  refine ⟨haccount.objects.release address, haccount.modules,
    (world.objects.next_release address).symm ▸ haccount.next, ?_, ?_, ?_⟩
  · intro target found hbound hfound
    obtain ⟨hne, hlives⟩ := hthere hfound
    have hcounts := haccount.counts hbound hlives
    have hmoved := howed target
    rw [List.count_cons_of_ne hne] at hcounts
    rw [Heap.strongCount_release, if_neg hne, List.count_append]
    omega
  · intro target hbound hnone
    rw [Heap.strongCount_release]
    by_cases ha : address = target
    · subst ha
      simp [hlast]
    · rw [hafter, if_neg ha] at hnone
      have hgone := haccount.gone hbound hnone
      rw [List.count_cons_of_ne ha] at hgone
      rw [if_neg ha, List.count_append]
      omega
  · intro target hmem hbound
    have hne : address ≠ target := by
      rintro rfl
      have hcounts := haccount.counts hbound hget
      have hpositive := List.count_pos_iff.mpr hmem
      rw [List.count_cons_self] at hcounts
      omega
    rw [hafter, if_neg hne]
    exact haccount.kept hmem hbound

/-- The end of a destruction concerns no handles. -/
theorem Accounts.finish (haccount : world.Accounts bound kept loose) (address : Nat) :
    { world with objects := world.objects.finish address }.Accounts bound kept loose :=
  haccount.keeps ((World.Keeps.refl haccount.objects).of_objects
    ((World.Keeps.refl haccount.objects).objects.finish address)) fun _ => rfl

end World

namespace Act

open World

variable {bound : Nat} {kept loose : List Nat} {world : World}

/-! ### Detaching -/

theorem deliverRelease_accounts (place script : Nat) (wanted : Bool) (self : NativeValue)
    (haccount : world.Accounts bound kept loose) :
    (after (deliverRelease place script wanted self) world).Accounts bound kept
      (Owned.objects (result (deliverRelease place script wanted self) world) ++ loose) := by
  obtain ⟨refs, hrefs, hkeeps⟩ :=
    deliverRelease_keeps place script wanted self (World.Keeps.refl haccount.objects)
  rw [hrefs, Owned.objects_objects]
  refine (haccount.keeps hkeeps (deliverRelease_keepsHooks place script wanted self world)).relend
    fun address => by simp

theorem clearHooks_accounts (script : Nat) (haccount : world.Accounts bound kept loose) :
    (after (clearHooks script) world).Accounts bound kept
      (Owned.objects (result (clearHooks script) world) ++ loose) :=
  have hsteady := clearHooks_isSteady script world
  haccount.takes hsteady.objects (hsteady.modules haccount.modules)
    (clearHooks_takesHooks script world)

theorem release_accounts (script : Nat) (haccount : world.Accounts bound kept loose) :
    (after (release script) world).Accounts bound kept
      (Owned.objects (result (release script) world) ++ loose) :=
  have hsteady := release_isSteady script world
  haccount.takes hsteady.objects (hsteady.modules haccount.modules)
    (release_takesHooks script world)

theorem deleteModule_accounts (id : Nat) (haccount : world.Accounts bound kept loose) :
    (after (deleteModule id) world).Accounts bound kept
      (Owned.objects (result (deleteModule id) world).2 ++ loose) := by
  unfold deleteModule
  rw [after_get_bind, result_get_bind]
  split
  · exact haccount
  · rename_i address _
    rw [after_bind, result_bind, after_bind, result_bind, after_pure, result_pure,
      Owned.objects_append, Owned.objects_module, Owned.objects_nil, List.append_nil]
    exact release_accounts address (haccount.of_eq rfl rfl)

theorem removeScript_accounts (script : Nat) (haccount : world.Accounts bound kept loose) :
    (after (removeScript script) world).Accounts bound kept
      (Owned.objects (result (removeScript script) world) ++ loose) := by
  unfold removeScript
  rw [after_get_bind, result_get_bind]
  split
  · exact haccount
  · rename_i id _
    have hdeleted := deleteModule_accounts id haccount
    rw [after_bind, result_bind]
    dsimp only
    split
    · exact hdeleted
    · rename_i hmissing
      -- a number under which nothing is registered hands nothing out
      have hnone : result (deleteModule id) world = (false, []) := by
        unfold deleteModule at hmissing ⊢
        rw [result_get_bind] at hmissing ⊢
        split
        · rfl
        · rename_i hfound
          rw [hfound] at hmissing
          exact absurd rfl hmissing
      rw [hnone] at hdeleted
      exact release_accounts script hdeleted

/-- What comes up when a script module is detached is what it has cost: the handles of
the imports are lent before. -/
theorem detachScript_accounts (place : Nat) (game : GameModule) (wanted : Bool)
    (self : NativeValue) (haccount : world.Accounts bound kept (game.dependencies ++ loose)) :
    (after (detachScript place game wanted self) world).Accounts bound kept
      (Owned.objects (result (detachScript place game wanted self) world) ++ loose) := by
  have himports : Owned.objects (game.dependencies.map fun address =>
      Owned.object ⟨.gameModule, address⟩) = game.dependencies := by
    induction game.dependencies with
    | nil => rfl
    | cons address rest ih => simpa using ih
  unfold detachScript
  dsimp only
  split
  · rw [result_pure, himports]
    exact haccount
  · rename_i script _
    have hdelivered := deliverRelease_accounts place script wanted self haccount
    have hcleared := clearHooks_accounts script hdelivered
    have hremoved := removeScript_accounts script hcleared
    rw [after_bind, result_bind, after_bind, result_bind, after_bind, result_bind]
    refine hremoved.relend fun address => ?_
    simp only [result_pure, Owned.objects_append, Owned.objects_module, Owned.objects_nil,
      himports, List.count_append, List.count_nil]
    omega

/-! ### Dropping -/

theorem releaseExecutor_accounts (haccount : world.Accounts bound kept loose) :
    (after releaseExecutor world).Accounts bound kept
      (Owned.objects (result releaseExecutor world) ++ loose) := by
  unfold releaseExecutor
  rw [after_get_bind, result_get_bind]
  dsimp only
  split
  · have hmodules : Owned.objects (world.executor.registry.map fun entry =>
        Owned.module entry.2) = [] := by
      simp [Owned.objects, List.filterMap_map]
    rw [result_bind, result_pure, hmodules]
    exact haccount.of_eq rfl rfl
  · exact haccount.of_eq rfl rfl

/-- What a destroyed object hands out are the handles that it owned and what comes up
with its destruction. -/
theorem destroyObject_accounts (place : Nat) (body : ObjectBody)
    (haccount : world.Accounts bound kept (body.owned ++ loose)) :
    (after (destroyObject place body) world).Accounts bound kept
      (Owned.objects (result (destroyObject place body) world) ++ loose) := by
  cases body with
  | thing label => exact haccount
  | event event =>
    rw [destroyObject, result_pure, Owned.objects_objects]
    exact haccount
  | game game =>
    have hdetached := detachScript_accounts place game true .void
      (haccount.of_eq rfl rfl : World.Accounts bound kept (game.dependencies ++ loose)
        { world with loader := world.loader.map (·.take game) })
    have hreleased := releaseExecutor_accounts hdetached
    refine hreleased.relend fun address => ?_
    have hresult : result (destroyObject place (.game game)) world =
        result (detachScript place game true .void)
            { world with loader := world.loader.map (·.take game) } ++
          result releaseExecutor (after (detachScript place game true .void)
            { world with loader := world.loader.map (·.take game) }) := rfl
    rw [hresult, Owned.objects_append]
    simp only [List.count_append]
    omega

theorem destroyModule_keepsHooks (module : ScriptModule) :
    KeepsHooks (destroyModule module) := by
  refine .bind .get fun world => ?_
  split
  · refine .bind (onExecutor_keepsHooks _) fun _ => ?_
    split
    · exact .bind (onExecutor_keepsHooks _) fun _ => .pure _
    · exact .pure _
  · exact .pure _

/-- A handle of a script module is dropped. With the last one the handles go that the
hooks of the module had. -/
theorem dropModule_accounts (address : Nat) (haccount : world.Accounts bound kept loose) :
    (after (dropOne (.module address)) world).Accounts bound kept
      (Owned.objects (result (dropOne (.module address)) world) ++ loose) := by
  unfold dropOne
  rw [after_get_bind, result_get_bind]
  dsimp only
  rw [after_bind, after_set, result_bind, after_set]
  cases hmodule : (world.modules.release address).2 with
  | none => exact haccount.releaseModule_none hmodule
  | some module =>
    have hreleased := haccount.releaseModule_some hmodule
    have hdestroyed := hreleased.steady (destroyModule_isSteady module _)
      (destroyModule_keepsHooks module _)
    dsimp only
    rw [after_bind, result_bind, after_bind, after_pure, result_bind, result_pure,
      after_modify, destroyModule_result, Owned.objects_objects]
    exact hdestroyed.finishModule address

/-- A handle of an object is dropped. With the last one the handles go that the object
owned. -/
theorem dropObject_accounts (ref : ObjectRef)
    (haccount : world.Accounts bound kept (ref.address :: loose)) :
    (after (dropOne (.object ref)) world).Accounts bound kept
      (Owned.objects (result (dropOne (.object ref)) world) ++ loose) := by
  cases hbody : (world.objects.release ref.address).2 with
  | none =>
    obtain ⟨hresult, hafter⟩ := dropOne_of_none hbody
    rw [hresult, hafter]
    exact haccount.release_none hbody
  | some body =>
    have hdestroyed := destroyObject_accounts ref.address body (haccount.release_some hbody)
    unfold dropOne
    rw [after_get_bind, result_get_bind]
    dsimp only
    rw [after_bind, after_set, result_bind, after_set, hbody]
    exact hdestroyed.finish ref.address

/-- An account is kept up when lent handles are dropped. -/
theorem accounts_drains (bound : Nat) (kept : List Nat) :
    Drains fun loose world => world.Accounts bound kept loose where
  objects := World.Accounts.objects
  modules := World.Accounts.modules
  step := fun handle haccount =>
    match handle with
    | .module address => dropModule_accounts address haccount
    | .object ref => dropObject_accounts ref haccount

/-- Lent handles can be dropped, whatever goes with them. -/
theorem dropObjects_accounts (refs : List ObjectRef)
    (haccount : world.Accounts bound kept (refs.map ObjectRef.address ++ loose)) :
    (after (dropObjects refs) world).Accounts bound kept loose :=
  ((accounts_drains bound kept).dropObjects refs haccount).1

/-! ### Calls -/

theorem retain_accounts (refs : List ObjectRef) (haccount : world.Accounts bound kept loose) :
    (world.retain refs).Accounts bound kept (refs.map ObjectRef.address ++ loose) := by
  have hkeeps := (World.Keeps.refl haccount.objects).retain refs
  rw [List.append_nil] at hkeeps
  exact haccount.keeps hkeeps fun _ => rfl

/-- A call lends the handles of its result and of its object. -/
theorem call_accounts (function : FunctionRef) (this : Option ScriptValue)
    (args : List NativeValue) (setup : RunSetup) (wanted : ReturnType)
    (haccount : world.Accounts bound kept loose) :
    (after (call function this args setup wanted) world).Accounts bound kept
      ((targetRefs (result (call function this args setup wanted) world).2).map
          ObjectRef.address ++
        ((resultRefs (result (call function this args setup wanted) world).1).map
          ObjectRef.address ++ loose)) := by
  have hkeeps := call_keeps function this args setup wanted (World.Keeps.refl haccount.objects)
  refine (haccount.keeps hkeeps
    ((call_isQuiet function this args setup wanted).keepsHooks world)).relend fun address => ?_
  simp only [List.append_nil, List.append_assoc]

theorem invoke_accounts (function : FunctionRef) (args : List NativeValue)
    (setup : RunSetup) (wanted : ReturnType) (haccount : world.Accounts bound kept loose) :
    (after (invoke function args setup wanted) world).Accounts bound kept
      ((resultRefs (result (invoke function args setup wanted) world)).map
        ObjectRef.address ++ loose) := by
  have hcall := call_accounts function none args setup wanted haccount
  rw [call_this] at hcall
  exact hcall

end Act

end ScriptHost
