import Mathlib.Algebra.Order.BigOperators.Group.Finset
import ScriptHost.Proofs.Shedding

/-!
Who holds what. The handles of an object are those it had at first, those that the objects
own which have come since, and those that are lent. As long as the books are kept, nothing
goes of which there is still an owner, and what goes hands exactly its own handles out.
-/

namespace ScriptHost

/-- Beyond a bound from which on there is nothing a sum does not grow. -/
theorem sum_range_of_beyond {f : Nat → Nat} {bound further : Nat} (hbound : bound ≤ further)
    (hbeyond : ∀ place, bound ≤ place → f place = 0) :
    ∑ place ∈ Finset.range bound, f place = ∑ place ∈ Finset.range further, f place :=
  Finset.sum_subset (Finset.range_mono hbound) fun place _ hplace =>
    hbeyond place (by simpa using hplace)

/-- Where one place has something else than before, the difference shows in the sum. -/
theorem sum_range_of_elsewhere {f g : Nat → Nat} {bound limit : Nat} (place : Nat)
    (hbefore : ∀ other, bound ≤ other → f other = 0)
    (hafter : ∀ other, limit ≤ other → g other = 0)
    (helsewhere : ∀ other, other ≠ place → g other = f other) :
    ∑ other ∈ Finset.range limit, g other + f place =
      ∑ other ∈ Finset.range bound, f other + g place := by
  let further := bound + limit + place + 1
  have hplace : place ∈ Finset.range further := Finset.mem_range.mpr (by omega)
  rw [sum_range_of_beyond (by omega : limit ≤ further) hafter,
    sum_range_of_beyond (by omega : bound ≤ further) hbefore,
    ← Finset.add_sum_erase _ _ hplace, ← Finset.add_sum_erase _ f hplace]
  have hrest : ∑ other ∈ (Finset.range further).erase place, g other =
      ∑ other ∈ (Finset.range further).erase place, f other :=
    Finset.sum_congr rfl fun other hother => helsewhere other (Finset.ne_of_mem_erase hother)
  omega

/-- Sums over all places agree where every place has what it had. -/
theorem sum_range_congr {f g : Nat → Nat} {bound limit : Nat}
    (hbefore : ∀ other, bound ≤ other → f other = 0)
    (hafter : ∀ other, limit ≤ other → g other = 0) (hsame : ∀ other, g other = f other) :
    ∑ other ∈ Finset.range limit, g other = ∑ other ∈ Finset.range bound, f other := by
  have hdiff := sum_range_of_elsewhere 0 hbefore hafter fun other _ => hsame other
  rw [hsame] at hdiff
  omega

namespace Heap

variable {base heap before middle after : Heap ObjectBody} {lent : List Nat}
  {address place target : Nat} {body : ObjectBody}

/-- How many handles of `target` the object at `place` owns, if it has come since. -/
def claims (base heap : Heap ObjectBody) (place target : Nat) : Nat :=
  if (base.get? place).isSome then 0
  else ((heap.get? place).map fun body => body.owned.count target).getD 0

/-- How many handles of `target` the objects own that have come since. -/
def claimed (base heap : Heap ObjectBody) (target : Nat) : Nat :=
  ∑ place ∈ Finset.range heap.next, base.claims heap place target

theorem claims_of_get? (hget : heap.get? place = some body) (hnew : base.get? place = none)
    (target : Nat) : base.claims heap place target = body.owned.count target := by
  simp [claims, hget, hnew]

theorem claims_of_none (hget : heap.get? place = none) (target : Nat) :
    base.claims heap place target = 0 := by
  simp [claims, hget]

theorem claims_of_old (hget : base.get? place = some body) (target : Nat) :
    base.claims heap place target = 0 := by
  simp [claims, hget]

/-- Beyond the objects in existence nothing is owned. -/
theorem claims_of_beyond (hheap : heap.Sound) {place : Nat} (hbeyond : heap.next ≤ place)
    (target : Nat) : base.claims heap place target = 0 :=
  claims_of_none (hheap.get?_next hbeyond) target

theorem claimed_eq_sum (hheap : heap.Sound) {bound : Nat} (hbound : heap.next ≤ bound)
    (target : Nat) :
    base.claimed heap target = ∑ place ∈ Finset.range bound, base.claims heap place target :=
  sum_range_of_beyond hbound fun _ hbeyond => claims_of_beyond hheap hbeyond target

/-- Where one object owns something else than before, the difference shows in the sum. -/
theorem claimed_of_elsewhere (hbefore : before.Sound) (hafter : after.Sound) (place : Nat)
    (helsewhere : ∀ other, other ≠ place →
      base.claims after other target = base.claims before other target) :
    base.claimed after target + base.claims before place target =
      base.claimed before target + base.claims after place target :=
  sum_range_of_elsewhere place (fun _ hbeyond => claims_of_beyond hbefore hbeyond target)
    (fun _ hbeyond => claims_of_beyond hafter hbeyond target) helsewhere

theorem claimed_congr (hbefore : before.Sound) (hafter : after.Sound)
    (hsame : ∀ place, base.claims after place target = base.claims before place target) :
    base.claimed after target = base.claimed before target :=
  sum_range_congr (fun _ hbeyond => claims_of_beyond hbefore hbeyond target)
    (fun _ hbeyond => claims_of_beyond hafter hbeyond target) hsame

theorem claims_le_claimed (hheap : heap.Sound) (place target : Nat) :
    base.claims heap place target ≤ base.claimed heap target := by
  rw [claimed_eq_sum hheap (Nat.le_add_right heap.next (place + 1))]
  exact Finset.single_le_sum (f := fun other => base.claims heap other target)
    (fun _ _ => Nat.zero_le _) (by simp; omega)

/-- An object of which a handle is owned has an owner. -/
theorem exists_owner (hclaimed : 0 < base.claimed heap target) :
    ∃ place body, heap.get? place = some body ∧ base.get? place = none ∧
      target ∈ body.owned := by
  obtain ⟨place, -, hclaims⟩ := Finset.exists_ne_zero_of_sum_ne_zero
    (Nat.pos_iff_ne_zero.mp hclaimed)
  unfold claims at hclaims
  split at hclaims
  · exact absurd rfl hclaims
  · rename_i hnew
    cases hget : heap.get? place with
    | none => simp [hget] at hclaims
    | some body =>
        refine ⟨place, body, hget, by simpa using hnew, ?_⟩
        simpa [hget, List.count_eq_zero] using hclaims

/-- The books of a heap: the objects of `base` are there, and the handles of each object
are accounted for. What has come since are game modules, and things that own nothing, which
are not kept track of. -/
structure Tallies (base : Heap ObjectBody) (lent : List Nat) (heap : Heap ObjectBody) :
    Prop where
  first : base.Sound
  sound : heap.Sound
  next : base.next ≤ heap.next
  old : ∀ {address body}, base.get? address = some body → heap.get? address = some body
  born : ∀ {address body}, heap.get? address = some body → base.get? address = none →
    ¬ body.IsBare → base.next ≤ address ∧ ∃ game, body = .game game
  handles : ∀ {address body}, heap.get? address = some body →
    (base.get? address ≠ none ∨ ¬ body.IsBare) → heap.strongCount address =
      base.strongCount address + base.claimed heap address + lent.count address
  alive : ∀ {place body target}, heap.get? place = some body → base.get? place = none →
    target ∈ body.owned → ∃ found, heap.get? target = some found ∧ ¬ found.IsBare

theorem Tallies.refl (hheap : heap.Sound) : heap.Tallies [] heap where
  first := hheap
  sound := hheap
  next := Nat.le_refl _
  old := id
  born := fun hget hnew => by simp [hget] at hnew
  handles := by
    intro address body _ _
    have hnone : heap.claimed heap address = 0 := by
      refine Finset.sum_eq_zero fun place _ => ?_
      unfold claims
      cases hget : heap.get? place <;> simp
    simp [hnone]
  alive := fun hget hnew => by simp [hget] at hnew

theorem Tallies.congr {same : List Nat} (hheap : base.Tallies lent heap)
    (hsame : ∀ address, same.count address = lent.count address) :
    base.Tallies same heap :=
  { hheap with
    handles := by
      intro address body hget htracked
      rw [hsame]
      exact hheap.handles hget htracked }

/-- What has come since had no handles at first. -/
theorem Tallies.strongCount_base (hheap : base.Tallies lent heap)
    (hget : heap.get? address = some body) (hnew : base.get? address = none)
    (hbare : ¬ body.IsBare) : base.strongCount address = 0 := by
  have hbeyond := (hheap.born hget hnew hbare).1
  unfold strongCount
  cases hcell : base.cell? address with
  | none => rfl
  | some cell => exact absurd (hheap.first.below hcell) (by omega)

/-! ### Operations -/

/-- An operation that hands out handles lends them. -/
theorem Tallies.holds (hbefore : base.Tallies lent before) {handed : List Nat}
    (hholds : before.Holds after handed) : base.Tallies (handed ++ lent) after := by
  have hearlier : ∀ {address body}, after.get? address = some body →
      (base.get? address ≠ none ∨ ¬ body.IsBare) → before.get? address = some body := by
    intro address body hget htracked
    rcases htracked with hold | hbare
    · obtain ⟨found, hfound⟩ := Option.ne_none_iff_exists'.mp hold
      have hthere := hbefore.old hfound
      have hstill := (hholds.kept hthere).1
      rw [hget] at hstill
      rwa [Option.some.inj hstill]
    · exact (hholds.fresh hget).resolve_right fun hfresh => hbare hfresh.1
  have hclaims : ∀ place target, base.claims after place target =
      base.claims before place target := by
    intro place target
    unfold claims
    split
    · rfl
    · cases hget : before.get? place with
      | some body => rw [(hholds.kept hget).1]
      | none =>
          cases hlater : after.get? place with
          | none => rfl
          | some body =>
              have hbare := ((hholds.fresh hlater).resolve_left (by simp [hget])).1
              simp [hbare.owned]
  refine
    { first := hbefore.first
      sound := hholds.sound
      next := Nat.le_trans hbefore.next hholds.next
      old := fun hget => (hholds.kept (hbefore.old hget)).1
      born := fun hget hnew hbare =>
        hbefore.born (hearlier hget (.inr hbare)) hnew hbare
      handles := ?_
      alive := ?_ }
  · intro address body hget htracked
    have hthere := hearlier hget htracked
    rw [(hholds.kept hthere).2, hbefore.handles hthere htracked,
      claimed_congr hbefore.sound hholds.sound fun place => hclaims place address,
      List.count_append]
    omega
  · intro place body target hget hnew hmem
    have hbare : ¬ body.IsBare := fun hbare => by simp [hbare.owned] at hmem
    obtain ⟨found, hfound, htracked⟩ :=
      hbefore.alive (hearlier hget (.inr hbare)) hnew hmem
    exact ⟨found, (hholds.kept hfound).1, htracked⟩

/-- A further handle of a living object is lent. -/
theorem Tallies.retain (hheap : base.Tallies lent heap) (address : Nat) :
    base.Tallies (address :: lent) (heap.retain address) :=
  hheap.holds (hheap.sound.holds.retain address)

theorem Tallies.finish (hheap : base.Tallies lent heap) (address : Nat) :
    base.Tallies lent (heap.finish address) :=
  hheap.holds (hheap.sound.holds.finish address)

/-- An operation that changes no content. -/
private theorem Tallies.of_get? {given : List Nat} (hbefore : base.Tallies given before)
    (hafter : after.Sound) (hnext : after.next = before.next)
    (hget : ∀ address, after.get? address = before.get? address)
    (hcounts : ∀ address, before.get? address ≠ none →
      after.strongCount address + given.count address =
        before.strongCount address + lent.count address) : base.Tallies lent after := by
  have hclaims : ∀ place target, base.claims after place target =
      base.claims before place target := fun place target => by simp [claims, hget]
  refine
    { first := hbefore.first
      sound := hafter
      next := hnext ▸ hbefore.next
      old := fun hold => (hget _).trans (hbefore.old hold)
      born := fun hfound => hbefore.born ((hget _).symm.trans hfound)
      handles := ?_
      alive := ?_ }
  · intro address body hfound htracked
    rw [hget] at hfound
    have hcount := hcounts address (by simp [hfound])
    have hhandles := hbefore.handles hfound htracked
    rw [claimed_congr hbefore.sound hafter fun place => hclaims place address]
    omega
  · intro place body target hfound hnew hmem
    rw [hget] at hfound ⊢
    exact hbefore.alive hfound hnew hmem

/-- A lent handle is given back, and others are left or the object was gone already. -/
theorem Tallies.release_none (hheap : base.Tallies (address :: lent) heap)
    (hnone : (heap.release address).2 = none) :
    base.Tallies lent (heap.release address).1 := by
  refine hheap.of_get? (hheap.sound.release address) (heap.next_release address)
    (hheap.sound.get?_release_of_none hnone) fun other hlives => ?_
  obtain ⟨body, hget⟩ := Option.ne_none_iff_exists'.mp hlives
  have hpositive := strongCount_pos_of_get? hget
  rw [strongCount_release, List.count_cons]
  by_cases ha : address = other
  · subst ha
    simp
    omega
  · simp [ha]

/-- What is destroyed was not there at first, and nothing owns it. -/
theorem Tallies.unowned_of_last (hheap : base.Tallies (address :: lent) heap)
    (hsome : (heap.release address).2 = some body) :
    base.get? address = none ∧ base.claimed heap address = 0 ∧
      (¬ body.IsBare → lent.count address = 0) := by
  have hget := (hheap.sound.get?_release_of_some hsome).1
  have hlast : heap.strongCount address = 1 := by
    rw [hheap.sound.release_snd] at hsome
    split at hsome
    · assumption
    · cases hsome
  have hnew : base.get? address = none := by
    rw [Option.eq_none_iff_forall_ne_some]
    intro found hfound
    have hhandles := hheap.handles hget (.inl (by simp [hfound]))
    have hpositive := strongCount_pos_of_get? hfound
    rw [List.count_cons_self] at hhandles
    omega
  have hunowned : base.claimed heap address = 0 := by
    apply Nat.eq_zero_of_not_pos
    intro hclaimed
    obtain ⟨place, owner, howner, hcame, hmem⟩ := exists_owner hclaimed
    obtain ⟨found, hfound, hbare⟩ := hheap.alive howner hcame hmem
    have hhandles := hheap.handles hfound (.inr hbare)
    rw [List.count_cons_self] at hhandles
    omega
  refine ⟨hnew, hunowned, fun hbare => ?_⟩
  have hhandles := hheap.handles hget (.inr hbare)
  rw [List.count_cons_self] at hhandles
  omega

/-- An object goes, and the handles that it has owned are lent from then on. -/
theorem Tallies.release_some (hheap : base.Tallies (address :: lent) heap)
    (hsome : (heap.release address).2 = some body) :
    base.Tallies (body.owned ++ lent) (heap.release address).1 := by
  obtain ⟨hnew, hunowned, -⟩ := hheap.unowned_of_last hsome
  obtain ⟨hget, hafter⟩ := hheap.sound.get?_release_of_some hsome
  have hsound := hheap.sound.release address
  have hthere : ∀ {other found}, (heap.release address).1.get? other = some found →
      address ≠ other ∧ heap.get? other = some found := by
    intro other found hfound
    rw [hafter] at hfound
    split at hfound
    · cases hfound
    · exact ⟨‹_›, hfound⟩
  have hclaims : ∀ target, base.claimed (heap.release address).1 target +
      body.owned.count target = base.claimed heap target := by
    intro target
    have hdiff : base.claimed (heap.release address).1 target + base.claims heap address target =
        base.claimed heap target + base.claims (heap.release address).1 address target :=
      claimed_of_elsewhere hheap.sound hsound address
        fun other hother => by simp [claims, hafter, Ne.symm hother]
    rw [claims_of_get? hget hnew,
      claims_of_none (by simp [hafter] : (heap.release address).1.get? address = none)]
      at hdiff
    simpa using hdiff
  refine
    { first := hheap.first
      sound := hsound
      next := (heap.next_release address).symm ▸ hheap.next
      old := ?_
      born := fun hfound => hheap.born (hthere hfound).2
      handles := ?_
      alive := ?_ }
  · intro other found hfound
    rw [hafter, if_neg (by rintro rfl; simp [hnew] at hfound)]
    exact hheap.old hfound
  · intro other found hfound htracked
    obtain ⟨hne, hlives⟩ := hthere hfound
    have hhandles := hheap.handles hlives htracked
    have hmoved := hclaims other
    rw [strongCount_release, if_neg hne, List.count_append]
    rw [List.count_cons_of_ne hne] at hhandles
    omega
  · intro place owner target howner hcame hmem
    obtain ⟨-, hlives⟩ := hthere howner
    obtain ⟨found, hfound, htracked⟩ := hheap.alive hlives hcame hmem
    have hne : address ≠ target := by
      rintro rfl
      have hle : base.claims heap place address ≤ base.claimed heap address :=
        claims_le_claimed hheap.sound place address
      rw [claims_of_get? hlives hcame] at hle
      have hpositive := List.count_pos_iff.mpr hmem
      omega
    refine ⟨found, ?_, htracked⟩
    rw [hafter, if_neg hne]
    exact hfound

/-- An object that owns nothing yet is made for whoever asks. -/
theorem Tallies.alloc (hheap : base.Tallies lent heap) (hunissued : lent.count heap.next = 0)
    {game : GameModule} (hbody : body = .game game) (howned : body.owned = []) :
    base.Tallies (heap.next :: lent) (heap.alloc body).2 := by
  have hsound := hheap.sound.alloc body
  have hnew : base.get? heap.next = none := hheap.first.get?_next hheap.next
  have hclaims : ∀ target, base.claimed (heap.alloc body).2 target =
      base.claimed heap target := by
    intro target
    refine claimed_congr hheap.sound hsound fun place => ?_
    unfold claims
    rw [get?_alloc]
    by_cases hplace : heap.next = place
    · subst hplace
      simp [howned, hheap.sound.get?_next (Nat.le_refl _)]
    · rw [if_neg hplace]
  have hunowned : base.claimed heap heap.next = 0 := by
    apply Nat.eq_zero_of_not_pos
    intro hclaimed
    obtain ⟨place, owner, howner, hcame, hmem⟩ := exists_owner hclaimed
    obtain ⟨found, hfound, -⟩ := hheap.alive howner hcame hmem
    exact Nat.lt_irrefl _ (lt_next_of_get? hheap.sound hfound)
  have hnone : base.strongCount heap.next = 0 := by
    unfold strongCount
    cases hcell : base.cell? heap.next with
    | none => rfl
    | some cell => exact absurd (hheap.first.below hcell) (Nat.not_lt.mpr hheap.next)
  refine
    { first := hheap.first
      sound := hsound
      next := Nat.le_succ_of_le hheap.next
      old := ?_
      born := ?_
      handles := ?_
      alive := ?_ }
  · intro address found hfound
    rw [get?_alloc, if_neg (by rintro rfl; simp [hnew] at hfound)]
    exact hheap.old hfound
  · intro address found hfound hcame hbare
    rw [get?_alloc] at hfound
    split at hfound
    · rename_i haddress
      exact ⟨haddress ▸ hheap.next, game, (Option.some.inj hfound).symm.trans hbody⟩
    · exact hheap.born hfound hcame hbare
  · intro address found hfound htracked
    rw [hclaims, strongCount_alloc, List.count_cons]
    rw [get?_alloc] at hfound
    split at hfound
    · rename_i haddress
      subst haddress
      simp [hnone, hunowned, hunissued]
    · rename_i hne
      simpa [hne] using hheap.handles hfound htracked
  · intro place owner target howner hcame hmem
    rw [get?_alloc] at howner
    split at howner
    · cases howner
      simp [howned] at hmem
    · obtain ⟨found, hfound, htracked⟩ := hheap.alive howner hcame hmem
      have hne : heap.next ≠ target :=
        (Nat.ne_of_lt (lt_next_of_get? hheap.sound hfound)).symm
      exact ⟨found, by rw [get?_alloc, if_neg hne]; exact hfound, htracked⟩

/-- An object that has come since changes. The handles that it gives up are lent, and those
that it gets were. -/
theorem Tallies.modify {change : ObjectBody → ObjectBody} {given : List Nat}
    (hheap : base.Tallies given heap) (hget : heap.get? address = some body)
    (hnew : base.get? address = none) (hbody : ¬ body.IsBare)
    (hgame : ∃ game, change body = .game game)
    (hgiven : ∀ target, lent.count target + (change body).owned.count target =
      given.count target + body.owned.count target)
    (halive : ∀ target ∈ (change body).owned, ∃ found, heap.get? target = some found ∧
      ¬ found.IsBare) :
    base.Tallies lent (heap.modify address change) := by
  have hsound := hheap.sound.modify address change
  have hbare : ¬ (change body).IsBare := by
    obtain ⟨game, hgame⟩ := hgame
    rw [hgame]
    exact id
  have hafter : ∀ other, (heap.modify address change).get? other =
      if address = other then some (change body) else heap.get? other := by
    intro other
    rw [get?_modify]
    split
    · rename_i haddress
      subst haddress
      rw [hget]
      rfl
    · rfl
  have hearlier : ∀ {other found}, (heap.modify address change).get? other = some found →
      ∃ earlier, heap.get? other = some earlier ∧ (found.IsBare ↔ earlier.IsBare) := by
    intro other found hfound
    rw [hafter] at hfound
    split at hfound
    · rename_i haddress
      cases hfound
      exact ⟨body, haddress ▸ hget, iff_of_false hbare hbody⟩
    · exact ⟨found, hfound, Iff.rfl⟩
  have hlater : ∀ {other found}, heap.get? other = some found → ¬ found.IsBare →
      ∃ changed, (heap.modify address change).get? other = some changed ∧
        ¬ changed.IsBare := by
    intro other found hfound hstands
    rw [hafter]
    split
    · rename_i haddress
      subst haddress
      rw [hget] at hfound
      cases hfound
      exact ⟨_, rfl, hbare⟩
    · exact ⟨found, hfound, hstands⟩
  have hclaims : ∀ target, base.claimed (heap.modify address change) target +
      body.owned.count target = base.claimed heap target + (change body).owned.count target := by
    intro target
    have hdiff : base.claimed (heap.modify address change) target +
        base.claims heap address target =
          base.claimed heap target + base.claims (heap.modify address change) address target :=
      claimed_of_elsewhere hheap.sound hsound address
        fun other hother => by simp [claims, hafter, Ne.symm hother]
    rwa [claims_of_get? hget hnew,
      claims_of_get? (by simp [hafter] :
        (heap.modify address change).get? address = some (change body)) hnew] at hdiff
  refine
    { first := hheap.first
      sound := hsound
      next := (heap.next_modify address change).symm ▸ hheap.next
      old := ?_
      born := ?_
      handles := ?_
      alive := ?_ }
  · intro other found hfound
    rw [hafter, if_neg (by rintro rfl; simp [hnew] at hfound)]
    exact hheap.old hfound
  · intro other found hfound hcame hbare'
    rw [hafter] at hfound
    split at hfound
    · rename_i haddress
      cases hfound
      exact ⟨haddress ▸ (hheap.born hget hnew hbody).1, hgame⟩
    · exact hheap.born hfound hcame hbare'
  · intro other found hfound htracked
    obtain ⟨earlier, hget', hsame⟩ := hearlier hfound
    have hhandles := hheap.handles hget' (htracked.imp_right hsame.not.mp)
    have hmoved := hclaims other
    have hshift := hgiven other
    rw [strongCount_modify]
    omega
  · intro place owner target howner hcame hmem
    rw [hafter] at howner
    split at howner
    · cases howner
      obtain ⟨found, hfound, htracked⟩ := halive target hmem
      exact hlater hfound htracked
    · obtain ⟨found, hfound, htracked⟩ := hheap.alive howner hcame hmem
      exact hlater hfound htracked

/-- Books that are kept since a later time can be added to those until then. -/
theorem Tallies.trans {more : List Nat} (hfirst : base.Tallies lent middle)
    (hissued : ∀ address ∈ lent, address < middle.next)
    (hsecond : middle.Tallies more heap) : base.Tallies (more ++ lent) heap := by
  -- Whatever is kept track of was there in the middle or has come later.
  have hclaims : ∀ place target, base.claims heap place target =
      base.claims middle place target + middle.claims heap place target := by
    intro place target
    cases hmiddle : middle.get? place with
    | some body =>
        rw [claims_of_old hmiddle]
        simp [claims, hmiddle, hsecond.old hmiddle]
    | none =>
        rw [claims_of_none hmiddle]
        have hbase : base.get? place = none := by
          rw [Option.eq_none_iff_forall_ne_some]
          intro found hfound
          simp [hfirst.old hfound] at hmiddle
        simp [claims, hmiddle, hbase]
  have hsum : ∀ target, base.claimed heap target =
      base.claimed middle target + middle.claimed heap target := by
    intro target
    rw [claimed_eq_sum hfirst.sound hsecond.next, claimed, claimed,
      ← Finset.sum_add_distrib]
    exact Finset.sum_congr rfl fun place _ => hclaims place target
  refine
    { first := hfirst.first
      sound := hsecond.sound
      next := Nat.le_trans hfirst.next hsecond.next
      old := fun hget => hsecond.old (hfirst.old hget)
      born := ?_
      handles := ?_
      alive := ?_ }
  · intro address body hget hnew hbare
    cases hmiddle : middle.get? address with
    | some found =>
        have hsame := hsecond.old hmiddle
        rw [hget] at hsame
        cases hsame
        exact hfirst.born hmiddle hnew hbare
    | none =>
        obtain ⟨hbeyond, hgame⟩ := hsecond.born hget hmiddle hbare
        exact ⟨Nat.le_trans hfirst.next hbeyond, hgame⟩
  · intro address body hget htracked
    cases hmiddle : middle.get? address with
    | some found =>
        have hsame := hsecond.old hmiddle
        rw [hget] at hsame
        cases hsame
        have hlater := hsecond.handles hget (.inl (by simp [hmiddle]))
        have hearlier := hfirst.handles hmiddle htracked
        rw [hsum, List.count_append]
        omega
    | none =>
        have hbare : ¬ body.IsBare := by
          rcases htracked with hold | hbare
          · obtain ⟨found, hfound⟩ := Option.ne_none_iff_exists'.mp hold
            simp [hfirst.old hfound] at hmiddle
          · exact hbare
        have hbeyond := (hsecond.born hget hmiddle hbare).1
        have hlater := hsecond.handles hget (.inr hbare)
        have hunlent : lent.count address = 0 :=
          List.count_eq_zero.mpr fun hmem => absurd (hissued address hmem) (by omega)
        have hunowned : base.claimed middle address = 0 := by
          apply Nat.eq_zero_of_not_pos
          intro hclaimed
          obtain ⟨place, owner, howner, hcame, hmem⟩ := exists_owner hclaimed
          obtain ⟨found, hfound, -⟩ := hfirst.alive howner hcame hmem
          simp [hmiddle] at hfound
        have hnone : ∀ {first : Heap ObjectBody}, first.Sound → first.next ≤ address →
            first.strongCount address = 0 := by
          intro first hsound hle
          unfold strongCount
          cases hcell : first.cell? address with
          | none => rfl
          | some cell => exact absurd (hsound.below hcell) (by omega)
        rw [hnone hfirst.sound hbeyond] at hlater
        rw [hsum, List.count_append, hnone hfirst.first (Nat.le_trans hfirst.next hbeyond),
          hunlent, hunowned]
        omega
  · intro place owner target howner hcame hmem
    cases hmiddle : middle.get? place with
    | some found =>
        have hsame := hsecond.old hmiddle
        rw [howner] at hsame
        cases hsame
        obtain ⟨there, hthere, htracked⟩ := hfirst.alive hmiddle hcame hmem
        exact ⟨there, hsecond.old hthere, htracked⟩
    | none =>
        obtain ⟨there, hthere, htracked⟩ := hsecond.alive howner hmiddle hmem
        exact ⟨there, hthere, htracked⟩

end Heap

end ScriptHost
