import ScriptHost.Table

/-!
What a table says under a key after it has been changed under another one.
No law of a change asks for distinct keys, so each of them holds of every list of
entries; only an entry that is there is what its key finds if the keys are distinct.
-/

namespace ScriptHost

namespace Table

variable {κ α : Type} [DecidableEq κ]

@[simp]
theorem get?_nil (key : κ) : Table.get? ([] : Table κ α) key = none := rfl

theorem get?_set (table : Table κ α) (key other : κ) (value : α) :
    (table.set key value).get? other =
      if key = other then some value else table.get? other := by
  induction table with
  | nil => rfl
  | cons entry rest ih =>
      obtain ⟨k, a⟩ := entry
      by_cases hk : k = key
      · subst hk
        simp only [Table.set, if_true, Table.get?]
        by_cases ho : k = other
        · simp [ho]
        · simp [ho]
      · simp only [Table.set, hk, if_false, Table.get?, ih]
        by_cases ho : k = other
        · have hne : ¬ key = other := fun h => hk (ho.trans h.symm)
          simp [ho, hne]
        · simp [ho]

@[simp]
theorem get?_set_self (table : Table κ α) (key : κ) (value : α) :
    (table.set key value).get? key = some value := by
  simp [get?_set]

theorem get?_set_other (table : Table κ α) {key other : κ} (value : α)
    (hne : key ≠ other) :
    (table.set key value).get? other = table.get? other := by
  simp [get?_set, hne]

/-- A new key goes to the end. -/
theorem set_of_new (table : Table κ α) {key : κ} (hnew : table.get? key = none) (value : α) :
    table.set key value = table ++ [(key, value)] := by
  induction table with
  | nil => rfl
  | cons entry rest ih =>
      obtain ⟨k, a⟩ := entry
      by_cases hk : k = key
      · simp [Table.get?, hk] at hnew
      · rw [Table.get?, if_neg hk] at hnew
        rw [Table.set, if_neg hk, ih hnew, List.cons_append]

/-- Of two values under one key the later one stays. -/
theorem set_set (table : Table κ α) (key : κ) (first second : α) :
    (table.set key first).set key second = table.set key second := by
  induction table with
  | nil => simp [Table.set]
  | cons entry rest ih =>
      obtain ⟨k, a⟩ := entry
      by_cases hk : k = key
      · simp [Table.set, hk]
      · simp [Table.set, hk, ih]

/-- Putting what is there already changes nothing. -/
theorem set_of_get? (table : Table κ α) {key : κ} {value : α}
    (hget : table.get? key = some value) : table.set key value = table := by
  induction table with
  | nil => cases hget
  | cons entry rest ih =>
      obtain ⟨k, a⟩ := entry
      by_cases hk : k = key
      · subst hk
        simp only [Table.get?, if_true, Option.some.injEq] at hget
        simp [Table.set, hget]
      · rw [Table.get?, if_neg hk] at hget
        rw [Table.set, if_neg hk, ih hget]

theorem erase_cons_same (key : κ) (value : α) (rest : Table κ α) :
    Table.erase ((key, value) :: rest) key = Table.erase rest key := by
  simp [Table.erase]

theorem erase_cons_other {k key : κ} (value : α) (rest : Table κ α)
    (hne : k ≠ key) :
    Table.erase ((k, value) :: rest) key =
      (k, value) :: Table.erase rest key := by
  simp [Table.erase, hne]

theorem get?_erase (table : Table κ α) (key other : κ) :
    (table.erase key).get? other =
      if key = other then none else table.get? other := by
  induction table with
  | nil => simp [Table.erase, Table.get?]
  | cons entry rest ih =>
      obtain ⟨k, a⟩ := entry
      by_cases hk : k = key
      · subst hk
        rw [erase_cons_same, ih]
        by_cases ho : k = other
        · simp [ho]
        · simp [Table.get?, ho]
      · rw [erase_cons_other a rest hk]
        simp only [Table.get?, ih]
        by_cases ho : k = other
        · have hne : ¬ key = other := fun h => hk (ho.trans h.symm)
          simp [ho, hne]
        · simp [ho]

@[simp]
theorem get?_erase_self (table : Table κ α) (key : κ) :
    (table.erase key).get? key = none := by
  simp [get?_erase]

theorem get?_erase_other (table : Table κ α) {key other : κ}
    (hne : key ≠ other) :
    (table.erase key).get? other = table.get? other := by
  simp [get?_erase, hne]

theorem get?_setSorted {α : Type} (table : Table String α) (key other : String) (value : α) :
    (table.setSorted key value).get? other =
      if key = other then some value else table.get? other := by
  induction table with
  | nil => rfl
  | cons entry rest ih =>
      obtain ⟨k, a⟩ := entry
      unfold Table.setSorted
      split
      · rfl
      · split
        · rename_i hk
          subst hk
          by_cases ho : k = other
          · simp [Table.get?, ho]
          · simp [Table.get?, ho]
        · rename_i hk
          simp only [Table.get?, ih]
          by_cases ho : k = other
          · have hne : ¬ key = other := fun h => hk (ho.trans h.symm)
            simp [ho, hne]
          · simp [ho]

theorem has_eq_true_iff (table : Table κ α) (key : κ) :
    table.has key = true ↔ ∃ value, table.get? key = some value := by
  simp [Table.has, Option.isSome_iff_exists]

theorem has_eq_false_iff (table : Table κ α) (key : κ) :
    table.has key = false ↔ table.get? key = none := by
  simp [Table.has]

theorem mem_of_get? (table : Table κ α) {key : κ} {value : α}
    (hget : table.get? key = some value) : (key, value) ∈ table := by
  induction table with
  | nil => simp at hget
  | cons entry rest ih =>
      obtain ⟨k, a⟩ := entry
      by_cases hk : k = key
      · simp only [Table.get?, hk, if_true, Option.some.injEq] at hget
        simp [hk, hget]
      · simp only [Table.get?, hk, if_false] at hget
        exact List.mem_cons_of_mem _ (ih hget)

theorem mem_set (table : Table κ α) {key : κ} {value : α} {entry : κ × α}
    (hmem : entry ∈ table.set key value) : entry = (key, value) ∨ entry ∈ table := by
  induction table with
  | nil =>
      simp only [Table.set, List.mem_singleton] at hmem
      exact .inl hmem
  | cons head rest ih =>
      obtain ⟨k, a⟩ := head
      by_cases hk : k = key
      · simp only [Table.set, hk, if_true, List.mem_cons] at hmem
        rcases hmem with hnew | hold
        · exact .inl hnew
        · exact .inr (List.mem_cons_of_mem _ hold)
      · simp only [Table.set, hk, if_false, List.mem_cons] at hmem
        rcases hmem with hhead | htail
        · exact .inr (List.mem_cons.mpr (.inl hhead))
        · exact (ih htail).imp_right (List.mem_cons_of_mem _)

/-! ### How often a value is in a table -/

/-- What is put under a key takes the place of what was there. -/
theorem count_set (table : Table κ Nat) (key : κ) (value other : Nat) :
    ((table.set key value).map Prod.snd).count other +
        (table.get? key).toList.count other =
      (table.map Prod.snd).count other + [value].count other := by
  induction table with
  | nil => simp [Table.set]
  | cons entry rest ih =>
      obtain ⟨k, a⟩ := entry
      by_cases hk : k = key
      · simp only [Table.set, hk, if_true, Table.get?, List.map_cons,
          Option.toList_some, List.count_cons, List.count_nil]
        omega
      · simp only [Table.set, hk, if_false, Table.get?, List.map_cons, List.count_cons]
          at ih ⊢
        omega

/-- What is taken out under a key is not there any more. -/
theorem count_erase (table : Table κ Nat) (key : κ) (other : Nat) :
    ((table.erase key).map Prod.snd).count other +
        (table.get? key).toList.count other ≤ (table.map Prod.snd).count other := by
  induction table with
  | nil => simp [Table.erase]
  | cons entry rest ih =>
      obtain ⟨k, a⟩ := entry
      by_cases hk : k = key
      · subst hk
        have hfewer : ((Table.erase rest k).map Prod.snd).count other ≤
            (rest.map Prod.snd).count other := by omega
        simp only [erase_cons_same, Table.get?, if_true, List.map_cons, List.count_cons,
          Option.toList_some, List.count_nil]
        omega
      · rw [erase_cons_other a rest hk]
        simp only [Table.get?, hk, if_false, List.map_cons, List.count_cons]
        omega

/-! ### Keys -/

theorem keys_set_of_new (table : Table κ α) {key : κ} (hnew : table.has key = false)
    (value : α) : (table.set key value).keys = table.keys ++ [key] := by
  rw [table.set_of_new ((has_eq_false_iff table key).mp hnew), keys, List.map_append]
  rfl

theorem mem_keys_iff (table : Table κ α) (key : κ) : key ∈ table.keys ↔ table.has key = true := by
  induction table with
  | nil => simp [Table.keys, Table.has, Table.get?]
  | cons entry rest ih =>
      obtain ⟨k, a⟩ := entry
      by_cases hk : k = key
      · simp [Table.keys, Table.has, Table.get?, hk]
      · have hne : key ≠ k := fun h => hk h.symm
        simpa [Table.keys, Table.has, Table.get?, hk, hne] using ih

theorem get?_eq_some_iff {table : Table κ α} (hdistinct : table.keys.Nodup) (key : κ)
    (value : α) : table.get? key = some value ↔ (key, value) ∈ table := by
  refine ⟨mem_of_get? table, fun hmem => ?_⟩
  induction table with
  | nil => cases hmem
  | cons entry rest ih =>
      obtain ⟨k, a⟩ := entry
      obtain ⟨hhead, htail⟩ := List.nodup_cons.mp hdistinct
      rcases List.mem_cons.mp hmem with hfirst | hrest
      · cases hfirst
        simp [Table.get?]
      · have hk : k ≠ key := by
          rintro rfl
          exact hhead (List.mem_map.mpr ⟨_, hrest, rfl⟩)
        rw [Table.get?, if_neg hk]
        exact ih htail hrest

end Table

end ScriptHost
