import Mathlib.Data.List.Perm.Basic
import ScriptHost.Json.Record

/-!
Objects that are read as records. The members of a record may come in any order and among members
whose keys the record does not know; each of its fields is found, and a field without a member is
left out.
-/

namespace ScriptHost.Json

variable {fields : List (String × Option Json)} {members : List (Option String × Json)}

/-- The members of the fields that are not left out. -/
def given (fields : List (String × Option Json)) : List (String × Json) :=
  fields.filterMap fun field => field.2.map fun value => (field.1, value)

/-- Whether an object has the given fields, in any order, among members with other keys. -/
def IsRecord (fields : List (String × Option Json)) (members : List (Option String × Json)) :
    Prop :=
  ∃ extras : List (String × Json), (∀ extra ∈ extras, extra.1 ∉ fields.map Prod.fst) ∧
    members.Perm ((given fields ++ extras).map fun member => (some member.1, member.2))

theorem exists_keys (hreadable : ∀ member ∈ members, ∃ key, member.1 = some key) :
    ∃ keys, keys? members = some keys := by
  induction members with
  | nil => exact ⟨[], rfl⟩
  | cons member rest ih =>
      obtain ⟨key, hkey⟩ := hreadable member List.mem_cons_self
      obtain ⟨keys, hkeys⟩ := ih fun other hother => hreadable other (List.mem_cons_of_mem _ hother)
      refine ⟨key :: keys, ?_⟩
      unfold keys? at hkeys ⊢
      rw [List.mapM_cons, hkey, hkeys]
      rfl

theorem given_filter_of_not_mem {name : String} (hname : name ∉ fields.map Prod.fst) :
    (given fields).filter (·.1 == name) = [] := by
  rw [List.filter_eq_nil_iff]
  intro member hmember hsame
  obtain ⟨field, hfield, hvalue⟩ := List.mem_filterMap.mp hmember
  obtain ⟨value, -, rfl⟩ := Option.map_eq_some_iff.mp hvalue
  rw [← beq_iff_eq.mp hsame] at hname
  exact hname (List.mem_map_of_mem hfield)

/-- A field has the one member that is given for it. -/
theorem given_filter (hdistinct : (fields.map Prod.fst).Nodup) {name : String}
    {value : Option Json} (hfield : (name, value) ∈ fields) :
    (given fields).filter (·.1 == name) = (value.map fun value => (name, value)).toList := by
  induction fields with
  | nil => cases hfield
  | cons first rest ih =>
      rw [List.map_cons, List.nodup_cons] at hdistinct
      obtain ⟨hnew, hrest⟩ := hdistinct
      have hcons : given (first :: rest) =
          (first.2.map fun value => (first.1, value)).toList ++ given rest := by
        unfold given
        rw [List.filterMap_cons]
        cases first.2 <;> rfl
      rw [hcons, List.filter_append]
      rcases List.mem_cons.mp hfield with rfl | hmem
      · rw [given_filter_of_not_mem hnew, List.append_nil]
        cases value with
        | none => rfl
        | some value => simp
      · have hother : first.1 ≠ name := by
          rintro rfl
          exact hnew (List.mem_map.mpr ⟨_, hmem, rfl⟩)
        rw [ih hrest hmem]
        cases first.2 with
        | none => rfl
        | some value => simp [hother]

theorem field?_of_isRecord (hdistinct : (fields.map Prod.fst).Nodup)
    (hrecord : IsRecord fields members) {name : String} {value : Option Json}
    (hfield : (name, value) ∈ fields) : field? name members = some value := by
  obtain ⟨extras, hextras, hperm⟩ := hrecord
  have hfound : (members.filter fun member => member.1 == some name).Perm
      ((value.map fun value => (some name, value)).toList) := by
    refine (hperm.filter _).trans (.of_eq ?_)
    have hnone : extras.filter (·.1 == name) = [] := by
      rw [List.filter_eq_nil_iff]
      intro extra hextra hsame
      exact hextras extra hextra (beq_iff_eq.mp hsame ▸ List.mem_map_of_mem hfield)
    have hboth : (given fields ++ extras).filter (·.1 == name) =
        (value.map fun value => (name, value)).toList := by
      rw [List.filter_append, hnone, List.append_nil, given_filter hdistinct hfield]
    rw [List.filter_map]
    change ((given fields ++ extras).filter fun member => some member.1 == some name).map _ = _
    simp only [Option.some_beq_some]
    rw [hboth]
    cases value <;> rfl
  unfold field?
  cases value with
  | none => rw [hfound.eq_nil]
  | some value => rw [List.perm_singleton.mp hfound]

theorem mapM_field? (hfields : ∀ name value, (name, value) ∈ fields →
    field? name members = some value) :
    (fields.map Prod.fst).mapM (field? · members) = some (fields.map Prod.snd) := by
  induction fields with
  | nil => rfl
  | cons first rest ih =>
      rw [List.map_cons, List.mapM_cons, hfields first.1 first.2 List.mem_cons_self,
        ih fun name value hmem => hfields name value (List.mem_cons_of_mem _ hmem)]
      rfl

/-- A record is read field by field, in the order in which the fields are asked for. -/
theorem fields?_of_isRecord (hdistinct : (fields.map Prod.fst).Nodup)
    (hrecord : IsRecord fields members) :
    fields? (fields.map Prod.fst) (.object members) = some (fields.map Prod.snd) := by
  have hreadable : ∀ member ∈ members, ∃ key, member.1 = some key := by
    obtain ⟨extras, -, hperm⟩ := hrecord
    intro member hmember
    obtain ⟨source, -, rfl⟩ := List.mem_map.mp (hperm.mem_iff.mp hmember)
    exact ⟨source.1, rfl⟩
  obtain ⟨keys, hkeys⟩ := exists_keys hreadable
  rw [fields?, hkeys, Option.bind_some]
  exact mapM_field? fun name value hfield => field?_of_isRecord hdistinct hrecord hfield

/-- Fields in their order, and no further members. -/
theorem isRecord_given (fields : List (String × Option Json)) :
    IsRecord fields ((given fields).map fun member => (some member.1, member.2)) :=
  ⟨[], nofun, by rw [List.append_nil]⟩

/-- An array of strings. -/
def texts (texts : List String) : Json :=
  .array (texts.map fun text => .string (some text))

theorem list?_texts (values : List String) : list? string? (texts values) = some values := by
  unfold texts list?
  dsimp only
  induction values with
  | nil => rfl
  | cons text rest ih =>
      rw [List.map_cons, List.mapM_cons, ih]
      rfl

end ScriptHost.Json
