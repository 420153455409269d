import ScriptHost.Listener.Index
import ScriptHost.Proofs.Table

/-!
Looking for listeners in the index of a compiled script. The index holds each listener under its
own key, and no key twice. A key does not tell all queries apart: a generic listener answers to
its type whatever the name is that is asked for, and to its key given as a name without a type.
Apart from these a query finds the listener of exactly its name and type.
-/

namespace ScriptHost

/-! ### Keys -/

theorem listenerKey_type (name eventType : String) :
    (listenerKey name (some eventType)).toList = "Generic:".toList ++ eventType.toList := by
  show ("Generic:" ++ eventType).toList = _
  rw [String.toList_append]

/-- The name of a listener is not the key of a type. -/
theorem ListenerKind.name_ne_key (kind : ListenerKind) (name eventType : String) :
    kind.name ≠ listenerKey name (some eventType) := by
  intro hsame
  have hcolon : ':' ∈ kind.name.toList := by
    rw [hsame, listenerKey_type]
    simp
  revert hcolon
  cases kind <;> decide

namespace ListenerTag

/-- A tag has a type exactly if it is that of a generic listener. -/
theorem ofParts_typed {kind : ListenerKind} {rest : List Char} {tag : ListenerTag}
    (hparts : ofParts kind rest = .ok tag) : tag.genericType.isSome = true ↔ tag.kind = .generic := by
  unfold ofParts at hparts
  split at hparts
  · rename_i hgeneric
    split at hparts
    · cases hparts
    · cases hparts
    · cases hparts
      simp [hgeneric]
  · rename_i hother
    cases hparts
    simp [hother]

theorem parse_typed {line : String} {tag : ListenerTag} (hparse : parse line = .ok (some tag)) :
    tag.genericType.isSome = true ↔ tag.kind = .generic := by
  unfold parse ofContent at hparse
  split at hparse
  · cases hparse
  · split at hparse
    · cases hparse
    · split at hparse
      · cases hparse
      · rename_i rest _ _ kind _
        cases hparts : ofParts kind (skipCommas rest) with
        | error err =>
            rw [hparts] at hparse
            cases hparse
        | ok found =>
            rw [hparts] at hparse
            cases hparse
            exact ofParts_typed hparts

end ListenerTag

namespace ListenerEntry

/-- An entry has a type exactly if it is that of a generic listener. -/
def IsTyped (entry : ListenerEntry) : Prop :=
  entry.genericType.isSome = true ↔ entry.kind = .generic

/-- A generic listener hides behind queries that do not ask for it: those for its type under
another name, and those for its key as a name. -/
def Shadows (entry : ListenerEntry) (name : String) (genericType : Option String) : Prop :=
  ∃ eventType, entry.genericType = some eventType ∧
    (genericType = some eventType ∧ name ≠ ListenerKind.generic.name ∨
      genericType = none ∧ name = listenerKey ListenerKind.generic.name (some eventType))

variable {entry : ListenerEntry}

/-- The key of an entry is that of a query for it, or of one that it hides behind. -/
theorem IsTyped.key_eq_iff (htyped : entry.IsTyped) (name : String) (genericType : Option String) :
    entry.key = listenerKey name genericType ↔
      entry.kind.name = name ∧ entry.genericType = genericType ∨ entry.Shadows name genericType := by
  unfold key Shadows
  cases hown : entry.genericType with
  | none =>
      cases genericType with
      | none => simp [listenerKey]
      | some eventType =>
          have hne := entry.kind.name_ne_key name eventType
          simpa [listenerKey] using hne
  | some eventType =>
      have hgeneric : entry.kind = .generic := htyped.mp (by rw [hown]; rfl)
      rw [hgeneric]
      cases genericType with
      | none => simp [listenerKey, eq_comm]
      | some other =>
          have hkey : listenerKey ListenerKind.generic.name (some eventType) =
              listenerKey name (some other) ↔ other = eventType := by
            rw [← String.toList_inj, listenerKey_type, listenerKey_type,
              List.append_cancel_left_eq, String.toList_inj, eq_comm]
          rw [hkey]
          by_cases hname : name = ListenerKind.generic.name
          · simp [hname, eq_comm]
          · simp [hname, Ne.symm hname]

end ListenerEntry

namespace ListenerIndex

/-! ### The index of a compiled script -/

/-- What is under the keys of an index that was built for a compiled script. -/
structure Keyed (index : ListenerIndex) (compiled : Compiled) : Prop where
  distinct : index.entries.keys.Nodup
  own : ∀ item ∈ index.entries, item.1 = item.2.key
  typed : ∀ item ∈ index.entries, item.2.IsTyped
  listed : ∀ item ∈ index.entries, item.2.function.compiled = compiled

variable {compiled : Compiled} {index : ListenerIndex}

/-- The entry that a function gives is new. -/
theorem entryOf_some (index : ListenerIndex) (function : FunctionRef)
    {entry : ListenerEntry} {lines : List String}
    (hentry : (index.entryOf function lines).1 = some entry) :
    entry.function = function ∧ entry.IsTyped ∧ index.entries.has entry.key = false := by
  induction lines with
  | nil => cases hentry
  | cons line rest ih =>
      unfold entryOf at hentry
      cases htag : ListenerTag.parse line with
      | error err =>
          simp only [htag] at hentry
          exact ih hentry
      | ok tag =>
          cases tag with
          | none =>
              simp only [htag] at hentry
              exact ih hentry
          | some tag =>
              simp only [htag] at hentry
              split at hentry
              · exact ih hentry
              · rename_i hnew
                cases hentry
                exact ⟨rfl, ListenerTag.parse_typed htag, by simpa using hnew⟩

theorem Keyed.addFunction {state : ListenerIndex × List String}
    (hstate : state.1.Keyed compiled) (function : Script.Function) :
    (ListenerIndex.addFunction compiled state function).1.Keyed compiled := by
  obtain ⟨index, complaints⟩ := state
  unfold ListenerIndex.addFunction
  dsimp only
  split
  · split
    · rename_i entry more hentry
      obtain ⟨hfunction, htyped, hnew⟩ := entryOf_some index _ (congrArg Prod.fst hentry)
      have hitems : ∀ item ∈ index.entries.set entry.key entry,
          item = (entry.key, entry) ∨ item ∈ index.entries :=
        fun item hitem => Table.mem_set index.entries hitem
      refine ⟨?_, fun item hitem => ?_, fun item hitem => ?_, fun item hitem => ?_⟩
      · rw [Table.keys_set_of_new index.entries hnew]
        refine List.nodup_append.mpr ⟨hstate.distinct, by simp, fun key hmem other hother => ?_⟩
        rintro rfl
        rw [List.mem_singleton] at hother
        subst hother
        rw [Table.mem_keys_iff, hnew] at hmem
        cases hmem
      · rcases hitems item hitem with rfl | hold
        · rfl
        · exact hstate.own item hold
      · rcases hitems item hitem with rfl | hold
        · exact htyped
        · exact hstate.typed item hold
      · rcases hitems item hitem with rfl | hold
        · rw [hfunction]
        · exact hstate.listed item hold
    · exact hstate
  · exact hstate

theorem build_keyed (compiled : Compiled) : (build compiled).1.Keyed compiled := by
  have hfold : ∀ (functions : List Script.Function) (state : ListenerIndex × List String),
      state.1.Keyed compiled →
        (functions.foldl (ListenerIndex.addFunction compiled) state).1.Keyed compiled := by
    intro functions
    induction functions with
    | nil => exact fun _ hstate => hstate
    | cons function rest ih => exact fun state hstate => ih _ (hstate.addFunction function)
  refine hfold compiled.functions (⟨[]⟩, []) ⟨List.nodup_nil, ?_, ?_, ?_⟩
  all_goals
    intro item hitem
    cases hitem

/-- A query finds the listener that has its key. -/
theorem Keyed.find?_eq_some_iff (hkeyed : index.Keyed compiled) (name : String)
    (genericType : Option String) (entry : ListenerEntry) :
    index.find? name genericType = some entry ↔
      entry ∈ index.list ∧ entry.key = listenerKey name genericType := by
  unfold find? list
  rw [Table.get?_eq_some_iff hkeyed.distinct]
  constructor
  · intro hmem
    exact ⟨List.mem_map_of_mem hmem, (hkeyed.own _ hmem).symm⟩
  · rintro ⟨hmem, hkey⟩
    obtain ⟨item, hitem, rfl⟩ := List.mem_map.mp hmem
    rw [← hkey, ← hkeyed.own item hitem]
    exact hitem

/-- The listeners of an index are entered with their types. -/
theorem Keyed.typed_of_mem (hkeyed : index.Keyed compiled) {entry : ListenerEntry}
    (hentry : entry ∈ index.list) : entry.IsTyped := by
  obtain ⟨item, hitem, rfl⟩ := List.mem_map.mp hentry
  exact hkeyed.typed item hitem

/-- A query finds the listener of its name and type, and besides that only a generic listener
that hides behind it. -/
theorem find?_exact (compiled : Compiled) (name : String) (genericType : Option String)
    (entry : ListenerEntry) :
    (build compiled).1.find? name genericType = some entry ↔
      entry ∈ (build compiled).1.list ∧
        (entry.kind.name = name ∧ entry.genericType = genericType ∨
          entry.Shadows name genericType) := by
  have hkeyed := build_keyed compiled
  rw [hkeyed.find?_eq_some_iff]
  refine and_congr_right fun hentry => ?_
  exact (hkeyed.typed_of_mem hentry).key_eq_iff name genericType

/-- A script with a listener of the type "Score". -/
def scored : Compiled :=
  ⟨1, "M-1", ⟨[⟨"f", ["event", "module"], true, ["/// @Listener=\"Generic\", @Type=\"Score\""], []⟩], []⟩,
    ⟨[]⟩, .moduleDefault⟩

/-- Whoever asks for a listener of the ticks with a type gets the generic listener of the
type. -/
theorem find?_forgets_name :
    ((build scored).1.find? "OnTick" (some "Score")).map (·.kind.name) = some "Generic" ∧
      ∀ entry ∈ (build scored).1.list, entry.kind.name ≠ "OnTick" := by
  decide +kernel

end ListenerIndex

end ScriptHost
