import ScriptHost.Proofs.Annotating
import ScriptHost.Proofs.Lookup

/-!
How the index of a compiled script comes about. Each public function in turn gives its first
well-formed annotation whose key no function before it has taken, so the listeners stand in the order
of their functions and no function has two of them. The index is one table in the order of its keys;
a map and a list of its keys that are changed side by side hold the same.
-/

namespace ScriptHost

namespace ListenerTag

/-- The key of the listener that a tag declares. -/
def key (tag : ListenerTag) : String :=
  ScriptHost.listenerKey tag.kind.name tag.genericType

/-- The listener that a tag makes of a function. -/
def entry (tag : ListenerTag) (function : FunctionRef) : ListenerEntry :=
  ⟨function, tag.kind, tag.genericType, tag.metadata⟩

@[simp]
theorem entry_key (tag : ListenerTag) (function : FunctionRef) :
    (tag.entry function).key = tag.key := rfl

/-- The well-formed annotations among some lines, in their order. -/
def among (lines : List String) : List ListenerTag :=
  lines.filterMap fun line => (parse line).toOption.join

theorem mem_among_iff {lines : List String} {tag : ListenerTag} :
    tag ∈ among lines ↔ ∃ line ∈ lines, parse line = .ok (some tag) := by
  simp only [among, List.mem_filterMap]
  refine exists_congr fun line => and_congr_right fun _ => ?_
  cases parse line with
  | error err => simp [Except.toOption]
  | ok found => simp [Except.toOption]

theorem among_cons (line : String) (rest : List String) :
    among (line :: rest) =
      match parse line with
      | .ok (some tag) => tag :: among rest
      | _ => among rest := by
  unfold among
  rw [List.filterMap_cons]
  cases parse line with
  | error err => rfl
  | ok found =>
      cases found with
      | none => rfl
      | some tag => rfl

end ListenerTag

namespace ListenerEntry

/-- The tag that an entry was made of. -/
def tag (entry : ListenerEntry) : ListenerTag :=
  ⟨entry.kind, entry.genericType, entry.metadata⟩

end ListenerEntry

namespace ListenerIndex

/-- A reference to a function of a compiled script. -/
def reference (compiled : Compiled) (function : Script.Function) : FunctionRef :=
  ⟨compiled, function.name, function.arity⟩

/-- A function gives the first of its tags whose key is free. -/
theorem entryOf_eq_find? (index : ListenerIndex) (function : FunctionRef) (lines : List String) :
    (index.entryOf function lines).1 =
      ((ListenerTag.among lines).find? fun tag => !index.entries.has tag.key).map
        (·.entry function) := by
  induction lines with
  | nil => rfl
  | cons line rest ih =>
      rw [ListenerTag.among_cons]
      unfold entryOf
      cases hparse : ListenerTag.parse line with
      | error err => exact ih
      | ok found =>
          cases found with
          | none => exact ih
          | some tag =>
              cases hhas : index.entries.has tag.key with
              | true =>
                  rw [List.find?_cons_of_neg (by simp [hhas]), ← ih]
                  have hkey : index.entries.has
                      (ListenerEntry.key ⟨function, tag.kind, tag.genericType, tag.metadata⟩) =
                        true := hhas
                  simp only [hkey, if_true]
              | false =>
                  rw [List.find?_cons_of_pos (by simp [hhas])]
                  have hkey : index.entries.has
                      (ListenerEntry.key ⟨function, tag.kind, tag.genericType, tag.metadata⟩) =
                        false := hhas
                  simp only [hkey, Bool.false_eq_true, if_false]
                  rfl

/-- The tags in the comments of a function, if they count. -/
def tagsOf (function : Script.Function) : List ListenerTag :=
  if function.isPublic then ListenerTag.among (commentLines function) else []

/-- Taking in a function enters its first tag with a free key, and nothing if there is none. -/
theorem addFunction_index (compiled : Compiled) (state : ListenerIndex × List String)
    (function : Script.Function) :
    (addFunction compiled state function).1 =
      match (tagsOf function).find? fun tag => !state.1.entries.has tag.key with
      | some tag => ⟨state.1.entries.set tag.key (tag.entry (reference compiled function))⟩
      | none => state.1 := by
  obtain ⟨index, complaints⟩ := state
  unfold addFunction tagsOf
  by_cases hpublic : function.isPublic = true
  · have hentry := entryOf_eq_find? index (reference compiled function) (commentLines function)
    dsimp only
    rw [if_pos hpublic, if_pos hpublic]
    unfold reference at hentry
    cases hfind : (ListenerTag.among (commentLines function)).find?
        fun tag => !index.entries.has tag.key with
    | none =>
        rw [hfind, Option.map_none] at hentry
        split
        · rename_i entry more hsome
          rw [hsome] at hentry
          cases hentry
        · rfl
    | some tag =>
        rw [hfind, Option.map_some] at hentry
        split
        · rename_i entry more hsome
          rw [hsome] at hentry
          cases hentry
          rfl
        · rename_i more hnone
          rw [hnone] at hentry
          cases hentry
  · dsimp only
    rw [if_neg hpublic, if_neg hpublic]
    rfl

/-- The keys of an index are those of its listeners. -/
theorem Keyed.keys_eq {index : ListenerIndex} {compiled : Compiled}
    (hkeyed : index.Keyed compiled) : index.entries.keys = index.list.map ListenerEntry.key := by
  unfold Table.keys list
  rw [List.map_map]
  exact List.map_congr_left fun item hitem => hkeyed.own item hitem

/-! ### Who owns which listener -/

/-- How the listeners of an index are distributed over the first functions of a compiled script:
each item of `owned` is a listener with the place of the function it belongs to. -/
structure Distributed (index : ListenerIndex) (compiled : Compiled)
    (functions : List Script.Function) (owned : List (Nat × ListenerEntry)) : Prop where
  /-- The listeners are those of the index, in its order. -/
  listed : index.list = owned.map (·.2)
  /-- They stand in the order of their functions, and no function has two. -/
  ordered : (owned.map (·.1)).Pairwise (· < ·)
  /-- A listener is the first tag of its function whose key no function before has taken. -/
  declared : ∀ item ∈ owned, ∃ function, functions[item.1]? = some function ∧
    item.2 = item.2.tag.entry (reference compiled function) ∧
    ∃ passed left, tagsOf function = passed ++ item.2.tag :: left ∧
      ∀ tag ∈ passed, ∃ earlier ∈ owned, earlier.1 < item.1 ∧ earlier.2.key = tag.key
  /-- A function with tags has a listener unless functions before it have taken all its keys. -/
  complete : ∀ (place : Nat) (function : Script.Function), functions[place]? = some function →
    (∃ item ∈ owned, item.1 = place) ∨
      ∀ tag ∈ tagsOf function, ∃ earlier ∈ owned, earlier.1 < place ∧ earlier.2.key = tag.key

namespace Distributed

variable {index : ListenerIndex} {compiled : Compiled} {functions : List Script.Function}
  {owned : List (Nat × ListenerEntry)}

/-- An owner is one of the functions so far. -/
theorem place_lt (hdistributed : index.Distributed compiled functions owned)
    {item : Nat × ListenerEntry} (hitem : item ∈ owned) : item.1 < functions.length := by
  obtain ⟨function, hfunction, -⟩ := hdistributed.declared item hitem
  exact (List.getElem?_eq_some_iff.mp hfunction).1

/-- A key is taken exactly if one of the functions so far owns a listener with it. -/
theorem has_iff (hdistributed : index.Distributed compiled functions owned)
    (hkeyed : index.Keyed compiled) (key : String) :
    index.entries.has key = true ↔ ∃ item ∈ owned, item.2.key = key := by
  rw [← Table.mem_keys_iff]
  have hkeys : index.entries.keys = owned.map (·.2.key) := by
    rw [hkeyed.keys_eq, hdistributed.listed, List.map_map]
    rfl
  rw [hkeys, List.mem_map]

/-- The tags whose keys are taken are those that functions so far own a listener for. -/
theorem taken (hdistributed : index.Distributed compiled functions owned)
    (hkeyed : index.Keyed compiled) {tag : ListenerTag}
    (htag : index.entries.has tag.key = true) :
    ∃ earlier ∈ owned, earlier.1 < functions.length ∧ earlier.2.key = tag.key := by
  obtain ⟨earlier, hearlier, hkey⟩ := (hdistributed.has_iff hkeyed tag.key).mp htag
  exact ⟨earlier, hearlier, hdistributed.place_lt hearlier, hkey⟩

/-- A further function without a free tag owns nothing. -/
theorem pass (hdistributed : index.Distributed compiled functions owned)
    (hkeyed : index.Keyed compiled) {function : Script.Function}
    (hnone : ∀ tag ∈ tagsOf function, index.entries.has tag.key = true) :
    index.Distributed compiled (functions ++ [function]) owned where
  listed := hdistributed.listed
  ordered := hdistributed.ordered
  declared := by
    intro item hitem
    obtain ⟨owner, howner, hdeclared⟩ := hdistributed.declared item hitem
    refine ⟨owner, ?_, hdeclared⟩
    rwa [List.getElem?_append_left (hdistributed.place_lt hitem)]
  complete := by
    intro place other hother
    rw [List.getElem?_append] at hother
    split at hother
    · exact hdistributed.complete place other hother
    · rename_i hplace
      obtain ⟨hlast, hsame⟩ := List.getElem?_eq_some_iff.mp hother
      simp only [List.length_singleton] at hlast
      have hlength : place = functions.length := by omega
      simp only [List.getElem_singleton] at hsame
      subst hsame hlength
      exact .inr fun tag htag => hdistributed.taken hkeyed (hnone tag htag)

/-- A further function owns the listener of its first free tag. -/
theorem own (hdistributed : index.Distributed compiled functions owned)
    (hkeyed : index.Keyed compiled) {function : Script.Function} {tag : ListenerTag}
    {passed left : List ListenerTag} (htags : tagsOf function = passed ++ tag :: left)
    (hpassed : ∀ other ∈ passed, index.entries.has other.key = true)
    (hfree : index.entries.has tag.key = false) :
    Distributed ⟨index.entries.set tag.key (tag.entry (reference compiled function))⟩ compiled
      (functions ++ [function])
      (owned ++ [(functions.length, tag.entry (reference compiled function))]) where
  listed := by
    have hnew : index.entries.get? tag.key = none := by simpa [Table.has] using hfree
    rw [List.map_append, ← hdistributed.listed]
    unfold list
    rw [Table.set_of_new index.entries hnew, List.map_append]
    rfl
  ordered := by
    rw [List.map_append, List.pairwise_append]
    refine ⟨hdistributed.ordered, List.pairwise_singleton _ _, ?_⟩
    simp only [List.mem_map, List.map_cons, List.map_nil, List.mem_singleton]
    rintro _ ⟨item, hitem, rfl⟩ _ rfl
    exact hdistributed.place_lt hitem
  declared := by
    intro item hitem
    rw [List.mem_append, List.mem_singleton] at hitem
    rcases hitem with hold | rfl
    · obtain ⟨owner, howner, hentry, before, after, hbefore, htaken⟩ :=
        hdistributed.declared item hold
      refine ⟨owner, ?_, hentry, before, after, hbefore, fun other hother => ?_⟩
      · rwa [List.getElem?_append_left (hdistributed.place_lt hold)]
      · obtain ⟨earlier, hearlier, hless⟩ := htaken other hother
        exact ⟨earlier, List.mem_append_left _ hearlier, hless⟩
    · refine ⟨function, List.getElem?_concat_length, rfl, passed, left, htags, fun other hother => ?_⟩
      obtain ⟨earlier, hearlier, hless⟩ := hdistributed.taken hkeyed (hpassed other hother)
      exact ⟨earlier, List.mem_append_left _ hearlier, hless⟩
  complete := by
    intro place other hother
    rw [List.getElem?_append] at hother
    split at hother
    · rcases hdistributed.complete place other hother with ⟨item, hitem, hplace⟩ | htaken
      · exact .inl ⟨item, List.mem_append_left _ hitem, hplace⟩
      · refine .inr fun next hnext => ?_
        obtain ⟨earlier, hearlier, hless⟩ := htaken next hnext
        exact ⟨earlier, List.mem_append_left _ hearlier, hless⟩
    · obtain ⟨hlast, -⟩ := List.getElem?_eq_some_iff.mp hother
      simp only [List.length_singleton] at hlast
      exact .inl ⟨_, List.mem_append_right _ (List.mem_singleton_self _), by dsimp only; omega⟩

/-- Taking in a further function keeps the listeners distributed. -/
theorem addFunction {state : ListenerIndex × List String}
    (hdistributed : state.1.Distributed compiled functions owned)
    (hkeyed : state.1.Keyed compiled) (function : Script.Function) :
    ∃ owned', (ListenerIndex.addFunction compiled state function).1.Distributed compiled
      (functions ++ [function]) owned' := by
  rw [addFunction_index]
  cases hfind : (tagsOf function).find? fun tag => !state.1.entries.has tag.key with
  | none =>
      rw [List.find?_eq_none] at hfind
      exact ⟨owned, hdistributed.pass hkeyed fun tag htag => by simpa using hfind tag htag⟩
  | some tag =>
      obtain ⟨hfree, passed, left, htags, hpassed⟩ := List.find?_eq_some_iff_append.mp hfind
      exact ⟨_, hdistributed.own hkeyed htags (fun other hother => by simpa using hpassed other hother)
        (by simpa using hfree)⟩

end Distributed

/-- The index of the first functions of a compiled script is distributed over them. -/
theorem foldl_distributed (compiled : Compiled) (functions : List Script.Function) :
    (functions.foldl (addFunction compiled) (⟨[]⟩, [])).1.Keyed compiled ∧
      ∃ owned, (functions.foldl (addFunction compiled) (⟨[]⟩, [])).1.Distributed compiled
        functions owned := by
  induction functions using List.reverseRecOn with
  | nil =>
      refine ⟨⟨List.nodup_nil, by simp, by simp, by simp⟩, [], rfl, List.Pairwise.nil, by simp, ?_⟩
      intro place function hfunction
      cases hfunction
  | append_singleton functions function ih =>
      obtain ⟨hkeyed, owned, hdistributed⟩ := ih
      rw [List.foldl_append, List.foldl_cons, List.foldl_nil]
      exact ⟨hkeyed.addFunction function, hdistributed.addFunction hkeyed function⟩

/-! ### A map and the order of its keys -/

/-- A map of listeners and, beside it, the list of its keys. -/
structure Register where
  stored : String → Option ListenerEntry
  order : List String

namespace Register

/-- Enters a listener in the map, and its key at the end of the list. -/
def enter (register : Register) (entry : ListenerEntry) : Register :=
  ⟨fun key => if entry.key = key then some entry else register.stored key,
    register.order ++ [entry.key]⟩

/-- Goes through the comment lines of a function up to the first one that is entered. -/
def scan (register : Register) (function : FunctionRef) : List String → Register
  | [] => register
  | line :: rest =>
    match ListenerTag.parse line with
    | .error _ => register.scan function rest
    | .ok none => register.scan function rest
    | .ok (some tag) =>
      if (register.stored tag.key).isSome then register.scan function rest
      else register.enter (tag.entry function)

/-- The register of the public functions among these. -/
def ofFunctions (compiled : Compiled) (functions : List Script.Function) : Register :=
  (functions.filter (·.isPublic)).foldl
    (fun register function => register.scan (reference compiled function) (commentLines function))
    ⟨fun _ => none, []⟩

/-- Going through the lines enters the first tag whose key is not stored. -/
theorem scan_eq_find? (register : Register) (function : FunctionRef) (lines : List String) :
    register.scan function lines =
      match (ListenerTag.among lines).find? fun tag => !(register.stored tag.key).isSome with
      | some tag => register.enter (tag.entry function)
      | none => register := by
  induction lines with
  | nil => rfl
  | cons line rest ih =>
      rw [ListenerTag.among_cons]
      unfold scan
      cases hparse : ListenerTag.parse line with
      | error err => exact ih
      | ok found =>
          cases found with
          | none => exact ih
          | some tag =>
              by_cases hstored : (register.stored tag.key).isSome = true
              · rw [List.find?_cons_of_neg (by simp [hstored]), ← ih]
                exact if_pos hstored
              · rw [List.find?_cons_of_pos (by simp [hstored])]
                exact if_neg hstored

/-- A register holds what an index holds. -/
structure Agrees (register : Register) (index : ListenerIndex) : Prop where
  stored : ∀ key, register.stored key = index.entries.get? key
  order : register.order = index.entries.keys

variable {register : Register}

/-- Entering a listener under a free key is entering it in the table. -/
theorem Agrees.enter {index : ListenerIndex} (hagrees : register.Agrees index)
    {entry : ListenerEntry} (hfree : index.entries.has entry.key = false) :
    (register.enter entry).Agrees ⟨index.entries.set entry.key entry⟩ where
  stored := by
    intro key
    rw [Table.get?_set, ← hagrees.stored]
    rfl
  order := by
    rw [Table.keys_set_of_new index.entries hfree, ← hagrees.order]
    rfl

theorem Agrees.has {index : ListenerIndex} (hagrees : register.Agrees index) (key : String) :
    (register.stored key).isSome = index.entries.has key := by
  rw [hagrees.stored]
  rfl

/-- Going through the lines of a function keeps in step with an index that takes its first free
tag. -/
theorem Agrees.scan {index : ListenerIndex} (hagrees : register.Agrees index)
    (function : FunctionRef) (lines : List String) :
    (register.scan function lines).Agrees
      (match (ListenerTag.among lines).find? fun tag => !index.entries.has tag.key with
        | some tag => ⟨index.entries.set tag.key (tag.entry function)⟩
        | none => index) := by
  rw [scan_eq_find?]
  simp only [hagrees.has]
  cases hfind : (ListenerTag.among lines).find? fun tag => !index.entries.has tag.key with
  | none => exact hagrees
  | some tag => exact hagrees.enter (by simpa using List.find?_some hfind)

/-- A register of public functions keeps in step with the index. -/
theorem ofFunctions_agrees (compiled : Compiled) (functions : List Script.Function) :
    (ofFunctions compiled functions).Agrees
      (functions.foldl (addFunction compiled) (⟨[]⟩, [])).1 := by
  induction functions using List.reverseRecOn with
  | nil => exact ⟨fun _ => rfl, rfl⟩
  | append_singleton functions function ih =>
      rw [List.foldl_append, List.foldl_cons, List.foldl_nil, addFunction_index]
      unfold ofFunctions at ih ⊢
      rw [List.filter_append, List.foldl_append]
      by_cases hpublic : function.isPublic = true
      · rw [List.filter_cons_of_pos hpublic, List.filter_nil, List.foldl_cons, List.foldl_nil,
          tagsOf, if_pos hpublic]
        exact ih.scan (reference compiled function) (commentLines function)
      · rw [List.filter_cons_of_neg hpublic, List.filter_nil, List.foldl_nil]
        simp only [tagsOf, hpublic, Bool.false_eq_true, if_false, List.find?_nil]
        exact ih

end Register

/-! ### The index of a compiled script -/

/-- Each listener of an index is stored under its own key, at the place of the key in the order. -/
theorem Keyed.list_eq {index : ListenerIndex} {compiled : Compiled}
    (hkeyed : index.Keyed compiled) :
    index.list = index.entries.keys.filterMap index.entries.get? := by
  unfold list Table.keys
  rw [List.filterMap_map, ← List.filterMap_eq_map]
  refine List.filterMap_congr fun item hitem => ?_
  exact ((Table.get?_eq_some_iff hkeyed.distinct _ _).mpr hitem).symm

/-- Two listeners of an index differ in their kind or in their type. -/
theorem Keyed.pairwise_ne {index : ListenerIndex} {compiled : Compiled}
    (hkeyed : index.Keyed compiled) :
    index.list.Pairwise fun first second =>
      (first.kind, first.genericType) ≠ (second.kind, second.genericType) := by
  have hkeys : (index.list.map ListenerEntry.key).Nodup := by
    rw [← hkeyed.keys_eq]
    exact hkeyed.distinct
  refine (List.pairwise_map.mp hkeys).imp fun {first second} hne hsame => hne ?_
  obtain ⟨hkind, htype⟩ := Prod.mk.inj hsame
  unfold ListenerEntry.key
  rw [hkind, htype]

/-- What `owned` says about the listeners of a compiled script: each item is a listener with the
place of the function that owns it. -/
structure Owners (index : ListenerIndex) (compiled : Compiled)
    (owned : List (Nat × ListenerEntry)) : Prop where
  /-- Every listener is owned, in the order of the index. -/
  listed : owned.map (·.2) = index.list
  /-- No function owns two listeners, and they stand in the order of their functions. -/
  ordered : (owned.map (·.1)).Pairwise (· < ·)
  /-- The owner is a public function, one of whose comment lines declares exactly the listener. -/
  declared : ∀ item ∈ owned, ∃ function, compiled.functions[item.1]? = some function ∧
    function.isPublic = true ∧ item.2.function = ⟨compiled, function.name, function.arity⟩ ∧
    ∃ line ∈ commentLines function, ListenerTag.parse line =
      .ok (some ⟨item.2.kind, item.2.genericType, item.2.metadata⟩)
  /-- A public function without a listener has found each of its keys owned by a function before
  it. -/
  complete : ∀ (place : Nat) (function : Script.Function),
    compiled.functions[place]? = some function → function.isPublic = true →
      (∃ item ∈ owned, item.1 = place) ∨
        ∀ line ∈ commentLines function, ∀ tag, ListenerTag.parse line = .ok (some tag) →
          ∃ earlier ∈ owned, earlier.1 < place ∧
            earlier.2.key = listenerKey tag.kind.name tag.genericType

theorem Distributed.owners {index : ListenerIndex} {compiled : Compiled}
    {owned : List (Nat × ListenerEntry)}
    (hdistributed : index.Distributed compiled compiled.functions owned) :
    index.Owners compiled owned where
  listed := hdistributed.listed.symm
  ordered := hdistributed.ordered
  declared := by
    intro item hitem
    obtain ⟨function, hfunction, hentry, passed, left, htags, -⟩ :=
      hdistributed.declared item hitem
    have hmem : item.2.tag ∈ tagsOf function := by
      rw [htags]
      exact List.mem_append_right _ List.mem_cons_self
    unfold tagsOf at hmem
    split at hmem
    · rename_i hpublic
      exact ⟨function, hfunction, hpublic, congrArg ListenerEntry.function hentry,
        ListenerTag.mem_among_iff.mp hmem⟩
    · cases hmem
  complete := by
    intro place function hfunction hpublic
    refine (hdistributed.complete place function hfunction).imp_right fun htaken => ?_
    intro line hline tag hparse
    apply htaken
    rw [tagsOf, if_pos hpublic]
    exact ListenerTag.mem_among_iff.mpr ⟨line, hline, hparse⟩

/-- The index of a compiled script. It is what a map and the list of its keys come to when they are
filled side by side: the list has no key twice and lists exactly the stored keys. Its listeners
differ in kind or type, exactly the generic ones have a type, which is not empty, and each belongs
to one public function that declares it, where the functions take their keys in turn. -/
theorem build_indexed (compiled : Compiled) :
    let index := (build compiled).1
    let register := Register.ofFunctions compiled compiled.functions
    (register.order.Nodup ∧
      (∀ key, key ∈ register.order ↔ (register.stored key).isSome = true) ∧
      index.list = register.order.filterMap register.stored ∧
      ∀ name genericType,
        index.find? name genericType = register.stored (listenerKey name genericType)) ∧
    (index.list.Pairwise fun first second =>
      (first.kind, first.genericType) ≠ (second.kind, second.genericType)) ∧
    (∀ entry ∈ index.list, (entry.genericType.isSome = true ↔ entry.kind = .generic) ∧
      ∀ eventType, entry.genericType = some eventType → eventType ≠ "") ∧
    ∃ owned, index.Owners compiled owned := by
  have hkeyed := build_keyed compiled
  have hagrees := Register.ofFunctions_agrees compiled compiled.functions
  obtain ⟨-, owned, hdistributed⟩ := foldl_distributed compiled compiled.functions
  have howners := hdistributed.owners
  have hstored : (Register.ofFunctions compiled compiled.functions).stored =
      (build compiled).1.entries.get? := funext hagrees.stored
  refine ⟨⟨?_, fun key => ?_, ?_, fun name genericType => ?_⟩, hkeyed.pairwise_ne,
    fun entry hentry => ?_, owned, howners⟩
  · rw [hagrees.order]
    exact hkeyed.distinct
  · rw [hagrees.order, hagrees.has]
    exact Table.mem_keys_iff _ key
  · rw [hagrees.order, hstored]
    exact hkeyed.list_eq
  · rw [hstored]
    rfl
  · refine ⟨hkeyed.typed_of_mem hentry, ?_⟩
    change entry ∈ (build compiled).1.list at hentry
    rw [show (build compiled).1.list = owned.map (·.2) from howners.listed.symm] at hentry
    obtain ⟨item, hitem, rfl⟩ := List.mem_map.mp hentry
    obtain ⟨-, -, -, -, line, -, hparse⟩ := howners.declared item hitem
    exact (ListenerTag.readOff_of_parse hparse).nonempty

/-- A script whose second function finds its first tag taken and uses its second one. -/
def contested : Compiled :=
  ⟨1, "M-1", ⟨[⟨"a", [], true, ["/// @Listener=\"OnTick\""], []⟩,
    ⟨"b", [], true,
      ["/** @Listener=\"OnTick\"\n * @Listener\n * @Listener=\"OnInit\", late */"], []⟩,
    ⟨"c", [], false, ["/// @Listener=\"OnShow\""], []⟩,
    ⟨"d", [], true, ["/// @Listener=\"OnInit\""], []⟩], []⟩, ⟨[]⟩, .moduleDefault⟩

example : (build contested).1.list.map
      (fun entry => (entry.function.name, entry.key, entry.metadata)) =
    [("a", "OnTick", ""), ("b", "OnInit", "late")] := by
  decide +kernel

end ListenerIndex

end ScriptHost
