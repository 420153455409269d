import Mathlib.Data.List.Nodup
import ScriptHost.Native.TypeTable
import ScriptHost.Proofs.Table

/-!
The types that are entered into a type table. Entries are added at the end and never change, so
numbers are places and what a native type stands for stays what it was. A name stands for the type
that was entered under it last: a type keeps its name as long as no other one is entered under it,
and a primitive type can lose its own. Numbers that are kept in two further tables, by native type
and by name, say the same.
-/

namespace ScriptHost

namespace TypeTable

/-- A request to enter an object type under a name. -/
structure Request where
  type : ObjectType
  name : String
  supportsWeak : Bool

/-- The table after a number of requests. -/
def after (table : TypeTable) (requests : List Request) : TypeTable :=
  requests.foldl (fun table request =>
    (table.register request.type request.name request.supportsWeak).1) table

variable {table : TypeTable}

/-- A request leaves the table as it is and finds the type, or adds the type at the end. -/
theorem register_cases (table : TypeTable) (type : ObjectType) (name : String)
    (supportsWeak : Bool) :
    (∃ entry, table.lookupObject? type = some entry ∧
      table.register type name supportsWeak = (table, entry.id)) ∨
    (table.lookupObject? type = none ∧
      table.register type name supportsWeak =
        (⟨table.entries ++ [⟨table.size, name, .object type supportsWeak⟩]⟩, table.size)) := by
  unfold register
  cases hlookup : table.lookupObject? type with
  | some entry => exact .inl ⟨entry, rfl, rfl⟩
  | none => exact .inr ⟨rfl, rfl⟩

/-- Requests only add entries at the end. -/
theorem after_entries (table : TypeTable) (requests : List Request) :
    ∃ more, (table.after requests).entries = table.entries ++ more := by
  induction requests generalizing table with
  | nil => exact ⟨[], (List.append_nil _).symm⟩
  | cons request rest ih =>
      obtain ⟨more, hmore⟩ :=
        ih (table.register request.type request.name request.supportsWeak).1
      rcases table.register_cases request.type request.name request.supportsWeak with
        ⟨entry, -, hsame⟩ | ⟨-, hadded⟩
      · rw [hsame] at hmore
        exact ⟨more, by rw [← hmore, after, List.foldl_cons, hsame]; rfl⟩
      · rw [hadded] at hmore
        refine ⟨⟨table.size, request.name, .object request.type request.supportsWeak⟩ :: more, ?_⟩
        rw [after, List.foldl_cons, hadded]
        exact hmore.trans (List.append_assoc _ _ _)

/-- What a native type stands for is the first entry of its kind. -/
theorem exists_lookup?_eq (native : NativeType) :
    ∃ stands : TypeEntry → Bool, ∀ table : TypeTable,
      table.lookup? native = table.entries.find? stands := by
  cases native with
  | handle type => exact ⟨_, fun _ => rfl⟩
  | other name => exact ⟨fun _ => false, fun table => (List.find?_eq_none.mpr (by simp)).symm⟩
  | void | bool | float32 | float64 | char | string | sharedString | int type =>
      exact ⟨_, fun _ => rfl⟩

/-- Entries that are added do not change what a native type stands for. -/
theorem lookup?_of_append {native : NativeType} {entry : TypeEntry} {more : List TypeEntry}
    {larger : TypeTable} (hlarger : larger.entries = table.entries ++ more)
    (hlookup : table.lookup? native = some entry) : larger.lookup? native = some entry := by
  obtain ⟨stands, hstands⟩ := exists_lookup?_eq native
  rw [hstands] at hlookup ⊢
  rw [hlarger, List.find?_append, hlookup]
  rfl

/-- A new object type stands for its handles, and all else stands for what it did. -/
theorem lookup?_added (table : TypeTable) {type : ObjectType}
    (hnew : table.lookupObject? type = none) (name : String) (supportsWeak : Bool)
    (native : NativeType) :
    lookup? ⟨table.entries ++ [⟨table.size, name, .object type supportsWeak⟩]⟩ native =
      if native = .handle type then some ⟨table.size, name, .object type supportsWeak⟩
      else table.lookup? native := by
  cases native with
  | handle other =>
      rw [lookup?, lookupObject?, List.find?_append]
      by_cases hother : other = type
      · subst hother
        unfold lookupObject? at hnew
        rw [hnew, if_pos rfl]
        simp
      · have hsingle : NativeType.handle other ≠ .handle type :=
          fun hsame => hother (NativeType.handle.inj hsame)
        rw [if_neg hsingle, lookup?, lookupObject?]
        simp [Ne.symm hother]
  | void | bool | float32 | float64 | char | string | sharedString | int given | other given =>
      simp [lookup?, NativeType.primitive?, List.find?_append]

/-- A name stands for the last entry under it. -/
theorem resolve?_append (table : TypeTable) (added : TypeEntry) (name : String) :
    resolve? ⟨table.entries ++ [added]⟩ name =
      if added.name = name then some added else table.resolve? name := by
  unfold resolve?
  rw [List.reverse_append, List.reverse_singleton, List.singleton_append, List.find?_cons]
  by_cases hname : added.name = name
  · rw [if_pos hname, beq_iff_eq.mpr hname]
  · rw [if_neg hname, beq_eq_false_iff_ne.mpr hname]

/-! ### Numbers -/

/-- The number of an entry is its place. -/
def Numbered (table : TypeTable) : Prop :=
  ∀ (place : Nat) (entry : TypeEntry), table.entries[place]? = some entry → entry.id = place

theorem primitives_numbered : primitives.Numbered := by
  intro place entry hentry
  match place with
  | 0 | 1 | 2 | 3 | 4 | 5 =>
      cases hentry
      rfl
  | place + 6 => cases hentry

theorem Numbered.register (htable : table.Numbered) (type : ObjectType) (name : String)
    (supportsWeak : Bool) : (table.register type name supportsWeak).1.Numbered := by
  rcases table.register_cases type name supportsWeak with ⟨entry, -, hsame⟩ | ⟨-, hadded⟩
  · rw [hsame]
    exact htable
  · rw [hadded]
    intro place entry hentry
    rw [List.getElem?_append] at hentry
    split at hentry
    · exact htable place entry hentry
    · rename_i hbehind
      obtain ⟨hplace, hlast⟩ := List.getElem?_eq_some_iff.mp hentry
      rw [List.length_singleton] at hplace
      rw [← hlast, List.getElem_singleton]
      change table.entries.length = place
      omega

theorem Numbered.after (htable : table.Numbered) (requests : List Request) :
    (table.after requests).Numbered := by
  induction requests generalizing table with
  | nil => exact htable
  | cons request rest ih => exact ih (htable.register _ _ _)

theorem Numbered.info?_eq_some (htable : table.Numbered) {entry : TypeEntry}
    (hentry : entry ∈ table.entries) : table.info? entry.id = some entry := by
  obtain ⟨place, hplace⟩ := List.getElem?_of_mem hentry
  rw [htable place entry hplace]
  exact hplace

/-- A name stands for an entry under it, and no later entry is under it. -/
theorem Numbered.resolve?_greatest (htable : table.Numbered) {name : String} {entry : TypeEntry}
    (hresolve : table.resolve? name = some entry) :
    entry ∈ table.entries ∧ entry.name = name ∧
      ∀ other ∈ table.entries, other.name = name → other.id ≤ entry.id := by
  obtain ⟨hname, behind, before, hentries, hbehind⟩ := List.find?_eq_some_iff_append.mp hresolve
  have hsplit : table.entries = before.reverse ++ entry :: behind.reverse := by
    rw [← List.reverse_inj, hentries]
    simp
  have hplace : entry.id = before.length := htable before.length entry (by simp [hsplit])
  refine ⟨by simp [hsplit], by simpa using hname, fun other hother hsame => ?_⟩
  rw [hsplit, List.mem_append, List.mem_cons, List.mem_reverse, List.mem_reverse] at hother
  rcases hother with hearlier | rfl | hlater
  · obtain ⟨place, hlt, hget⟩ := List.getElem_of_mem (List.mem_reverse.mpr hearlier)
    have hid : other.id = place := by
      refine htable place other ?_
      rw [hsplit, List.getElem?_append_left hlt, List.getElem?_eq_getElem hlt, hget]
    rw [List.length_reverse] at hlt
    omega
  · exact Nat.le_refl _
  · have hne := hbehind other hlater
    simp [hsame] at hne

/-- A name stands for the entry under it that has the greatest number. -/
theorem Numbered.resolve?_eq_some_iff (htable : table.Numbered) (name : String)
    (entry : TypeEntry) :
    table.resolve? name = some entry ↔
      entry ∈ table.entries ∧ entry.name = name ∧
        ∀ other ∈ table.entries, other.name = name → other.id ≤ entry.id := by
  refine ⟨htable.resolve?_greatest, ?_⟩
  rintro ⟨hentry, hname, hgreatest⟩
  cases hresolve : table.resolve? name with
  | none =>
      have hnone := List.find?_eq_none.mp hresolve entry (List.mem_reverse.mpr hentry)
      simp [hname] at hnone
  | some last =>
      obtain ⟨hlast, hlastName, hlastGreatest⟩ := htable.resolve?_greatest hresolve
      have hid : last.id = entry.id :=
        Nat.le_antisymm (hgreatest last hlast hlastName) (hlastGreatest entry hentry hname)
      rw [← htable.info?_eq_some hlast, hid, htable.info?_eq_some hentry]

/-- Every entry keeps its name exactly if no name is given twice. -/
theorem Numbered.resolve?_self_iff (htable : table.Numbered) :
    (∀ entry ∈ table.entries, table.resolve? entry.name = some entry) ↔
      (table.entries.map TypeEntry.name).Nodup := by
  have hdistinct : table.entries.Nodup := by
    refine List.nodup_iff_getElem?_ne_getElem?.mpr fun first second hlt hsecond hsame => ?_
    have hget := List.getElem?_eq_getElem hsecond
    have hfirst := htable first _ (hsame.trans hget)
    have hlast := htable second _ hget
    omega
  rw [List.nodup_map_iff_inj_on hdistinct]
  constructor
  · intro hkept first hfirst second hsecond hname
    have hresolve := hkept first hfirst
    rw [hname, hkept second hsecond] at hresolve
    exact (Option.some.inj hresolve).symm
  · intro hinjective entry hentry
    refine (htable.resolve?_eq_some_iff _ _).mpr ⟨hentry, rfl, fun other hother hname => ?_⟩
    exact Nat.le_of_eq (congrArg TypeEntry.id (hinjective _ hother _ hentry hname))

end TypeTable

/-! ### Numbers in tables of their own -/

/-- The types with the numbers that native types and names stand for in tables of their own. -/
structure TypeDirectory where
  entries : List TypeEntry
  byNative : Table NativeType Nat
  byName : Table String Nat

namespace TypeDirectory

/-- Enters a type under the next number, for the native types that it stands for. -/
def push (directory : TypeDirectory) (name : String) (kind : ScriptTypeKind)
    (natives : List NativeType) : TypeDirectory where
  entries := directory.entries ++ [⟨directory.entries.length, name, kind⟩]
  byNative := natives.foldl (fun table native => table.set native directory.entries.length)
    directory.byNative
  byName := directory.byName.set name directory.entries.length

/-- The directory with the primitive types alone. -/
def primitives : TypeDirectory :=
  let integers := [.i8, .i16, .i32, .i64, .u8, .u16, .u32, .u64, .usize].map NativeType.int
  ((((((⟨[], [], []⟩ : TypeDirectory).push "void" (.primitive .void) [.void]).push
    "int" (.primitive .int) integers).push
    "float" (.primitive .float) [.float32, .float64]).push
    "bool" (.primitive .bool) [.bool]).push
    "char" (.primitive .char) [.char]).push
    "string" (.primitive .string) [.string, .sharedString]

/-- Takes a request for an object type, unless its handles have a number. -/
def register (directory : TypeDirectory) (request : TypeTable.Request) : TypeDirectory :=
  match directory.byNative.get? (.handle request.type) with
  | some _ => directory
  | none =>
    directory.push request.name (.object request.type request.supportsWeak)
      [.handle request.type]

/-- Whether a directory says the same as a type table. -/
structure Mirrors (directory : TypeDirectory) (table : TypeTable) : Prop where
  entries : directory.entries = table.entries
  native : ∀ native, directory.byNative.get? native = (table.lookup? native).map TypeEntry.id
  name : ∀ name, directory.byName.get? name = (table.resolve? name).map TypeEntry.id

/-- A type is entered into a directory as it is into a table, if it stands for the right native
types. -/
theorem Mirrors.push {directory : TypeDirectory} {table : TypeTable}
    (hmirrors : directory.Mirrors table) {name : String} {kind : ScriptTypeKind}
    {natives : List NativeType}
    (hnatives : ∀ native, TypeTable.lookup? ⟨table.entries ++ [⟨table.size, name, kind⟩]⟩ native =
      if native ∈ natives then some ⟨table.size, name, kind⟩ else table.lookup? native) :
    (directory.push name kind natives).Mirrors
      ⟨table.entries ++ [⟨table.size, name, kind⟩]⟩ := by
  have hsize : directory.entries.length = table.size := by
    rw [hmirrors.entries]
    rfl
  have hset : ∀ (numbers : Table NativeType Nat) (native : NativeType),
      (natives.foldl (fun table native => table.set native directory.entries.length)
        numbers).get? native =
      if native ∈ natives then some directory.entries.length else numbers.get? native := by
    clear hnatives
    induction natives with
    | nil => exact fun _ _ => rfl
    | cons first rest ih =>
        intro numbers native
        rw [List.foldl_cons, ih, Table.get?_set]
        by_cases hfirst : native = first
        · simp [hfirst]
        · simp [hfirst, Ne.symm hfirst]
  refine ⟨by rw [TypeDirectory.push, hsize, hmirrors.entries], fun native => ?_, fun other => ?_⟩
  · rw [TypeDirectory.push, hset, hnatives, hmirrors.native, hsize]
    split
    · rfl
    · rfl
  · rw [TypeDirectory.push, Table.get?_set, TypeTable.resolve?_append, hmirrors.name, hsize]
    split
    · rfl
    · rfl

theorem primitives_mirrors : primitives.Mirrors TypeTable.primitives := by
  have hnone : (⟨[], [], []⟩ : TypeDirectory).Mirrors ⟨[]⟩ := by
    refine ⟨rfl, fun native => ?_, fun _ => rfl⟩
    obtain ⟨stands, hstands⟩ := TypeTable.exists_lookup?_eq native
    rw [hstands]
    rfl
  refine (((((hnone.push ?_).push ?_).push ?_).push ?_).push ?_).push ?_
  all_goals
    intro native
    cases native with
    | int type => cases type <;> rfl
    | void | bool | float32 | float64 | char | string | sharedString | handle type | other name =>
        rfl

theorem Mirrors.register {directory : TypeDirectory} {table : TypeTable}
    (hmirrors : directory.Mirrors table) (request : TypeTable.Request) :
    (directory.register request).Mirrors
      (table.register request.type request.name request.supportsWeak).1 := by
  have hknown := hmirrors.native (.handle request.type)
  rw [TypeTable.lookup?] at hknown
  unfold TypeDirectory.register
  rcases table.register_cases request.type request.name request.supportsWeak with
    ⟨entry, hlookup, hsame⟩ | ⟨hlookup, hadded⟩
  · rw [hknown, hlookup, hsame]
    exact hmirrors
  · rw [hknown, hlookup, hadded]
    refine hmirrors.push fun native => ?_
    simp only [List.mem_singleton]
    exact table.lookup?_added hlookup request.name request.supportsWeak native

/-- The directory after a number of requests. -/
def after (directory : TypeDirectory) (requests : List TypeTable.Request) : TypeDirectory :=
  requests.foldl register directory

theorem Mirrors.after {directory : TypeDirectory} {table : TypeTable}
    (hmirrors : directory.Mirrors table) (requests : List TypeTable.Request) :
    (directory.after requests).Mirrors (table.after requests) := by
  induction requests generalizing directory table with
  | nil => exact hmirrors
  | cons request rest ih => exact ih (hmirrors.register request)

end TypeDirectory

namespace TypeTable

/-- What becomes of the types that are entered, whatever is requested. An entry's number is its
place; a type that is there is only found; a new one stands for its handles from then on, under the
next number; what a native type stands for never changes; and a name stands for the type that was
entered under it last, so that every type keeps its name exactly if none is given twice. Numbers in
tables of their own say the same. -/
theorem types_found (requests : List Request) :
    let table := primitives.after requests
    table.Numbered ∧
    (∀ type name supportsWeak entry, table.lookup? (.handle type) = some entry →
      table.register type name supportsWeak = (table, entry.id)) ∧
    (∀ type name supportsWeak, table.lookup? (.handle type) = none →
      (table.register type name supportsWeak).2 = table.size ∧
      (table.register type name supportsWeak).1.lookup? (.handle type) =
        some ⟨table.size, name, .object type supportsWeak⟩) ∧
    (∀ native entry more, table.lookup? native = some entry →
      (table.after more).lookup? native = some entry) ∧
    (∀ name entry, table.resolve? name = some entry ↔
      entry ∈ table.entries ∧ entry.name = name ∧
        ∀ other ∈ table.entries, other.name = name → other.id ≤ entry.id) ∧
    ((∀ entry ∈ table.entries, table.resolve? entry.name = some entry) ↔
      (table.entries.map TypeEntry.name).Nodup) ∧
    (TypeDirectory.primitives.after requests).Mirrors table := by
  intro table
  have hnumbered : table.Numbered := primitives_numbered.after requests
  refine ⟨hnumbered, ?_, ?_, ?_, hnumbered.resolve?_eq_some_iff, hnumbered.resolve?_self_iff,
    TypeDirectory.primitives_mirrors.after requests⟩
  · intro type name supportsWeak entry hlookup
    rcases table.register_cases type name supportsWeak with ⟨found, hfound, hsame⟩ | ⟨hnew, -⟩
    · cases hlookup.symm.trans hfound
      exact hsame
    · cases hlookup.symm.trans hnew
  · intro type name supportsWeak hlookup
    rcases table.register_cases type name supportsWeak with ⟨found, hfound, -⟩ | ⟨hnew, hadded⟩
    · cases hlookup.symm.trans hfound
    · rw [hadded]
      exact ⟨rfl, (table.lookup?_added hnew name supportsWeak _).trans (if_pos rfl)⟩
  · intro native entry more hlookup
    obtain ⟨added, hadded⟩ := table.after_entries more
    exact lookup?_of_append hadded hlookup

/-- Requests whose names and types collide with one another and with the primitive types. -/
def colliding : List Request :=
  [⟨.custom "A", "int", true⟩, ⟨.custom "B", "Box", false⟩, ⟨.custom "A", "Label", false⟩,
    ⟨.sprite, "Box", true⟩]

theorem types_found_colliding :
    let table := primitives.after colliding
    table.size = 9 ∧
      table.lookup? (.handle (.custom "A")) = some ⟨6, "int", .object (.custom "A") true⟩ ∧
      table.register (.custom "A") "Again" false = (table, 6) ∧
      (table.after colliding).lookup? (.int .u8) = some ⟨1, "int", .primitive .int⟩ ∧
      table.resolve? "Box" = some ⟨8, "Box", .object .sprite true⟩ ∧
      table.resolve? "Label" = none ∧
      ¬ ∀ entry ∈ table.entries, table.resolve? entry.name = some entry := by
  obtain ⟨-, hknown, -, hstable, hresolve, hself, -⟩ := types_found colliding
  have hfound : (primitives.after colliding).lookup? (.handle (.custom "A")) =
      some ⟨6, "int", .object (.custom "A") true⟩ := by decide
  refine ⟨by decide, hfound, hknown (.custom "A") "Again" false _ hfound,
    hstable (.int .u8) ⟨1, "int", .primitive .int⟩ colliding (by decide),
    (hresolve "Box" ⟨8, "Box", .object .sprite true⟩).mpr (by decide), by decide, ?_⟩
  rw [hself]
  decide

/-- An object type that is entered as "int" takes the name from the script integers, which still
stand for the integer types of the host. -/
theorem name_taken_over :
    let table := primitives.after [⟨.custom "A", "int", true⟩]
    ⟨1, "int", .primitive .int⟩ ∈ table.entries ∧
      (table.resolve? "int").map TypeEntry.id = some 6 ∧
      (table.lookup? (.int .i32)).map TypeEntry.id = some 1 := by
  decide

end TypeTable

end ScriptHost
