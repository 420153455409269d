import ScriptHost.Proofs.Granting

/-!
Access lists put together. An access list is cut at its plus signs, and it can be read exactly if
every part names a group; its mask then has the groups that the parts name, so neither the order of
the parts nor a repetition matters. If some part names no group, the leftmost such part decides the
error.
-/

namespace ScriptHost

/-- The pieces of a text are what the library's splitting gives. -/
theorem Text.pieces_eq_splitOn (separator : Char) (text : List Char) :
    pieces separator text = text.splitOn separator := by
  induction text with
  | nil => rfl
  | cons c rest ih =>
      have hsplit : (c :: rest).splitOn separator =
          if c = separator then [] :: pieces separator rest
          else (pieces separator rest).modifyHead (c :: ·) := by
        rw [ih, List.splitOn, List.splitOnP_cons_eq_if_modifyHead]
        simp only [beq_iff_eq]
        rfl
      rw [hsplit, pieces]
      split
      · rfl
      · cases hrest : pieces separator rest with
        | nil => exact absurd hrest (pieces_ne_nil separator rest)
        | cons first others => rfl

namespace AccessMask

/-! ### Groups and masks -/

/-- The groups by their names. -/
def groups : List (String × AccessMask) :=
  [("Nothing", nothing), ("Builtin", builtinOnly), ("DefaultEngine", engineOnly),
    ("FullFileSystem", filesOnly)]

theorem ofGroupName?_eq_some_iff {name : String} {mask : AccessMask} :
    ofGroupName? name = some mask ↔ (name, mask) ∈ groups := by
  unfold ofGroupName? groups
  by_cases hnothing : name = "Nothing"
  · simp [hnothing, eq_comm]
  · by_cases hbuiltin : name = "Builtin"
    · simp [hbuiltin, eq_comm]
    · by_cases hengine : name = "DefaultEngine"
      · simp [hengine, eq_comm]
      · by_cases hfiles : name = "FullFileSystem"
        · simp [hfiles, eq_comm]
        · simp [hnothing, hbuiltin, hengine, hfiles]

/-- Whether a name is that of a group. -/
def IsGroup (name : String) : Prop :=
  ∃ mask, (name, mask) ∈ groups

/-- The mask of a group, by its name. -/
def maskOf (name : String) : AccessMask :=
  (ofGroupName? name).getD nothing

theorem isGroup_maskOf_iff {name : String} {mask : AccessMask} :
    (name, mask) ∈ groups ↔ IsGroup name ∧ mask = maskOf name := by
  constructor
  · intro hgroup
    refine ⟨⟨mask, hgroup⟩, ?_⟩
    simp [maskOf, ofGroupName?_eq_some_iff.mpr hgroup]
  · rintro ⟨⟨found, hfound⟩, rfl⟩
    simpa [maskOf, ofGroupName?_eq_some_iff.mpr hfound] using hfound

theorem nothing_union (mask : AccessMask) : nothing.union mask = mask := by
  simp [union, nothing]

theorem union_assoc (first second third : AccessMask) :
    (first.union second).union third = first.union (second.union third) := by
  simp [union, Bool.or_assoc]

/-- The groups of all the masks. -/
def unite (masks : List AccessMask) : AccessMask :=
  masks.foldr union nothing

theorem unite_append (masks others : List AccessMask) :
    unite (masks ++ others) = (unite masks).union (unite others) := by
  induction masks with
  | nil => exact (nothing_union _).symm
  | cons mask rest ih =>
      change mask.union (unite (rest ++ others)) = (mask.union (unite rest)).union (unite others)
      rw [ih, union_assoc]

/-- A group is in the union exactly if it is in one of the masks. -/
theorem unite_eq (masks : List AccessMask) :
    unite masks =
      ⟨masks.any builtin, masks.any defaultEngine, masks.any fullFileSystem⟩ := by
  induction masks with
  | nil => rfl
  | cons mask rest ih =>
      change mask.union (unite rest) = _
      rw [ih]
      rfl

/-- The union depends on which masks there are, not on their order or number. -/
theorem unite_congr {masks others : List AccessMask}
    (hsame : ∀ mask, mask ∈ masks ↔ mask ∈ others) : unite masks = unite others := by
  have hany (has : AccessMask → Bool) : masks.any has = others.any has := by
    rw [Bool.eq_iff_iff, List.any_eq_true, List.any_eq_true]
    simp only [hsame]
  rw [unite_eq, unite_eq, hany, hany, hany]

/-! ### Lists cut at their plus signs -/

/-- Whether a text is an access list of the given parts, with a plus sign between any two. -/
structure Cut (text : String) (parts : List String) : Prop where
  some_part : parts ≠ []
  no_plus : ∀ part ∈ parts, '+' ∉ part.toList
  joined : String.intercalate "+" parts = text

theorem Cut.pieces {text : String} {parts : List String} (hcut : Cut text parts) :
    Text.pieces '+' text.toList = parts.map String.toList := by
  rw [Text.pieces_eq_splitOn, ← hcut.joined, String.toList_intercalate]
  apply List.splitOn_intercalate
  · intro piece hpiece
    obtain ⟨part, hpart, rfl⟩ := List.mem_map.mp hpiece
    exact hcut.no_plus part hpart
  · simpa using hcut.some_part

theorem exists_cut (text : String) : ∃ parts, Cut text parts := by
  have hback : ((Text.pieces '+' text.toList).map String.ofList).map String.toList =
      Text.pieces '+' text.toList := by
    simp [Function.comp_def]
  refine ⟨(Text.pieces '+' text.toList).map String.ofList, ?_, ?_, ?_⟩
  · simpa using Text.pieces_ne_nil '+' text.toList
  · intro part hpart
    obtain ⟨piece, hpiece, rfl⟩ := List.mem_map.mp hpart
    simpa using Text.not_mem_of_mem_pieces hpiece
  · rw [← String.toList_inj, String.toList_intercalate, hback, Text.pieces_eq_splitOn]
    exact List.intercalate_splitOn '+'

theorem Cut.append {text other : String} {parts others : List String} (hcut : Cut text parts)
    (hother : Cut other others) : Cut (text ++ "+" ++ other) (parts ++ others) := by
  refine ⟨by simp [hcut.some_part], ?_, ?_⟩
  · intro part hpart
    rcases List.mem_append.mp hpart with hfirst | hsecond
    · exact hcut.no_plus part hfirst
    · exact hother.no_plus part hsecond
  · rw [String.intercalate_append_of_ne_nil hcut.some_part hother.some_part, hcut.joined,
      hother.joined]

theorem cut_single {text : String} (hplain : '+' ∉ text.toList) : Cut text [text] :=
  ⟨by simp, by simpa using hplain, by simp⟩

/-! ### Reading the parts -/

/-- What is wrong with a part of the access list `input` that names no group. -/
inductive Faulty (input part : String) : ParseError → Prop
  | blank (hblank : Text.Blank part) : Faulty input part (.emptyPart input)
  | unknown (hfirm : ¬ Text.Blank part) (hname : ¬ IsGroup (Text.trimString part)) :
      Faulty input part (.unknown (Text.trimString part) input)

variable {input part : String} {parts : List String} {err : ParseError}

/-- A part that names a group gives the mask of that name. -/
theorem parseParts_of_isGroup (hgroup : IsGroup (Text.trimString part)) (rest : List (List Char)) :
    parseParts input (part.toList :: rest) =
      (parseParts input rest).map (maskOf (Text.trimString part)).union := by
  obtain ⟨mask, hmask⟩ := hgroup
  have hname := ofGroupName?_eq_some_iff.mpr hmask
  rw [maskOf, hname]
  exact parseParts_cons hname input rest

/-- A part that names no group ends the reading. -/
theorem Faulty.parseParts (hfaulty : Faulty input part err) (rest : List (List Char)) :
    parseParts input (part.toList :: rest) = .error err := by
  have hname : String.ofList (Text.trim part.toList) = Text.trimString part := rfl
  rw [AccessMask.parseParts, hname]
  cases hfaulty with
  | blank hblank => rw [if_pos (Text.trimString_eq_empty_iff.mpr hblank)]
  | unknown hfirm hunknown =>
      have hnone : ofGroupName? (Text.trimString part) = none := by
        rw [Option.eq_none_iff_forall_ne_some]
        exact fun mask hmask => hunknown ⟨mask, ofGroupName?_eq_some_iff.mp hmask⟩
      rw [if_neg (mt Text.trimString_eq_empty_iff.mp hfirm), hnone]

theorem exists_faulty (input : String) (hgroup : ¬ IsGroup (Text.trimString part)) :
    ∃ err, Faulty input part err := by
  by_cases hblank : Text.Blank part
  · exact ⟨_, .blank hblank⟩
  · exact ⟨_, .unknown hblank hgroup⟩

/-- Every part names a group, or there is a leftmost one that names none. -/
theorem groups_or_faulty (input : String) (parts : List String) :
    (∀ part ∈ parts, IsGroup (Text.trimString part)) ∨
      ∃ front part rest err, parts = front ++ part :: rest ∧
        (∀ good ∈ front, IsGroup (Text.trimString good)) ∧ Faulty input part err := by
  induction parts with
  | nil => exact .inl (by simp)
  | cons part rest ih =>
      by_cases hgroup : IsGroup (Text.trimString part)
      · rcases ih with hall | ⟨front, bad, behind, err, rfl, hfront, hfaulty⟩
        · exact .inl (List.forall_mem_cons.mpr ⟨hgroup, hall⟩)
        · exact .inr ⟨part :: front, bad, behind, err, rfl,
            List.forall_mem_cons.mpr ⟨hgroup, hfront⟩, hfaulty⟩
      · obtain ⟨err, hfaulty⟩ := exists_faulty input hgroup
        exact .inr ⟨[], part, rest, err, rfl, by simp, hfaulty⟩

theorem parseParts_of_groups (hparts : ∀ part ∈ parts, IsGroup (Text.trimString part)) :
    parseParts input (parts.map String.toList) =
      .ok (unite ((parts.map Text.trimString).map maskOf)) := by
  induction parts with
  | nil => rfl
  | cons part rest ih =>
      obtain ⟨hpart, hrest⟩ := List.forall_mem_cons.mp hparts
      rw [List.map_cons, parseParts_of_isGroup hpart, ih hrest]
      rfl

theorem parseParts_of_faulty {front : List String}
    (hfront : ∀ good ∈ front, IsGroup (Text.trimString good)) (hfaulty : Faulty input part err)
    (rest : List String) :
    parseParts input ((front ++ part :: rest).map String.toList) = .error err := by
  induction front with
  | nil => exact hfaulty.parseParts _
  | cons good front ih =>
      obtain ⟨hgood, hothers⟩ := List.forall_mem_cons.mp hfront
      rw [List.cons_append, List.map_cons, parseParts_of_isGroup hgood, ih hothers]
      rfl

/-- An access list can be read exactly if its parts name groups, whose masks are united. -/
theorem parse_eq_ok_iff (hcut : Cut input parts) {mask : AccessMask} :
    parse input = .ok mask ↔
      (∀ name ∈ parts.map Text.trimString, IsGroup name) ∧
        mask = unite ((parts.map Text.trimString).map maskOf) := by
  rw [parse, hcut.pieces, List.forall_mem_map]
  constructor
  · intro hread
    rcases groups_or_faulty input parts with hall | ⟨front, bad, rest, err, rfl, hfront, hfaulty⟩
    · rw [parseParts_of_groups hall] at hread
      exact ⟨hall, (Except.ok.inj hread).symm⟩
    · rw [parseParts_of_faulty hfront hfaulty] at hread
      cases hread
  · rintro ⟨hall, rfl⟩
    exact parseParts_of_groups hall

/-- The reading of an access list fails at the leftmost part that names no group. -/
theorem parse_eq_error_iff :
    parse input = .error err ↔
      ∃ front part rest, Cut input (front ++ part :: rest) ∧
        (∀ good ∈ front, IsGroup (Text.trimString good)) ∧ Faulty input part err := by
  constructor
  · intro hread
    obtain ⟨parts, hcut⟩ := exists_cut input
    rw [parse, hcut.pieces] at hread
    rcases groups_or_faulty input parts with hall | ⟨front, bad, rest, found, rfl, hfront, hfaulty⟩
    · rw [parseParts_of_groups hall] at hread
      cases hread
    · rw [parseParts_of_faulty hfront hfaulty] at hread
      cases hread
      exact ⟨front, bad, rest, hcut, hfront, hfaulty⟩
  · rintro ⟨front, bad, rest, hcut, hfront, hfaulty⟩
    rw [parse, hcut.pieces]
    exact parseParts_of_faulty hfront hfaulty rest

/-- How access lists are read, whatever the texts. Two lists with a plus sign between them can be
read exactly if both can, and give the groups of both; lists that name the same groups give the same
mask, in whatever order and however often they name them; a text without a plus sign can be read
exactly if it is the name of a group with blanks around it; and if a list cannot be read, the error
is about the leftmost part that names no group, and carries the whole list. -/
theorem lists_unite (first second : String) :
    (∀ mask, parse (first ++ "+" ++ second) = .ok mask ↔
      ∃ mine yours, parse first = .ok mine ∧ parse second = .ok yours ∧
        mask = mine.union yours) ∧
    (∀ parts others, Cut first parts → Cut second others →
      (∀ name, name ∈ parts.map Text.trimString ↔ name ∈ others.map Text.trimString) →
      ∀ mask, parse first = .ok mask ↔ parse second = .ok mask) ∧
    ('+' ∉ first.toList → ∀ mask,
      parse first = .ok mask ↔ (Text.trimString first, mask) ∈ groups) ∧
    ∀ err, parse first = .error err ↔
      ∃ front part rest, Cut first (front ++ part :: rest) ∧
        (∀ good ∈ front, IsGroup (Text.trimString good)) ∧ Faulty first part err := by
  refine ⟨?union, ?same, ?single, fun err => parse_eq_error_iff⟩
  case union =>
    intro mask
    obtain ⟨parts, hcut⟩ := exists_cut first
    obtain ⟨others, hother⟩ := exists_cut second
    simp only [parse_eq_ok_iff (hcut.append hother), parse_eq_ok_iff hcut, parse_eq_ok_iff hother,
      List.map_append, List.forall_mem_append, unite_append]
    constructor
    · rintro ⟨⟨hparts, hothers⟩, hmask⟩
      exact ⟨_, _, ⟨hparts, rfl⟩, ⟨hothers, rfl⟩, hmask⟩
    · rintro ⟨_, _, ⟨hparts, rfl⟩, ⟨hothers, rfl⟩, hmask⟩
      exact ⟨⟨hparts, hothers⟩, hmask⟩
  case same =>
    intro parts others hcut hother hsame mask
    have hmasks : unite ((parts.map Text.trimString).map maskOf) =
        unite ((others.map Text.trimString).map maskOf) := by
      apply unite_congr
      intro found
      rw [List.mem_map, List.mem_map]
      simp only [hsame]
    rw [parse_eq_ok_iff hcut, parse_eq_ok_iff hother, hmasks]
    simp only [hsame]
  case single =>
    intro hplain mask
    have hunion : unite [maskOf (Text.trimString first)] = maskOf (Text.trimString first) :=
      union_nothing _
    rw [parse_eq_ok_iff (cut_single hplain), isGroup_maskOf_iff]
    simp [hunion]

theorem lists_unite_mixed :
    '+' ∉ " Builtin".toList ∧ parse " Builtin" = .ok builtinOnly ∧
      parse (" Builtin" ++ "+" ++ "FullFileSystem") = .ok ⟨true, false, true⟩ ∧
      Cut "FullFileSystem+Builtin+FullFileSystem" ["FullFileSystem", "Builtin", "FullFileSystem"] ∧
      parse "FullFileSystem+Builtin+FullFileSystem" = .ok ⟨true, false, true⟩ ∧
      parse "Nothing+ +Other" = .error (.emptyPart "Nothing+ +Other") := by
  have hnames : ∀ name, name ∈ [" Builtin", "FullFileSystem"].map Text.trimString ↔
      name ∈ ["FullFileSystem", "Builtin", "FullFileSystem"].map Text.trimString := by
    have hmine : [" Builtin", "FullFileSystem"].map Text.trimString =
        ["Builtin", "FullFileSystem"] := by decide
    have hyours : ["FullFileSystem", "Builtin", "FullFileSystem"].map Text.trimString =
        ["FullFileSystem", "Builtin", "FullFileSystem"] := by decide
    intro name
    rw [hmine, hyours]
    simp only [List.mem_cons, List.not_mem_nil, or_false]
    tauto
  have hplain : '+' ∉ " Builtin".toList := by decide
  have hfirst : parse " Builtin" = .ok builtinOnly :=
    ((lists_unite " Builtin" "").2.2.1 hplain _).mpr (by decide)
  have hsecond : parse "FullFileSystem" = .ok filesOnly :=
    ((lists_unite "FullFileSystem" "").2.2.1 (by decide) _).mpr (by decide)
  have hjoined : parse (" Builtin" ++ "+" ++ "FullFileSystem") = .ok ⟨true, false, true⟩ :=
    ((lists_unite " Builtin" "FullFileSystem").1 _).mpr ⟨_, _, hfirst, hsecond, rfl⟩
  have hcut : Cut (" Builtin" ++ "+" ++ "FullFileSystem") [" Builtin", "FullFileSystem"] :=
    (cut_single hplain).append (cut_single (by decide))
  have hother : Cut "FullFileSystem+Builtin+FullFileSystem"
      ["FullFileSystem", "Builtin", "FullFileSystem"] := ⟨by simp, by decide, by decide⟩
  refine ⟨hplain, hfirst, hjoined, hother, ?_, ?_⟩
  · exact ((lists_unite _ _).2.1 _ _ hcut hother hnames _).mp hjoined
  · apply ((lists_unite "Nothing+ +Other" "").2.2.2 _).mpr
    exact ⟨["Nothing"], " ", ["Other"], ⟨by simp, by decide, by decide⟩,
      by simpa using ⟨nothing, by decide⟩, .blank (by simp [Text.Blank, Text.isBlank])⟩

end AccessMask

end ScriptHost
