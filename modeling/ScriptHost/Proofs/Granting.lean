import ScriptHost.Access
import ScriptHost.Proofs.Trails
import ScriptHost.Proofs.Trimming

/-!
How masks are written. An access list names groups, with blanks around each name and a plus sign
between two of them; which groups it names decides its mask. Blanks at its ends make no difference,
and every mask has an access list.
-/

namespace ScriptHost

namespace AccessMask

/-- Whether a text is an access list of a mask. -/
inductive Lists : AccessMask → List Char → Prop
  | group {name : String} {mask : AccessMask} (before after : Text.Blanks)
      (hname : ofGroupName? name = some mask) :
      Lists mask (before.text ++ name.toList ++ after.text)
  | more {name : String} {mask others : AccessMask} {rest : List Char}
      (before after : Text.Blanks) (hname : ofGroupName? name = some mask)
      (hrest : Lists others rest) :
      Lists (mask.union others) (before.text ++ name.toList ++ after.text ++ '+' :: rest)

variable {name : String} {mask : AccessMask} {text : List Char}

/-- The name of a group has no plus sign, and no blank at its ends. -/
theorem groupName_firm (hname : ofGroupName? name = some mask) :
    name.toList ≠ [] ∧ '+' ∉ name.toList ∧ Text.StartsFirm name.toList ∧
      Text.EndsFirm name.toList := by
  unfold ofGroupName? at hname
  split at hname
  · rename_i hsame
    subst hsame
    exact ⟨by decide, by decide, rfl, rfl⟩
  · split at hname
    · rename_i hsame
      subst hsame
      exact ⟨by decide, by decide, rfl, rfl⟩
    · split at hname
      · rename_i hsame
        subst hsame
        exact ⟨by decide, by decide, rfl, rfl⟩
      · split at hname
        · rename_i hsame
          subst hsame
          exact ⟨by decide, by decide, rfl, rfl⟩
        · cases hname

theorem plus_not_mem_blanks (blanks : Text.Blanks) : '+' ∉ blanks.text := by
  intro hplus
  cases blanks.blank '+' hplus

theorem union_nothing (mask : AccessMask) : mask.union nothing = mask := by
  simp [union, nothing]

/-- A part that names a group gives its mask. -/
theorem parseParts_cons {part : List Char}
    (hname : ofGroupName? (String.ofList (Text.trim part)) = some mask) (input : String)
    (rest : List (List Char)) :
    parseParts input (part :: rest) = (parseParts input rest).map mask.union := by
  have hne : String.ofList (Text.trim part) ≠ "" := by
    intro hempty
    exact (groupName_firm hname).1 (by rw [hempty]; rfl)
  rw [parseParts, if_neg hne, hname]
  cases parseParts input rest with
  | error err => rfl
  | ok others => rfl

/-- The name of a group gives its mask, with any blanks around it. -/
theorem parseParts_group (hname : ofGroupName? name = some mask) (before after : Text.Blanks)
    (input : String) (rest : List (List Char)) :
    parseParts input ((before.text ++ name.toList ++ after.text) :: rest) =
      (parseParts input rest).map mask.union := by
  obtain ⟨-, -, hstart, hend⟩ := groupName_firm hname
  refine parseParts_cons ?_ input rest
  rw [Text.trim_around hstart hend, String.ofList_toList, hname]

/-- An access list is read as its mask. -/
theorem Lists.parseParts (hlists : Lists mask text) (input : String) :
    parseParts input (Text.pieces '+' text) = .ok mask := by
  have hpart : ∀ {name : String} {mask : AccessMask} (before after : Text.Blanks),
      ofGroupName? name = some mask → Text.pieces '+' (before.text ++ name.toList ++ after.text) =
        [before.text ++ name.toList ++ after.text] := by
    intro name mask before after hname
    refine Text.pieces_of_not_mem ?_
    simp only [List.mem_append, not_or]
    exact ⟨⟨plus_not_mem_blanks before, (groupName_firm hname).2.1⟩, plus_not_mem_blanks after⟩
  induction hlists with
  | group before after hname =>
      rw [hpart before after hname, parseParts_group hname, AccessMask.parseParts, Except.map,
        union_nothing]
  | more before after hname _ ih =>
      rw [Text.pieces_append, hpart before after hname, List.singleton_append,
        parseParts_group hname, ih, Except.map]

/-- Blanks at the ends of an access list make no difference. -/
theorem Lists.trim (hlists : Lists mask text) : Lists mask (Text.trim text) := by
  have hstart : ∀ {mask text}, Lists mask text → Lists mask (Text.trimStart text) := by
    intro mask text hlists
    cases hlists with
    | group before after hname =>
        obtain ⟨hsome, -, hfirm, -⟩ := groupName_firm hname
        rw [List.append_assoc, Text.trimStart_blanks_append, hfirm.append hsome]
        exact .group default after hname
    | more before after hname hrest =>
        obtain ⟨hsome, -, hfirm, -⟩ := groupName_firm hname
        rw [List.append_assoc, List.append_assoc, Text.trimStart_blanks_append, hfirm.append hsome,
          ← List.append_assoc]
        exact .more default after hname hrest
  have hend : ∀ {mask text}, Lists mask text → Lists mask (Text.trimEnd text) := by
    intro mask text hlists
    induction hlists with
    | @group name _ before after hname =>
        obtain ⟨hsome, -, -, hfirm⟩ := groupName_firm hname
        rw [Text.trimEnd_append_blanks, hfirm.append hsome]
        simpa using Lists.group before default hname
    | @more name _ _ rest before after hname _ ih =>
        have hplus : Text.EndsFirm (before.text ++ name.toList ++ after.text ++ ['+']) :=
          (show Text.EndsFirm ['+'] from rfl).append (by decide) _
        rw [List.append_cons, Text.trimEnd_append hplus, ← List.append_cons]
        exact .more before after hname ih
  exact hend (hstart hlists)

theorem Lists.ne_nil (hlists : Lists mask text) : text ≠ [] := by
  cases hlists with
  | group before after hname => simp [(groupName_firm hname).1]
  | more before after hname hrest => simp

/-- The text of a mask is an access list of it. -/
theorem lists_text (mask : AccessMask) : Lists mask mask.text.toList := by
  have hgroup : ∀ {name : String} {mask : AccessMask}, ofGroupName? name = some mask →
      Lists mask name.toList := by
    intro name mask hname
    simpa using Lists.group default default hname
  have hmore : ∀ {name : String} {mask others : AccessMask} {rest : List Char},
      ofGroupName? name = some mask → Lists others rest →
        Lists (mask.union others) (name.toList ++ '+' :: rest) := by
    intro name mask others rest hname hrest
    simpa using Lists.more default default hname hrest
  have hnothing : ofGroupName? "Nothing" = some nothing := by decide
  have hbuiltin : ofGroupName? "Builtin" = some builtinOnly := by decide
  have hengine : ofGroupName? "DefaultEngine" = some engineOnly := by decide
  have hfiles : ofGroupName? "FullFileSystem" = some filesOnly := by decide
  obtain ⟨builtin, engine, files⟩ := mask
  cases builtin <;> cases engine <;> cases files
  · exact hgroup hnothing
  · exact hgroup hfiles
  · exact hgroup hengine
  · exact hmore hengine (hgroup hfiles)
  · exact hgroup hbuiltin
  · exact hmore hbuiltin (hgroup hfiles)
  · exact hmore hbuiltin (hgroup hengine)
  · exact hmore hbuiltin (hmore hengine (hgroup hfiles))

end AccessMask

end ScriptHost
