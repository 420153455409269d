import Mathlib.Data.List.DropRight
import ScriptHost.Text.Blank

/-!
Texts taken apart from their ends. Trimming, stripping a beginning or an ending, and skipping blanks
each take away a part that can be named: a text is what was taken away next to what is left. The
other way round, a part of the right kind in front of a text that begins with something else is
taken away again, which is what the readers of annotations and includes rely on.
-/

namespace ScriptHost.Text

/-- A text of blanks only. -/
structure Blanks where
  text : List Char
  blank : ∀ c ∈ text, isBlank c = true

namespace Blanks

instance : Inhabited Blanks := ⟨⟨[], by simp⟩⟩

@[simp]
theorem default_text : (default : Blanks).text = [] := rfl

/-- Blanks followed by further blanks. -/
def append (first second : Blanks) : Blanks :=
  ⟨first.text ++ second.text, fun c hc =>
    (List.mem_append.mp hc).elim (first.blank c) (second.blank c)⟩

@[simp]
theorem append_text (first second : Blanks) :
    (first.append second).text = first.text ++ second.text := rfl

/-- Behind blanks a text begins with a mark only if it does so by itself. -/
theorem append_head?_ne (blanks : Blanks) {mark : Char} (hmark : isBlank mark = false)
    {rest : List Char} (hrest : rest.head? ≠ some mark) :
    (blanks.text ++ rest).head? ≠ some mark := by
  cases htext : blanks.text with
  | nil => exact hrest
  | cons c text =>
      have hblank := blanks.blank c (by simp [htext])
      rw [List.cons_append, List.head?_cons, ne_eq, Option.some.injEq]
      rintro rfl
      rw [hmark] at hblank
      cases hblank

end Blanks

/-! ### Dropping from the left -/

section Dropping

variable {α : Type} {p : α → Bool}

/-- What begins with something to keep is kept, whatever is dropped in front of it. -/
theorem dropWhile_append_of_kept {rest : List α} (hkept : rest.dropWhile p = rest)
    (text : List α) : (text ++ rest).dropWhile p = text.dropWhile p ++ rest := by
  rw [List.dropWhile_append]
  split
  · rename_i hempty
    rw [List.isEmpty_iff.mp hempty, hkept, List.nil_append]
  · rfl

theorem dropWhile_eq_nil_of_all {text : List α} (hall : ∀ a ∈ text, p a = true) :
    text.dropWhile p = [] :=
  List.dropWhile_eq_nil_iff.mpr hall

/-- What is to be dropped in front of something to keep is dropped. -/
theorem dropWhile_append_of_all {text rest : List α} (hall : ∀ a ∈ text, p a = true)
    (hkept : rest.dropWhile p = rest) : (text ++ rest).dropWhile p = rest := by
  rw [dropWhile_append_of_kept hkept, dropWhile_eq_nil_of_all hall, List.nil_append]

theorem dropWhile_cons_kept {a : α} (hkept : p a = false) (rest : List α) :
    (a :: rest).dropWhile p = a :: rest := by
  rw [List.dropWhile_cons_of_neg (by rw [hkept]; exact Bool.false_ne_true)]

/-- A text is kept whole exactly if its first character is. -/
theorem dropWhile_eq_self_of_head? {text : List α}
    (hhead : ∀ a, text.head? = some a → p a = false) : text.dropWhile p = text := by
  cases text with
  | nil => rfl
  | cons a rest => exact dropWhile_cons_kept (hhead a rfl) rest

end Dropping

/-! ### Blanks at the ends -/

/-- Whether a text has no blank in front. -/
def StartsFirm (text : List Char) : Prop :=
  trimStart text = text

/-- Whether a text has no blank at its end. -/
def EndsFirm (text : List Char) : Prop :=
  trimEnd text = text

theorem trimEnd_eq_rdropWhile (text : List Char) : trimEnd text = text.rdropWhile isBlank := rfl

theorem startsFirm_cons {c : Char} (hfirm : isBlank c = false) (rest : List Char) :
    StartsFirm (c :: rest) :=
  dropWhile_cons_kept hfirm rest

/-- A text is firm in front exactly if its first character is no blank. -/
theorem startsFirm_iff (text : List Char) :
    StartsFirm text ↔ ∀ c, text.head? = some c → isBlank c = false := by
  constructor
  · intro hfirm c hhead
    have hfirst := List.head?_dropWhile_not isBlank text
    change text.dropWhile isBlank = text at hfirm
    rw [hfirm, hhead] at hfirst
    exact hfirst
  · exact dropWhile_eq_self_of_head?

/-- Something firm in front keeps a text firm there. -/
theorem StartsFirm.append {text : List Char} (hfirm : StartsFirm text) (hsome : text ≠ [])
    (rest : List Char) : StartsFirm (text ++ rest) := by
  rw [startsFirm_iff] at hfirm ⊢
  rwa [List.head?_append_of_ne_nil text hsome]

/-- A text is firm at its end exactly if its last character is no blank. -/
theorem endsFirm_iff (text : List Char) :
    EndsFirm text ↔ ∀ c, text.getLast? = some c → isBlank c = false := by
  unfold EndsFirm
  rw [trimEnd_eq_rdropWhile, List.rdropWhile_eq_self_iff]
  constructor
  · intro hlast c hc
    obtain ⟨hsome, rfl⟩ := List.mem_getLast?_eq_getLast hc
    simpa using hlast hsome
  · intro hlast hsome
    simpa using hlast _ (List.getLast?_eq_some_getLast hsome)

/-- Something firm behind keeps a text firm there. -/
theorem EndsFirm.append {rest : List Char} (hfirm : EndsFirm rest) (hsome : rest ≠ [])
    (text : List Char) : EndsFirm (text ++ rest) := by
  rw [endsFirm_iff] at hfirm ⊢
  rwa [List.getLast?_append_of_ne_nil text hsome]

theorem startsFirm_trimStart (text : List Char) : StartsFirm (trimStart text) :=
  List.dropWhile_idempotent isBlank text

theorem endsFirm_trimEnd (text : List Char) : EndsFirm (trimEnd text) :=
  List.rdropWhile_idempotent isBlank text

/-- A text is the blanks in front of it and what is left without them. -/
theorem trimStart_split (text : List Char) :
    ∃ blanks : Blanks, text = blanks.text ++ trimStart text :=
  ⟨⟨text.takeWhile isBlank, fun _ hc => List.mem_takeWhile_imp hc⟩,
    (List.takeWhile_append_dropWhile).symm⟩

/-- A text is what is left without the blanks at its end, and these blanks. -/
theorem trimEnd_split (text : List Char) :
    ∃ blanks : Blanks, text = trimEnd text ++ blanks.text :=
  ⟨⟨text.rtakeWhile isBlank, fun _ hc => List.mem_rtakeWhile_imp hc⟩,
    List.rdropWhile_append_rtakeWhile.symm⟩

/-- A text is its trimmed form between blanks. -/
theorem trim_split (text : List Char) :
    ∃ before after : Blanks, text = before.text ++ trim text ++ after.text := by
  obtain ⟨before, hbefore⟩ := trimStart_split text
  obtain ⟨after, hafter⟩ := trimEnd_split (trimStart text)
  refine ⟨before, after, ?_⟩
  rw [List.append_assoc]
  unfold trim
  rw [← hafter]
  exact hbefore

theorem trimStart_blanks_append (blanks : Blanks) (text : List Char) :
    trimStart (blanks.text ++ text) = trimStart text := by
  unfold trimStart
  rw [List.dropWhile_append, dropWhile_eq_nil_of_all blanks.blank]
  rfl

theorem trimEnd_append_blanks (text : List Char) (blanks : Blanks) :
    trimEnd (text ++ blanks.text) = trimEnd text := by
  unfold trimEnd
  rw [List.reverse_append, List.dropWhile_append,
    dropWhile_eq_nil_of_all fun c hc => blanks.blank c (List.mem_reverse.mp hc)]
  rfl

/-- Behind something firm only the blanks at the end of the rest go away. -/
theorem trimEnd_append {text : List Char} (hfirm : EndsFirm text) (rest : List Char) :
    trimEnd (text ++ rest) = text ++ trimEnd rest := by
  have hkept : text.reverse.dropWhile isBlank = text.reverse := by
    unfold EndsFirm trimEnd at hfirm
    rw [← List.reverse_inj, hfirm, List.reverse_reverse]
  unfold trimEnd
  rw [List.reverse_append, dropWhile_append_of_kept hkept, List.reverse_append,
    List.reverse_reverse]

/-- What has no blank in front has none once the end is trimmed, so the trimmed form of any text is
firm at both ends. -/
theorem trim_firm (text : List Char) : StartsFirm (trim text) ∧ EndsFirm (trim text) := by
  refine ⟨(startsFirm_iff _).mpr fun c hhead => ?_, endsFirm_trimEnd (trimStart text)⟩
  obtain ⟨blanks, hsplit⟩ := trimEnd_split (trimStart text)
  have hstart := (startsFirm_iff _).mp (startsFirm_trimStart text) c
  rw [hsplit] at hstart
  have hsome : trim text ≠ [] := by
    rintro hnone
    rw [hnone] at hhead
    cases hhead
  apply hstart
  exact (List.head?_append_of_ne_nil (trim text) hsome).trans hhead

/-- A text that is firm at both ends is trimmed as it stands. -/
theorem trim_of_firm {text : List Char} (hstart : StartsFirm text) (hend : EndsFirm text) :
    trim text = text := by
  unfold trim
  rw [hstart, hend]

/-- Trimming takes away blanks around a text that is firm at both ends. -/
theorem trim_around {text : List Char} (hstart : StartsFirm text) (hend : EndsFirm text)
    (before after : Blanks) : trim (before.text ++ text ++ after.text) = text := by
  unfold trim
  rw [List.append_assoc, trimStart_blanks_append]
  cases text with
  | nil =>
      rw [List.nil_append]
      have hnone : trimStart after.text = [] := dropWhile_eq_nil_of_all after.blank
      rw [hnone]
      rfl
  | cons c rest =>
      rw [hstart.append (List.cons_ne_nil c rest), trimEnd_append_blanks, hend]

/-- Blanks behind a text stay behind what is left of it without the blanks in front. -/
theorem trimStart_append_blanks (text : List Char) (blanks : Blanks) :
    ∃ rest : Blanks, trimStart (text ++ blanks.text) = trimStart text ++ rest.text := by
  unfold trimStart
  rw [List.dropWhile_append]
  split
  · rename_i hempty
    refine ⟨default, ?_⟩
    rw [List.isEmpty_iff.mp hempty, dropWhile_eq_nil_of_all blanks.blank]
    rfl
  · exact ⟨blanks, rfl⟩

theorem trimString_toList (text : String) : (trimString text).toList = trim text.toList := by
  rw [trimString, String.toList_ofList]

/-- Whether a text is made of blanks. -/
def Blank (text : String) : Prop :=
  ∀ c ∈ text.toList, isBlank c = true

/-- A text is trimmed to nothing exactly if it is blank. -/
theorem trimString_eq_empty_iff {text : String} : trimString text = "" ↔ Blank text := by
  constructor
  · intro htrim
    obtain ⟨before, after, hsplit⟩ := trim_split text.toList
    rw [← trimString_toList, htrim] at hsplit
    intro c hc
    rw [hsplit] at hc
    have hboth : c ∈ before.text ∨ c ∈ after.text := by simpa using hc
    exact hboth.elim (before.blank c) (after.blank c)
  · intro hblank
    have hnone : trimStart text.toList = [] := dropWhile_eq_nil_of_all hblank
    simp [trimString, trim, hnone, trimEnd]

/-! ### Runs of a mark -/

/-- A text is a run of a mark and what is left without it. -/
theorem run_split (mark : Char) (text : List Char) :
    ∃ count : Nat, text = List.replicate count mark ++ text.dropWhile (· == mark) := by
  have hrun : text.takeWhile (· == mark) =
      List.replicate (text.takeWhile (· == mark)).length mark :=
    List.eq_replicate_iff.mpr ⟨rfl, fun c hc => by simpa using List.mem_takeWhile_imp hc⟩
  refine ⟨(text.takeWhile (· == mark)).length, ?_⟩
  rw [← hrun, List.takeWhile_append_dropWhile]

theorem dropWhile_mark_of_head? {mark : Char} {text : List Char} (hhead : text.head? ≠ some mark) :
    text.dropWhile (· == mark) = text := by
  apply dropWhile_eq_self_of_head?
  intro c hc
  rw [beq_eq_false_iff_ne]
  rintro rfl
  exact hhead hc

/-- A run is dropped up to the blanks behind it. -/
theorem dropWhile_run {mark : Char} (hmark : isBlank mark = false) (count : Nat) (blanks : Blanks)
    {rest : List Char} (hrest : rest.head? ≠ some mark) :
    (List.replicate count mark ++ (blanks.text ++ rest)).dropWhile (· == mark) =
      blanks.text ++ rest :=
  dropWhile_append_of_all (by simp) (dropWhile_mark_of_head? (blanks.append_head?_ne hmark hrest))

/-- Blanks in front of a run go away, and those behind it only if the run is empty. -/
theorem trimStart_run {mark : Char} (hmark : isBlank mark = false) (before after : Blanks)
    (count : Nat) :
    ∃ left : Blanks, ∀ rest : List Char, StartsFirm rest →
      trimStart (before.text ++ List.replicate count mark ++ after.text ++ rest) =
        List.replicate count mark ++ (left.text ++ rest) := by
  simp only [List.append_assoc, trimStart_blanks_append]
  cases count with
  | zero =>
      refine ⟨default, fun rest hfirm => ?_⟩
      rw [List.replicate_zero, List.nil_append, List.nil_append, trimStart_blanks_append]
      exact hfirm
  | succ count =>
      refine ⟨after, fun rest _ => ?_⟩
      rw [List.replicate_succ, List.cons_append]
      exact startsFirm_cons hmark _

/-! ### Stripping a given beginning or ending -/

/-- A beginning can be stripped off exactly what begins with it. -/
theorem stripPrefix?_eq_some_iff {start text rest : List Char} :
    stripPrefix? start text = some rest ↔ text = start ++ rest := by
  induction start generalizing text with
  | nil => simp [stripPrefix?, eq_comm]
  | cons a start ih =>
      cases text with
      | nil => simp [stripPrefix?]
      | cons c text =>
          by_cases hsame : a = c
          · simp [stripPrefix?, hsame, ih]
          · simp [stripPrefix?, hsame, Ne.symm hsame]

@[simp]
theorem stripPrefix?_append (start rest : List Char) :
    stripPrefix? start (start ++ rest) = some rest :=
  stripPrefix?_eq_some_iff.mpr rfl

/-- An ending can be stripped off exactly what ends with it. -/
theorem stripSuffix?_eq_some_iff {ending text rest : List Char} :
    stripSuffix? ending text = some rest ↔ text = rest ++ ending := by
  unfold stripSuffix?
  rw [Option.map_eq_some_iff]
  constructor
  · rintro ⟨other, hother, rfl⟩
    rw [stripPrefix?_eq_some_iff] at hother
    rw [← List.reverse_inj, hother]
    simp
  · rintro rfl
    exact ⟨rest.reverse, by rw [List.reverse_append, stripPrefix?_append], List.reverse_reverse rest⟩

theorem stripSuffix?_append (rest ending : List Char) :
    stripSuffix? ending (rest ++ ending) = some rest :=
  stripSuffix?_eq_some_iff.mpr rfl

theorem stripSuffix?_eq_none_iff {ending text : List Char} :
    stripSuffix? ending text = none ↔ ¬ ending <:+ text := by
  rw [Option.eq_none_iff_forall_ne_some]
  simp only [ne_eq, stripSuffix?_eq_some_iff]
  constructor
  · rintro hnone ⟨rest, hrest⟩
    exact hnone rest hrest.symm
  · intro hnone rest hrest
    exact hnone ⟨rest, hrest.symm⟩

end ScriptHost.Text
