import Mathlib.Data.List.TakeWhile
import ScriptHost.Proofs.Table
import ScriptHost.Source.CallScan

/-!
What the scanner of calls finds. The scanner reads a text one character at a time and begins to note
a call where a word begins in code; so a call is counted at an offset of the text if the scanner is
in code there and a word with an opening parenthesis behind it follows. The line that is noted is
that of the offset, but a line feed behind a backslash between quotes is not counted as one.
-/

namespace ScriptHost.CallScan

/-- A character that a quoted text stands between. -/
def isMark (c : Char) : Bool :=
  c = '"' || c = '\'' || c.toNat = 0x60

/-! ### One character -/

namespace Mode

/-- Where the scanner begins. -/
def start : Mode := .code false false

/-- Where the scanner is behind a character. -/
def advance : Mode → Char → Mode
  | .lineComment, c => if c = '\n' then .code false false else .lineComment
  | .blockComment afterStar, c =>
      if afterStar && c == '/' then .code false false else .blockComment (c == '*')
  | .quote mark true, _ => .quote mark false
  | .quote mark false, c => if c = mark then .code false false else .quote mark (c == '\\')
  | .code inWord afterSlash, c =>
      if inWord && isWordChar c then .code true false
      else if afterSlash && c == '/' then .lineComment
      else if afterSlash && c == '*' then .blockComment false
      else if isMark c then .quote c false
      else if isWordStart c then .code true false
      else .code false (c == '/')

/-- Whether the scanner is behind a backslash between quotes. -/
def isEscaping : Mode → Bool
  | .quote _ true => true
  | _ => false

/-- The lines that the scanner counts for a character: one for a line feed, unless it is escaped. -/
def feed (mode : Mode) (c : Char) : Nat :=
  if c = '\n' && !mode.isEscaping then 1 else 0

/-- The call that the scanner notes in front of a text: a word in code, if it stands at its beginning
and has an opening parenthesis behind it. -/
def callAt : Mode → List Char → Option String
  | .code false _, c :: rest =>
      if isWordStart c && opensCall (rest.dropWhile isWordChar) then
        some (String.ofList (c :: rest.takeWhile isWordChar))
      else none
  | _, _ => none

end Mode

theorem isWordStart_isWordChar {c : Char} (hstart : isWordStart c = true) :
    isWordChar c = true := by
  unfold isWordStart Text.isLetter at hstart
  unfold isWordChar Text.isLetterOrDigit Char.isAlphanum
  grind

/-- No word goes on with a character that the scanner takes for something else. -/
theorem isWordChar_plain {c : Char} (hword : isWordChar c = true) :
    c ≠ '\n' ∧ c ≠ '/' ∧ c ≠ '*' ∧ isMark c = false := by
  refine ⟨?_, ?_, ?_, ?_⟩
  · rintro rfl
    revert hword
    decide
  · rintro rfl
    revert hword
    decide
  · rintro rfl
    revert hword
    decide
  · refine Bool.eq_false_iff.mpr fun hmark => ?_
    unfold isMark at hmark
    simp only [Bool.or_eq_true, decide_eq_true_eq] at hmark
    rcases hmark with (rfl | rfl) | hmark
    · revert hword
      decide
    · revert hword
      decide
    · rw [← Char.ofNat_toNat c, hmark] at hword
      revert hword
      decide

namespace Mode

theorem feed_of_reading {mode : Mode} (hreading : mode.isEscaping = false) (line : Nat)
    (c : Char) : line + mode.feed c = if c = '\n' then line + 1 else line := by
  unfold feed
  rw [hreading]
  by_cases hc : c = '\n' <;> simp [hc]

/-- No call begins where no word does. -/
theorem callAt_of_not_start (mode : Mode) {c : Char} (hc : isWordStart c = false)
    (rest : List Char) : mode.callAt (c :: rest) = none := by
  unfold callAt
  split
  · rename_i hcons
    cases hcons
    rw [hc]
    rfl
  · rfl

/-- What is noted as a call is a word, some blanks and an opening parenthesis. -/
theorem callAt_eq_some {mode : Mode} {text : List Char} {name : String}
    (hcall : mode.callAt text = some name) :
    ∃ blanks rest, text = name.toList ++ (blanks ++ '(' :: rest) ∧
      (∀ c ∈ name.toList, isWordChar c = true) ∧ ∀ c ∈ blanks, c = ' ' ∨ c = '\t' := by
  unfold callAt at hcall
  split at hcall
  · rename_i c rest
    split at hcall
    · rename_i hopens
      rw [Bool.and_eq_true] at hopens
      obtain ⟨hstart, hopens⟩ := hopens
      cases hcall
      unfold opensCall at hopens
      rw [beq_iff_eq, List.head?_eq_some_iff] at hopens
      obtain ⟨more, hmore⟩ := hopens
      refine ⟨(rest.dropWhile isWordChar).takeWhile fun c => c == ' ' || c == '\t', more, ?_,
        fun d hd => ?_, fun d hd => ?_⟩
      · rw [← hmore, List.takeWhile_append_dropWhile, String.toList_ofList, List.cons_append,
          List.takeWhile_append_dropWhile]
      · rw [String.toList_ofList] at hd
        rcases List.mem_cons.mp hd with rfl | hd
        · exact isWordStart_isWordChar hstart
        · exact List.mem_takeWhile_imp hd
      · simpa using List.mem_takeWhile_imp hd
    · cases hcall
  · cases hcall

end Mode

/-- What one character is to the scanner: it notes a call in front of it or not, goes on in another
mode and counts a line or not. -/
theorem scan_cons (mode : Mode) (line : Nat) (c : Char) (rest : List Char) :
    scan mode line (c :: rest) =
      ((mode.callAt (c :: rest)).map (·, line)).toList ++
        scan (mode.advance c) (line + mode.feed c) rest := by
  cases mode with
  | lineComment => rw [scan, Mode.feed_of_reading rfl]; rfl
  | blockComment afterStar => rw [scan, Mode.feed_of_reading rfl]; rfl
  | quote mark afterBackslash =>
      cases afterBackslash with
      | false => rw [scan, Mode.feed_of_reading rfl]; rfl
      | true =>
          have hfeed : (Mode.quote mark true).feed c = 0 := by simp [Mode.feed, Mode.isEscaping]
          rw [scan, hfeed]
          rfl
  | code inWord afterSlash =>
      rw [scan, Mode.advance, Mode.feed_of_reading rfl]
      by_cases hword : (inWord && isWordChar c) = true
      · rw [if_pos hword, if_pos hword]
        rw [Bool.and_eq_true] at hword
        obtain ⟨rfl, hc⟩ := hword
        rw [if_neg (isWordChar_plain hc).1]
        rfl
      · rw [if_neg hword, if_neg hword]
        cases hstart : isWordStart c with
        | true =>
            have hc := isWordStart_isWordChar hstart
            obtain ⟨hfeed, hslash, hstar, hmark⟩ := isWordChar_plain hc
            have hfresh : inWord = false := by simpa [hc] using hword
            subst hfresh
            unfold isMark at hmark
            simp only [beq_eq_false_iff_ne.mpr hslash, beq_eq_false_iff_ne.mpr hstar,
              Bool.and_false, Bool.false_eq_true, if_false, hmark, if_true, if_neg hfeed,
              Mode.callAt, hstart, Bool.true_and, isMark]
            split <;> rfl
        | false =>
            rw [Mode.callAt_of_not_start _ hstart]
            by_cases hfeed : c = '\n'
            · subst hfeed
              have hmark : isMark '\n' = false := by decide
              simp [hmark]
            · simp only [Option.map_none, Option.toList_none, List.nil_append, if_neg hfeed,
                isMark, Bool.false_eq_true, if_false, apply_ite (scan · line rest)]

/-! ### A whole text -/

namespace Mode

/-- Where the scanner is behind a text. -/
def read (mode : Mode) (text : List Char) : Mode :=
  text.foldl advance mode

/-- The lines that the scanner counts for a text. -/
def feeds (mode : Mode) : List Char → Nat
  | [] => 0
  | c :: rest => mode.feed c + (mode.advance c).feeds rest

/-- The line feeds of a text that are escaped between quotes. -/
def escapedFeeds (mode : Mode) : List Char → Nat
  | [] => 0
  | c :: rest =>
      (if c = '\n' && mode.isEscaping then 1 else 0) + (mode.advance c).escapedFeeds rest

/-- Each line feed is either counted or escaped. -/
theorem feeds_add_escapedFeeds (mode : Mode) (text : List Char) :
    mode.feeds text + mode.escapedFeeds text = text.count '\n' := by
  induction text generalizing mode with
  | nil => rfl
  | cons c rest ih =>
      rw [feeds, escapedFeeds, List.count_cons, ← ih (mode.advance c), feed]
      by_cases hc : c = '\n' <;> cases mode.isEscaping <;> simp [hc] <;> omega

/-- The call that is counted at an offset of a text. -/
def countedAt (mode : Mode) (text : List Char) (offset : Nat) : Option String :=
  (mode.read (text.take offset)).callAt (text.drop offset)

@[simp]
theorem countedAt_nil (mode : Mode) (offset : Nat) : mode.countedAt [] offset = none := by
  unfold countedAt
  rw [List.drop_nil]
  cases mode.read (List.take offset []) with
  | code inWord => cases inWord <;> rfl
  | _ => rfl

@[simp]
theorem countedAt_zero (mode : Mode) (text : List Char) :
    mode.countedAt text 0 = mode.callAt text := rfl

@[simp]
theorem countedAt_succ (mode : Mode) (c : Char) (rest : List Char) (offset : Nat) :
    mode.countedAt (c :: rest) (offset + 1) = (mode.advance c).countedAt rest offset := rfl

end Mode

/-- The first call that something is found for, among those that the scanner notes of a text. -/
theorem findSome?_scan {α : Type} (find : String × Nat → Option α) (mode : Mode) (line : Nat)
    (text : List Char) (found : α) :
    (scan mode line text).findSome? find = some found ↔
      ∃ offset name, mode.countedAt text offset = some name ∧
        find (name, line + mode.feeds (text.take offset)) = some found ∧
        ∀ earlier < offset, ∀ other, mode.countedAt text earlier = some other →
          find (other, line + mode.feeds (text.take earlier)) = none := by
  induction text generalizing mode line with
  | nil => simp [scan]
  | cons c rest ih =>
      rw [scan_cons, List.findSome?_append]
      have hfirst : ((mode.callAt (c :: rest)).map (·, line)).toList.findSome? find =
          (mode.callAt (c :: rest)).bind fun name => find (name, line) := by
        cases mode.callAt (c :: rest) <;> simp
      rw [hfirst]
      cases hcall : (mode.callAt (c :: rest)).bind fun name => find (name, line) with
      | some first =>
          obtain ⟨name, hname, hfind⟩ := Option.bind_eq_some_iff.mp hcall
          rw [Option.some_or, Option.some.injEq]
          constructor
          · rintro rfl
            exact ⟨0, name, hname, hfind, fun earlier hearlier => absurd hearlier (by omega)⟩
          · rintro ⟨offset, other, hother, hfound, hfresh⟩
            cases offset with
            | zero =>
                rw [Mode.countedAt_zero, hname, Option.some.injEq] at hother
                subst hother
                exact Option.some.inj (hfind.symm.trans hfound)
            | succ offset =>
                have hnone := hfresh 0 (by omega) name hname
                rw [List.take_zero, Mode.feeds, Nat.add_zero, hfind] at hnone
                cases hnone
      | none =>
          have hskip : ∀ name, mode.callAt (c :: rest) = some name → find (name, line) = none :=
            fun name hname => (Option.bind_eq_none_iff.mp hcall) name hname
          rw [Option.none_or, ih]
          constructor
          · rintro ⟨offset, name, hname, hfound, hfresh⟩
            refine ⟨offset + 1, name, hname, ?_, fun earlier hearlier other hother => ?_⟩
            · rwa [List.take_succ_cons, Mode.feeds, ← Nat.add_assoc]
            · cases earlier with
              | zero => exact hskip other hother
              | succ earlier =>
                  rw [List.take_succ_cons, Mode.feeds, ← Nat.add_assoc]
                  exact hfresh earlier (by omega) other hother
          · rintro ⟨offset, name, hname, hfound, hfresh⟩
            cases offset with
            | zero =>
                have hnone := hskip name hname
                rw [List.take_zero, Mode.feeds, Nat.add_zero, hnone] at hfound
                cases hfound
            | succ offset =>
                rw [List.take_succ_cons, Mode.feeds, ← Nat.add_assoc] at hfound
                refine ⟨offset, name, hname, hfound, fun earlier hearlier other hother => ?_⟩
                have hnone := hfresh (earlier + 1) (by omega) other hother
                rwa [List.take_succ_cons, Mode.feeds, ← Nat.add_assoc] at hnone

/-! ### The table of calls -/

/-- The first entry that something is found for is as well found among the first ones of each name,
when only the names decide whether there is something. -/
theorem findSome?_tabled {α : Type} {find : String × Nat → Option α}
    (hfind : ∀ name line other, (find (name, line)).isSome = (find (name, other)).isSome)
    (noted : List (String × Nat)) (table : Table String Nat) :
    (noted.foldl (fun table (name, line) =>
      if table.has name then table else table.set name line) table).findSome? find =
        (table ++ noted).findSome? find := by
  induction noted generalizing table with
  | nil => simp
  | cons entry rest ih =>
      obtain ⟨name, line⟩ := entry
      rw [List.foldl_cons]
      dsimp only
      cases hhas : table.has name with
      | true =>
          obtain ⟨value, hvalue⟩ := (Table.has_eq_true_iff table name).mp hhas
          rw [if_pos rfl, ih, List.findSome?_append, List.findSome?_append]
          cases htable : table.findSome? find with
          | some found => rfl
          | none =>
              have hknown := List.findSome?_eq_none_iff.mp htable _ (table.mem_of_get? hvalue)
              have hskip : find (name, line) = none := by
                rw [← Option.not_isSome_iff_eq_none, hfind name line value, hknown]
                simp
              rw [List.findSome?_cons, hskip]
      | false =>
          rw [if_neg (by simp), ih,
            table.set_of_new ((Table.has_eq_false_iff table name).mp hhas), List.append_assoc,
            List.singleton_append]

/-- The call that the scanner counts at an offset of a text. -/
abbrev countedAt (text : List Char) (offset : Nat) : Option String :=
  Mode.start.countedAt text offset

/-- The line that the scanner notes of a call at an offset of a text. -/
def lineAt (text : List Char) (offset : Nat) : Nat :=
  1 + Mode.start.feeds (text.take offset)

/-- The first function that something is found for is that of the first call with such a name. -/
theorem findSome?_calledFunctions {α : Type} {find : String × Nat → Option α}
    (hfind : ∀ name line other, (find (name, line)).isSome = (find (name, other)).isSome)
    (text : List Char) (found : α) :
    (calledFunctions text).findSome? find = some found ↔
      ∃ offset name, countedAt text offset = some name ∧
        find (name, lineAt text offset) = some found ∧
        ∀ earlier < offset, ∀ other, countedAt text earlier = some other →
          find (other, lineAt text earlier) = none := by
  unfold calledFunctions calls
  rw [findSome?_tabled hfind, List.nil_append]
  exact findSome?_scan find Mode.start 1 text found

theorem get?_eq_findSome? (table : Table String Nat) (name : String) :
    table.get? name =
      table.findSome? fun entry => if entry.1 = name then some entry.2 else none := by
  induction table with
  | nil => rfl
  | cons entry rest ih =>
      by_cases hname : entry.1 = name
      · simp [Table.get?, hname]
      · simp [Table.get?, hname, ih]

/-- The line that is noted of a function is that of its first call. -/
theorem get?_calledFunctions (text : List Char) (name : String) (line : Nat) :
    (calledFunctions text).get? name = some line ↔
      ∃ offset, countedAt text offset = some name ∧
        (∀ earlier < offset, countedAt text earlier ≠ some name) ∧ line = lineAt text offset := by
  rw [get?_eq_findSome?, findSome?_calledFunctions fun name line other => by split <;> rfl]
  constructor
  · rintro ⟨offset, other, hother, hfound, hfresh⟩
    dsimp only at hfound
    split at hfound
    · rename_i hname
      subst hname
      refine ⟨offset, hother, fun earlier hearlier hsame => ?_, (Option.some.inj hfound).symm⟩
      have hnone := hfresh earlier hearlier other hsame
      simp at hnone
    · cases hfound
  · rintro ⟨offset, hname, hfresh, rfl⟩
    refine ⟨offset, name, hname, by simp, fun earlier hearlier other hother => ?_⟩
    have hne : other ≠ name := fun hsame => hfresh earlier hearlier (hsame ▸ hother)
    simp [hne]

/-- Whether a call of a function is refused: it needs access that is not granted. -/
def Refused (restricted : Table String AccessMask) (granted : AccessMask) (name : String)
    (required : AccessMask) : Prop :=
  restricted.get? name = some required ∧ granted.contains required = false

/-- What is reported of a call: nothing unless it is refused. -/
def violation (restricted : Table String AccessMask) (granted : AccessMask)
    (entry : String × Nat) : Option (String × Nat × AccessMask) :=
  (restricted.get? entry.1).bind fun required =>
    if granted.contains required then none else some (entry.1, entry.2, required)

section Violation

variable {restricted : Table String AccessMask} {granted required : AccessMask}
  {name reported : String} {line other : Nat}

theorem violation_eq_some_iff :
    violation restricted granted (name, line) = some (reported, other, required) ↔
      Refused restricted granted name required ∧ reported = name ∧ other = line := by
  unfold violation Refused
  rw [Option.bind_eq_some_iff]
  constructor
  · rintro ⟨needed, hneeded, hreported⟩
    cases hcontains : granted.contains needed with
    | true => simp [hcontains] at hreported
    | false =>
        rw [hcontains, if_neg Bool.false_ne_true] at hreported
        cases hreported
        exact ⟨⟨hneeded, hcontains⟩, rfl, rfl⟩
  · rintro ⟨⟨hneeded, hcontains⟩, rfl, rfl⟩
    exact ⟨required, hneeded, by simp [hcontains]⟩

theorem violation_eq_none_iff :
    violation restricted granted (name, line) = none ↔
      ∀ needed, ¬ Refused restricted granted name needed := by
  rw [Option.eq_none_iff_forall_ne_some]
  constructor
  · exact fun hnone needed hrefused =>
      hnone (name, line, needed) (violation_eq_some_iff.mpr ⟨hrefused, rfl, rfl⟩)
  · rintro hallowed ⟨reported, other, needed⟩ hsome
    exact hallowed needed (violation_eq_some_iff.mp hsome).1

/-- The violation that is reported is the first call in the text that is refused. -/
theorem firstViolation_eq_some_iff {text : List Char} :
    firstViolation restricted granted text = some (name, line, required) ↔
      ∃ offset, countedAt text offset = some name ∧ Refused restricted granted name required ∧
        line = lineAt text offset ∧
        ∀ earlier < offset, ∀ other needed, countedAt text earlier = some other →
          ¬ Refused restricted granted other needed := by
  have hsome : ∀ name line other, (violation restricted granted (name, line)).isSome =
      (violation restricted granted (name, other)).isSome := by
    intro name line other
    unfold violation
    cases restricted.get? name with
    | none => rfl
    | some needed => cases hcontains : granted.contains needed <;> simp [hcontains]
  refine (findSome?_calledFunctions hsome text (name, line, required)).trans ?_
  constructor
  · rintro ⟨offset, called, hcalled, hfound, hfresh⟩
    obtain ⟨hrefused, rfl, rfl⟩ := violation_eq_some_iff.mp hfound
    exact ⟨offset, hcalled, hrefused, rfl, fun earlier hearlier other needed hother =>
      violation_eq_none_iff.mp (hfresh earlier hearlier other hother) needed⟩
  · rintro ⟨offset, hcalled, hrefused, rfl, hfresh⟩
    exact ⟨offset, name, hcalled, violation_eq_some_iff.mpr ⟨hrefused, rfl, rfl⟩,
      fun earlier hearlier other hother => violation_eq_none_iff.mpr fun needed =>
        hfresh earlier hearlier other needed hother⟩

end Violation

end ScriptHost.CallScan
