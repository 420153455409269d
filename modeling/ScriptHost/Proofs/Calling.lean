import ScriptHost.Proofs.Scanning
import ScriptHost.Script.Lexer

/-!
Which calls the scanner sees. A text is written as a list of pieces: blanks, comments, literals,
words, numbers and symbols. Its calls are the words whose next piece, apart from blanks and comments,
is an opening parenthesis. The scanner finds exactly these, as long as each stands with nothing but
spaces and tabs before its parenthesis, no comment holds a comment, no backslash stands before a
backquote and no number with letters stands before a parenthesis.
-/

namespace ScriptHost.CallScan

/-! ### Pieces of a text -/

/-- A piece of a text. -/
inductive Piece
  | blank (c : Char)
  /-- What stands behind two slashes up to the end of the line. -/
  | lineComment (body : List Char)
  /-- What stands behind a slash and a star, with the star and the slash at its end. -/
  | blockComment (body : List Char)
  /-- What stands between double or single quotes. -/
  | quoted (mark : Char) (body : List Char)
  /-- What stands between backquotes. -/
  | template (body : List Char)
  | word (name : List Char)
  | number (digits : List Char)
  | symbol (c : Char)
  deriving DecidableEq, Repr

/-- Whether a text closes as many block comments as are open, at its end and not before. -/
def closes : Nat → List Char → Bool
  | 0, rest => rest.isEmpty
  | depth + 1, '/' :: '*' :: rest => closes (depth + 2) rest
  | depth + 1, '*' :: '/' :: rest => closes depth rest
  | depth + 1, _ :: rest => closes (depth + 1) rest
  | _ + 1, [] => false

/-- Whether a text can stand between two marks where a backslash escapes the next character. -/
def isQuotable (mark : Char) : List Char → Bool
  | [] => true
  | ['\\'] => false
  | '\\' :: _ :: rest => isQuotable mark rest
  | c :: rest => c != mark && isQuotable mark rest

/-- Whether a text can stand between two backquotes: those in it are doubled. `odd` tells whether
there is one in front of it that is still to be doubled. -/
def isTicked (odd : Bool) : List Char → Bool
  | [] => !odd
  | c :: rest => if c = Script.backquote then isTicked (!odd) rest else !odd && isTicked false rest

namespace Piece

/-- A piece as it is written. -/
def write : Piece → List Char
  | blank c => [c]
  | lineComment body => '/' :: '/' :: body
  | blockComment body => '/' :: '*' :: body
  | quoted mark body => mark :: body ++ [mark]
  | template body => Script.backquote :: body ++ [Script.backquote]
  | word name => name
  | number digits => digits
  | symbol c => [c]

/-- Pieces as they are written one behind the other. -/
def text (pieces : List Piece) : List Char :=
  pieces.flatMap write

/-- Whether a piece is one of its kind. -/
def IsSound : Piece → Prop
  | blank c => Text.isBlank c = true
  | lineComment body => '\n' ∉ body
  | blockComment body => closes 1 body = true
  | quoted mark body => (mark = '"' ∨ mark = '\'') ∧ isQuotable mark body = true
  | template body => isTicked false body = true
  | word name => name.head?.any isWordStart = true ∧ name.all isWordChar = true
  | number digits => digits ≠ [] ∧ digits.head?.any isWordStart = false ∧
      digits.all isWordChar = true
  | symbol c => isWordChar c = false ∧ isMark c = false ∧ Text.isBlank c = false

/-- Whether a piece ends before the character that follows. -/
def EndsAt (next : Option Char) : Piece → Prop
  | lineComment _ => next = none ∨ next = some '\n'
  | template _ => next ≠ some Script.backquote
  | word _ => next.any isWordChar = false
  | number _ => next.any isWordChar = false
  | symbol c => c = '/' → next ≠ some '/' ∧ next ≠ some '*'
  | _ => True

instance (piece : Piece) : Decidable piece.IsSound :=
  match piece with
  | blank c => inferInstanceAs (Decidable (Text.isBlank c = true))
  | lineComment body => inferInstanceAs (Decidable ('\n' ∉ body))
  | blockComment body => inferInstanceAs (Decidable (closes 1 body = true))
  | quoted mark body =>
      inferInstanceAs (Decidable ((mark = '"' ∨ mark = '\'') ∧ isQuotable mark body = true))
  | template body => inferInstanceAs (Decidable (isTicked false body = true))
  | word name => inferInstanceAs
      (Decidable (name.head?.any isWordStart = true ∧ name.all isWordChar = true))
  | number digits => inferInstanceAs (Decidable (digits ≠ [] ∧
      digits.head?.any isWordStart = false ∧ digits.all isWordChar = true))
  | symbol c => inferInstanceAs
      (Decidable (isWordChar c = false ∧ isMark c = false ∧ Text.isBlank c = false))

instance (next : Option Char) (piece : Piece) : Decidable (piece.EndsAt next) :=
  match piece with
  | lineComment _ => inferInstanceAs (Decidable (next = none ∨ next = some '\n'))
  | template _ => inferInstanceAs (Decidable (next ≠ some Script.backquote))
  | word _ => inferInstanceAs (Decidable (next.any isWordChar = false))
  | number _ => inferInstanceAs (Decidable (next.any isWordChar = false))
  | symbol c => inferInstanceAs (Decidable (c = '/' → next ≠ some '/' ∧ next ≠ some '*'))
  | blank _ | blockComment _ | quoted _ _ => inferInstanceAs (Decidable True)

/-- Whether pieces are those of the text that they make. -/
def WellFormed : List Piece → Prop
  | [] => True
  | piece :: rest => piece.IsSound ∧ piece.EndsAt (text rest).head? ∧ WellFormed rest

instance : (pieces : List Piece) → Decidable (WellFormed pieces)
  | [] => inferInstanceAs (Decidable True)
  | piece :: rest =>
      have : Decidable (WellFormed rest) := instDecidableWellFormed rest
      inferInstanceAs (Decidable (piece.IsSound ∧ piece.EndsAt (text rest).head? ∧ WellFormed rest))

/-- Whether the next piece, apart from blanks and comments, is an opening parenthesis. -/
def opens : List Piece → Bool
  | blank _ :: rest => opens rest
  | lineComment _ :: rest => opens rest
  | blockComment _ :: rest => opens rest
  | symbol c :: _ => c == '('
  | _ => false

/-- The words that are called, in their order. -/
def called : List Piece → List String
  | [] => []
  | word name :: rest => (if opens rest then [String.ofList name] else []) ++ called rest
  | _ :: rest => called rest

/-- Whether the next piece, apart from spaces and tabs, is an opening parenthesis. -/
def adjoins : List Piece → Bool
  | blank c :: rest => (c == ' ' || c == '\t') && adjoins rest
  | symbol c :: _ => c == '('
  | _ => false

end Piece

/-- Whether no backslash of a text escapes a backquote, nor what follows the text. -/
def isUnslashed : List Char → Bool
  | [] => true
  | ['\\'] => false
  | '\\' :: c :: rest => c != Script.backquote && isUnslashed rest
  | _ :: rest => isUnslashed rest

namespace Piece

/-- Whether the scanner takes a piece for what it is, `rest` being what follows. -/
def IsPlain (rest : List Piece) : Piece → Prop
  | blockComment body => ¬ ['/', '*'] <:+: body
  | template body => isUnslashed body = true
  | word _ => opens rest = true → adjoins rest = true
  | number digits => digits.any isWordStart = true → adjoins rest = false
  | _ => True

instance (rest : List Piece) (piece : Piece) : Decidable (piece.IsPlain rest) :=
  match piece with
  | blockComment body => inferInstanceAs (Decidable (¬ ['/', '*'] <:+: body))
  | template body => inferInstanceAs (Decidable (isUnslashed body = true))
  | word _ => inferInstanceAs (Decidable (opens rest = true → adjoins rest = true))
  | number digits =>
      inferInstanceAs (Decidable (digits.any isWordStart = true → adjoins rest = false))
  | blank _ | lineComment _ | quoted _ _ | symbol _ => inferInstanceAs (Decidable True)

/-- Whether the scanner takes all pieces for what they are. -/
def Plain : List Piece → Prop
  | [] => True
  | piece :: rest => piece.IsPlain rest ∧ Plain rest

instance : (pieces : List Piece) → Decidable (Plain pieces)
  | [] => inferInstanceAs (Decidable True)
  | piece :: rest =>
      have : Decidable (Plain rest) := instDecidablePlain rest
      inferInstanceAs (Decidable (piece.IsPlain rest ∧ Plain rest))

end Piece

/-! ### What the scanner does with a piece -/

/-- The names of the calls that the scanner notes. -/
def Mode.calls (mode : Mode) : List Char → List String
  | [] => []
  | c :: rest => (mode.callAt (c :: rest)).toList ++ (mode.advance c).calls rest

theorem map_scan (mode : Mode) (line : Nat) (text : List Char) :
    (scan mode line text).map (·.1) = mode.calls text := by
  induction text generalizing mode line with
  | nil => cases mode <;> rfl
  | cons c rest ih =>
      rw [scan_cons, List.map_append, ih, Mode.calls]
      cases mode.callAt (c :: rest) <;> rfl

theorem isBlank_plain {c : Char} (hblank : Text.isBlank c = true) :
    isWordChar c = false ∧ isMark c = false ∧ c ≠ '/' ∧ c ≠ '(' := by
  have hcode : c.toNat ∈ List.range' 9 5 ++ [0x20, 0x85, 0xa0, 0x1680] ++
      List.range' 0x2000 11 ++ [0x2028, 0x2029, 0x202f, 0x205f, 0x3000] := by
    simp only [Text.isBlank, Bool.or_eq_true, Bool.and_eq_true, decide_eq_true_eq,
      beq_iff_eq] at hblank
    simp only [List.mem_append, List.mem_range'_1, List.mem_cons, List.not_mem_nil]
    omega
  have hplain : ∀ n ∈ List.range' 9 5 ++ [0x20, 0x85, 0xa0, 0x1680] ++
      List.range' 0x2000 11 ++ [0x2028, 0x2029, 0x202f, 0x205f, 0x3000],
      isWordChar (Char.ofNat n) = false ∧ isMark (Char.ofNat n) = false ∧
        Char.ofNat n ≠ '/' ∧ Char.ofNat n ≠ '(' := by decide +kernel
  have hchar := hplain c.toNat hcode
  rwa [Char.ofNat_toNat] at hchar

theorem not_isWordStart {c : Char} (hc : isWordChar c = false) : isWordStart c = false :=
  Bool.eq_false_iff.mpr fun hstart => by
    rw [isWordStart_isWordChar hstart] at hc
    cases hc

namespace Mode

/-- In code, only a word that the character before belongs to and a slash there matter. -/
theorem calls_code {inWord afterSlash : Bool} {text : List Char}
    (hword : inWord = true → text.head?.any isWordChar = false)
    (hslash : afterSlash = true → text.head? ≠ some '/' ∧ text.head? ≠ some '*') :
    (code inWord afterSlash).calls text = start.calls text := by
  cases text with
  | nil => rfl
  | cons c rest =>
      have hcall : (code inWord afterSlash).callAt (c :: rest) = start.callAt (c :: rest) := by
        cases inWord with
        | false => rfl
        | true =>
            have hstart := not_isWordStart (hword rfl)
            rw [callAt_of_not_start _ hstart, callAt_of_not_start _ hstart]
      have hbreak : (inWord && isWordChar c) = false := by
        cases inWord with
        | false => rfl
        | true => exact hword rfl
      have hcode : (afterSlash && c == '/') = false ∧ (afterSlash && c == '*') = false := by
        cases afterSlash with
        | false => exact ⟨rfl, rfl⟩
        | true => simpa using hslash rfl
      rw [calls, calls, hcall]
      simp only [start, advance, hbreak, hcode, Bool.false_and]

/-- A character that is neither in a word nor a mark is passed over. -/
theorem calls_start_cons {c : Char} (hstart : isWordStart c = false) (hmark : isMark c = false)
    (rest : List Char) :
    start.calls (c :: rest) = (code false (c == '/')).calls rest := by
  rw [calls, callAt_of_not_start _ hstart]
  simp [start, advance, hmark, hstart]

/-- A mark begins a literal. -/
theorem calls_start_mark {mark : Char} (hmark : isMark mark = true) (rest : List Char) :
    start.calls (mark :: rest) = (quote mark false).calls rest := by
  have hstart : isWordStart mark = false := Bool.eq_false_iff.mpr fun hstart => by
    rw [(isWordChar_plain (isWordStart_isWordChar hstart)).2.2.2] at hmark
    cases hmark
  rw [calls, callAt_of_not_start _ hstart]
  simp [start, advance, hmark]

/-- Nothing is noted outside code. -/
theorem calls_outside (mode : Mode) (hmode : ∀ text, mode.callAt text = none) (c : Char)
    (rest : List Char) : mode.calls (c :: rest) = (mode.advance c).calls rest := by
  rw [calls, hmode]
  rfl

theorem calls_slash_slash (rest : List Char) :
    start.calls ('/' :: '/' :: rest) = lineComment.calls rest := by
  rw [calls_start_cons (by decide) (by decide), calls, callAt_of_not_start _ (by decide)]
  rfl

theorem calls_slash_star (rest : List Char) :
    start.calls ('/' :: '*' :: rest) = (blockComment false).calls rest := by
  rw [calls_start_cons (by decide) (by decide), calls, callAt_of_not_start _ (by decide)]
  rfl

theorem calls_lineComment {body rest : List Char} (hbody : '\n' ∉ body)
    (hend : rest.head? = none ∨ rest.head? = some '\n') :
    start.calls ('/' :: '/' :: body ++ rest) = start.calls rest := by
  have hline : lineComment.calls (body ++ rest) = lineComment.calls rest := by
    induction body with
    | nil => rfl
    | cons c body ih =>
        have hc : c ≠ '\n' := fun hsame => hbody (by simp [hsame])
        have hmode : lineComment.advance c = lineComment := if_neg hc
        rw [List.cons_append, calls_outside _ fun _ => rfl, hmode]
        exact ih fun hmem => hbody (List.mem_cons_of_mem _ hmem)
  refine ((calls_slash_slash _).trans hline).trans ?_
  cases rest with
  | nil => rfl
  | cons c rest =>
      obtain rfl : c = '\n' := by simpa using hend
      rw [calls_outside _ fun _ => rfl, calls_start_cons (by decide) (by decide)]
      rfl

/-- What neither opens a comment nor closes one is passed over. -/
theorem closes_cons {c : Char} {body : List Char} (hopen : c = '/' → body.head? ≠ some '*')
    (hclose : c = '*' → body.head? ≠ some '/') : closes 1 (c :: body) = closes 1 body := by
  rw [closes]
  · rintro rest hc rfl
    exact hopen hc rfl
  · rintro rest hc rfl
    exact hclose hc rfl

/-- A block comment in which none begins ends where it is closed. The star that may stand before
`body` is not the first half of that. -/
theorem calls_blockComment {afterStar : Bool} {body : List Char} (rest : List Char)
    (hcloses : closes 1 body = true) (hflat : ¬ ['/', '*'] <:+: body)
    (hstar : afterStar = true → body.head? ≠ some '/') :
    (blockComment afterStar).calls (body ++ rest) = start.calls rest := by
  induction body generalizing afterStar with
  | nil => cases hcloses
  | cons c body ih =>
      have hopen : (afterStar && c == '/') = false := by
        cases afterStar with
        | false => rfl
        | true => simpa using hstar rfl
      rw [List.cons_append, calls_outside _ fun _ => rfl, advance, hopen,
        if_neg Bool.false_ne_true]
      by_cases hend : c = '*' ∧ body.head? = some '/'
      · obtain ⟨rfl, hhead⟩ := hend
        obtain ⟨more, rfl⟩ := List.head?_eq_some_iff.mp hhead
        obtain rfl : more = [] := by simpa [closes] using hcloses
        rfl
      · have hslash : c = '/' → body.head? ≠ some '*' := by
          rintro rfl hhead
          obtain ⟨more, rfl⟩ := List.head?_eq_some_iff.mp hhead
          exact hflat ⟨[], more, rfl⟩
        have hstar' : c = '*' → body.head? ≠ some '/' := fun hc hhead => hend ⟨hc, hhead⟩
        rw [closes_cons hslash hstar'] at hcloses
        refine ih hcloses (fun hinner => hflat (hinner.trans (List.suffix_cons c body).isInfix))
          fun hc => hstar' (eq_of_beq hc)

/-- A literal between double or single quotes ends at its mark. -/
theorem calls_quoted {mark : Char} {body : List Char} (hmark : mark ≠ '\\')
    (hbody : isQuotable mark body = true) (rest : List Char) :
    (quote mark false).calls (body ++ mark :: rest) = start.calls rest := by
  fun_induction isQuotable mark body with
  | case1 =>
      rw [List.nil_append, calls_outside _ fun _ => rfl, advance, if_pos rfl]
      rfl
  | case2 => cases hbody
  | case3 c body ih =>
      have hescape : (quote mark false).advance '\\' = quote mark true := by
        simp [advance, hmark.symm]
      rw [List.cons_append, List.cons_append, calls_outside _ fun _ => rfl, hescape,
        calls_outside _ fun _ => rfl]
      exact ih hbody
  | case4 c body hlone hpair ih =>
      rw [Bool.and_eq_true, bne_iff_ne] at hbody
      have hc : c ≠ '\\' := by
        rintro rfl
        cases body with
        | nil => exact hlone rfl rfl
        | cons d body => exact hpair d body rfl rfl
      have hstay : (quote mark false).advance c = quote mark false := by
        simp [advance, hbody.1, hc]
      rw [List.cons_append, calls_outside _ fun _ => rfl, hstay]
      exact ih hbody.2

/-- A literal between backquotes ends at a single backquote, unless a backslash stands before it. A
doubled one ends it as well, but begins another one. -/
theorem calls_template {odd : Bool} {body : List Char} (hticked : isTicked odd body = true)
    (hplain : isUnslashed body = true) (rest : List Char) :
    (if odd then start else quote Script.backquote false).calls
      (body ++ Script.backquote :: rest) = start.calls rest := by
  have hmark : isMark Script.backquote = true := by decide
  fun_induction isUnslashed body generalizing odd with
  | case1 =>
      obtain rfl : odd = false := by simpa [isTicked] using hticked
      rfl
  | case2 => cases hplain
  | case3 c body ih =>
      rw [Bool.and_eq_true, bne_iff_ne] at hplain
      have hne : '\\' ≠ Script.backquote := by decide
      rw [isTicked, if_neg hne, Bool.and_eq_true, isTicked, if_neg hplain.1, Bool.not_false,
        Bool.true_and] at hticked
      obtain ⟨hodd, hticked⟩ := hticked
      obtain rfl : odd = false := by simpa using hodd
      have hescape : (quote Script.backquote false).advance '\\' =
          quote Script.backquote true := rfl
      have hnext := ih hticked hplain.2
      rw [if_neg Bool.false_ne_true] at hnext ⊢
      rw [List.cons_append, List.cons_append, calls_outside _ fun _ => rfl, hescape,
        calls_outside _ fun _ => rfl]
      exact hnext
  | case4 c body hlone hpair ih =>
      have hc : c ≠ '\\' := by
        rintro rfl
        cases body with
        | nil => exact hlone rfl rfl
        | cons d body => exact hpair d body rfl rfl
      rw [isTicked] at hticked
      split at hticked
      · subst c
        have hnext := ih hticked hplain
        cases odd with
        | true => exact (calls_start_mark hmark _).trans hnext
        | false => exact hnext
      · rename_i hne
        rw [Bool.and_eq_true] at hticked
        obtain rfl : odd = false := by simpa using hticked.1
        have hstay : (quote Script.backquote false).advance c = quote Script.backquote false := by
          simp [advance, hne, hc]
        have hnext := ih hticked.2 hplain
        rw [if_neg Bool.false_ne_true] at hnext ⊢
        rw [List.cons_append, calls_outside _ fun _ => rfl, hstay]
        exact hnext

theorem calls_word {name rest : List Char} (hname : name.all isWordChar = true)
    (hend : rest.head?.any isWordChar = false) :
    (code true false).calls (name ++ rest) = start.calls rest := by
  induction name with
  | nil => exact calls_code (fun _ => hend) nofun
  | cons c name ih =>
      rw [List.all_cons, Bool.and_eq_true] at hname
      have hmode : (code true false).advance c = code true false := by simp [advance, hname.1]
      rw [List.cons_append, calls, hmode]
      exact ih hname.2

/-- Behind the characters of a word stands what does not begin with one. -/
theorem span_word {name rest : List Char} (hname : name.all isWordChar = true)
    (hend : rest.head?.any isWordChar = false) :
    (name ++ rest).takeWhile isWordChar = name ∧ (name ++ rest).dropWhile isWordChar = rest := by
  rw [List.all_eq_true] at hname
  rw [List.takeWhile_append_of_pos hname, List.dropWhile_append_of_pos hname]
  cases rest with
  | nil => simp
  | cons c rest =>
      have hc : isWordChar c = false := hend
      simp [hc]

/-- A word is noted as a call if a parenthesis is opened behind it. -/
theorem calls_start_word {c : Char} {name rest : List Char} (hstart : isWordStart c = true)
    (hname : name.all isWordChar = true) (hend : rest.head?.any isWordChar = false) :
    start.calls (c :: name ++ rest) =
      (if opensCall rest then [String.ofList (c :: name)] else []) ++ start.calls rest := by
  obtain ⟨htake, hdrop⟩ := span_word hname hend
  have hmode : start.advance c = code true false := by
    obtain ⟨-, -, -, hmark⟩ := isWordChar_plain (isWordStart_isWordChar hstart)
    simp [start, advance, hmark, hstart]
  have hcall : start.callAt (c :: (name ++ rest)) =
      if opensCall rest then some (String.ofList (c :: name)) else none := by
    simp [start, callAt, hstart, htake, hdrop]
  rw [List.cons_append, calls, hcall, hmode, calls_word hname hend]
  cases opensCall rest <;> rfl

/-- A number is passed over, unless letters in it with a parenthesis behind them look like a call. -/
theorem calls_number {digits rest : List Char} (hdigits : digits.all isWordChar = true)
    (hend : rest.head?.any isWordChar = false)
    (hplain : digits.any isWordStart = true → opensCall rest = false) :
    start.calls (digits ++ rest) = start.calls rest := by
  induction digits with
  | nil => rfl
  | cons c digits ih =>
      rw [List.all_cons, Bool.and_eq_true] at hdigits
      rw [List.any_cons, Bool.or_eq_true] at hplain
      cases hstart : isWordStart c with
      | true =>
          rw [calls_start_word hstart hdigits.2 hend, hplain (.inl hstart)]
          rfl
      | false =>
          obtain ⟨-, hslash, -, hmark⟩ := isWordChar_plain hdigits.1
          rw [List.cons_append, calls_start_cons hstart hmark, beq_eq_false_iff_ne.mpr hslash]
          exact ih hdigits.2 fun hany => hplain (.inr hany)

end Mode

/-! ### What the scanner does with a text -/

namespace Piece

theorem text_cons (piece : Piece) (rest : List Piece) :
    text (piece :: rest) = piece.write ++ text rest := List.flatMap_cons

theorem opensCall_cons (c : Char) (rest : List Char) :
    opensCall (c :: rest) = if c == ' ' || c == '\t' then opensCall rest else c == '(' := by
  unfold opensCall
  cases hc : c == ' ' || c == '\t' <;> simp [hc]

/-- What begins with neither a space, a tab nor a parenthesis opens no call. -/
theorem not_opensCall {c : Char} (hc : (c == ' ' || c == '\t' || c == '(') = false)
    (rest : List Char) : opensCall (c :: rest) = false := by
  rw [Bool.or_eq_false_iff] at hc
  rw [opensCall_cons, hc.1, if_neg Bool.false_ne_true, hc.2]

theorem not_opensCall_word {c : Char} (hc : isWordChar c = true) (rest : List Char) :
    opensCall (c :: rest) = false := by
  refine not_opensCall ?_ rest
  simp only [Bool.or_eq_false_iff, beq_eq_false_iff_ne]
  refine ⟨⟨?_, ?_⟩, ?_⟩ <;>
    · rintro rfl
      revert hc
      decide

/-- A parenthesis is opened in a text if it is among its pieces, behind spaces and tabs. -/
theorem opensCall_text {pieces : List Piece} (hpieces : WellFormed pieces) :
    opensCall (text pieces) = adjoins pieces := by
  induction pieces with
  | nil => rfl
  | cons piece rest ih =>
      obtain ⟨hsound, hends, hrest⟩ := hpieces
      rw [text_cons]
      cases piece with
      | blank c =>
          rw [write, List.singleton_append, opensCall_cons, ih hrest, adjoins,
            beq_eq_false_iff_ne.mpr (isBlank_plain hsound).2.2.2]
          cases c == ' ' || c == '\t' <;> rfl
      | symbol c =>
          have hblank : (c == ' ' || c == '\t') = false := by
            rw [Bool.or_eq_false_iff, beq_eq_false_iff_ne, beq_eq_false_iff_ne]
            constructor <;>
              · rintro rfl
                cases hsound.2.2
          rw [write, List.singleton_append, opensCall_cons, hblank]
          rfl
      | quoted mark body =>
          obtain ⟨rfl | rfl, -⟩ := hsound <;> rfl
      | word name =>
          cases name with
          | nil => cases hsound.1
          | cons c name => exact not_opensCall_word (isWordStart_isWordChar hsound.1) _
      | number digits =>
          obtain ⟨hne, -, hdigits⟩ := hsound
          cases digits with
          | nil => exact absurd rfl hne
          | cons c digits =>
              rw [List.all_cons, Bool.and_eq_true] at hdigits
              exact not_opensCall_word hdigits.1 _
      | _ => rfl

theorem opens_of_adjoins {pieces : List Piece} (hadjoins : adjoins pieces = true) :
    opens pieces = true := by
  induction pieces with
  | nil => cases hadjoins
  | cons piece rest ih =>
      cases piece with
      | blank c =>
          rw [adjoins, Bool.and_eq_true] at hadjoins
          exact ih hadjoins.2
      | symbol c => exact hadjoins
      | _ => cases hadjoins

/-- The scanner notes the words that are called, in their order. -/
theorem calls_text {pieces : List Piece} (hpieces : WellFormed pieces) (hplain : Plain pieces) :
    Mode.start.calls (text pieces) = called pieces := by
  induction pieces with
  | nil => rfl
  | cons piece rest ih =>
      obtain ⟨hsound, hends, hrest⟩ := hpieces
      obtain ⟨hkind, hplain⟩ := hplain
      have hnext := ih hrest hplain
      rw [text_cons]
      cases piece with
      | blank c =>
          obtain ⟨hword, hmark, hslash, -⟩ := isBlank_plain hsound
          refine Eq.trans ?_ hnext
          rw [write, List.singleton_append, Mode.calls_start_cons (not_isWordStart hword) hmark,
            beq_eq_false_iff_ne.mpr hslash]
          rfl
      | lineComment body =>
          exact (Mode.calls_lineComment hsound hends).trans hnext
      | blockComment body =>
          exact ((Mode.calls_slash_star _).trans
            (Mode.calls_blockComment _ hsound hkind nofun)).trans hnext
      | quoted mark body =>
          obtain ⟨hmark, hbody⟩ := hsound
          have hplain : isMark mark = true ∧ mark ≠ '\\' := by
            rcases hmark with rfl | rfl <;> decide
          refine Eq.trans ?_ hnext
          rw [write, List.append_assoc, List.cons_append, Mode.calls_start_mark hplain.1]
          exact Mode.calls_quoted hplain.2 hbody _
      | template body =>
          refine Eq.trans ?_ hnext
          rw [write, List.append_assoc, List.cons_append, Mode.calls_start_mark (by decide)]
          exact Mode.calls_template hsound hkind _
      | word name =>
          obtain ⟨hstart, hname⟩ := hsound
          have hopens : adjoins rest = opens rest :=
            Bool.eq_iff_iff.mpr ⟨opens_of_adjoins, hkind⟩
          cases name with
          | nil => cases hstart
          | cons c name =>
              rw [List.all_cons, Bool.and_eq_true] at hname
              rw [write, Mode.calls_start_word hstart hname.2 hends, hnext, opensCall_text hrest,
                hopens]
              rfl
      | number digits =>
          exact (Mode.calls_number hsound.2.2 hends fun hany =>
            (opensCall_text hrest).trans (hkind hany)).trans hnext
      | symbol c =>
          obtain ⟨hword, hmark, -⟩ := hsound
          refine Eq.trans ?_ hnext
          rw [write, List.singleton_append, Mode.calls_start_cons (not_isWordStart hword) hmark]
          exact Mode.calls_code nofun fun hslash => hends (eq_of_beq hslash)

end Piece

/-! ### What is called and what is refused -/

/-- The functions in the table are those whose calls are noted. -/
theorem has_calledFunctions (text : List Char) (name : String) :
    (calledFunctions text).has name = true ↔ name ∈ Mode.start.calls text := by
  have hname : ∀ (called : String) (line other : Nat),
      (if called = name then some line else none).isSome =
        (if called = name then some other else none).isSome := by
    intro called line other
    split <;> rfl
  unfold calledFunctions calls
  rw [Table.has, get?_eq_findSome?, findSome?_tabled hname, List.nil_append,
    List.findSome?_isSome_iff, ← map_scan Mode.start 1, List.mem_map]
  refine exists_congr fun entry => and_congr_right fun _ => ?_
  by_cases hentry : entry.1 = name <;> simp [hentry]

/-- Sources pass the check if they call no function that they are refused. -/
theorem checkAccess_eq_ok_iff (prepared : Prepared) (granted : AccessMask)
    (restricted : Table String AccessMask) :
    checkAccess prepared granted restricted = .ok () ↔
      ∀ name, (calledFunctions prepared.combined).has name = true →
        ∀ required, ¬ Refused restricted granted name required := by
  have hnone : checkAccess prepared granted restricted = .ok () ↔
      firstViolation restricted granted prepared.combined = none := by
    unfold checkAccess
    split <;> simp [*]
  rw [hnone]
  constructor
  · intro hallowed name hcalled required
    obtain ⟨line, hline⟩ := (Table.has_eq_true_iff _ name).mp hcalled
    have hentry := List.findSome?_eq_none_iff.mp hallowed _ (Table.mem_of_get? _ hline)
    exact violation_eq_none_iff.mp hentry required
  · intro hallowed
    refine List.findSome?_eq_none_iff.mpr fun entry hentry => ?_
    have hcalled : (calledFunctions prepared.combined).has entry.1 = true :=
      (Table.mem_keys_iff _ _).mp (List.mem_map_of_mem hentry)
    exact violation_eq_none_iff.mpr (hallowed entry.1 hcalled)

/-- The scanner finds exactly the functions that are called, if it takes each piece of the text for
what it is; and sources of such a text pass the check if and only if they call no function that they
are refused. -/
theorem calledFunctions_exact (pieces : List Piece) (hpieces : Piece.WellFormed pieces)
    (hplain : Piece.Plain pieces) :
    (∀ name, (calledFunctions (Piece.text pieces)).has name = true ↔
      name ∈ Piece.called pieces) ∧
    ∀ (prepared : Prepared) (granted : AccessMask) (restricted : Table String AccessMask),
      prepared.combined = Piece.text pieces →
      (checkAccess prepared granted restricted = .ok () ↔ ∀ name ∈ Piece.called pieces,
        ∀ required, ¬ Refused restricted granted name required) := by
  have hcalled : ∀ name, (calledFunctions (Piece.text pieces)).has name = true ↔
      name ∈ Piece.called pieces := by
    intro name
    rw [has_calledFunctions, Piece.calls_text hpieces hplain]
  refine ⟨hcalled, fun prepared granted restricted htext => ?_⟩
  rw [checkAccess_eq_ok_iff, htext]
  simp only [hcalled]

/-- A text with comments and literals around its calls. -/
def scanned : List Piece :=
  [.lineComment " read(1)".toList, .blank '\n', .word "foo".toList, .blank ' ', .symbol '(',
    .quoted '"' "log(".toList, .symbol ')', .symbol ';', .blockComment " bar() */".toList,
    .word "obj".toList, .symbol '.', .word "baz".toList, .symbol '(', .number "0x2".toList,
    .symbol ')']

theorem calledFunctions_exact_scanned :
    Piece.WellFormed scanned ∧ Piece.Plain scanned ∧ Piece.called scanned = ["foo", "baz"] ∧
      ∀ name, (calledFunctions (Piece.text scanned)).has name = true ↔
        name ∈ ["foo", "baz"] := by
  have hpieces : Piece.WellFormed scanned := by decide +kernel
  have hplain : Piece.Plain scanned := by decide +kernel
  have hcalled : Piece.called scanned = ["foo", "baz"] := by decide +kernel
  exact ⟨hpieces, hplain, hcalled, hcalled ▸ (calledFunctions_exact scanned hpieces hplain).1⟩

/-- A call with a line end before its parenthesis. -/
def parted : List Piece :=
  [.word "secret".toList, .blank '\n', .symbol '(', .symbol ')', .blank '\n']

/-- A call whose parenthesis is on the next line is not found, and sources with it pass the check
although the call is refused. -/
theorem parted_call_is_not_found :
    (¬ ∀ pieces, Piece.WellFormed pieces → ∀ name,
      (calledFunctions (Piece.text pieces)).has name = true ↔ name ∈ Piece.called pieces) ∧
    ∃ prepared : Prepared, prepared.combined = Piece.text parted ∧
      "secret" ∈ Piece.called parted ∧
      Refused [("secret", .filesOnly)] .moduleDefault "secret" .filesOnly ∧
      checkAccess prepared .moduleDefault [("secret", .filesOnly)] = .ok () := by
  have hpieces : Piece.WellFormed parted := by decide +kernel
  have hcalled : "secret" ∈ Piece.called parted := by decide +kernel
  have hmissed : (calledFunctions (Piece.text parted)).has "secret" = false := by decide +kernel
  have hempty : calledFunctions (Piece.text parted) = [] := by decide +kernel
  refine ⟨fun hall => ?_, ⟨⟨[.inline "m.rhai" 1 "secret\n()"]⟩, []⟩, by decide +kernel, hcalled,
    ⟨rfl, rfl⟩, ?_⟩
  · have hfound := (hall parted hpieces "secret").mpr hcalled
    rw [hmissed] at hfound
    cases hfound
  · have htext : (⟨⟨[.inline "m.rhai" 1 "secret\n()"]⟩, []⟩ : Prepared).combined =
        Piece.text parted := by decide +kernel
    rw [checkAccess_eq_ok_iff, htext, hempty]
    simp [Table.has, Table.get?]

end ScriptHost.CallScan
