import Mathlib.Data.List.TakeDrop
import ScriptHost.Json.Parser
import ScriptHost.Proofs.Trimming

/-!
How JSON values are written. The choices that a writer has are kept in a draft: the blanks between
tokens, how each character of a string is spelled, the form of a number. A draft has a text, and a
value that it is written for. Here are the parts of drafts that hold no further values, which the
scanners read back, and of which every text that they read is made.
-/

namespace ScriptHost.Json

/-! ### Blanks -/

/-- Blanks between tokens. -/
structure Spaces where
  text : List Char
  space : ∀ c ∈ text, isSpace c = true

instance : Inhabited Spaces := ⟨⟨[], by simp⟩⟩

theorem skipSpace_append (spaces : Spaces) (text : List Char) :
    skipSpace (spaces.text ++ text) = skipSpace text := by
  unfold skipSpace
  rw [List.dropWhile_append, Text.dropWhile_eq_nil_of_all spaces.space]
  rfl

theorem skipSpace_cons {c : Char} (hc : isSpace c = false) (rest : List Char) :
    skipSpace (c :: rest) = c :: rest :=
  Text.dropWhile_cons_kept hc rest

theorem skipSpace_idem (text : List Char) : skipSpace (skipSpace text) = skipSpace text :=
  List.dropWhile_idempotent isSpace text

/-- A text is the blanks in front of it and what is left without them. -/
theorem exists_spaces {text rest : List Char} (htext : skipSpace text = rest) :
    ∃ spaces : Spaces, text = spaces.text ++ rest := by
  subst htext
  exact ⟨⟨text.takeWhile isSpace, fun _ hc => List.mem_takeWhile_imp hc⟩,
    List.takeWhile_append_dropWhile.symm⟩

/-! ### Strings -/

/-- One step in the spelling of a string: a character as it is, behind a backslash, or by the four
hexadecimal digits of its code or of half of it. -/
inductive Glyph
  | plain (c : Char) (hplain : 0x20 ≤ c.toNat ∧ c ≠ '"' ∧ c ≠ '\\')
  | letter (c value : Char) (hvalue : escapeValue? c = some value)
  | code (a b c d : Char) (value : Nat) (hvalue : hex4? a b c d = some value)

namespace Glyph

/-- A step as it is written. -/
def text : Glyph → List Char
  | plain c _ => [c]
  | letter c _ _ => ['\\', c]
  | code a b c d _ _ => ['\\', 'u', a, b, c, d]

/-- What a step is written for. -/
def item : Glyph → StringItem
  | plain c _ => .char c
  | letter _ value _ => .char value
  | code _ _ _ _ value _ => .unit value

/-- A spelling of a string between quotes. -/
def quoted (glyphs : List Glyph) : List Char :=
  '"' :: (glyphs.flatMap text ++ ['"'])

/-- The text that a spelling stands for, if its codes form characters. -/
def spelled? (glyphs : List Glyph) : Option String :=
  (decodeItems (glyphs.map item)).map String.ofList

end Glyph

theorem escapeValue?_u : escapeValue? 'u' = none := by decide

theorem scanString_glyphs (glyphs : List Glyph) (rest : List Char) :
    scanString (glyphs.flatMap Glyph.text ++ '"' :: rest) =
      some (glyphs.map Glyph.item, rest) := by
  induction glyphs with
  | nil => simp [scanString]
  | cons glyph glyphs ih =>
      rw [List.flatMap_cons, List.append_assoc, List.map_cons]
      generalize glyphs.flatMap Glyph.text ++ '"' :: rest = text at ih
      cases glyph with
      | plain c hplain =>
          obtain ⟨hcode, hquote, hslash⟩ := hplain
          have hcode : ¬ c.toNat < 0x20 := by omega
          simp [Glyph.text, Glyph.item, scanString, hslash, hcode, ih]
      | letter c value hvalue =>
          have hu : c ≠ 'u' := by
            rintro rfl
            rw [escapeValue?_u] at hvalue
            cases hvalue
          simp [Glyph.text, Glyph.item, scanString, hu, hvalue, ih]
      | code a b c d value hvalue =>
          simp [Glyph.text, Glyph.item, scanString, hvalue, ih]

theorem exists_glyphs_of_scanString {text rest : List Char} {items : List StringItem}
    (hscan : scanString text = some (items, rest)) :
    ∃ glyphs : List Glyph, text = glyphs.flatMap Glyph.text ++ '"' :: rest ∧
      glyphs.map Glyph.item = items := by
  induction text using scanString.induct generalizing items rest with
  | case1 => cases hscan
  | case2 rest' =>
      cases hscan
      exact ⟨[], rfl, rfl⟩
  | case3 a b c d rest' ih =>
      rw [scanString, Option.bind_eq_some_iff] at hscan
      obtain ⟨code, hcode, hscan⟩ := hscan
      obtain ⟨⟨more, after⟩, hrest, heq⟩ := Option.map_eq_some_iff.mp hscan
      cases heq
      obtain ⟨glyphs, rfl, rfl⟩ := ih hrest
      exact ⟨.code a b c d code hcode :: glyphs, by simp [Glyph.text], rfl⟩
  | case4 c rest' hnot ih =>
      rw [scanString, Option.bind_eq_some_iff] at hscan
      · obtain ⟨value, hvalue, hscan⟩ := hscan
        obtain ⟨⟨more, after⟩, hrest, heq⟩ := Option.map_eq_some_iff.mp hscan
        cases heq
        obtain ⟨glyphs, rfl, rfl⟩ := ih hrest
        exact ⟨.letter c value hvalue :: glyphs, by simp [Glyph.text], rfl⟩
      · exact hnot
  | case5 c rest' hquote hcode hescape hbad =>
      rw [scanString, if_pos hbad] at hscan
      · cases hscan
      · exact hquote
      · exact hcode
      · exact hescape
  | case6 c rest' hquote hcode hescape hgood ih =>
      rw [scanString, if_neg hgood] at hscan
      · obtain ⟨⟨more, after⟩, hrest, heq⟩ := Option.map_eq_some_iff.mp hscan
        cases heq
        obtain ⟨glyphs, rfl, rfl⟩ := ih hrest
        rw [not_or] at hgood
        refine ⟨.plain c ⟨by omega, hquote, hgood.2⟩ :: glyphs,
          by simp [Glyph.text], rfl⟩
      · exact hquote
      · exact hcode
      · exact hescape

theorem scanText_glyphs (glyphs : List Glyph) (rest : List Char) :
    scanText (glyphs.flatMap Glyph.text ++ '"' :: rest) = some (Glyph.spelled? glyphs, rest) := by
  rw [scanText, scanString_glyphs]
  rfl

theorem exists_glyphs_of_scanText {text rest : List Char} {value : Option String}
    (hscan : scanText text = some (value, rest)) :
    ∃ glyphs : List Glyph, text = glyphs.flatMap Glyph.text ++ '"' :: rest ∧
      Glyph.spelled? glyphs = value := by
  obtain ⟨⟨items, after⟩, hstring, heq⟩ := Option.map_eq_some_iff.mp hscan
  cases heq
  obtain ⟨glyphs, htext, rfl⟩ := exists_glyphs_of_scanString hstring
  exact ⟨glyphs, htext, rfl⟩

/-- Items that spell a text: each character by itself, or by its code, or by the two halves of a code
that four digits cannot hold. -/
inductive Spells : List StringItem → List Char → Prop
  | nil : Spells [] []
  | char {items : List StringItem} {text : List Char} (c : Char) (hrest : Spells items text) :
      Spells (.char c :: items) (c :: text)
  | unit {items : List StringItem} {text : List Char} (c : Char) (hc : c.toNat < 0x10000)
      (hrest : Spells items text) : Spells (.unit c.toNat :: items) (c :: text)
  | pair {items : List StringItem} {text : List Char} (c : Char) (hc : 0x10000 ≤ c.toNat)
      (hrest : Spells items text) :
      Spells (.unit (0xd800 + (c.toNat - 0x10000) / 0x400) ::
        .unit (0xdc00 + (c.toNat - 0x10000) % 0x400) :: items) (c :: text)

/-- The code of a character is not half of one. -/
theorem decodeItems_unit {code : Nat} (hcode : ¬ (0xd800 ≤ code ∧ code < 0xe000))
    (items : List StringItem) :
    decodeItems (.unit code :: items) = (decodeItems items).map (Char.ofNat code :: ·) := by
  rcases items with _ | ⟨_ | low, items⟩
  · simp only [decodeItems, if_neg hcode]
  · simp only [decodeItems, if_neg hcode]
  · rw [decodeItems, if_neg (by omega), if_neg (by omega)]

/-- The text that items spell is the one that they are read as. -/
theorem Spells.decodeItems {items : List StringItem} {text : List Char}
    (hspells : Spells items text) : decodeItems items = some text := by
  induction hspells with
  | nil => rfl
  | char c _ ih => rw [Json.decodeItems, ih, Option.map_some]
  | unit c hc _ ih =>
      have hvalid := c.valid
      rw [decodeItems_unit, ih, Option.map_some, Char.ofNat_toNat]
      unfold UInt32.isValidChar Nat.isValidChar at hvalid
      rw [Char.toNat]
      omega
  | pair c hc _ ih =>
      have hbound : c.toNat < 0x110000 := by
        have hvalid := c.valid
        unfold UInt32.isValidChar Nat.isValidChar at hvalid
        rw [Char.toNat]
        omega
      have hcode : 0x10000 + (0xd800 + (c.toNat - 0x10000) / 0x400 - 0xd800) * 0x400 +
          (0xdc00 + (c.toNat - 0x10000) % 0x400 - 0xdc00) = c.toNat := by omega
      rw [Json.decodeItems, if_pos (by omega), if_pos (by omega), ih, Option.map_some, hcode,
        Char.ofNat_toNat]

/-! ### Numbers -/

/-- Digits, of which there is one at least. -/
structure Digits where
  text : List Char
  some : text ≠ []
  digit : ∀ c ∈ text, c.isDigit = true

/-- The exponent of a number. -/
structure Exponent where
  mark : Char
  marked : mark = 'e' ∨ mark = 'E'
  sign : List Char
  signed : sign = [] ∨ sign = ['+'] ∨ sign = ['-']
  digits : Digits

/-- A number. -/
structure Numeral where
  negative : Bool
  whole : Digits
  leading : whole.text.length > 1 → whole.text.head? ≠ Option.some '0'
  fraction : Option Digits
  exponent : Option Exponent

/-- An exponent as it is written. -/
def Exponent.text (exponent : Exponent) : List Char :=
  exponent.mark :: (exponent.sign ++ exponent.digits.text)

namespace Numeral

/-- What is written behind the digits of a number. -/
def tail (numeral : Numeral) : List Char :=
  (numeral.fraction.map fun digits => '.' :: digits.text).getD [] ++
    (numeral.exponent.map Exponent.text).getD []

/-- A number as it is written. -/
def text (numeral : Numeral) : List Char :=
  (if numeral.negative then ['-'] else []) ++ numeral.whole.text ++ numeral.tail

/-- The value that a number is written for. -/
def json (numeral : Numeral) : Json :=
  if numeral.negative || numeral.fraction.isSome || numeral.exponent.isSome then .otherNumber
  else .natural (decimalValue numeral.whole.text)

end Numeral

/-- Whether a text begins with something that ends a value: a blank, a comma or a closing bracket. -/
def Stops (rest : List Char) : Prop :=
  ∀ c, rest.head? = some c → isSpace c = true ∨ c = ',' ∨ c = ']' ∨ c = '\x7d'

theorem scanDigits_append (digits : Digits) {rest : List Char}
    (hrest : ∀ c, rest.head? = some c → c.isDigit = false) :
    scanDigits (digits.text ++ rest) = some (digits.text, rest) := by
  have htake : (digits.text ++ rest).takeWhile Char.isDigit = digits.text := by
    rw [List.takeWhile_append_of_pos digits.digit]
    cases rest with
    | nil => simp
    | cons c more => simp [hrest c rfl]
  have hdrop : (digits.text ++ rest).dropWhile Char.isDigit = rest :=
    Text.dropWhile_append_of_all digits.digit (Text.dropWhile_eq_self_of_head? hrest)
  unfold scanDigits
  rw [List.span_eq_takeWhile_dropWhile, htake, hdrop]
  cases htext : digits.text with
  | nil => exact absurd htext digits.some
  | cons c more => rfl

theorem exists_digits_of_scanDigits {text found rest : List Char}
    (hscan : scanDigits text = some (found, rest)) :
    ∃ digits : Digits, digits.text = found ∧ text = found ++ rest := by
  unfold scanDigits at hscan
  rw [List.span_eq_takeWhile_dropWhile] at hscan
  split at hscan
  · cases hscan
  · rename_i digits after hnone hspan
    cases hscan
    obtain ⟨hfound, hrest⟩ := Prod.mk.inj hspan
    refine ⟨⟨found, fun hnil => ?_, fun c hc => ?_⟩, rfl, ?_⟩
    · subst hnil
      exact hnone rfl
    · rw [← hfound] at hc
      exact List.mem_takeWhile_imp hc
    · rw [← hfound, ← hrest, List.takeWhile_append_dropWhile]

/-- What ends a value ends its digits, its fraction and its exponent. -/
theorem Stops.not_number {rest : List Char} (hstops : Stops rest) {c : Char}
    (hc : rest.head? = some c) : c.isDigit = false ∧ c ≠ '.' ∧ c ≠ 'e' ∧ c ≠ 'E' := by
  rcases hstops c hc with hspace | rfl | rfl | rfl
  · simp only [isSpace, Bool.or_eq_true, beq_iff_eq] at hspace
    rcases hspace with ((rfl | rfl) | rfl) | rfl <;> decide
  · decide
  · decide
  · decide

theorem scanExponent_append (exponent : Option Exponent) {rest : List Char}
    (hstops : Stops rest) :
    scanExponent ((exponent.map Exponent.text).getD [] ++ rest) = some (exponent.isSome, rest) := by
  cases exponent with
  | none =>
      cases rest with
      | nil => rfl
      | cons c more =>
          obtain ⟨-, -, hlower, hupper⟩ := hstops.not_number (c := c) rfl
          simp [scanExponent, hlower, hupper]
  | some exponent =>
      obtain ⟨mark, hmark, sign, hsign, digits⟩ := exponent
      have hdigits := scanDigits_append digits fun c hc => (hstops.not_number hc).1
      have hunsigned : ∀ c after, digits.text ++ rest = c :: after → c.isDigit = true := by
        intro c after htext
        refine digits.digit c (List.mem_of_head? ?_)
        rw [← List.head?_append_of_ne_nil _ digits.some, htext]
        rfl
      unfold scanExponent
      dsimp only [Option.map_some, Option.getD_some, Exponent.text, List.cons_append]
      rw [if_pos hmark, List.append_assoc]
      rcases hsign with rfl | rfl | rfl
      · rw [List.nil_append]
        split
        · rename_i after hplus
          cases hunsigned '+' after hplus
        · rename_i after hminus
          cases hunsigned '-' after hminus
        · rw [hdigits]
          rfl
      · exact congrArg _ hdigits
      · exact congrArg _ hdigits

theorem scanFraction_append (fraction : Option Digits) {rest : List Char}
    (hrest : ∀ c, rest.head? = some c → c.isDigit = false ∧ c ≠ '.') :
    scanFraction ((fraction.map fun digits => '.' :: digits.text).getD [] ++ rest) =
      some (fraction.isSome, rest) := by
  cases fraction with
  | none =>
      cases rest with
      | nil => rfl
      | cons c more => simp [scanFraction, (hrest c rfl).2]
  | some digits =>
      simp [scanFraction, scanDigits_append digits fun c hc => (hrest c hc).1]

namespace Numeral

theorem exponent_head? (numeral : Numeral) {rest : List Char} (hstops : Stops rest) {c : Char}
    (hc : ((numeral.exponent.map Exponent.text).getD [] ++ rest).head? = some c) :
    c.isDigit = false ∧ c ≠ '.' := by
  cases hexponent : numeral.exponent with
  | none =>
      rw [hexponent] at hc
      obtain ⟨hdigit, hdot, -, -⟩ := hstops.not_number hc
      exact ⟨hdigit, hdot⟩
  | some exponent =>
      rw [hexponent] at hc
      obtain rfl : exponent.mark = c := Option.some.inj hc
      rcases exponent.marked with hmark | hmark <;> rw [hmark] <;> decide

/-- What is behind the digits of a number does not begin with a digit. -/
theorem tail_head? (numeral : Numeral) {rest : List Char} (hstops : Stops rest) {c : Char}
    (hc : (numeral.tail ++ rest).head? = some c) : c.isDigit = false := by
  rw [tail, List.append_assoc] at hc
  cases hfraction : numeral.fraction with
  | none =>
      rw [hfraction] at hc
      exact (numeral.exponent_head? hstops hc).1
  | some digits =>
      rw [hfraction] at hc
      obtain rfl : '.' = c := Option.some.inj hc
      decide

end Numeral

/-- Reads a number whose sign is gone. -/
def scanUnsigned (negative : Bool) (text : List Char) : Option (Json × List Char) := do
  let (digits, rest) ← scanDigits text
  if digits.length > 1 ∧ digits.head? = some '0' then none
  else
    let (fraction, rest) ← scanFraction rest
    let (exponent, rest) ← scanExponent rest
    if negative || fraction || exponent then return (.otherNumber, rest)
    else return (.natural (decimalValue digits), rest)

theorem scanNumber_minus (text : List Char) : scanNumber ('-' :: text) = scanUnsigned true text :=
  rfl

theorem scanNumber_unsigned {text : List Char} (htext : text.head? ≠ some '-') :
    scanNumber text = scanUnsigned false text := by
  unfold scanNumber
  split
  rename_i negative unsigned hsign
  split at hsign
  · exact absurd rfl htext
  · cases hsign
    rfl

theorem scanUnsigned_append (numeral : Numeral) {rest : List Char} (hstops : Stops rest) :
    scanUnsigned numeral.negative (numeral.whole.text ++ (numeral.tail ++ rest)) =
      some (numeral.json, rest) := by
  have hdigits := scanDigits_append numeral.whole fun c => numeral.tail_head? hstops
  have hfraction := scanFraction_append numeral.fraction fun c => numeral.exponent_head? hstops
  have hexponent := scanExponent_append numeral.exponent hstops
  have hwhole : ¬ (numeral.whole.text.length > 1 ∧ numeral.whole.text.head? = some '0') :=
    fun hzero => numeral.leading hzero.1 hzero.2
  unfold scanUnsigned Numeral.json
  rw [hdigits, Option.bind_eq_bind, Option.bind_some]
  dsimp only
  rw [if_neg hwhole, Numeral.tail, List.append_assoc, hfraction, Option.bind_eq_bind,
    Option.bind_some]
  dsimp only
  rw [hexponent, Option.bind_some]
  dsimp only
  split <;> rfl

theorem scanNumber_append (numeral : Numeral) {rest : List Char} (hstops : Stops rest) :
    scanNumber (numeral.text ++ rest) = some (numeral.json, rest) := by
  have hunsigned := scanUnsigned_append numeral hstops
  rw [Numeral.text, List.append_assoc, List.append_assoc]
  cases hsign : numeral.negative with
  | true =>
      rw [hsign] at hunsigned
      exact hunsigned
  | false =>
      rw [hsign] at hunsigned
      rw [if_neg Bool.false_ne_true, List.nil_append, scanNumber_unsigned]
      · exact hunsigned
      · rw [List.head?_append_of_ne_nil _ numeral.whole.some]
        intro hminus
        cases numeral.whole.digit '-' (List.mem_of_head? hminus)

theorem exists_exponent_of_scanExponent {text rest : List Char} {found : Bool}
    (hscan : scanExponent text = some (found, rest)) :
    ∃ exponent : Option Exponent, text = (exponent.map Exponent.text).getD [] ++ rest ∧
      exponent.isSome = found := by
  unfold scanExponent at hscan
  split at hscan
  · rename_i c after
    split at hscan
    · rename_i hmark
      dsimp only at hscan
      obtain ⟨⟨digits, behind⟩, hdigits, heq⟩ := Option.map_eq_some_iff.mp hscan
      cases heq
      obtain ⟨digits, rfl, hbehind⟩ := exists_digits_of_scanDigits hdigits
      split at hbehind
      · subst hbehind
        exact ⟨some ⟨c, hmark, ['+'], by simp, digits⟩, by simp [Exponent.text], rfl⟩
      · subst hbehind
        exact ⟨some ⟨c, hmark, ['-'], by simp, digits⟩, by simp [Exponent.text], rfl⟩
      · subst hbehind
        exact ⟨some ⟨c, hmark, [], by simp, digits⟩, by simp [Exponent.text], rfl⟩
    · cases hscan
      exact ⟨none, rfl, rfl⟩
  · cases hscan
    exact ⟨none, rfl, rfl⟩

theorem exists_fraction_of_scanFraction {text rest : List Char} {found : Bool}
    (hscan : scanFraction text = some (found, rest)) :
    ∃ fraction : Option Digits,
      text = (fraction.map fun digits => '.' :: digits.text).getD [] ++ rest ∧
        fraction.isSome = found := by
  unfold scanFraction at hscan
  split at hscan
  · obtain ⟨⟨digits, behind⟩, hdigits, heq⟩ := Option.map_eq_some_iff.mp hscan
    cases heq
    obtain ⟨digits, rfl, rfl⟩ := exists_digits_of_scanDigits hdigits
    exact ⟨some digits, rfl, rfl⟩
  · cases hscan
    exact ⟨none, rfl, rfl⟩

theorem exists_numeral_of_scanUnsigned {negative : Bool} {text rest : List Char} {json : Json}
    (hscan : scanUnsigned negative text = some (json, rest)) :
    ∃ numeral : Numeral, numeral.negative = negative ∧
      text = numeral.whole.text ++ numeral.tail ++ rest ∧ numeral.json = json := by
  unfold scanUnsigned at hscan
  obtain ⟨⟨digits, behind⟩, hdigits, hscan⟩ := Option.bind_eq_some_iff.mp hscan
  dsimp only at hscan
  split at hscan
  · cases hscan
  · rename_i hleading
    obtain ⟨⟨fraction, behind'⟩, hfraction, hscan⟩ := Option.bind_eq_some_iff.mp hscan
    obtain ⟨⟨exponent, behind''⟩, hexponent, hscan⟩ := Option.bind_eq_some_iff.mp hscan
    obtain ⟨whole, rfl, rfl⟩ := exists_digits_of_scanDigits hdigits
    obtain ⟨fraction, rfl, rfl⟩ := exists_fraction_of_scanFraction hfraction
    obtain ⟨exponent, rfl, rfl⟩ := exists_exponent_of_scanExponent hexponent
    refine ⟨⟨negative, whole, fun hlong hzero => hleading ⟨hlong, hzero⟩, fraction, exponent⟩, rfl,
      ?_, ?_⟩
    · dsimp only at hscan
      split at hscan <;> cases hscan <;> simp [Numeral.tail]
    · unfold Numeral.json
      dsimp only at hscan ⊢
      split at hscan
      · rename_i hother
        cases hscan
        rw [if_pos hother]
      · rename_i hnatural
        cases hscan
        rw [if_neg hnatural]

theorem exists_numeral_of_scanNumber {text rest : List Char} {json : Json}
    (hscan : scanNumber text = some (json, rest)) :
    ∃ numeral : Numeral, text = numeral.text ++ rest ∧ numeral.json = json := by
  by_cases hminus : text.head? = some '-'
  · obtain ⟨unsigned, rfl⟩ := List.head?_eq_some_iff.mp hminus
    rw [scanNumber_minus] at hscan
    obtain ⟨numeral, hnegative, rfl, hjson⟩ := exists_numeral_of_scanUnsigned hscan
    exact ⟨numeral, by simp [Numeral.text, hnegative], hjson⟩
  · rw [scanNumber_unsigned hminus] at hscan
    obtain ⟨numeral, hnegative, rfl, hjson⟩ := exists_numeral_of_scanUnsigned hscan
    exact ⟨numeral, by simp [Numeral.text, hnegative], hjson⟩

/-! ### Words -/

theorem scanWord_eq_some_iff {word text rest : List Char} :
    scanWord word text = some rest ↔ text = word ++ rest := by
  induction word generalizing text with
  | nil => simp [scanWord]
  | cons w word ih =>
      cases text with
      | nil => simp [scanWord]
      | cons c text =>
          by_cases hsame : w = c
          · simp [scanWord, hsame, ih]
          · simp [scanWord, hsame, Ne.symm hsame]

end ScriptHost.Json
