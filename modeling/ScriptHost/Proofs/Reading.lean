import ScriptHost.Proofs.Drafting

/-!
Texts that hold a JSON value. A draft says how a value is written, down to each blank and each
escape; arrays and objects hold further drafts. Whatever a draft is written for is read back from its
text, and there are no other texts that a value is read from.
-/

namespace ScriptHost.Json

/-! ### The scanners and blanks in front -/

theorem scanValue_skipSpace (fuel : Nat) (text : List Char) :
    scanValue fuel (skipSpace text) = scanValue fuel text := by
  cases fuel with
  | zero => rfl
  | succ fuel => rw [scanValue, scanValue, skipSpace_idem]

theorem scanItems_skipSpace (fuel : Nat) (text : List Char) :
    scanItems fuel (skipSpace text) = scanItems fuel text := by
  cases fuel with
  | zero => rfl
  | succ fuel => rw [scanItems, scanItems, scanValue_skipSpace]

theorem scanMembers_skipSpace (fuel : Nat) (text : List Char) :
    scanMembers fuel (skipSpace text) = scanMembers fuel text := by
  cases fuel with
  | zero => rfl
  | succ fuel => rw [scanMembers, scanMembers, skipSpace_idem]

theorem scanValue_spaces (fuel : Nat) (spaces : Spaces) (text : List Char) :
    scanValue fuel (spaces.text ++ text) = scanValue fuel text := by
  rw [← scanValue_skipSpace, skipSpace_append, scanValue_skipSpace]

/-! ### Drafts -/

mutual

/-- A value with the choices that were made in writing it. -/
inductive Draft
  | null
  | bool (value : Bool)
  | number (numeral : Numeral)
  | string (glyphs : List Glyph)
  | emptyArray (inside : Spaces)
  | array (items : Items)
  | emptyObject (inside : Spaces)
  | object (members : Members)

/-- The items of an array, of which there is one at least, with the blanks around each of them. -/
inductive Items
  | last (before : Spaces) (item : Draft) (after : Spaces)
  | more (before : Spaces) (item : Draft) (after : Spaces) (rest : Items)

/-- The members of an object, of which there is one at least, with the blanks around each key and
each value. -/
inductive Members
  | last (before : Spaces) (key : List Glyph) (between behind : Spaces) (value : Draft)
      (after : Spaces)
  | more (before : Spaces) (key : List Glyph) (between behind : Spaces) (value : Draft)
      (after : Spaces) (rest : Members)

end

mutual

/-- A draft as it is written. -/
def Draft.text : Draft → List Char
  | .null => ['n', 'u', 'l', 'l']
  | .bool true => ['t', 'r', 'u', 'e']
  | .bool false => ['f', 'a', 'l', 's', 'e']
  | .number numeral => numeral.text
  | .string glyphs => Glyph.quoted glyphs
  | .emptyArray inside => '[' :: (inside.text ++ [']'])
  | .array items => '[' :: items.text
  | .emptyObject inside => '\x7b' :: (inside.text ++ ['\x7d'])
  | .object members => '\x7b' :: members.text

/-- Items as they are written, with the closing bracket. -/
def Items.text : Items → List Char
  | .last before item after => before.text ++ (item.text ++ (after.text ++ [']']))
  | .more before item after rest => before.text ++ (item.text ++ (after.text ++ ',' :: rest.text))

/-- Members as they are written, with the closing brace. -/
def Members.text : Members → List Char
  | .last before key between behind value after =>
    before.text ++ (Glyph.quoted key ++ (between.text ++ ':' ::
      (behind.text ++ (value.text ++ (after.text ++ ['\x7d'])))))
  | .more before key between behind value after rest =>
    before.text ++ (Glyph.quoted key ++ (between.text ++ ':' ::
      (behind.text ++ (value.text ++ (after.text ++ ',' :: rest.text)))))

end

mutual

/-- The value that a draft is written for. -/
def Draft.json : Draft → Json
  | .null => .null
  | .bool value => .bool value
  | .number numeral => numeral.json
  | .string glyphs => .string (Glyph.spelled? glyphs)
  | .emptyArray _ => .array []
  | .array items => .array items.json
  | .emptyObject _ => .object []
  | .object members => .object members.json

/-- The values that items are written for. -/
def Items.json : Items → List Json
  | .last _ item _ => [item.json]
  | .more _ item _ rest => item.json :: rest.json

/-- The keys and values that members are written for. -/
def Members.json : Members → List (Option String × Json)
  | .last _ key _ _ value _ => [(Glyph.spelled? key, value.json)]
  | .more _ key _ _ value _ rest => (Glyph.spelled? key, value.json) :: rest.json

end

/-! ### What drafts begin with and what ends them -/

theorem stops_cons {c : Char} (hc : c = ',' ∨ c = ']' ∨ c = '\x7d') (rest : List Char) :
    Stops (c :: rest) := by
  rintro _ ⟨⟩
  exact .inr hc

theorem Stops.spaces {rest : List Char} (hstops : Stops rest) (spaces : Spaces) :
    Stops (spaces.text ++ rest) := by
  intro c hc
  cases htext : spaces.text with
  | nil =>
      rw [htext] at hc
      exact hstops c hc
  | cons first more =>
      rw [htext] at hc
      obtain rfl : first = c := Option.some.inj hc
      exact .inl (spaces.space first (by simp [htext]))

/-- A number begins with a minus or a digit. -/
theorem Numeral.head (numeral : Numeral) :
    ∃ c more, numeral.text = c :: more ∧ (c = '-' ∨ c.isDigit = true) := by
  unfold Numeral.text
  split
  · exact ⟨'-', _, rfl, .inl rfl⟩
  · cases hwhole : numeral.whole.text with
    | nil => exact absurd hwhole numeral.whole.some
    | cons c more =>
        exact ⟨c, _, rfl, .inr (numeral.whole.digit c (by simp [hwhole]))⟩

theorem ne_of_number {c : Char} (hc : c = '-' ∨ c.isDigit = true) :
    isSpace c = false ∧ c ≠ '"' ∧ c ≠ '[' ∧ c ≠ ']' ∧ c ≠ '\x7b' ∧ c ≠ 'n' ∧ c ≠ 't' ∧ c ≠ 'f' := by
  have hother : ∀ mark : Char, mark ≠ '-' → mark.isDigit = false → c ≠ mark := by
    rintro mark hminus hdigit rfl
    rcases hc with hc | hc
    · exact hminus hc
    · rw [hdigit] at hc
      cases hc
  refine ⟨?_, hother _ (by decide) (by decide), hother _ (by decide) (by decide),
    hother _ (by decide) (by decide), hother _ (by decide) (by decide),
    hother _ (by decide) (by decide), hother _ (by decide) (by decide),
    hother _ (by decide) (by decide)⟩
  simp [isSpace, hother ' ' (by decide) (by decide), hother '\t' (by decide) (by decide),
    hother '\n' (by decide) (by decide), hother '\r' (by decide) (by decide)]

/-- A draft begins with neither a blank nor a closing bracket. -/
theorem Draft.head (draft : Draft) :
    ∃ c more, draft.text = c :: more ∧ isSpace c = false ∧ c ≠ ']' := by
  cases draft with
  | null => exact ⟨_, _, rfl, by decide, by decide⟩
  | bool value => cases value <;> exact ⟨_, _, rfl, by decide, by decide⟩
  | number numeral =>
      obtain ⟨c, more, htext, hc⟩ := numeral.head
      obtain ⟨hspace, -, -, hbracket, -⟩ := ne_of_number hc
      exact ⟨c, more, htext, hspace, hbracket⟩
  | string | emptyArray | array | emptyObject | object =>
      exact ⟨_, _, rfl, by decide, by decide⟩

theorem Items.head (items : Items) (rest : List Char) :
    ∃ c more, skipSpace (items.text ++ rest) = c :: more ∧ c ≠ ']' := by
  have hitem : ∀ (before : Spaces) (item : Draft) (after : List Char),
      ∃ c more, skipSpace (before.text ++ (item.text ++ after)) = c :: more ∧ c ≠ ']' := by
    intro before item after
    obtain ⟨c, more, htext, hspace, hbracket⟩ := item.head
    refine ⟨c, more ++ after, ?_, hbracket⟩
    rw [skipSpace_append, htext, List.cons_append, skipSpace_cons hspace]
  cases items with
  | last before item after =>
      rw [Items.text, List.append_assoc, List.append_assoc]
      exact hitem before item _
  | more before item after behind =>
      rw [Items.text, List.append_assoc, List.append_assoc]
      exact hitem before item _

theorem Members.head (members : Members) (rest : List Char) :
    ∃ more, skipSpace (members.text ++ rest) = '"' :: more := by
  cases members with
  | last | more =>
      rw [Members.text, List.append_assoc, skipSpace_append]
      exact ⟨_, skipSpace_cons (by decide) _⟩

/-! ### One step of each scanner -/

section Steps

variable {fuel : Nat} {text after rest : List Char}

theorem scanValue_number {c : Char} (hc : c = '-' ∨ c.isDigit = true) :
    scanValue (fuel + 1) (c :: rest) = scanNumber (c :: rest) := by
  obtain ⟨hspace, hquote, hbracket, -, hbrace, hn, ht, hf⟩ := ne_of_number hc
  rw [scanValue, skipSpace_cons hspace]
  split
  · contradiction
  · rename_i heq
    exact absurd (List.cons.inj heq).1 hquote
  · rename_i heq
    exact absurd (List.cons.inj heq).1 hbracket
  · rename_i heq
    exact absurd (List.cons.inj heq).1 hbrace
  · rename_i heq
    cases heq
    rw [if_neg hn, if_neg ht, if_neg hf]

theorem scanValue_string {value : Option String} (htext : scanText text = some (value, rest)) :
    scanValue (fuel + 1) ('"' :: text) = some (.string value, rest) := by
  rw [scanValue, skipSpace_cons (by decide)]
  simp [htext]

theorem scanValue_emptyArray (htext : skipSpace text = ']' :: rest) :
    scanValue (fuel + 1) ('[' :: text) = some (.array [], rest) := by
  rw [scanValue, skipSpace_cons (by decide)]
  simp [htext]

theorem scanValue_array {items : List Json} (htext : (skipSpace text).head? ≠ some ']')
    (hitems : scanItems fuel text = some (items, rest)) :
    scanValue (fuel + 1) ('[' :: text) = some (.array items, rest) := by
  rw [← scanItems_skipSpace] at hitems
  rw [scanValue, skipSpace_cons (by decide)]
  simp only
  split
  · rename_i hbracket
    rw [hbracket] at htext
    exact absurd rfl htext
  · rw [hitems]
    rfl

theorem scanValue_emptyObject (htext : skipSpace text = '\x7d' :: rest) :
    scanValue (fuel + 1) ('\x7b' :: text) = some (.object [], rest) := by
  rw [scanValue, skipSpace_cons (by decide)]
  simp [htext]

theorem scanValue_object {members : List (Option String × Json)}
    (htext : (skipSpace text).head? ≠ some '\x7d')
    (hmembers : scanMembers fuel text = some (members, rest)) :
    scanValue (fuel + 1) ('\x7b' :: text) = some (.object members, rest) := by
  rw [← scanMembers_skipSpace] at hmembers
  rw [scanValue, skipSpace_cons (by decide)]
  simp only
  split
  · rename_i hbrace
    rw [hbrace] at htext
    exact absurd rfl htext
  · rw [hmembers]
    rfl

theorem scanItems_last {item : Json} (hitem : scanValue fuel text = some (item, after))
    (hafter : skipSpace after = ']' :: rest) :
    scanItems (fuel + 1) text = some ([item], rest) := by
  rw [scanItems, hitem]
  simp [hafter]

theorem scanItems_more {item : Json} {items : List Json} {behind : List Char}
    (hitem : scanValue fuel text = some (item, after)) (hafter : skipSpace after = ',' :: behind)
    (hitems : scanItems fuel behind = some (items, rest)) :
    scanItems (fuel + 1) text = some (item :: items, rest) := by
  rw [scanItems, hitem]
  simp [hafter, hitems]

theorem scanMembers_last {key : Option String} {value : Json} {start between : List Char}
    (htext : skipSpace text = '"' :: start) (hkey : scanText start = some (key, between))
    {behind : List Char} (hbetween : skipSpace between = ':' :: behind)
    (hvalue : scanValue fuel behind = some (value, after))
    (hafter : skipSpace after = '\x7d' :: rest) :
    scanMembers (fuel + 1) text = some ([(key, value)], rest) := by
  rw [scanMembers]
  simp [htext, hkey, hbetween, hvalue, hafter]

theorem scanMembers_more {key : Option String} {value : Json} {start between : List Char}
    (htext : skipSpace text = '"' :: start) (hkey : scanText start = some (key, between))
    {behind : List Char} (hbetween : skipSpace between = ':' :: behind)
    (hvalue : scanValue fuel behind = some (value, after)) {next : List Char}
    (hafter : skipSpace after = ',' :: next) {members : List (Option String × Json)}
    (hmembers : scanMembers fuel next = some (members, rest)) :
    scanMembers (fuel + 1) text = some ((key, value) :: members, rest) := by
  rw [scanMembers]
  simp [htext, hkey, hbetween, hvalue, hafter, hmembers]

end Steps

theorem scanText_quoted (glyphs : List Glyph) (rest : List Char) :
    ∃ text, Glyph.quoted glyphs ++ rest = '"' :: text ∧
      scanText text = some (Glyph.spelled? glyphs, rest) := by
  refine ⟨glyphs.flatMap Glyph.text ++ '"' :: rest, ?_, scanText_glyphs glyphs rest⟩
  rw [Glyph.quoted, List.cons_append, List.append_assoc]
  rfl

theorem skipSpace_mark (spaces : Spaces) {c : Char} (hc : isSpace c = false) (rest : List Char) :
    skipSpace (spaces.text ++ c :: rest) = c :: rest := by
  rw [skipSpace_append, skipSpace_cons hc]

/-! ### Reading what is written -/

mutual

/-- A draft is read as what it is written for. -/
theorem Draft.scanned (draft : Draft) {fuel : Nat} {rest : List Char}
    (hfuel : 2 * draft.text.length ≤ fuel) (hstops : Stops rest) :
    scanValue fuel (draft.text ++ rest) = some (draft.json, rest) := by
  obtain ⟨first, others, hhead, -⟩ := draft.head
  obtain ⟨fuel, rfl⟩ : ∃ before, fuel = before + 1 := by
    rw [hhead, List.length_cons] at hfuel
    exact ⟨fuel - 1, by omega⟩
  cases draft with
  | null => rfl
  | bool value => cases value <;> rfl
  | number numeral =>
      obtain ⟨c, more, htext, hc⟩ := numeral.head
      have hnumber := scanNumber_append numeral hstops
      rw [Draft.text, Draft.json, ← hnumber, htext]
      exact scanValue_number hc
  | string glyphs =>
      obtain ⟨text, hquoted, hscan⟩ := scanText_quoted glyphs rest
      rw [Draft.text, hquoted]
      exact scanValue_string hscan
  | emptyArray inside =>
      rw [Draft.text, List.cons_append, List.append_assoc]
      exact scanValue_emptyArray (skipSpace_mark inside (by decide) rest)
  | array items =>
      obtain ⟨c, more, hskip, hbracket⟩ := items.head rest
      rw [Draft.text, List.length_cons] at hfuel
      rw [Draft.text, List.cons_append]
      refine scanValue_array ?_ (items.scanned (by omega))
      rw [hskip]
      exact fun hc => hbracket (Option.some.inj hc)
  | emptyObject inside =>
      rw [Draft.text, List.cons_append, List.append_assoc]
      exact scanValue_emptyObject (skipSpace_mark inside (by decide) rest)
  | object members =>
      obtain ⟨more, hskip⟩ := members.head rest
      rw [Draft.text, List.length_cons] at hfuel
      rw [Draft.text, List.cons_append]
      refine scanValue_object ?_ (members.scanned (by omega))
      rw [hskip]
      exact fun hc => absurd (Option.some.inj hc) (by decide)

theorem Items.scanned (items : Items) {fuel : Nat} {rest : List Char}
    (hfuel : 2 * items.text.length ≤ fuel) :
    scanItems fuel (items.text ++ rest) = some (items.json, rest) := by
  cases items with
  | last before item after =>
      simp only [Items.text, List.length_append, List.length_cons, List.length_nil] at hfuel
      obtain ⟨fuel, rfl⟩ : ∃ before, fuel = before + 1 := ⟨fuel - 1, by omega⟩
      have hitem := item.scanned (show 2 * item.text.length ≤ fuel by omega)
        (.spaces (stops_cons (c := ']') (by decide) rest) after)
      simp only [Items.text, List.append_assoc, List.singleton_append]
      refine scanItems_last ?_ (skipSpace_mark after (by decide) rest)
      rwa [scanValue_spaces]
  | more before item after behind =>
      simp only [Items.text, List.length_append, List.length_cons] at hfuel
      obtain ⟨fuel, rfl⟩ : ∃ before, fuel = before + 1 := ⟨fuel - 1, by omega⟩
      have hitem := item.scanned (show 2 * item.text.length ≤ fuel by omega)
        (.spaces (stops_cons (c := ',') (by decide) (behind.text ++ rest)) after)
      simp only [Items.text, List.append_assoc, List.cons_append]
      refine scanItems_more ?_ (skipSpace_mark after (by decide) _) (behind.scanned (by omega))
      rwa [scanValue_spaces]

theorem Members.scanned (members : Members) {fuel : Nat} {rest : List Char}
    (hfuel : 2 * members.text.length ≤ fuel) :
    scanMembers fuel (members.text ++ rest) = some (members.json, rest) := by
  cases members with
  | last before key between behind value after =>
      simp only [Members.text, List.length_append, List.length_cons, List.length_nil] at hfuel
      obtain ⟨fuel, rfl⟩ : ∃ before, fuel = before + 1 := ⟨fuel - 1, by omega⟩
      have hvalue := value.scanned (show 2 * value.text.length ≤ fuel by omega)
        (.spaces (stops_cons (c := '\x7d') (by decide) rest) after)
      obtain ⟨text, hquoted, hkey⟩ := scanText_quoted key
        (between.text ++ ':' :: (behind.text ++ (value.text ++ (after.text ++ '\x7d' :: rest))))
      simp only [Members.text, List.append_assoc, List.cons_append, List.nil_append]
      rw [hquoted]
      refine scanMembers_last (skipSpace_mark before (by decide) text) hkey
        (skipSpace_mark between (by decide) _) ?_ (skipSpace_mark after (by decide) rest)
      rwa [scanValue_spaces]
  | more before key between behind value after others =>
      simp only [Members.text, List.length_append, List.length_cons] at hfuel
      obtain ⟨fuel, rfl⟩ : ∃ before, fuel = before + 1 := ⟨fuel - 1, by omega⟩
      have hvalue := value.scanned (show 2 * value.text.length ≤ fuel by omega)
        (.spaces (stops_cons (c := ',') (by decide) (others.text ++ rest)) after)
      obtain ⟨text, hquoted, hkey⟩ := scanText_quoted key (between.text ++ ':' ::
        (behind.text ++ (value.text ++ (after.text ++ ',' :: (others.text ++ rest)))))
      simp only [Members.text, List.append_assoc, List.cons_append]
      rw [hquoted]
      refine scanMembers_more (skipSpace_mark before (by decide) text) hkey
        (skipSpace_mark between (by decide) _) ?_ (skipSpace_mark after (by decide) _)
        (others.scanned (by omega))
      rwa [scanValue_spaces]

end

/-! ### Whatever is read is written -/

theorem exists_quoted {start rest : List Char} {key : Option String}
    (hkey : scanText start = some (key, rest)) :
    ∃ glyphs : List Glyph, '"' :: start = Glyph.quoted glyphs ++ rest ∧
      Glyph.spelled? glyphs = key := by
  obtain ⟨glyphs, rfl, hspelled⟩ := exists_glyphs_of_scanText hkey
  exact ⟨glyphs, by simp [Glyph.quoted], hspelled⟩

theorem word_of_scanWord {word text rest : List Char} {value json : Json}
    (hscan : ((scanWord word text).map fun rest => (value, rest)) = some (json, rest)) :
    text = word ++ rest ∧ value = json := by
  obtain ⟨after, hword, heq⟩ := Option.map_eq_some_iff.mp hscan
  cases heq
  exact ⟨scanWord_eq_some_iff.mp hword, rfl⟩

/-- Whether all values, items and members that are read with some fuel are written by drafts. -/
structure Traced (fuel : Nat) : Prop where
  value : ∀ {text rest json}, scanValue fuel text = some (json, rest) →
    ∃ (spaces : Spaces) (draft : Draft), text = spaces.text ++ (draft.text ++ rest) ∧
      draft.json = json
  items : ∀ {text rest items}, scanItems fuel text = some (items, rest) →
    ∃ drafts : Items, text = drafts.text ++ rest ∧ drafts.json = items
  members : ∀ {text rest members}, scanMembers fuel text = some (members, rest) →
    ∃ drafts : Members, text = drafts.text ++ rest ∧ drafts.json = members

namespace Traced

variable {fuel : Nat} {text rest : List Char}

theorem value_succ (htraced : Traced fuel) {json : Json}
    (hscan : scanValue (fuel + 1) text = some (json, rest)) :
    ∃ draft : Draft, skipSpace text = draft.text ++ rest ∧ draft.json = json := by
  rw [scanValue] at hscan
  split at hscan
  · cases hscan
  · rename_i start hstart
    obtain ⟨⟨value, after⟩, hvalue, heq⟩ := Option.map_eq_some_iff.mp hscan
    cases heq
    obtain ⟨glyphs, hquoted, rfl⟩ := exists_quoted hvalue
    exact ⟨.string glyphs, hstart.trans hquoted, rfl⟩
  · rename_i start hstart
    split at hscan
    · rename_i hempty
      cases hscan
      obtain ⟨inside, rfl⟩ := exists_spaces hempty
      exact ⟨.emptyArray inside, by simp [hstart, Draft.text], rfl⟩
    · obtain ⟨⟨items, after⟩, hitems, heq⟩ := Option.map_eq_some_iff.mp hscan
      cases heq
      rw [scanItems_skipSpace] at hitems
      obtain ⟨drafts, rfl, rfl⟩ := htraced.items hitems
      exact ⟨.array drafts, by simp [hstart, Draft.text], rfl⟩
  · rename_i start hstart
    split at hscan
    · rename_i hempty
      cases hscan
      obtain ⟨inside, rfl⟩ := exists_spaces hempty
      exact ⟨.emptyObject inside, by simp [hstart, Draft.text], rfl⟩
    · obtain ⟨⟨members, after⟩, hmembers, heq⟩ := Option.map_eq_some_iff.mp hscan
      cases heq
      rw [scanMembers_skipSpace] at hmembers
      obtain ⟨drafts, rfl, rfl⟩ := htraced.members hmembers
      exact ⟨.object drafts, by simp [hstart, Draft.text], rfl⟩
  · rename_i c start _ _ _ hstart
    rw [hstart]
    split at hscan
    · rename_i hn
      obtain ⟨rfl, rfl⟩ := word_of_scanWord hscan
      exact ⟨.null, by rw [hn]; rfl, rfl⟩
    · split at hscan
      · rename_i ht
        obtain ⟨rfl, rfl⟩ := word_of_scanWord hscan
        exact ⟨.bool true, by rw [ht]; rfl, rfl⟩
      · split at hscan
        · rename_i hf
          obtain ⟨rfl, rfl⟩ := word_of_scanWord hscan
          exact ⟨.bool false, by rw [hf]; rfl, rfl⟩
        · obtain ⟨numeral, hnumeral, rfl⟩ := exists_numeral_of_scanNumber hscan
          exact ⟨.number numeral, hnumeral, rfl⟩

theorem items_succ (htraced : Traced fuel) {items : List Json}
    (hscan : scanItems (fuel + 1) text = some (items, rest)) :
    ∃ drafts : Items, text = drafts.text ++ rest ∧ drafts.json = items := by
  rw [scanItems] at hscan
  obtain ⟨⟨item, after⟩, hitem, hscan⟩ := Option.bind_eq_some_iff.mp hscan
  obtain ⟨before, draft, rfl, rfl⟩ := htraced.value hitem
  dsimp only at hscan
  split at hscan
  · rename_i hbracket
    cases hscan
    obtain ⟨behind, rfl⟩ := exists_spaces hbracket
    exact ⟨.last before draft behind, by simp [Items.text], rfl⟩
  · rename_i next hcomma
    obtain ⟨⟨more, after'⟩, hmore, heq⟩ := Option.map_eq_some_iff.mp hscan
    cases heq
    obtain ⟨behind, rfl⟩ := exists_spaces hcomma
    obtain ⟨drafts, rfl, rfl⟩ := htraced.items hmore
    exact ⟨.more before draft behind drafts, by simp [Items.text], rfl⟩
  · cases hscan

theorem members_succ (htraced : Traced fuel) {members : List (Option String × Json)}
    (hscan : scanMembers (fuel + 1) text = some (members, rest)) :
    ∃ drafts : Members, text = drafts.text ++ rest ∧ drafts.json = members := by
  rw [scanMembers] at hscan
  split at hscan
  · rename_i start hstart
    obtain ⟨before, rfl⟩ := exists_spaces hstart
    obtain ⟨⟨key, between⟩, hkey, hscan⟩ := Option.bind_eq_some_iff.mp hscan
    obtain ⟨glyphs, hquoted, rfl⟩ := exists_quoted hkey
    dsimp only at hscan
    split at hscan
    · rename_i behind hcolon
      obtain ⟨beforeColon, rfl⟩ := exists_spaces hcolon
      obtain ⟨⟨value, after⟩, hvalue, hscan⟩ := Option.bind_eq_some_iff.mp hscan
      obtain ⟨behindColon, draft, rfl, rfl⟩ := htraced.value hvalue
      dsimp only at hscan
      split at hscan
      · rename_i hbrace
        cases hscan
        obtain ⟨last, rfl⟩ := exists_spaces hbrace
        exact ⟨.last before glyphs beforeColon behindColon draft last,
          by simp [hquoted, Members.text], rfl⟩
      · rename_i next hcomma
        obtain ⟨⟨more, after'⟩, hmore, heq⟩ := Option.map_eq_some_iff.mp hscan
        cases heq
        obtain ⟨last, rfl⟩ := exists_spaces hcomma
        obtain ⟨drafts, rfl, rfl⟩ := htraced.members hmore
        exact ⟨.more before glyphs beforeColon behindColon draft last drafts,
          by simp [hquoted, Members.text], rfl⟩
      · cases hscan
    · cases hscan
  · cases hscan

/-- Whatever a scanner reads is written by some draft, in front of what it leaves. -/
theorem all (fuel : Nat) : Traced fuel := by
  induction fuel with
  | zero => exact ⟨nofun, nofun, nofun⟩
  | succ fuel ih =>
      refine ⟨fun {text rest json} hscan => ?_, ih.items_succ, ih.members_succ⟩
      obtain ⟨draft, htext, hjson⟩ := ih.value_succ hscan
      obtain ⟨spaces, rfl⟩ := exists_spaces htext
      exact ⟨spaces, draft, rfl, hjson⟩

end Traced

/-- Whether a text holds a value and nothing else but blanks around it. -/
def Written (json : Json) (text : List Char) : Prop :=
  ∃ (before : Spaces) (draft : Draft) (after : Spaces),
    text = before.text ++ (draft.text ++ after.text) ∧ draft.json = json

/-- A text is read as a value exactly if it is written for the value. -/
theorem parse_eq_some_iff {text : List Char} {json : Json} :
    parse text = some json ↔ Written json text := by
  unfold parse
  rw [Option.bind_eq_some_iff]
  constructor
  · rintro ⟨⟨value, rest⟩, hscan, hrest⟩
    dsimp only at hrest
    split at hrest
    · rename_i hempty
      cases hrest
      obtain ⟨before, draft, rfl, rfl⟩ := (Traced.all _).value hscan
      obtain ⟨after, rfl⟩ := exists_spaces (List.isEmpty_iff.mp hempty)
      exact ⟨before, draft, after, by simp, rfl⟩
    · cases hrest
  · rintro ⟨before, draft, after, rfl, rfl⟩
    refine ⟨(draft.json, after.text), ?_, ?_⟩
    · rw [scanValue_spaces]
      refine draft.scanned ?_ ?_
      · simp only [List.length_append]
        omega
      · simpa using (show Stops [] from nofun).spaces after
    · simpa [skipSpace] using after.space

/-! ### Every value can be written -/

theorem hex4?_control : ∀ n < 0x20,
    hex4? '0' '0' (Nat.digitChar (n / 16)) (Nat.digitChar (n % 16)) = some n := by decide

/-- A spelling of a character: as it is, behind a backslash if it is a quote or a backslash, and by
its code if it is a control character. -/
def Glyph.ofChar (c : Char) : Glyph :=
  if hcontrol : c.toNat < 0x20 then .code _ _ _ _ c.toNat (hex4?_control c.toNat hcontrol)
  else if hquote : c = '"' then .letter c c (by rw [hquote]; rfl)
  else if hslash : c = '\\' then .letter c c (by rw [hslash]; rfl)
  else .plain c ⟨Nat.le_of_not_lt hcontrol, hquote, hslash⟩

theorem spelled?_ofChar (text : List Char) :
    Glyph.spelled? (text.map Glyph.ofChar) = some (String.ofList text) := by
  have hspells : Spells ((text.map Glyph.ofChar).map Glyph.item) text := by
    induction text with
    | nil => exact .nil
    | cons c rest ih =>
        rw [List.map_cons, List.map_cons]
        unfold Glyph.ofChar
        split
        · exact .unit c (by omega) ih
        · split
          · exact .char c ih
          · split <;> exact .char c ih
  rw [Glyph.spelled?, hspells.decodeItems, Option.map_some]

theorem exists_glyphs (text : Option String) :
    ∃ glyphs : List Glyph, Glyph.spelled? glyphs = text := by
  cases text with
  | none => exact ⟨[.code 'd' '8' '0' '0' 0xd800 rfl], rfl⟩
  | some text =>
      refine ⟨text.toList.map Glyph.ofChar, ?_⟩
      rw [spelled?_ofChar, String.ofList_toList]

/-- The digits of a number that is not zero begin with another digit. -/
theorem head?_toDigits {n : Nat} (hn : n ≠ 0) : (Nat.toDigits 10 n).head? ≠ some '0' := by
  induction n using Nat.strongRecOn with
  | ind n ih =>
      rw [Nat.toDigits_eq_if (by decide)]
      split
      · have hdigit : ∀ n < 10, n ≠ 0 → Nat.digitChar n ≠ '0' := by decide
        rename_i hsmall
        exact fun hzero => hdigit n hsmall hn (Option.some.inj hzero)
      · rw [List.head?_append_of_ne_nil _ Nat.toDigits_ne_nil]
        exact ih (n / 10) (by omega) (by omega)

theorem decimalValue_toDigits (n : Nat) : decimalValue (Nat.toDigits 10 n) = n := by
  have hsame : ∀ digits : List Char, decimalValue digits = Nat.ofDigitChars 10 digits 0 := by
    intro digits
    unfold decimalValue Nat.ofDigitChars
    congr
    funext value c
    rw [Nat.mul_comm]
    rfl
  rw [hsame, Nat.ofDigitChars_ten_toDigits]

theorem exists_natural (n : Nat) : ∃ numeral : Numeral, numeral.json = .natural n := by
  refine ⟨⟨false, ⟨Nat.toDigits 10 n, Nat.toDigits_ne_nil,
    fun c hc => Nat.isDigit_of_mem_toDigits (by decide) (by decide) hc⟩, fun hlong => ?_, none,
    none⟩, congrArg Json.natural (decimalValue_toDigits n)⟩
  refine head?_toDigits fun hzero => ?_
  subst hzero
  exact absurd hlong (by decide)

mutual

theorem exists_draft (json : Json) : ∃ draft : Draft, draft.json = json := by
  cases json with
  | null => exact ⟨.null, rfl⟩
  | bool value => exact ⟨.bool value, rfl⟩
  | natural n =>
      obtain ⟨numeral, hnumeral⟩ := exists_natural n
      exact ⟨.number numeral, hnumeral⟩
  | otherNumber =>
      exact ⟨.number ⟨true, ⟨['0'], by simp, by simp⟩, nofun, none, none⟩, rfl⟩
  | string text =>
      obtain ⟨glyphs, hglyphs⟩ := exists_glyphs text
      exact ⟨.string glyphs, congrArg Json.string hglyphs⟩
  | array items =>
      rcases exists_items items with rfl | ⟨drafts, hdrafts⟩
      · exact ⟨.emptyArray default, rfl⟩
      · exact ⟨.array drafts, congrArg Json.array hdrafts⟩
  | object members =>
      rcases exists_members members with rfl | ⟨drafts, hdrafts⟩
      · exact ⟨.emptyObject default, rfl⟩
      · exact ⟨.object drafts, congrArg Json.object hdrafts⟩

theorem exists_items (items : List Json) :
    items = [] ∨ ∃ drafts : Items, drafts.json = items := by
  cases items with
  | nil => exact .inl rfl
  | cons item rest =>
      obtain ⟨draft, rfl⟩ := exists_draft item
      rcases exists_items rest with rfl | ⟨drafts, rfl⟩
      · exact .inr ⟨.last default draft default, rfl⟩
      · exact .inr ⟨.more default draft default drafts, rfl⟩

theorem exists_members (members : List (Option String × Json)) :
    members = [] ∨ ∃ drafts : Members, drafts.json = members := by
  cases members with
  | nil => exact .inl rfl
  | cons member rest =>
      obtain ⟨glyphs, hglyphs⟩ := exists_glyphs member.1
      obtain ⟨draft, hdraft⟩ := exists_draft member.2
      rcases exists_members rest with rfl | ⟨drafts, rfl⟩
      · exact .inr ⟨.last default glyphs default default draft default,
          by rw [Members.json, hglyphs, hdraft]⟩
      · exact .inr ⟨.more default glyphs default default draft default drafts,
          by rw [Members.json, hglyphs, hdraft]⟩

end

/-- Every value has a text that is written for it. -/
theorem exists_written (json : Json) : ∃ text, Written json text := by
  obtain ⟨draft, hdraft⟩ := exists_draft json
  exact ⟨_, default, draft, default, rfl, hdraft⟩

end ScriptHost.Json
