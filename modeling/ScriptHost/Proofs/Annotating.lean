import ScriptHost.Listener.Tag
import ScriptHost.Proofs.Trimming

/-!
The writing of listener annotations. An annotation can be written in many ways: in any comment, with
blanks around its parts and commas between them. A `Frame` is what a comment puts around its content,
a `Spacing` is what stands between the parts of the content, and `ListenerTag.written` is the line
that they give. Reading such a line gives the tag back, whatever the frame and the spacing, and a
line that is read as a tag was written so.
-/

namespace ScriptHost.ListenerTag

open Text

/-! ### The frame of a comment -/

/-- How a comment opens. -/
inductive Opening
  | absent
  | line
  | block
  deriving DecidableEq

/-- The mark that opens a comment. -/
def Opening.mark : Opening → List Char
  | .absent => []
  | .line => ['/', '/', '/']
  | .block => ['/', '*', '*']

/-- The mark that ends a comment, if it is there. -/
def closing (isClosed : Bool) : List Char :=
  if isClosed then ['*', '/'] else []

/-- What stands around the content of a comment: the opening, stars and the closing mark, with
blanks next to each of them. -/
structure Frame where
  outer : Blanks
  opening : Opening
  inner : Blanks
  stars : Nat
  lead : Blanks
  tail : Blanks
  isClosed : Bool
  last : Blanks

namespace Frame

/-- What stands in front of the content. -/
def front (frame : Frame) : List Char :=
  frame.outer.text ++ frame.opening.mark ++ frame.inner.text ++ List.replicate frame.stars '*' ++
    frame.lead.text

/-- What stands behind the content. -/
def back (frame : Frame) : List Char :=
  frame.tail.text ++ closing frame.isClosed ++ frame.last.text

/-- The line of a comment with this content. -/
def around (frame : Frame) (content : List Char) : List Char :=
  frame.front ++ content ++ frame.back

/-- Blanks at the end of the content may be taken for those of the frame. -/
theorem around_append_blanks (frame : Frame) (content : List Char) (blanks : Blanks) :
    frame.around (content ++ blanks.text) =
      { frame with tail := blanks.append frame.tail }.around content := by
  simp only [around, front, back, Blanks.append_text, List.append_assoc]

end Frame

/-- A text without the opening of a comment. -/
def withoutOpening (text : List Char) : List Char :=
  ((stripPrefix? ['/', '/', '/'] text).or (stripPrefix? ['/', '*', '*'] text)).getD text

/-- A text without the closing mark of a comment. -/
def withoutClosing (text : List Char) : List Char :=
  (stripSuffix? ['*', '/'] text).getD text

theorem stripLeader_eq (line : List Char) :
    stripLeader line =
      trim ((trim (withoutClosing (withoutOpening (trim line)))).dropWhile (· == '*')) := rfl

/-! Each step of the reader takes away one part of a frame. -/

theorem withoutOpening_split (text : List Char) :
    ∃ opening : Opening, text = opening.mark ++ withoutOpening text := by
  unfold withoutOpening
  cases hline : stripPrefix? ['/', '/', '/'] text with
  | some rest => exact ⟨.line, stripPrefix?_eq_some_iff.mp hline⟩
  | none =>
      cases hblock : stripPrefix? ['/', '*', '*'] text with
      | some rest => exact ⟨.block, stripPrefix?_eq_some_iff.mp hblock⟩
      | none => exact ⟨.absent, rfl⟩

theorem withoutClosing_split (text : List Char) :
    ∃ isClosed : Bool, text = withoutClosing text ++ closing isClosed := by
  unfold withoutClosing
  cases hending : stripSuffix? ['*', '/'] text with
  | some rest => exact ⟨true, stripSuffix?_eq_some_iff.mp hending⟩
  | none => exact ⟨false, (List.append_nil text).symm⟩

/-- Every line is a frame around the content that is read from it. -/
theorem exists_frame (line : List Char) :
    ∃ frame : Frame, line = frame.around (stripLeader line) := by
  obtain ⟨outer, last, houter⟩ := trim_split line
  obtain ⟨opening, hopening⟩ := withoutOpening_split (trim line)
  obtain ⟨isClosed, hclosing⟩ := withoutClosing_split (withoutOpening (trim line))
  obtain ⟨inner, tail, hinner⟩ := trim_split (withoutClosing (withoutOpening (trim line)))
  obtain ⟨stars, hstars⟩ := run_split '*' (trim (withoutClosing (withoutOpening (trim line))))
  obtain ⟨lead, rear, hlead⟩ :=
    trim_split ((trim (withoutClosing (withoutOpening (trim line)))).dropWhile (· == '*'))
  rw [← stripLeader_eq] at hlead
  refine ⟨⟨outer, opening, inner, stars, lead, rear.append tail, isClosed, last⟩, ?_⟩
  conv_lhs => rw [houter, hopening, hclosing, hinner, hstars, hlead]
  simp only [Frame.around, Frame.front, Frame.back, Blanks.append_text, List.append_assoc]

/-! Around a content that begins with the at sign nothing is taken for a part of the frame that is
none. -/

theorem startsFirm_of_at {text : List Char} (hat : text.head? = some '@') : StartsFirm text := by
  rw [startsFirm_iff]
  intro c hc
  rw [hat, Option.some.injEq] at hc
  subst hc
  decide

/-- Trimming a text that ends with a content and blanks leaves the content. -/
theorem trim_behind {content : List Char} (hat : content.head? = some '@')
    (hfirm : EndsFirm content) (front : List Char) (back : Blanks) :
    trim (front ++ content ++ back.text) = trimStart front ++ content := by
  have hsome : content ≠ [] := by
    rintro rfl
    cases hat
  have hstart : trimStart (front ++ content ++ back.text) =
      trimStart front ++ content ++ back.text := by
    rw [List.append_assoc, List.append_assoc]
    exact dropWhile_append_of_kept ((startsFirm_of_at hat).append hsome back.text) front
  unfold trim
  rw [hstart, trimEnd_append_blanks]
  exact hfirm.append hsome _

/-- A text that begins with no slash has no opening. -/
theorem withoutOpening_of_head? {text : List Char} (hhead : text.head? ≠ some '/') :
    withoutOpening text = text := by
  unfold withoutOpening
  cases text with
  | nil => rfl
  | cons c text =>
      have hc : '/' ≠ c := fun hsame => hhead (by rw [hsame]; rfl)
      simp [stripPrefix?, hc]

/-- Of what stands in front of a content, the reader leaves the stars between blanks when it has
taken the opening away. -/
theorem withoutOpening_front (frame : Frame) :
    ∃ inner lead : Blanks, ∀ rest : List Char, rest.head? = some '@' →
      withoutOpening (trimStart frame.front ++ rest) =
        inner.text ++ List.replicate frame.stars '*' ++ lead.text ++ rest := by
  unfold Frame.front
  simp only [List.append_assoc, trimStart_blanks_append]
  cases frame.opening with
  | absent =>
      obtain ⟨lead, hlead⟩ := trimStart_run (show isBlank '*' = false by decide)
        frame.inner frame.lead frame.stars
      have hfront := hlead [] rfl
      simp only [List.append_nil, List.append_assoc] at hfront
      refine ⟨default, lead, fun rest hat => ?_⟩
      rw [Opening.mark, List.nil_append, hfront]
      rw [withoutOpening_of_head?]
      · simp
      · cases frame.stars with
        | zero => exact lead.append_head?_ne (by decide) (by simp [hat])
        | succ stars => simp [List.replicate_succ]
  | line =>
      refine ⟨frame.inner, frame.lead, fun rest _ => ?_⟩
      have hkept : trimStart (Opening.line.mark ++ (frame.inner.text ++
          (List.replicate frame.stars '*' ++ frame.lead.text))) = _ :=
        startsFirm_cons (c := '/') (by decide) _
      rw [hkept]
      simp [withoutOpening, stripPrefix?]
  | block =>
      refine ⟨frame.inner, frame.lead, fun rest _ => ?_⟩
      have hkept : trimStart (Opening.block.mark ++ (frame.inner.text ++
          (List.replicate frame.stars '*' ++ frame.lead.text))) = _ :=
        startsFirm_cons (c := '/') (by decide) _
      rw [hkept]
      simp [withoutOpening, stripPrefix?]

/-- Of what stands behind a content, the reader leaves blanks when it has taken the closing mark
away. -/
theorem withoutClosing_back (frame : Frame) {text : List Char}
    (hopen : frame.isClosed = false → ¬ ['*', '/'] <:+ text) :
    ∃ tail : Blanks, withoutClosing (text ++ trimEnd frame.back) = text ++ tail.text := by
  unfold Frame.back
  rw [trimEnd_append_blanks]
  cases hclosed : frame.isClosed with
  | true =>
      refine ⟨frame.tail, ?_⟩
      have hkept : trimEnd (frame.tail.text ++ closing true) = frame.tail.text ++ ['*', '/'] :=
        EndsFirm.append (show EndsFirm ['*', '/'] by unfold EndsFirm; decide) (by simp) _
      rw [hkept, ← List.append_assoc]
      unfold withoutClosing
      rw [stripSuffix?_append]
      rfl
  | false =>
      refine ⟨default, ?_⟩
      have hnone : trimEnd (frame.tail.text ++ closing false) = [] := by
        rw [closing, if_neg Bool.false_ne_true, List.append_nil]
        exact List.rdropWhile_eq_nil_iff.mpr frame.tail.blank
      rw [hnone, List.append_nil]
      unfold withoutClosing
      rw [stripSuffix?_eq_none_iff.mpr (hopen hclosed)]
      simp

/-- The content of a line is read whatever the frame around it, if it begins with the at sign, has
no blank at its end and ends like a comment only within a closed one. -/
theorem stripLeader_around (frame : Frame) {content : List Char}
    (hat : content.head? = some '@') (hfirm : EndsFirm content)
    (hopen : frame.isClosed = false → ¬ ['*', '/'] <:+ content) :
    stripLeader (frame.around content) = content := by
  have hsome : content ≠ [] := by
    rintro rfl
    cases hat
  have hstart := startsFirm_of_at hat
  -- the ending cannot reach over the content, which is longer unless it is the at sign alone
  have hwhole : ∀ front : List Char, frame.isClosed = false → ¬ ['*', '/'] <:+ front ++ content := by
    intro front hclosed hending
    refine hopen hclosed (List.suffix_of_suffix_length_le hending (List.suffix_append _ _) ?_)
    match content, hat with
    | [c], hat =>
        obtain ⟨before, hbefore⟩ := hending
        have hlast := congrArg List.getLast? hbefore
        simp only [List.head?_cons, Option.some.injEq] at hat
        simp [hat] at hlast
    | _ :: _ :: _, _ => simp
  have htrim : trim (frame.around content) =
      trimStart frame.front ++ (content ++ trimEnd frame.back) := by
    have hleft : trimStart (frame.front ++ content ++ frame.back) =
        trimStart frame.front ++ content ++ frame.back := by
      rw [List.append_assoc, List.append_assoc]
      exact dropWhile_append_of_kept (hstart.append hsome frame.back) frame.front
    unfold trim Frame.around
    rw [hleft, trimEnd_append (hfirm.append hsome _), List.append_assoc]
  obtain ⟨inner, lead, hopening⟩ := withoutOpening_front frame
  obtain ⟨tail, hclosing⟩ := withoutClosing_back frame
    (hwhole (inner.text ++ List.replicate frame.stars '*' ++ lead.text))
  obtain ⟨lead', hstars⟩ := trimStart_run (show isBlank '*' = false by decide) inner lead
    frame.stars
  have hleft := hstars [] rfl
  rw [List.append_nil, List.append_nil] at hleft
  rw [stripLeader_eq, htrim, hopening _ (by rw [List.head?_append_of_ne_nil _ hsome, hat]),
    ← List.append_assoc, hclosing, trim_behind hat hfirm, hleft, List.append_assoc,
    dropWhile_run (by decide) _ _ (by simp [hat])]
  simpa using trim_around hstart hfirm lead' default

/-! ### The parts of the content -/

/-- An equals sign between blanks. -/
structure Equals where
  before : Blanks
  after : Blanks

def Equals.text (equals : Equals) : List Char :=
  equals.before.text ++ '=' :: equals.after.text

/-- A run of commas between blanks. -/
structure Gap where
  before : Blanks
  commas : Nat
  after : Blanks

def Gap.text (gap : Gap) : List Char :=
  gap.before.text ++ List.replicate gap.commas ',' ++ gap.after.text

/-- A value in double quotes. -/
def inQuotes (value : List Char) : List Char :=
  '"' :: (value ++ ['"'])

/-- A text splits at its first quote into a value without quotes and the text behind it. -/
theorem splitAtQuote_eq_some_iff {text value rest : List Char} :
    splitAtQuote text = some (value, rest) ↔ '"' ∉ value ∧ text = value ++ '"' :: rest := by
  induction text generalizing value with
  | nil => simp [splitAtQuote]
  | cons c text ih =>
      by_cases hquote : c = '"'
      · cases value with
        | nil => simp [splitAtQuote, hquote]
        | cons d value =>
            simp only [splitAtQuote, hquote, if_true, List.mem_cons, List.cons_append,
              List.cons.injEq, not_or]
            constructor
            · intro hsome
              cases hsome
            · rintro ⟨⟨hfree, -⟩, hsame, -⟩
              exact absurd hsame hfree
      · cases value with
        | nil => simp [splitAtQuote, hquote]
        | cons d value =>
            simp only [splitAtQuote, hquote, if_false, Option.map_eq_some_iff, Prod.exists,
              Prod.mk.injEq, List.cons.injEq, List.mem_cons, List.cons_append, not_or]
            constructor
            · rintro ⟨other, after, hsplit, ⟨rfl, rfl⟩, rfl⟩
              obtain ⟨hfree, htext⟩ := ih.mp hsplit
              exact ⟨⟨Ne.symm hquote, hfree⟩, rfl, htext⟩
            · rintro ⟨⟨-, hfree⟩, rfl, htext⟩
              exact ⟨value, rest, ih.mpr ⟨hfree, htext⟩, ⟨rfl, rfl⟩, rfl⟩

/-- A text begins with a mark behind blanks if the mark is first once the blanks are gone. -/
theorem trimStart_eq_cons_iff {mark : Char} (hmark : isBlank mark = false)
    {text rest : List Char} :
    trimStart text = mark :: rest ↔ ∃ blanks : Blanks, text = blanks.text ++ mark :: rest := by
  constructor
  · intro htrim
    obtain ⟨blanks, hsplit⟩ := trimStart_split text
    exact ⟨blanks, by rw [← htrim]; exact hsplit⟩
  · rintro ⟨blanks, rfl⟩
    rw [trimStart_blanks_append]
    exact startsFirm_cons hmark rest

/-- A key is given a value exactly by an equals sign between blanks and the value in quotes. -/
theorem quotedValue_eq_some_iff {key text value rest : List Char} :
    quotedValue key text = some (value, rest) ↔
      '"' ∉ value ∧ ∃ equals : Equals, text = key ++ equals.text ++ inQuotes value ++ rest := by
  simp only [quotedValue, Option.bind_eq_some_iff, stripPrefix?_eq_some_iff, List.cons_append,
    List.nil_append, trimStart_eq_cons_iff (show isBlank '=' = false by decide),
    trimStart_eq_cons_iff (show isBlank '"' = false by decide), splitAtQuote_eq_some_iff]
  constructor
  · rintro ⟨_, rfl, _, ⟨before, rfl⟩, _, ⟨after, rfl⟩, hfree, rfl⟩
    exact ⟨hfree, ⟨before, after⟩, by simp [Equals.text, inQuotes]⟩
  · rintro ⟨hfree, ⟨before, after⟩, rfl⟩
    refine ⟨_, ?_, _, ⟨before, rfl⟩, _, ⟨after, rfl⟩, hfree, rfl⟩
    simp [Equals.text, inQuotes]

theorem skipCommas_split (text : List Char) : ∃ gap : Gap, text = gap.text ++ skipCommas text := by
  obtain ⟨before, hbefore⟩ := trimStart_split text
  obtain ⟨commas, hcommas⟩ := run_split ',' (trimStart text)
  obtain ⟨after, hafter⟩ := trimStart_split ((trimStart text).dropWhile (· == ','))
  refine ⟨⟨before, commas, after⟩, ?_⟩
  conv_lhs => rw [hbefore, hcommas, hafter]
  simp only [Gap.text, skipCommas, List.append_assoc]

/-- A gap is skipped up to a text that begins with neither a blank nor a comma. -/
theorem skipCommas_gap_append (gap : Gap) {rest : List Char} (hfirm : StartsFirm rest)
    (hcomma : rest.head? ≠ some ',') : skipCommas (gap.text ++ rest) = rest := by
  obtain ⟨left, hleft⟩ := trimStart_run (show isBlank ',' = false by decide) gap.before gap.after
    gap.commas
  unfold skipCommas Gap.text
  rw [hleft rest hfirm, dropWhile_run (by decide) _ _ hcomma, trimStart_blanks_append]
  exact hfirm

/-- Blanks behind a text stay behind what is left of it when a gap is skipped. -/
theorem skipCommas_append_blanks (text : List Char) (blanks : Blanks) :
    ∃ rest : Blanks, skipCommas (text ++ blanks.text) = skipCommas text ++ rest.text := by
  obtain ⟨first, hfirst⟩ := trimStart_append_blanks text blanks
  obtain ⟨rest, hrest⟩ := trimStart_append_blanks ((trimStart text).dropWhile (· == ',')) first
  have hkept : first.text.dropWhile (· == ',') = first.text := by
    apply dropWhile_mark_of_head?
    simpa using first.append_head?_ne (show isBlank ',' = false by decide)
      (show ([] : List Char).head? ≠ some ',' by simp)
  refine ⟨rest, ?_⟩
  unfold skipCommas
  rw [hfirst, dropWhile_append_of_kept hkept, hrest]

/-- Whether the blanks at the end are trimmed before a gap is skipped or after makes no
difference. -/
theorem trimEnd_skipCommas_trimEnd (text : List Char) :
    trimEnd (skipCommas (trimEnd text)) = trimEnd (skipCommas text) := by
  obtain ⟨blanks, hblanks⟩ := trimEnd_split text
  obtain ⟨rest, hrest⟩ := skipCommas_append_blanks (trimEnd text) blanks
  conv_rhs => rw [hblanks, hrest, trimEnd_append_blanks]

/-! ### Tags and their lines -/

/-- What stands between the parts of an annotation. -/
structure Spacing where
  nameEquals : Equals
  typeGap : Gap
  typeEquals : Equals
  metadataGap : Gap

/-- The parts of an annotation in quotes: the name of the listener, and the type if there is one. -/
def quotedParts (tag : ListenerTag) (spacing : Spacing) : List Char :=
  listenerKey ++ spacing.nameEquals.text ++ inQuotes tag.kind.name.toList ++
    match tag.genericType with
    | none => []
    | some eventType =>
      spacing.typeGap.text ++ typeKey ++ spacing.typeEquals.text ++ inQuotes eventType.toList

/-- An annotation without its comment. -/
def content (tag : ListenerTag) (spacing : Spacing) : List Char :=
  tag.quotedParts spacing ++ spacing.metadataGap.text ++ tag.metadata.toList

/-- The line in which a tag is written with this frame and spacing. -/
def written (tag : ListenerTag) (frame : Frame) (spacing : Spacing) : String :=
  String.ofList (frame.around (tag.content spacing))

/-- A tag whose parts can be told apart in a line: the type has no quote, and the metadata begins
with nothing that counts for a gap and does not end like a comment. -/
structure Writable (tag : ListenerTag) : Prop where
  typed : tag.genericType.isSome = true ↔ tag.kind = .generic
  quotable : ∀ eventType, tag.genericType = some eventType →
    eventType ≠ "" ∧ '"' ∉ eventType.toList
  starts : ∀ c, tag.metadata.toList.head? = some c → isBlank c = false ∧ c ≠ ','
  ends : ∀ c, tag.metadata.toList.getLast? = some c → isBlank c = false
  unclosed : ¬ ['*', '/'] <:+ tag.metadata.toList

/-- What is known of a tag that was read from a line. -/
structure ReadOff (tag : ListenerTag) (line : String) : Prop where
  typed : tag.genericType.isSome = true ↔ tag.kind = .generic
  nonempty : ∀ eventType, tag.genericType = some eventType → eventType ≠ ""
  trimmed : trimString tag.metadata = tag.metadata
  begins : ∃ (equals : Equals) (rest : List Char), stripLeader line.toList =
    listenerKey ++ equals.text ++ inQuotes tag.kind.name.toList ++ rest
  spelled : ∃ (frame : Frame) (spacing : Spacing), line = tag.written frame spacing

theorem name_unquoted (kind : ListenerKind) : '"' ∉ kind.name.toList := by
  cases kind <;> decide

theorem ofName?_name (kind : ListenerKind) : ListenerKind.ofName? kind.name = some kind := by
  cases kind <;> decide

theorem name_of_ofName? {name : String} {kind : ListenerKind}
    (hkind : ListenerKind.ofName? name = some kind) : kind.name = name := by
  have hfound := List.find?_some hkind
  simpa using hfound

theorem quotedParts_head? (tag : ListenerTag) (spacing : Spacing) (rest : List Char) :
    (tag.quotedParts spacing ++ rest).head? = some '@' := rfl

theorem append_inQuotes_getLast? (front value : List Char) :
    (front ++ inQuotes value).getLast? = some '"' := by
  unfold inQuotes
  rw [← List.cons_append, ← List.append_assoc, List.getLast?_concat]

/-- The quoted parts end with a quote. -/
theorem quotedParts_getLast? (tag : ListenerTag) (spacing : Spacing) :
    (tag.quotedParts spacing).getLast? = some '"' := by
  unfold quotedParts
  cases tag.genericType with
  | none =>
      rw [List.append_nil]
      exact append_inQuotes_getLast? _ _
  | some eventType =>
      rw [← List.append_assoc]
      exact append_inQuotes_getLast? _ _

/-- Behind the name of a listener its parts are read. -/
theorem ofContent_named (kind : ListenerKind) (equals : Equals) (rest : List Char) :
    ofContent (listenerKey ++ equals.text ++ inQuotes kind.name.toList ++ rest) =
      (ofParts kind (skipCommas rest)).map some := by
  have hkey : stripPrefix? listenerKey
      (listenerKey ++ equals.text ++ inQuotes kind.name.toList ++ rest) =
        some (equals.text ++ inQuotes kind.name.toList ++ rest) := by
    rw [stripPrefix?_eq_some_iff]
    simp only [List.append_assoc]
  have hname := quotedValue_eq_some_iff.mpr
    ⟨name_unquoted kind, equals, (rfl : _ = listenerKey ++ _ ++ _ ++ rest)⟩
  simp only [ofContent, hkey, hname, Option.isNone_some, Bool.false_eq_true, if_false,
    String.ofList_toList, ofName?_name]

/-- A generic listener takes its type from the quotes. -/
theorem ofParts_generic {rest eventType after : List Char}
    (hvalue : quotedValue typeKey rest = some (eventType, after)) (hsome : eventType ≠ []) :
    ofParts .generic rest = .ok ⟨.generic, some (String.ofList eventType),
      String.ofList (trimEnd (skipCommas after))⟩ := by
  rw [ofParts, if_pos rfl, hvalue]
  cases eventType with
  | nil => exact absurd rfl hsome
  | cons c chars => rfl

/-- Behind the quoted parts of a tag only its metadata is left to read. -/
theorem ofContent_quotedParts {tag : ListenerTag} (htag : tag.Writable) (spacing : Spacing)
    (rest : List Char) :
    ofContent (tag.quotedParts spacing ++ rest) =
      .ok (some ⟨tag.kind, tag.genericType, String.ofList (trimEnd (skipCommas rest))⟩) := by
  have htyped := htag.typed
  unfold quotedParts
  rw [List.append_assoc, ofContent_named]
  cases htype : tag.genericType with
  | none =>
      rw [htype] at htyped
      have hkind : tag.kind ≠ .generic := fun hgeneric => by cases htyped.mpr hgeneric
      rw [List.nil_append, ofParts, if_neg hkind]
      rfl
  | some eventType =>
      rw [htype] at htyped
      obtain ⟨hsome, hfree⟩ := htag.quotable eventType htype
      -- the gap in front of the type ends at the at sign of its key
      have hskip : skipCommas (spacing.typeGap.text ++
            (typeKey ++ spacing.typeEquals.text ++ inQuotes eventType.toList ++ rest)) =
          typeKey ++ spacing.typeEquals.text ++ inQuotes eventType.toList ++ rest :=
        skipCommas_gap_append spacing.typeGap (startsFirm_cons (by decide) _) (by simp [typeKey])
      have htext := quotedValue_eq_some_iff.mpr
        ⟨hfree, spacing.typeEquals, (rfl : _ = typeKey ++ _ ++ _ ++ rest)⟩
      have hgap : spacing.typeGap.text ++ typeKey ++ spacing.typeEquals.text ++
          inQuotes eventType.toList ++ rest = spacing.typeGap.text ++
            (typeKey ++ spacing.typeEquals.text ++ inQuotes eventType.toList ++ rest) := by
        simp only [List.append_assoc]
      have hlisted : eventType.toList ≠ [] := fun hnil => hsome (String.toList_eq_nil_iff.mp hnil)
      rw [hgap, hskip, htyped.mp rfl, ofParts_generic htext hlisted, String.ofList_toList]
      rfl

/-- Trimming the end of a gap and the metadata behind it leaves the metadata and, in front of it,
blanks and commas only. -/
theorem trimEnd_gap_append (gap : Gap) {metadata : List Char} (hfirm : EndsFirm metadata) :
    ∃ left : List Char, (∀ c ∈ left, c = ',' ∨ isBlank c = true) ∧
      trimEnd (gap.text ++ metadata) = left ++ metadata := by
  have hgap : ∀ c ∈ gap.text, c = ',' ∨ isBlank c = true := by
    intro c hc
    simp only [Gap.text, List.mem_append, List.mem_replicate] at hc
    rcases hc with (hbefore | hcomma) | hafter
    · exact .inr (gap.before.blank c hbefore)
    · exact .inl hcomma.2
    · exact .inr (gap.after.blank c hafter)
  by_cases hsome : metadata = []
  · subst hsome
    obtain ⟨blanks, hblanks⟩ := trimEnd_split gap.text
    refine ⟨trimEnd gap.text, fun c hc => hgap c ?_, by simp only [List.append_nil]⟩
    rw [hblanks]
    exact List.mem_append_left _ hc
  · exact ⟨gap.text, hgap, hfirm.append hsome _⟩

/-- An ending of two characters is that of the second part of a text, if the first part ends with
neither of them. -/
theorem suffix_of_append {a b : Char} {first second : List Char}
    (hfirst : ∀ c, first.getLast? = some c → c ≠ a ∧ c ≠ b)
    (hending : [a, b] <:+ first ++ second) : [a, b] <:+ second := by
  obtain ⟨before, hbefore⟩ := hending
  match second with
  | [] =>
      rw [List.append_nil] at hbefore
      exact absurd rfl (hfirst b (by rw [← hbefore]; simp)).2
  | [c] =>
      have hinit := congrArg List.dropLast hbefore
      rw [List.dropLast_concat] at hinit
      have hlast : first.getLast? = some a := by rw [← hinit]; simp
      exact absurd rfl (hfirst a hlast).1
  | c :: d :: rest =>
      exact List.suffix_of_suffix_length_le ⟨before, hbefore⟩ (List.suffix_append _ _) (by simp)

/-- The line in which a tag is written reads as the tag, in any frame and with any spacing. -/
theorem parse_written {tag : ListenerTag} (htag : tag.Writable) (frame : Frame)
    (spacing : Spacing) : parse (tag.written frame spacing) = .ok (some tag) := by
  have hends : EndsFirm tag.metadata.toList := (endsFirm_iff _).mpr htag.ends
  have hstarts : StartsFirm tag.metadata.toList :=
    (startsFirm_iff _).mpr fun c hc => (htag.starts c hc).1
  have hparts : EndsFirm (tag.quotedParts spacing) := by
    rw [endsFirm_iff, quotedParts_getLast?]
    rintro c ⟨⟩
    decide
  obtain ⟨left, hleft, htrimmed⟩ := trimEnd_gap_append spacing.metadataGap hends
  obtain ⟨blanks, hblanks⟩ := trimEnd_split (spacing.metadataGap.text ++ tag.metadata.toList)
  -- blanks at the end of the content may be counted as blanks of the frame
  have hcontent : tag.content spacing =
      tag.quotedParts spacing ++ trimEnd (spacing.metadataGap.text ++ tag.metadata.toList) ++
        blanks.text := by
    unfold content
    rw [List.append_assoc, List.append_assoc, ← hblanks]
  have hunclosed : ¬ ['*', '/'] <:+
      tag.quotedParts spacing ++ trimEnd (spacing.metadataGap.text ++ tag.metadata.toList) := by
    intro hending
    rw [htrimmed, ← List.append_assoc] at hending
    refine htag.unclosed (suffix_of_append (fun c hc => ?_) hending)
    rw [List.getLast?_append, Option.or_eq_some_iff] at hc
    rcases hc with hc | ⟨-, hc⟩
    · rcases hleft c (List.mem_of_getLast? hc) with rfl | hblank
      · decide
      · constructor
        all_goals
          rintro rfl
          cases hblank
    · rw [quotedParts_getLast?, Option.some.injEq] at hc
      subst hc
      decide
  have hread : stripLeader (frame.around (tag.content spacing)) =
      tag.quotedParts spacing ++ trimEnd (spacing.metadataGap.text ++ tag.metadata.toList) := by
    rw [hcontent, frame.around_append_blanks]
    apply stripLeader_around _ (quotedParts_head? tag spacing _)
    · rw [← trimEnd_append hparts]
      exact endsFirm_trimEnd _
    · exact fun _ => hunclosed
  have hskip : skipCommas (spacing.metadataGap.text ++ tag.metadata.toList) =
      tag.metadata.toList :=
    skipCommas_gap_append _ hstarts fun hcomma => (htag.starts ',' hcomma).2 rfl
  unfold parse written
  rw [String.toList_ofList, hread, ofContent_quotedParts htag, trimEnd_skipCommas_trimEnd, hskip,
    hends, String.ofList_toList]

/-! ### What is read was written -/

/-- The metadata stands behind a gap and before blanks. -/
theorem metadata_split (text : List Char) :
    ∃ (gap : Gap) (blanks : Blanks),
      text = gap.text ++ trimEnd (skipCommas text) ++ blanks.text := by
  obtain ⟨gap, hgap⟩ := skipCommas_split text
  obtain ⟨blanks, hblanks⟩ := trimEnd_split (skipCommas text)
  refine ⟨gap, blanks, ?_⟩
  rw [List.append_assoc, ← hblanks]
  exact hgap

theorem metadata_trimmed (text : List Char) :
    trimString (String.ofList (trimEnd (skipCommas text))) =
      String.ofList (trimEnd (skipCommas text)) := by
  obtain ⟨hstarts, hends⟩ := trim_firm ((trimStart text).dropWhile (· == ','))
  unfold trimString
  rw [String.toList_ofList]
  exact congrArg String.ofList (trim_of_firm hstarts hends)

/-- The parts behind the name of a listener were written as a tag of that name. -/
theorem ofParts_spelled {kind : ListenerKind} {text : List Char} {tag : ListenerTag}
    (hparts : ofParts kind (skipCommas text) = .ok tag) (equals : Equals) :
    tag.kind = kind ∧ (tag.genericType.isSome = true ↔ tag.kind = .generic) ∧
      (∀ eventType, tag.genericType = some eventType → eventType ≠ "") ∧
      trimString tag.metadata = tag.metadata ∧
      ∃ (spacing : Spacing) (blanks : Blanks),
        listenerKey ++ equals.text ++ inQuotes kind.name.toList ++ text =
          tag.content spacing ++ blanks.text := by
  unfold ofParts at hparts
  split at hparts
  · rename_i hgeneric
    split at hparts
    · cases hparts
    · cases hparts
    · rename_i eventType after hsome hvalue
      cases hparts
      obtain ⟨typeGap, htypeGap⟩ := skipCommas_split text
      obtain ⟨-, typeEquals, htype⟩ := quotedValue_eq_some_iff.mp hvalue
      obtain ⟨metadataGap, blanks, hmetadata⟩ := metadata_split after
      refine ⟨rfl, by simp [hgeneric], ?_, metadata_trimmed after,
        ⟨equals, typeGap, typeEquals, metadataGap⟩, blanks, ?_⟩
      · rintro other hother rfl
        rw [Option.some.injEq, String.ofList_eq_empty_iff] at hother
        exact hsome hother
      · conv_lhs => rw [htypeGap, htype, hmetadata]
        simp only [content, quotedParts, String.toList_ofList, List.append_assoc]
  · rename_i hother
    cases hparts
    obtain ⟨metadataGap, blanks, hmetadata⟩ := metadata_split text
    refine ⟨rfl, by simp [hother], by simp, metadata_trimmed text,
      ⟨equals, metadataGap, equals, metadataGap⟩, blanks, ?_⟩
    conv_lhs => rw [hmetadata]
    simp only [content, quotedParts, String.toList_ofList, List.append_assoc, List.nil_append]

/-- A line that is read as a tag was written so, whatever the line. -/
theorem readOff_of_parse {line : String} {tag : ListenerTag}
    (hparse : parse line = .ok (some tag)) : tag.ReadOff line := by
  unfold parse ofContent at hparse
  split at hparse
  · cases hparse
  · split at hparse
    · cases hparse
    · rename_i name rest hvalue
      split at hparse
      · cases hparse
      · rename_i kind hkind
        obtain ⟨-, equals, hbegins⟩ := quotedValue_eq_some_iff.mp hvalue
        have hname : name = kind.name.toList := by
          rw [name_of_ofName? hkind, String.toList_ofList]
        rw [hname] at hbegins
        cases hparts : ofParts kind (skipCommas rest) with
        | error err =>
            rw [hparts] at hparse
            cases hparse
        | ok found =>
            rw [hparts] at hparse
            cases hparse
            obtain ⟨rfl, htyped, hsome, htrimmed, spacing, blanks, hspelled⟩ :=
              ofParts_spelled hparts equals
            obtain ⟨frame, hframe⟩ := exists_frame line.toList
            refine ⟨htyped, hsome, htrimmed, ⟨equals, rest, hbegins⟩,
              { frame with tail := blanks.append frame.tail }, spacing, ?_⟩
            rw [written, ← frame.around_append_blanks, ← hspelled, ← hbegins, ← hframe,
              String.ofList_toList]

/-! ### The round trip -/

/-- Annotations are read as they are written. A tag is read back from any line it is written in,
and a tag that is read from a line has a type, and then one that is not empty, exactly if it is that
of a generic listener; its metadata is trimmed, and the line was written for it. -/
theorem parse_round_trip :
    (∀ (tag : ListenerTag) (frame : Frame) (spacing : Spacing), tag.Writable →
      parse (tag.written frame spacing) = .ok (some tag)) ∧
    ∀ (line : String) (tag : ListenerTag), parse line = .ok (some tag) → tag.ReadOff line :=
  ⟨fun _ frame spacing htag => parse_written htag frame spacing,
    fun _ _ hparse => readOff_of_parse hparse⟩

/-- A generic tag whose type and metadata hold the marks of an annotation. -/
def crowded : ListenerTag :=
  ⟨.generic, some "a=*/, b", "* x=\"y\", **/ z"⟩

/-- A block comment with stars, blanks and a closing mark. -/
def starred : Frame where
  outer := ⟨[' ', ' '], by simp [isBlank]⟩
  opening := .block
  inner := ⟨[' '], by simp [isBlank]⟩
  stars := 2
  lead := ⟨['\t'], by simp [isBlank]⟩
  tail := ⟨[' '], by simp [isBlank]⟩
  isClosed := true
  last := ⟨[' ', '\n'], by simp [isBlank]⟩

/-- Blanks and commas between all parts. -/
def loose : Spacing where
  nameEquals := ⟨⟨[' '], by simp [isBlank]⟩, ⟨[' ', ' '], by simp [isBlank]⟩⟩
  typeGap := ⟨⟨[' '], by simp [isBlank]⟩, 3, ⟨[' '], by simp [isBlank]⟩⟩
  typeEquals := ⟨default, ⟨['\t'], by simp [isBlank]⟩⟩
  metadataGap := ⟨default, 2, ⟨[' '], by simp [isBlank]⟩⟩

theorem parse_round_trip_crowded :
    crowded.Writable ∧
      crowded.written starred loose =
        "  /** **\t@Listener =  \"Generic\" ,,, @Type=\t\"a=*/, b\",, * x=\"y\", **/ z */ \n" ∧
      parse (crowded.written starred loose) = .ok (some crowded) ∧
      crowded.ReadOff (crowded.written starred loose) := by
  have hwritable : crowded.Writable := by
    refine ⟨by decide, ?_, ?_, ?_, by decide⟩
    · rintro eventType ⟨⟩
      decide
    · rintro c ⟨⟩
      decide
    · intro c hc
      have hlast : crowded.metadata.toList.getLast? = some 'z' := by decide
      rw [hlast, Option.some.injEq] at hc
      subst hc
      decide
  have hparse := parse_round_trip.1 crowded starred loose hwritable
  exact ⟨hwritable, by decide, hparse, parse_round_trip.2 _ _ hparse⟩

end ScriptHost.ListenerTag
