import ScriptHost.Proofs.Closure

/-!
Where the lines of a combined text come from. The sources stand one behind the other, each with as
many lines as it counts, so the line map finds for each line of the combined text the source and
the line in it, and finds nothing outside the text. Every line of a source is kept as it is, unless
it is an include directive.
-/

namespace ScriptHost

/-! ### Lines of a text -/

namespace Text

theorem mem_of_mem_dropReturn {line : List Char} {c : Char} (hmem : c ∈ dropReturn line) :
    c ∈ line := by
  unfold dropReturn at hmem
  split at hmem
  · rename_i rest hreverse
    rw [← List.mem_reverse, hreverse]
    exact List.mem_cons_of_mem _ (List.mem_reverse.mp hmem)
  · exact hmem

theorem not_mem_of_mem_linesFrom {text line begun : List Char} (hbegun : '\n' ∉ begun)
    (hline : line ∈ linesFrom begun text) : '\n' ∉ line := by
  induction text generalizing begun with
  | nil =>
      unfold linesFrom at hline
      split at hline
      · cases hline
      · rw [List.mem_singleton.mp hline, List.mem_reverse]
        exact hbegun
  | cons c rest ih =>
      by_cases hc : c = '\n'
      · subst hc
        rw [linesFrom, List.mem_cons] at hline
        rcases hline with rfl | hline
        · exact fun hmem => hbegun (List.mem_reverse.mp (mem_of_mem_dropReturn hmem))
        · exact ih List.not_mem_nil hline
      · rw [linesFrom] at hline
        · exact ih (fun hmem => (List.mem_cons.mp hmem).elim (Ne.symm hc) hbegun) hline
        · exact hc

/-- No line has a line feed in it. -/
theorem not_mem_of_mem_lines {text line : List Char} (hline : line ∈ lines text) : '\n' ∉ line :=
  not_mem_of_mem_linesFrom List.not_mem_nil hline

theorem linesFrom_append {line : List Char} (hline : '\n' ∉ line) (begun rest : List Char) :
    linesFrom begun (line ++ '\n' :: rest) =
      dropReturn (begun.reverse ++ line) :: linesFrom [] rest := by
  induction line generalizing begun with
  | nil => simp [linesFrom]
  | cons c more ih =>
      have hc : c ≠ '\n' := fun hsame => hline (by simp [hsame])
      have hmore : '\n' ∉ more := fun hmem => hline (List.mem_cons_of_mem _ hmem)
      rw [List.cons_append, linesFrom, ih hmore, List.reverse_cons, List.append_assoc,
        List.singleton_append]
      exact hc

/-- Writing lines and reading them again only loses a carriage return at the end of a line. -/
theorem lines_unlines {content : List (List Char)} (hcontent : ∀ line ∈ content, '\n' ∉ line) :
    lines (unlines content) = content.map dropReturn := by
  induction content with
  | nil => rfl
  | cons line rest ih =>
      have hrest := ih fun other hother => hcontent other (List.mem_cons_of_mem _ hother)
      rw [unlines, List.flatMap_cons, List.append_assoc, List.singleton_append, lines,
        linesFrom_append (hcontent line List.mem_cons_self), List.map_cons]
      exact congrArg (dropReturn line :: ·) hrest

theorem unlines_append (content more : List (List Char)) :
    unlines (content ++ more) = unlines content ++ unlines more :=
  List.flatMap_append

theorem unlines_flatMap {α : Type} (sources : List α) (content : α → List (List Char)) :
    unlines (sources.flatMap content) = sources.flatMap fun source => unlines (content source) := by
  induction sources with
  | nil => rfl
  | cons source rest ih => rw [List.flatMap_cons, unlines_append, ih, List.flatMap_cons]

theorem getLast?_unlines {content : List (List Char)} (hne : content ≠ []) :
    (unlines content).getLast? = some '\n' := by
  obtain ⟨front, line, rfl⟩ := (List.eq_nil_or_concat content).resolve_left hne
  rw [List.concat_eq_append, unlines_append]
  simp [unlines]

end Text

/-! ### Lines of a source -/

namespace Segment

variable {segment : Segment}

/-- The line `offset` of the segment as it is compiled: nothing is left of an include directive, and
a segment without lines takes up an empty one. -/
def compiledLine (segment : Segment) (offset : Nat) : List Char :=
  match segment.lines[offset]? with
  | some line => if (Prepared.includeTarget? line).isSome then [] else line
  | none => []

/-- The lines that the segment takes up in a combined text. -/
def compiledLines (segment : Segment) : List (List Char) :=
  (List.range segment.lineCount).map segment.compiledLine

@[simp]
theorem length_compiledLines (segment : Segment) :
    segment.compiledLines.length = segment.lineCount := by
  simp [compiledLines]

theorem not_mem_compiledLine (segment : Segment) (offset : Nat) :
    '\n' ∉ segment.compiledLine offset := by
  unfold compiledLine
  split
  · rename_i line hline
    split
    · exact List.not_mem_nil
    · exact Text.not_mem_of_mem_lines (List.mem_of_getElem? hline)
  · exact List.not_mem_nil

theorem compiledLines_eq_map (hlines : segment.lines ≠ []) :
    segment.compiledLines = segment.lines.map fun line =>
      if (Prepared.includeTarget? line).isSome then [] else line := by
  have hcount : segment.lineCount = segment.lines.length :=
    max_eq_left (List.length_pos_of_ne_nil hlines)
  refine List.ext_getElem (by simp [hcount]) fun offset hoffset _ => ?_
  have hbound : offset < segment.lines.length := by simpa [hcount] using hoffset
  simp [compiledLines, compiledLine, List.getElem?_eq_getElem hbound]

theorem segmentText_rewritten (segment : Segment) :
    Prepared.segmentText segment.rewritten = Text.unlines segment.compiledLines := by
  unfold Prepared.segmentText rewritten
  dsimp only
  rw [String.toList_ofList]
  by_cases hlines : segment.lines = []
  · have hcount : segment.lineCount = 1 := by simp [lineCount, hlines]
    simp [compiledLines, compiledLine, hlines, hcount, Text.unlines, List.range_succ]
  · rw [compiledLines_eq_map hlines, if_pos (Text.getLast?_unlines (by simpa using hlines))]

@[simp]
theorem lineCount_rewritten (segment : Segment) :
    segment.rewritten.lineCount = segment.lineCount := by
  have hclean : ∀ line ∈ segment.lines.map fun line =>
      if (Prepared.includeTarget? line).isSome then [] else line, '\n' ∉ line := by
    intro line hline
    obtain ⟨original, horiginal, rfl⟩ := List.mem_map.mp hline
    split
    · exact List.not_mem_nil
    · exact Text.not_mem_of_mem_lines horiginal
  unfold lineCount
  rw [lines, rewritten, String.toList_ofList, Text.lines_unlines hclean]
  simp

end Segment

/-! ### The line map -/

namespace LineMap

variable {segments : List Segment} {segment : Segment} {index other offset offset' : Nat}

/-- The number of lines that segments take up together. -/
def totalLines : List Segment → Nat
  | [] => 0
  | segment :: rest => segment.lineCount + totalLines rest

/-- The number of combined lines in front of the segment `index`. -/
def linesBefore (segments : List Segment) (index : Nat) : Nat :=
  totalLines (segments.take index)

@[simp]
theorem linesBefore_zero (segments : List Segment) : linesBefore segments 0 = 0 := by
  simp [linesBefore, totalLines]

@[simp]
theorem linesBefore_succ (segment : Segment) (rest : List Segment) (index : Nat) :
    linesBefore (segment :: rest) (index + 1) = segment.lineCount + linesBefore rest index := by
  simp [linesBefore, totalLines]

theorem placeIn_linesBefore (hsegment : segments[index]? = some segment)
    (hoffset : offset < segment.lineCount) :
    placeIn segments (linesBefore segments index + offset) = some (segment, offset) := by
  induction segments generalizing index with
  | nil => cases hsegment
  | cons first rest ih =>
      cases index with
      | zero =>
          cases hsegment
          rw [linesBefore_zero, Nat.zero_add, placeIn, if_pos hoffset]
      | succ index =>
          rw [linesBefore_succ, placeIn, if_neg (by omega), Nat.add_assoc, Nat.add_sub_cancel_left]
          exact ih hsegment

theorem placeIn_eq_none {line : Nat} (hline : totalLines segments ≤ line) :
    placeIn segments line = none := by
  induction segments generalizing line with
  | nil => rfl
  | cons first rest ih =>
      rw [totalLines] at hline
      rw [placeIn, if_neg (by omega)]
      exact ih (by omega)

/-- Every line of the combined text is a line of one of the segments. -/
theorem exists_slot {line : Nat} (hline : line < totalLines segments) :
    ∃ index offset segment, segments[index]? = some segment ∧ offset < segment.lineCount ∧
      line = linesBefore segments index + offset := by
  induction segments generalizing line with
  | nil => cases hline
  | cons first rest ih =>
      rw [totalLines] at hline
      by_cases hfirst : line < first.lineCount
      · exact ⟨0, line, first, rfl, hfirst, by simp⟩
      · have hbehind : line - first.lineCount < totalLines rest := by omega
        obtain ⟨index, offset, segment, hsegment, hoffset, hrest⟩ := ih hbehind
        exact ⟨index + 1, offset, segment, hsegment, hoffset, by rw [linesBefore_succ]; omega⟩

/-- The lines of a segment stand in front of those of the segments behind it. -/
theorem linesBefore_lt (hsegment : segments[index]? = some segment)
    (hoffset : offset < segment.lineCount) (hbehind : index < other) :
    linesBefore segments index + offset < linesBefore segments other := by
  induction segments generalizing index other with
  | nil => cases hsegment
  | cons first rest ih =>
      obtain ⟨behind, rfl⟩ := Nat.exists_eq_succ_of_ne_zero (Nat.ne_zero_of_lt hbehind)
      rw [Nat.succ_eq_add_one, linesBefore_succ]
      cases index with
      | zero =>
          cases hsegment
          rw [linesBefore_zero]
          omega
      | succ index =>
          have hrest := ih hsegment (Nat.lt_of_succ_lt_succ hbehind)
          rw [linesBefore_succ]
          omega

theorem linesBefore_add_lt (hsegment : segments[index]? = some segment)
    (hoffset : offset < segment.lineCount) :
    linesBefore segments index + offset < totalLines segments := by
  have hbound := (List.getElem?_eq_some_iff.mp hsegment).1
  have hlt := linesBefore_lt hsegment hoffset hbound
  rwa [linesBefore, linesBefore, List.take_length] at hlt

/-- No line of the combined text belongs to two lines of segments. -/
theorem slot_unique {second : Segment} (hsegment : segments[index]? = some segment)
    (hoffset : offset < segment.lineCount) (hsecond : segments[other]? = some second)
    (hoffset' : offset' < second.lineCount)
    (hsame : linesBefore segments index + offset = linesBefore segments other + offset') :
    index = other ∧ offset = offset' := by
  have hindex : index = other := by
    rcases Nat.lt_trichotomy index other with hlt | heq | hgt
    · have := linesBefore_lt hsegment hoffset hlt
      omega
    · exact heq
    · have := linesBefore_lt hsecond hoffset' hgt
      omega
  subst hindex
  exact ⟨rfl, Nat.add_left_cancel hsame⟩

theorem length_flatMap_compiledLines (segments : List Segment) :
    (segments.flatMap Segment.compiledLines).length = totalLines segments := by
  induction segments with
  | nil => rfl
  | cons first rest ih =>
      rw [List.flatMap_cons, List.length_append, ih, Segment.length_compiledLines, totalLines]

theorem getElem?_flatMap_compiledLines (hsegment : segments[index]? = some segment)
    (hoffset : offset < segment.lineCount) :
    (segments.flatMap Segment.compiledLines)[linesBefore segments index + offset]? =
      some (segment.compiledLine offset) := by
  induction segments generalizing index with
  | nil => cases hsegment
  | cons first rest ih =>
      rw [List.flatMap_cons]
      cases index with
      | zero =>
          cases hsegment
          rw [linesBefore_zero, Nat.zero_add, List.getElem?_append_left (by simpa using hoffset)]
          simp [Segment.compiledLines, hoffset]
      | succ index =>
          rw [linesBefore_succ, List.getElem?_append_right (by simp; omega),
            Segment.length_compiledLines, Nat.add_assoc, Nat.add_sub_cancel_left]
          exact ih hsegment

end LineMap

namespace Prepared

open LineMap

variable {search : SourceSearch} {tree : FileTree} {segments sources : List Segment}
  {prepared : Prepared}

theorem combined_eq (hrewrites : prepared.lines.segments = sources.map Segment.rewritten) :
    prepared.combined = Text.unlines (sources.flatMap Segment.compiledLines) := by
  rw [combined, hrewrites, List.flatMap_map, Text.unlines_flatMap]
  simp only [Segment.segmentText_rewritten]

theorem not_mem_of_mem_compiledLines {line : List Char}
    (hline : line ∈ sources.flatMap Segment.compiledLines) : '\n' ∉ line := by
  obtain ⟨source, -, hsource⟩ := List.mem_flatMap.mp hline
  obtain ⟨offset, -, rfl⟩ := List.mem_map.mp hsource
  exact source.not_mem_compiledLine offset

theorem totalLines_rewritten (sources : List Segment) :
    totalLines (sources.map Segment.rewritten) = totalLines sources := by
  induction sources with
  | nil => rfl
  | cons source rest ih =>
      rw [List.map_cons, totalLines, totalLines, ih, Segment.lineCount_rewritten]

theorem linesBefore_rewritten (sources : List Segment) (index : Nat) :
    linesBefore (sources.map Segment.rewritten) index = linesBefore sources index := by
  rw [linesBefore, linesBefore, ← List.map_take, totalLines_rewritten]

theorem locate_linesBefore (hrewrites : prepared.lines.segments = sources.map Segment.rewritten)
    {index offset : Nat} {source : Segment} (hsource : sources[index]? = some source)
    (hoffset : offset < source.lineCount) :
    prepared.lines.locate (linesBefore sources index + offset + 1) =
      some (source.file, source.startLine + offset) := by
  have hrewritten : (sources.map Segment.rewritten)[index]? = some source.rewritten := by
    simp [hsource]
  have hslot := placeIn_linesBefore hrewritten (by simpa using hoffset)
  rw [linesBefore_rewritten] at hslot
  rw [locate, place?, if_neg (Nat.succ_ne_zero _), Nat.add_sub_cancel, hrewrites, hslot]
  rfl

theorem locate_eq_none (hrewrites : prepared.lines.segments = sources.map Segment.rewritten)
    {line : Nat} (hline : totalLines sources < line) :
    prepared.lines.locate line = none := by
  have hnone : placeIn (sources.map Segment.rewritten) (line - 1) = none := by
    refine placeIn_eq_none ?_
    rw [totalLines_rewritten]
    omega
  rw [locate, place?, if_neg (by omega), hrewrites, hnone]
  rfl

/-- The combined line `line`, counted from one, is the line `offset` of the source `index`. -/
structure TakesUp (sources : List Segment) (line index offset : Nat) (source : Segment) : Prop where
  sourceAt : sources[index]? = some source
  within : offset < source.lineCount
  position : line = linesBefore sources index + offset + 1

/-- The combined text is made of the lines of the segments and then of those of the included files,
each ended by a line feed. Each line of the text belongs to exactly one line of a source, in their
order; the line map gives its place, and its text is that of the source's line, or nothing if that
is an include directive or the source has no lines. There are no other lines. Only a carriage return
at the end of a line gets lost when the combined text is read line by line. -/
theorem line_map_exact (search : SourceSearch) (tree : FileTree) (segments : List Segment)
    (prepared : Prepared) (hnamed : tree.WellNamed)
    (hok : ofSegments search tree segments = .ok prepared) :
    ∃ (files : List Segment) (lines : List (List Char)),
      List.Forall₂ (fun path file => tree.normalize ⟨file.file⟩ = path ∧
        Segment.ofFile tree ⟨file.file⟩ = .ok file) prepared.included files ∧
      (prepared.combined = Text.unlines lines ∧ (∀ line ∈ lines, '\n' ∉ line) ∧
        Text.lines prepared.combined = lines.map Text.dropReturn) ∧
      (∀ line, 1 ≤ line → line ≤ lines.length → ∃! slot : Nat × Nat,
        ∃ source, TakesUp (segments ++ files) line slot.1 slot.2 source) ∧
      (∀ index offset source, (segments ++ files)[index]? = some source →
        offset < source.lineCount →
        ∃! line, TakesUp (segments ++ files) line index offset source ∧ line ≤ lines.length) ∧
      (∀ line index offset source, TakesUp (segments ++ files) line index offset source →
        prepared.lines.locate line = some (source.file, source.startLine + offset) ∧
        lines[line - 1]? = some (source.compiledLine offset) ∧
        ∀ line' index' offset' source', TakesUp (segments ++ files) line' index' offset' source' →
          (line < line' ↔ index < index' ∨ index = index' ∧ offset < offset')) ∧
      ∀ line, line = 0 ∨ lines.length < line → prepared.lines.locate line = none := by
  obtain ⟨-, found, hclosed⟩ := ofSegments_ok hnamed hok
  have hcount : ((segments ++ found.map (·.2)).flatMap Segment.compiledLines).length =
      totalLines (segments ++ found.map (·.2)) := by
    exact length_flatMap_compiledLines _
  refine ⟨found.map (·.2), (segments ++ found.map (·.2)).flatMap Segment.compiledLines,
    hclosed.forall₂_included, ⟨combined_eq hclosed.rewrites, ?_, ?_⟩, ?_, ?_, ?_, ?_⟩
  · exact fun line hline => not_mem_of_mem_compiledLines hline
  · rw [combined_eq hclosed.rewrites]
    exact Text.lines_unlines fun line hline => not_mem_of_mem_compiledLines hline
  · intro line hpos hline
    have hbound : line - 1 < totalLines (segments ++ found.map (·.2)) := by omega
    obtain ⟨index, offset, source, hsource, hoffset, heq⟩ := exists_slot hbound
    refine ⟨(index, offset), ⟨source, hsource, hoffset, by dsimp only; omega⟩, ?_⟩
    rintro ⟨other, offset'⟩ ⟨second, hsecond, hoffset', heq'⟩
    dsimp only at hsecond hoffset' heq'
    obtain ⟨hindex, hoffsets⟩ := slot_unique hsource hoffset hsecond hoffset' (by omega)
    rw [hindex, hoffsets]
  · intro index offset source hsource hoffset
    have hlt := linesBefore_add_lt hsource hoffset
    exact ⟨_, ⟨⟨hsource, hoffset, rfl⟩, by omega⟩, fun line hline => hline.1.position⟩
  · rintro line index offset source ⟨hsource, hoffset, rfl⟩
    refine ⟨locate_linesBefore hclosed.rewrites hsource hoffset, ?_, ?_⟩
    · exact getElem?_flatMap_compiledLines hsource hoffset
    · rintro line' index' offset' source' ⟨hsource', hoffset', rfl⟩
      rw [Nat.add_lt_add_iff_right]
      rcases Nat.lt_trichotomy index index' with hlt | rfl | hgt
      · have := linesBefore_lt hsource hoffset hlt
        omega
      · omega
      · have := linesBefore_lt hsource' hoffset' hgt
        omega
  · rintro line (rfl | hline)
    · rfl
    · exact locate_eq_none hclosed.rewrites (hcount ▸ hline)

theorem line_map_exact_mutual :
    mutualFiles.WellNamed ∧ ∃ prepared,
      ofSegments ⟨[], "rhai"⟩ mutualFiles [mutualMain] = .ok prepared ∧
      prepared.lines.locate 3 = some ("/a.rhai", 2) ∧
      ∃ lines : List (List Char), Text.lines prepared.combined = lines.map Text.dropReturn ∧
        ∀ line, line = 0 ∨ lines.length < line → prepared.lines.locate line = none := by
  have hnamed : mutualFiles.WellNamed := fun name hname => absurd hname List.not_mem_nil
  have hplace : ((ofSegments ⟨[], "rhai"⟩ mutualFiles [mutualMain]).toOption.bind
      (·.lines.locate 3)) = some ("/a.rhai", 2) := by decide +kernel
  cases hprepared : ofSegments ⟨[], "rhai"⟩ mutualFiles [mutualMain] with
  | error err =>
      rw [hprepared] at hplace
      cases hplace
  | ok prepared =>
      rw [hprepared] at hplace
      obtain ⟨-, lines, -, ⟨-, -, hlines⟩, -, -, -, hnone⟩ :=
        line_map_exact _ _ _ prepared hnamed hprepared
      exact ⟨hnamed, prepared, rfl, hplace, lines, hlines, hnone⟩

/-- A segment whose text ends with a carriage return. -/
def returning : Segment := .inline "m.rhai" 1 "let x = 1;\r"

/-- The carriage return at the end of a text becomes a part of the line end. -/
theorem combined_loses_return :
    returning.lines[0]? = some "let x = 1;\r".toList ∧
    (includeTarget? "let x = 1;\r".toList).isSome = false ∧
    (ofSegments ⟨[], "rhai"⟩ ⟨.directory [], []⟩ [returning]).toOption.map (fun prepared =>
      (prepared.included, prepared.lines.locate 1, (Text.lines prepared.combined)[0]?)) =
        some ([], some ("m.rhai", 1), some "let x = 1;".toList) ∧
    "let x = 1;\r".toList ≠ "let x = 1;".toList := by
  decide +kernel

end Prepared

end ScriptHost
