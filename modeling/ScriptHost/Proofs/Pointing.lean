import ScriptHost.Proofs.Locating
import ScriptHost.Proofs.Scanning

/-!
Where a refused call is reported. The line that is noted of a call is a line of the combined text
that has the call in it, unless line feeds in front of the call are escaped between quotes, and the
line map leads from there to the line of the segment.
-/

namespace ScriptHost

/-! ### Calls in a line -/

/-- Whether a function is called in a line: its name, some blanks and an opening parenthesis stand
there one behind the other. -/
def CallsIn (line : List Char) (name : String) : Prop :=
  ∃ front blanks back, line = front ++ (name.toList ++ blanks ++ ['(']) ++ back ∧
    ∀ c ∈ blanks, c = ' ' ∨ c = '\t'

namespace Text

/-- A carriage return that is dropped stands behind every other character. -/
theorem dropReturn_append_cons {c : Char} (hc : c ≠ '\r') (front back : List Char) :
    ∃ rest, dropReturn (front ++ c :: back) = front ++ c :: rest := by
  unfold dropReturn
  split
  · rename_i rest hreverse
    have hsplit : front ++ c :: back = rest.reverse ++ ['\r'] := by
      rw [← List.reverse_cons, ← hreverse, List.reverse_reverse]
    rcases List.eq_nil_or_concat back with rfl | ⟨back, last, rfl⟩
    · have hlast := (List.append_inj' hsplit rfl).2
      exact absurd (List.cons.inj hlast).1 hc
    · rw [List.concat_eq_append, ← List.cons_append, ← List.append_assoc] at hsplit
      exact ⟨back, (List.append_inj' hsplit rfl).1.symm⟩
  · exact ⟨back, rfl⟩

theorem prefix_of_append_cons {line rest word more : List Char} (hword : '\n' ∉ word)
    (htext : line ++ '\n' :: rest = word ++ more) : ∃ back, line = word ++ back := by
  rcases List.append_eq_append_iff.mp htext with ⟨back, rfl, hback⟩ | ⟨back, rfl, -⟩
  · cases back with
    | nil => exact ⟨[], by simp⟩
    | cons c back =>
        cases hback
        exact absurd (List.mem_append_right _ List.mem_cons_self) hword
  · exact ⟨back, rfl⟩

/-- What stands behind some line feeds of a text, and has none in it, stands in one line. -/
theorem exists_line {content : List (List Char)} (hcontent : ∀ line ∈ content, '\n' ∉ line)
    {front word back : List Char} (hword : '\n' ∉ word) (hne : word ≠ [])
    (htext : unlines content = front ++ word ++ back) :
    ∃ line before after, content[front.count '\n']? = some line ∧
      line = before ++ word ++ after := by
  induction content generalizing front with
  | nil =>
      have hnil := List.append_eq_nil_iff.mp htext.symm
      exact absurd (List.append_eq_nil_iff.mp hnil.1).2 hne
  | cons line rest ih =>
      have hline := hcontent line List.mem_cons_self
      have hrest := fun other hother => hcontent other (List.mem_cons_of_mem _ hother)
      have hunlines : unlines (line :: rest) = line ++ '\n' :: unlines rest := by simp [unlines]
      rw [hunlines, List.append_assoc] at htext
      rcases List.append_eq_append_iff.mp htext with ⟨more, rfl, hmore⟩ | ⟨more, rfl, hmore⟩
      · cases more with
        | nil =>
            cases word with
            | nil => exact absurd rfl hne
            | cons c word =>
                obtain ⟨rfl, -⟩ := List.cons.inj hmore
                exact absurd List.mem_cons_self hword
        | cons c more =>
            obtain ⟨rfl, htail⟩ := List.cons.inj hmore
            obtain ⟨found, before, after, hfound, hsplit⟩ :=
              ih hrest (htail.trans (List.append_assoc more word back).symm)
            refine ⟨found, before, after, ?_, hsplit⟩
            rw [List.count_append, List.count_eq_zero.mpr hline, List.count_cons_self,
              Nat.zero_add]
            exact hfound
      · obtain ⟨after, rfl⟩ := prefix_of_append_cons hword hmore.symm
        have hfront : '\n' ∉ front := fun hmem => hline (List.mem_append_left _ hmem)
        refine ⟨_, front, after, ?_, by rw [List.append_assoc]⟩
        rw [List.count_eq_zero.mpr hfront]
        rfl

end Text

theorem CallsIn.ne_nil {line : List Char} {name : String} (hcalls : CallsIn line name) :
    line ≠ [] := by
  rintro rfl
  obtain ⟨front, blanks, back, hline, -⟩ := hcalls
  simp at hline

/-- A call does not get lost with a carriage return. -/
theorem CallsIn.dropReturn {line : List Char} {name : String} (hcalls : CallsIn line name) :
    CallsIn (Text.dropReturn line) name := by
  obtain ⟨front, blanks, back, rfl, hblanks⟩ := hcalls
  have hopen : '(' ≠ '\r' := by decide
  obtain ⟨rest, hrest⟩ :=
    Text.dropReturn_append_cons hopen (front ++ (name.toList ++ blanks)) back
  refine ⟨front, blanks, rest, ?_, hblanks⟩
  simpa using hrest

namespace CallScan

/-- A call that is counted in a text stands in the line that the line feeds in front of it lead to. -/
theorem countedAt_line {content : List (List Char)} (hcontent : ∀ line ∈ content, '\n' ∉ line)
    {offset : Nat} {name : String}
    (hcounted : countedAt (Text.unlines content) offset = some name) :
    ∃ line, content[((Text.unlines content).take offset).count '\n']? = some line ∧
      CallsIn line name := by
  obtain ⟨blanks, rest, htext, hword, hblanks⟩ := Mode.callAt_eq_some hcounted
  have hclean : '\n' ∉ name.toList ++ blanks ++ ['('] := by
    simp only [List.mem_append, List.mem_singleton]
    rintro ((hmem | hmem) | hmem)
    · exact (isWordChar_plain (hword _ hmem)).1 rfl
    · exact (hblanks _ hmem).elim (by decide) (by decide)
    · cases hmem
  have hsplit : Text.unlines content = (Text.unlines content).take offset ++
      (name.toList ++ blanks ++ ['(']) ++ rest := by
    conv_lhs => rw [← List.take_append_drop offset (Text.unlines content), htext]
    simp
  obtain ⟨line, before, after, hline, hword⟩ :=
    Text.exists_line hcontent hclean (by simp) hsplit
  exact ⟨line, hline, before, blanks, after, hword, hblanks⟩

/-- The line that is noted of a call falls short by the line feeds that are escaped in front of it. -/
theorem lineAt_add_escapedFeeds (text : List Char) (offset : Nat) :
    lineAt text offset + Mode.start.escapedFeeds (text.take offset) =
      1 + (text.take offset).count '\n' := by
  rw [lineAt, Nat.add_assoc, Mode.feeds_add_escapedFeeds]

end CallScan

namespace Segment

variable {segment : Segment} {offset : Nat}

/-- The lines of a segment that are not empty when it is compiled stand in what is compiled. -/
theorem lines_rewritten (hline : segment.compiledLine offset ≠ []) :
    segment.rewritten.lines[offset]? = some (Text.dropReturn (segment.compiledLine offset)) := by
  have hlines : segment.lines ≠ [] := by
    intro hnone
    simp [compiledLine, hnone] at hline
  have hrewritten : segment.rewritten.lines = segment.compiledLines.map Text.dropReturn := by
    rw [lines, rewritten, String.toList_ofList, ← compiledLines_eq_map hlines]
    refine Text.lines_unlines fun line hmem => ?_
    obtain ⟨other, -, rfl⟩ := List.mem_map.mp hmem
    exact segment.not_mem_compiledLine other
  have hbound : offset < segment.lineCount := by
    refine lt_of_lt_of_le ?_ (le_max_left _ _)
    by_contra hbeyond
    have hnone := List.getElem?_eq_none (Nat.le_of_not_lt hbeyond)
    simp [compiledLine, hnone] at hline
  rw [hrewritten, List.getElem?_map, compiledLines, List.getElem?_map, List.getElem?_range hbound]
  rfl

end Segment

namespace Prepared

variable {search : SourceSearch} {tree : FileTree} {segments : List Segment}
  {prepared : Prepared}

/-- What is compiled is made of segments with their directives taken out. -/
theorem closure_rewrites {fuel : Nat} {done originals : List Segment} {progress : Progress}
    (hdone : done.reverse = originals.map Segment.rewritten)
    (hok : closure search tree fuel done progress = .ok prepared) :
    ∃ sources : List Segment, prepared.lines.segments = sources.map Segment.rewritten := by
  induction fuel generalizing done originals progress with
  | zero =>
      unfold closure at hok
      cases hqueue : progress.queue <;> rw [hqueue] at hok <;> cases hok <;>
        exact ⟨originals, hdone⟩
  | succ fuel ih =>
      unfold closure at hok
      cases hqueue : progress.queue with
      | nil =>
          rw [hqueue] at hok
          cases hok
          exact ⟨originals, hdone⟩
      | cons segment queue =>
          rw [hqueue] at hok
          dsimp only at hok
          split at hok
          · cases hok
          · rename_i lines after hrewrites
            obtain ⟨rfl, -⟩ := rewriteLines_ok hrewrites
            have hnext : (segment.rewritten :: done).reverse =
                (originals ++ [segment]).map Segment.rewritten := by
              rw [List.reverse_cons, hdone, List.map_append]
              rfl
            exact ih hnext hok

theorem ofSegments_rewrites (hok : ofSegments search tree segments = .ok prepared) :
    ∃ sources : List Segment, prepared.lines.segments = sources.map Segment.rewritten := by
  unfold ofSegments at hok
  split at hok
  · cases hok
  · have hdone : ([] : List Segment).reverse = List.map Segment.rewritten [] := rfl
    exact closure_rewrites hdone hok

/-- A line of the combined text that is not empty is one of a segment, and the line map leads there. -/
theorem locate_line {sources : List Segment}
    (hrewrites : prepared.lines.segments = sources.map Segment.rewritten) {number : Nat}
    {line : List Char} (hline : (sources.flatMap Segment.compiledLines)[number]? = some line)
    (hne : line ≠ []) :
    ∃ segment ∈ prepared.lines.segments, ∃ offset,
      prepared.lines.locate (number + 1) = some (segment.file, segment.startLine + offset) ∧
      segment.lines[offset]? = some (Text.dropReturn line) := by
  have hbound : number < LineMap.totalLines sources := by
    rw [← LineMap.length_flatMap_compiledLines]
    exact (List.getElem?_eq_some_iff.mp hline).1
  obtain ⟨index, offset, source, hsource, hoffset, rfl⟩ := LineMap.exists_slot hbound
  rw [LineMap.getElem?_flatMap_compiledLines hsource hoffset, Option.some.injEq] at hline
  subst hline
  have hlocate := locate_linesBefore hrewrites hsource hoffset
  refine ⟨source.rewritten, ?_, offset, hlocate, Segment.lines_rewritten hne⟩
  rw [hrewrites]
  exact List.mem_map_of_mem (List.mem_of_getElem? hsource)

/-- Every line of the combined text has a place. -/
theorem locate_isSome {sources : List Segment}
    (hrewrites : prepared.lines.segments = sources.map Segment.rewritten) {number : Nat}
    (hnumber : number < (sources.flatMap Segment.compiledLines).length) :
    (prepared.lines.locate (number + 1)).isSome = true := by
  rw [LineMap.length_flatMap_compiledLines] at hnumber
  obtain ⟨index, offset, source, hsource, hoffset, rfl⟩ := LineMap.exists_slot hnumber
  rw [locate_linesBefore hrewrites hsource hoffset]
  rfl

end Prepared

namespace CallScan

/-! ### Reports -/

variable {prepared : Prepared} {restricted : Table String AccessMask}
  {granted required : AccessMask} {file function : String} {line : Nat}

/-- What is reported is the first call that is refused, at the place of the line noted of it. -/
theorem checkAccess_eq_error
    (herror : checkAccess prepared granted restricted =
      .error (.access file line function required)) :
    ∃ offset needed, countedAt prepared.combined offset = some function ∧
      Refused restricted granted function needed ∧ required = needed.minus granted ∧
      (∀ earlier < offset, ∀ other needed, countedAt prepared.combined earlier = some other →
        ¬ Refused restricted granted other needed) ∧
      (file, line) = (prepared.lines.locate (lineAt prepared.combined offset)).getD
        ("<unknown>", lineAt prepared.combined offset) := by
  unfold checkAccess at herror
  split at herror
  · cases herror
  · rename_i called noted needed hviolation
    obtain ⟨offset, hcounted, hrefused, rfl, hfresh⟩ := firstViolation_eq_some_iff.mp hviolation
    cases herror
    exact ⟨offset, needed, hcounted, hrefused, rfl, hfresh, rfl⟩

theorem count_take_le (text : List Char) {offset earlier : Nat} (hle : earlier ≤ offset) :
    (text.take earlier).count '\n' ≤ (text.take offset).count '\n' :=
  (List.take_sublist_take_left hle).count_le '\n'

/-- A segment that reads a file in its second line. -/
def reading : Segment := .inline "io.rhai" 1 "fn main() \x7b\n  read_text_file(1)\n\x7d"

/-- A text with a line feed that is escaped between quotes. -/
def continued : List Char := "let s = \"a\\\nb\"; secret()".toList

end CallScan

end ScriptHost
