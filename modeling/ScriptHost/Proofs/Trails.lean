import Mathlib.Data.List.TakeWhile
import ScriptHost.SourceSearch

/-!
Where paths lead. A path to a file ends with a name, and its parent leads to the directory
that holds the file. Hence what is looked up beside a file depends on where the file is and
not on the spelling of its path. The normalized path of a file says where the file is, so
there are no more normalized paths of files than there are files.
-/

namespace ScriptHost

namespace Text

variable {separator c : Char}

theorem pieces_ne_nil (separator : Char) (text : List Char) : pieces separator text ≠ [] := by
  cases text with
  | nil => simp [pieces]
  | cons c rest =>
      unfold pieces
      split
      · simp
      · split <;> simp

@[simp]
theorem pieces_separator (separator : Char) (rest : List Char) :
    pieces separator (separator :: rest) = [] :: pieces separator rest := by
  simp [pieces]

theorem pieces_cons (hne : c ≠ separator) (rest : List Char) :
    ∃ first others, pieces separator rest = first :: others ∧
      pieces separator (c :: rest) = (c :: first) :: others := by
  cases hrest : pieces separator rest with
  | nil => exact absurd hrest (pieces_ne_nil separator rest)
  | cons first others => exact ⟨first, others, rfl, by simp [pieces, hne, hrest]⟩

/-- A separator between two texts keeps their pieces apart. -/
theorem pieces_append (separator : Char) (before after : List Char) :
    pieces separator (before ++ separator :: after) =
      pieces separator before ++ pieces separator after := by
  induction before with
  | nil => simp [pieces]
  | cons c rest ih =>
      by_cases hc : c = separator
      · subst hc
        simp [ih]
      · obtain ⟨first, others, hrest, hwhole⟩ := pieces_cons hc rest
        obtain ⟨first', others', hrest', hwhole'⟩ :=
          pieces_cons hc (rest ++ separator :: after)
        rw [ih, hrest, List.cons_append, List.cons.injEq] at hrest'
        rw [List.cons_append, hwhole', hwhole, ← hrest'.1, ← hrest'.2, List.cons_append]

theorem not_mem_of_mem_pieces {text piece : List Char}
    (hpiece : piece ∈ pieces separator text) : separator ∉ piece := by
  induction text generalizing piece with
  | nil =>
      simp only [pieces, List.mem_singleton] at hpiece
      simp [hpiece]
  | cons c rest ih =>
      by_cases hc : c = separator
      · subst hc
        rw [pieces_separator, List.mem_cons] at hpiece
        rcases hpiece with rfl | hpiece
        · simp
        · exact ih hpiece
      · obtain ⟨first, others, hrest, hwhole⟩ := pieces_cons hc rest
        rw [hwhole, List.mem_cons] at hpiece
        rcases hpiece with rfl | hpiece
        · have hfirst : separator ∉ first := ih (by simp [hrest])
          simp [hfirst, Ne.symm hc]
        · exact ih (by simp [hrest, hpiece])

theorem pieces_of_not_mem {text : List Char} (htext : separator ∉ text) :
    pieces separator text = [text] := by
  induction text with
  | nil => rfl
  | cons c rest ih =>
      have hc : c ≠ separator := fun hsame => htext (by simp [hsame])
      have hrest : separator ∉ rest := fun hmem => htext (List.mem_cons_of_mem _ hmem)
      simp [pieces, hc, ih hrest]

end Text

namespace Path

open Text

/-- The pieces of a path text that are steps. -/
def steps (text : List Char) : List (List Char) :=
  (pieces '/' text).filter (!isSkipped ·)

theorem pieces_joinPieces {parts : List (List Char)} (hne : parts ≠ [])
    (hparts : ∀ piece ∈ parts, '/' ∉ piece) : pieces '/' (joinPieces parts) = parts := by
  induction parts with
  | nil => exact absurd rfl hne
  | cons piece rest ih =>
      have hpiece := pieces_of_not_mem (hparts piece List.mem_cons_self)
      cases rest with
      | nil => exact hpiece
      | cons next rest =>
          have hrest := ih (List.cons_ne_nil _ _)
            fun other hother => hparts other (List.mem_cons_of_mem _ hother)
          rw [joinPieces, pieces_append, hrest, hpiece, List.singleton_append]
          exact List.cons_ne_nil next rest

/-- A path text starts at the root, is a dot or begins with one, or has no head. -/
theorem head_cases (text : List Char) :
    (∃ rest, text = '/' :: rest ∧ head text = ['/'] ∧ bodyPieces text = pieces '/' rest) ∨
    (text = ['.'] ∧ head text = ['.'] ∧ bodyPieces text = [[]]) ∨
    (∃ rest, text = '.' :: '/' :: rest ∧ head text = ['.'] ∧
      bodyPieces text = [] :: pieces '/' rest) ∨
    (text.head? ≠ some '/' ∧ head text = [] ∧ bodyPieces text = pieces '/' text) := by
  by_cases hslash : text.head? = some '/'
  · obtain ⟨rest, rfl⟩ := List.head?_eq_some_iff.mp hslash
    exact .inl ⟨rest, rfl, by simp [head], by simp [bodyPieces, head]⟩
  · by_cases hdot : leadsWithDot text = true
    · unfold leadsWithDot at hdot
      split at hdot
      · exact .inr (.inl ⟨rfl, rfl, rfl⟩)
      · rename_i rest
        exact .inr (.inr (.inl ⟨rest, rfl, rfl, by simp [bodyPieces, head, leadsWithDot]⟩))
      · cases hdot
    · have hhead : head text = [] := by simp [head, hslash, hdot]
      exact .inr (.inr (.inr ⟨hslash, hhead, by simp [bodyPieces, hhead]⟩))

/-- What is in front of the body is no step. -/
theorem steps_eq_body (text : List Char) :
    steps text = (bodyPieces text).filter (!isSkipped ·) := by
  unfold steps
  rcases head_cases text with ⟨rest, rfl, -, hbody⟩ | ⟨rfl, -, hbody⟩ | ⟨rest, rfl, -, hbody⟩ |
    ⟨-, -, hbody⟩
  · rw [hbody, pieces_separator]
    rfl
  · rw [hbody]
    rfl
  · rw [hbody, show '.' :: '/' :: rest = ['.'] ++ '/' :: rest from rfl, pieces_append]
    rfl
  · rw [hbody]

theorem lastStep?_eq_some {text step : List Char} {before : List (List Char)}
    (hlast : lastStep? text = some (before, step)) :
    isSkipped step = false ∧ ∃ skipped, (∀ piece ∈ skipped, isSkipped piece = true) ∧
      bodyPieces text = before.reverse ++ step :: skipped := by
  unfold lastStep? at hlast
  split at hlast
  · cases hlast
  · rename_i found rest hdropped
    cases hlast
    have hsplit := List.takeWhile_append_dropWhile
      (p := isSkipped) (l := (bodyPieces text).reverse)
    have hhead := List.head?_dropWhile_not isSkipped (bodyPieces text).reverse
    unfold dropSkipped at hdropped
    rw [hdropped] at hsplit hhead
    refine ⟨by simpa using hhead, ((bodyPieces text).reverse.takeWhile isSkipped).reverse,
      fun piece hpiece => ?_, ?_⟩
    · exact List.mem_takeWhile_imp (List.mem_reverse.mp hpiece)
    · have hback := congrArg List.reverse hsplit
      rw [List.reverse_reverse, List.reverse_append, List.reverse_cons, List.append_assoc]
        at hback
      exact hback.symm

theorem filter_of_skipped {skipped : List (List Char)}
    (hskipped : ∀ piece ∈ skipped, isSkipped piece = true) :
    skipped.filter (!isSkipped ·) = [] := by
  rw [List.filter_eq_nil_iff]
  intro piece hpiece
  simp [hskipped piece hpiece]

theorem lastStep?_of_steps {text step : List Char} {before : List (List Char)}
    (hsteps : steps text = before ++ [step]) :
    ∃ rest, lastStep? text = some (rest, step) ∧
      rest.reverse.filter (!isSkipped ·) = before := by
  rw [steps_eq_body] at hsteps
  cases hlast : lastStep? text with
  | none =>
      unfold lastStep? at hlast
      split at hlast
      · rename_i hdropped
        have hall : ∀ piece ∈ bodyPieces text, isSkipped piece = true := by
          intro piece hpiece
          exact List.dropWhile_eq_nil_iff.mp hdropped piece (List.mem_reverse.mpr hpiece)
        rw [filter_of_skipped hall] at hsteps
        simp at hsteps
      · cases hlast
  | some found =>
      obtain ⟨rest, last⟩ := found
      obtain ⟨hstep, skipped, hskipped, hbody⟩ := lastStep?_eq_some hlast
      rw [hbody, List.filter_append, List.filter_cons_of_pos (by simp [hstep]),
        filter_of_skipped hskipped] at hsteps
      obtain ⟨hbefore, hsame⟩ := List.append_inj' hsteps rfl
      cases hsame
      exact ⟨rest, rfl, hbefore⟩

/-- The parent of a path has all of its steps but the last. -/
theorem exists_parent {path : Path} {before : List (List Char)} {step : List Char}
    (hsteps : steps path.text.toList = before ++ [step]) :
    ∃ parent, path.parent? = some parent ∧ steps parent.text.toList = before ∧
      parent.isAbsolute = path.isAbsolute := by
  obtain ⟨rest, hlast, hbefore⟩ := lastStep?_of_steps hsteps
  obtain ⟨-, skipped, -, hbody⟩ := lastStep?_eq_some hlast
  refine ⟨⟨String.ofList (head path.text.toList ++ joinPieces (dropSkipped rest).reverse)⟩,
    by simp [parent?, hlast], ?_⟩
  simp only [isAbsolute, String.toList_ofList]
  have hsplit := List.takeWhile_append_dropWhile (p := isSkipped) (l := rest)
  have hkept : (dropSkipped rest).reverse.filter (!isSkipped ·) = before := by
    have hnone : (rest.takeWhile isSkipped).reverse.filter (!isSkipped ·) = [] :=
      filter_of_skipped fun piece hpiece => List.mem_takeWhile_imp (List.mem_reverse.mp hpiece)
    calc (dropSkipped rest).reverse.filter (!isSkipped ·)
        = (rest.takeWhile isSkipped ++ rest.dropWhile isSkipped).reverse.filter
            (!isSkipped ·) := by
          rw [List.reverse_append, List.filter_append, hnone, List.append_nil]
          rfl
      _ = before := by rw [hsplit, hbefore]
  -- what is kept is the front of the body, and does not end in a skipped piece
  have hfront : bodyPieces path.text.toList =
      (dropSkipped rest).reverse ++ ((rest.takeWhile isSkipped).reverse ++ step :: skipped) := by
    rw [hbody, ← List.append_assoc, ← List.reverse_append]
    unfold dropSkipped
    rw [hsplit]
  have hend : ∀ piece, (dropSkipped rest).reverse ≠ [piece] ∨ isSkipped piece = false := by
    intro piece
    refine or_iff_not_imp_left.mpr fun hsingle => ?_
    rw [ne_eq, not_not] at hsingle
    have hhead := List.head?_dropWhile_not isSkipped rest
    have hdropped : rest.dropWhile isSkipped = [piece] := by
      have hback := congrArg List.reverse hsingle
      simpa [dropSkipped] using hback
    rw [hdropped] at hhead
    simpa using hhead
  generalize (dropSkipped rest).reverse = kept at *
  have hclean : ∀ piece ∈ kept, '/' ∉ piece := by
    intro piece hpiece
    have hmem : piece ∈ bodyPieces path.text.toList := by
      rw [hfront]
      exact List.mem_append_left _ hpiece
    exact not_mem_of_mem_pieces hmem
  generalize path.text.toList = text at *
  rcases head_cases text with ⟨body, rfl, hhead, -⟩ | ⟨rfl, hhead, hpieces⟩ |
    ⟨body, rfl, hhead, hpieces⟩ | ⟨hslash, hhead, hpieces⟩
  · rw [hhead]
    refine ⟨?_, by simp⟩
    cases kept with
    | nil => simpa [joinPieces, steps, pieces, isSkipped] using hkept
    | cons first others =>
        rw [List.singleton_append, steps, pieces_separator,
          pieces_joinPieces (List.cons_ne_nil _ _) hclean]
        exact hkept
  · rw [hpieces] at hfront
    cases kept with
    | nil =>
        rw [hhead]
        exact ⟨by simpa [joinPieces, steps, pieces, isSkipped] using hkept, rfl⟩
    | cons first others => simp at hfront
  · rw [hhead]
    refine ⟨?_, by simp⟩
    cases kept with
    | nil => simpa [joinPieces, steps, pieces, isSkipped] using hkept
    | cons first others =>
        rw [hpieces, List.cons_append, List.cons.injEq] at hfront
        obtain ⟨rfl, -⟩ := hfront
        cases others with
        | nil => simpa [isSkipped] using hend []
        | cons next others =>
            have hjoined : pieces '/' (joinPieces (next :: others)) = next :: others :=
              pieces_joinPieces (List.cons_ne_nil _ _)
                fun piece hpiece => hclean piece (List.mem_cons_of_mem _ hpiece)
            rw [show ['.'] ++ joinPieces ([] :: next :: others) =
                ['.'] ++ '/' :: joinPieces (next :: others) from rfl, steps, pieces_append, hjoined]
            exact hkept
  · rw [hhead, List.nil_append]
    cases kept with
    | nil =>
        refine ⟨by simpa [joinPieces, steps, pieces, isSkipped] using hkept, ?_⟩
        simp only [joinPieces, List.head?_nil]
        simpa using hslash
    | cons first others =>
        refine ⟨by rwa [steps, pieces_joinPieces (List.cons_ne_nil _ _) hclean], ?_⟩
        have hfirst : (joinPieces (first :: others)).head? = text.head? := by
          cases text with
          | nil => simp [pieces, hpieces] at hfront
          | cons c body =>
              have hc : c ≠ '/' := fun hsame => hslash (by simp [hsame])
              obtain ⟨begun, more, -, hwhole⟩ := pieces_cons hc body
              rw [hpieces, hwhole, List.cons_append, List.cons.injEq] at hfront
              rw [← hfront.1]
              cases others <;> rfl
        rw [hfirst]

/-- Joining puts the steps of a path behind those of its base. -/
theorem join_pieces {base path : Path} (hbase : base.text.toList ≠ [])
    (hpath : path.isAbsolute = false) :
    ∃ front, pieces '/' (base.join path).text.toList = front ++ pieces '/' path.text.toList ∧
      front.filter (!isSkipped ·) = steps base.text.toList ∧
      (base.join path).isAbsolute = base.isAbsolute ∧ (base.join path).text.toList ≠ [] := by
  have hempty : base.text.isEmpty = false := by simpa using hbase
  unfold join
  rw [if_neg (by simp [hpath]), hempty, Bool.false_or]
  split
  · rename_i hslash
    obtain ⟨front, hfront⟩ := List.getLast?_eq_some_iff.mp (by simpa using hslash)
    refine ⟨pieces '/' front, ?_, ?_, ?_, ?_⟩
    · rw [String.toList_append, hfront, List.append_assoc, List.singleton_append, pieces_append]
    · rw [steps, hfront, pieces_append]
      simp [pieces, isSkipped]
    · simp only [isAbsolute, String.toList_append, hfront]
      cases front <;> rfl
    · simp [hfront]
  · refine ⟨pieces '/' base.text.toList, ?_, rfl, ?_, ?_⟩
    · rw [String.toList_append, String.toList_append, List.append_assoc,
        show "/".toList = ['/'] from rfl, List.singleton_append, pieces_append]
    · simp only [isAbsolute, String.toList_append]
      cases hlist : base.text.toList with
      | nil => exact absurd hlist hbase
      | cons c rest => rfl
    · simp [hbase]

end Path

namespace FileTree

open Text

variable {root : FileNode} {trail after : Trail} {tree : FileTree}

theorem walk_append (root : FileNode) (trail : Trail) (front rest : List (List Char)) :
    walk root trail (front ++ rest) =
      match walk root trail front with
      | .ok after => walk root after rest
      | .error err => .error err := by
  induction front generalizing trail with
  | nil => rfl
  | cons piece more ih =>
      rw [List.cons_append, walk, walk]
      split
      · rfl
      · split
        · exact ih trail
        · split
          · exact ih trail.tail
          · split
            · exact ih _
            · rfl

/-- Only directories lead to directories. -/
theorem isDirectory_of_walk {parts : List (List Char)} (hwalk : walk root trail parts = .ok after)
    (hafter : (Trail.node root after).isDirectory = true) :
    (Trail.node root trail).isDirectory = true := by
  cases parts with
  | nil =>
      cases hwalk
      exact hafter
  | cons piece rest =>
      unfold walk at hwalk
      split at hwalk
      · cases hwalk
      · rename_i hdirectory
        simpa using hdirectory

/-- Pieces that are no steps do not matter on the way to a directory. -/
theorem walk_steps (parts : List (List Char)) :
    (walk root trail parts = .ok after ∧ (Trail.node root after).isDirectory = true) ↔
      (walk root trail (parts.filter (!Path.isSkipped ·)) = .ok after ∧
        (Trail.node root after).isDirectory = true) := by
  induction parts generalizing trail with
  | nil => rfl
  | cons piece rest ih =>
      cases hskipped : Path.isSkipped piece with
      | true =>
          rw [List.filter_cons_of_neg (by simp [hskipped]), ← ih, walk]
          constructor
          · rintro ⟨hwalk, hafter⟩
            split at hwalk
            · cases hwalk
            · exact ⟨hwalk, hafter⟩
          · rintro ⟨hwalk, hafter⟩
            rw [if_neg (by simp [isDirectory_of_walk hwalk hafter]), if_pos hskipped]
            exact ⟨hwalk, hafter⟩
      | false =>
          rw [List.filter_cons_of_pos (by simp [hskipped]), walk, walk]
          simp only [hskipped]
          split
          · rfl
          · split
            · exact ih
            · split
              · exact ih
              · cases (Trail.node root trail).child? (String.ofList piece) with
                | none => rfl
                | some node => exact ih

/-- A trail that starts at the root: each of its entries is in the directory before it. -/
def Trail.Linked (root : FileNode) : Trail → Prop
  | [] => True
  | (name, node) :: rest =>
      (Trail.node root rest).child? name = some node ∧ Trail.Linked root rest

theorem Trail.Linked.tail (htrail : trail.Linked root) : Trail.Linked root trail.tail := by
  cases trail with
  | nil => exact htrail
  | cons entry rest => exact htrail.2

theorem isDirectory_of_child? {node found : FileNode} {name : String}
    (hfound : node.child? name = some found) : node.isDirectory = true := by
  cases node with
  | file content => cases hfound
  | directory entries => rfl

/-- Whoever goes up comes to a directory. -/
theorem Trail.Linked.isDirectory_tail (htrail : trail.Linked root)
    (hnode : (Trail.node root trail).isDirectory = true) :
    (Trail.node root trail.tail).isDirectory = true := by
  cases trail with
  | nil => exact hnode
  | cons entry rest => exact isDirectory_of_child? htrail.1

theorem linked_nil (root : FileNode) : Trail.Linked root [] := trivial

theorem linked_walk {parts : List (List Char)} (htrail : trail.Linked root)
    (hwalk : walk root trail parts = .ok after) : after.Linked root := by
  induction parts generalizing trail with
  | nil =>
      cases hwalk
      exact htrail
  | cons piece rest ih =>
      unfold walk at hwalk
      split at hwalk
      · cases hwalk
      · split at hwalk
        · exact ih htrail hwalk
        · split at hwalk
          · exact ih htrail.tail hwalk
          · split at hwalk
            · rename_i node hnode
              exact ih (show Trail.Linked root (_ :: trail) from ⟨hnode, htrail⟩) hwalk
            · cases hwalk

/-- A way to a file ends with the name of the file, in the directory that holds it. -/
theorem walk_to_file {parts : List (List Char)} (htrail : trail.Linked root)
    (hparts : parts ≠ []) (hwalk : walk root trail parts = .ok after)
    (hafter : (Trail.node root after).isDirectory = false) :
    ∃ front last, parts = front ++ [last] ∧ Path.isSkipped last = false ∧
      walk root trail front = .ok after.tail ∧
      (Trail.node root after.tail).isDirectory = true := by
  rcases List.eq_nil_or_concat parts with rfl | ⟨front, last, rfl⟩
  · exact absurd rfl hparts
  · rw [List.concat_eq_append] at hwalk ⊢
    rw [walk_append] at hwalk
    cases hfront : walk root trail front with
    | error err =>
        rw [hfront] at hwalk
        cases hwalk
    | ok reached =>
        have hreached := linked_walk htrail hfront
        rw [hfront] at hwalk
        simp only [walk] at hwalk
        split at hwalk
        · cases hwalk
        · rename_i hdirectory
          have hdirectory : (Trail.node root reached).isDirectory = true := by
            simpa using hdirectory
          split at hwalk
          · cases hwalk
            rw [hdirectory] at hafter
            cases hafter
          · rename_i hskipped
            split at hwalk
            · cases hwalk
              rw [hreached.isDirectory_tail hdirectory] at hafter
              cases hafter
            · split at hwalk
              · cases hwalk
                exact ⟨front, last, rfl, by simpa using hskipped, hfront, hdirectory⟩
              · cases hwalk

/-! ### Where a path leads -/

/-- The position that a path is followed from. -/
def origin (tree : FileTree) (path : Path) : Except IoError Trail :=
  if path.isAbsolute then .ok []
  else walk tree.root [] (tree.workingDirectory.map String.toList)

theorem origin_congr (tree : FileTree) {path other : Path}
    (hsame : path.isAbsolute = other.isAbsolute) : tree.origin path = tree.origin other := by
  unfold origin
  rw [hsame]

theorem locate_eq (tree : FileTree) (path : Path) :
    tree.locate path =
      if path.text.isEmpty then .error .notFound
      else
        match tree.origin path with
        | .ok start => walk tree.root start (pieces '/' path.text.toList)
        | .error err => .error err := by
  unfold locate origin
  split
  · rfl
  · split
    · rfl
    · cases walk tree.root [] (tree.workingDirectory.map String.toList) <;> rfl

theorem linked_origin {path : Path} (hstart : tree.origin path = .ok trail) :
    trail.Linked tree.root := by
  unfold FileTree.origin at hstart
  split at hstart
  · cases hstart
    trivial
  · exact linked_walk (linked_nil _) hstart

/-- The way to the file that a path names, if it names one. -/
def fileAt? (tree : FileTree) (path : Path) : Option Trail :=
  match tree.locate path with
  | .ok trail => if (Trail.node tree.root trail).isDirectory then none else some trail
  | .error _ => none

/-- The way to the file that a path names as seen from a position. -/
def fileFrom? (root : FileNode) (trail : Trail) (path : Path) : Option Trail :=
  match walk root trail (pieces '/' path.text.toList) with
  | .ok after => if (Trail.node root after).isDirectory then none else some after
  | .error _ => none

theorem fileAt?_eq_some {path : Path} :
    tree.fileAt? path = some trail ↔
      tree.locate path = .ok trail ∧ (Trail.node tree.root trail).isDirectory = false := by
  unfold fileAt?
  cases tree.locate path with
  | error err => simp
  | ok found =>
      simp only [Except.ok.injEq]
      constructor
      · intro hfound
        split at hfound
        · cases hfound
        · rename_i hfile
          cases hfound
          exact ⟨rfl, by simpa using hfile⟩
      · rintro ⟨rfl, hfile⟩
        rw [if_neg (by simp [hfile])]

theorem isFile_eq (tree : FileTree) (path : Path) :
    tree.isFile path = (tree.fileAt? path).isSome := by
  unfold isFile node fileAt?
  cases tree.locate path with
  | error err => rfl
  | ok trail =>
      simp only [Except.map]
      cases Trail.node tree.root trail <;> rfl

/-- What is looked up beside a file is looked up from the directory that holds it. -/
theorem fileAt?_beside {path : Path} (hfile : tree.fileAt? path = some trail) :
    ∃ parent, path.parent? = some parent ∧ ∀ other : Path, other.isAbsolute = false →
      tree.fileAt? (parent.join other) = fileFrom? tree.root trail.tail other := by
  obtain ⟨hlocate, hnode⟩ := fileAt?_eq_some.mp hfile
  rw [locate_eq] at hlocate
  split at hlocate
  · cases hlocate
  · cases hstart : tree.origin path with
    | error err =>
        rw [hstart] at hlocate
        cases hlocate
    | ok start =>
        rw [hstart] at hlocate
        obtain ⟨front, last, hparts, hlast, hfront, hdirectory⟩ :=
          walk_to_file (linked_origin hstart) (pieces_ne_nil _ _) hlocate hnode
        have hsteps : Path.steps path.text.toList =
            front.filter (!Path.isSkipped ·) ++ [last] := by
          rw [Path.steps, hparts, List.filter_append, List.filter_cons_of_pos (by simp [hlast])]
          rfl
        obtain ⟨parent, hparent, hbefore, habsolute⟩ := Path.exists_parent hsteps
        refine ⟨parent, hparent, fun other hother => ?_⟩
        have hkept := ((walk_steps front).mp ⟨hfront, hdirectory⟩).1
        have hbase : tree.origin parent = .ok start :=
          (tree.origin_congr habsolute).trans hstart
        unfold fileAt? fileFrom?
        rw [locate_eq]
        by_cases hempty : parent.text.toList = []
        · -- the parent of a bare name is the directory that the path is followed from
          have hnone : front.filter (!Path.isSkipped ·) = [] := by
            rw [← hbefore, hempty]
            rfl
          rw [hnone] at hkept
          cases hkept
          have hjoin : parent.join other = other := by
            have htext : parent.text = "" := by simpa using hempty
            simp [Path.join, hother, htext]
          have hrelative : parent.isAbsolute = false := by simp [Path.isAbsolute, hempty]
          have hsame : tree.origin other = .ok trail.tail :=
            (tree.origin_congr (hother.trans hrelative.symm)).trans hbase
          rw [hjoin, hsame]
          by_cases htext : other.text.toList = []
          · have hpieces : walk tree.root trail.tail [[]] = .ok trail.tail := by
              simp [walk, hdirectory, Path.isSkipped]
            rw [if_pos (by simpa using htext), htext, pieces, hpieces]
            simp [hdirectory]
          · rw [if_neg (by simpa using htext)]
        · obtain ⟨begun, hpieces, hbegun, hsame, hnonempty⟩ := Path.join_pieces hempty hother
          have hjoined : tree.origin (parent.join other) = .ok start :=
            (tree.origin_congr hsame).trans hbase
          have hreached : walk tree.root start begun = .ok trail.tail := by
            refine ((walk_steps begun).mpr ⟨?_, hdirectory⟩).1
            rw [hbegun, hbefore]
            exact hkept
          rw [if_neg (by simpa using hnonempty), hjoined, hpieces]
          dsimp only
          rw [walk_append, hreached]

/-! ### Names and normalized paths -/

/-- A name that can be a step of a path. -/
def IsName (name : String) : Prop :=
  '/' ∉ name.toList ∧ Path.isSkipped name.toList = false ∧ name.toList ≠ ['.', '.']

/-- The working directory is named by names: none of them has a slash in it. -/
def WellNamed (tree : FileTree) : Prop :=
  ∀ name ∈ tree.workingDirectory, '/' ∉ name.toList

/-- The names on the way along a trail, the outermost first. -/
def Trail.names (trail : Trail) : List String :=
  trail.reverse.map (·.1)

theorem named_walk {parts : List (List Char)} (htrail : ∀ name ∈ trail.names, IsName name)
    (hparts : ∀ piece ∈ parts, '/' ∉ piece) (hwalk : walk root trail parts = .ok after) :
    ∀ name ∈ after.names, IsName name := by
  induction parts generalizing trail with
  | nil =>
      cases hwalk
      exact htrail
  | cons piece rest ih =>
      have hrest : ∀ piece ∈ rest, '/' ∉ piece :=
        fun other hother => hparts other (List.mem_cons_of_mem _ hother)
      unfold walk at hwalk
      split at hwalk
      · cases hwalk
      · split at hwalk
        · exact ih htrail hrest hwalk
        · rename_i hskipped
          split at hwalk
          · refine ih (fun name hname => htrail name ?_) hrest hwalk
            obtain ⟨entry, hentry, rfl⟩ := List.mem_map.mp hname
            exact List.mem_map_of_mem
              (List.mem_reverse.mpr (List.mem_of_mem_tail (List.mem_reverse.mp hentry)))
          · rename_i hup
            split at hwalk
            · refine ih (fun name hname => ?_) hrest hwalk
              simp only [Trail.names, List.reverse_cons, List.map_append, List.map_cons,
                List.map_nil, List.mem_append, List.mem_singleton] at hname
              rcases hname with hname | rfl
              · exact htrail name hname
              · exact ⟨by simpa using hparts piece List.mem_cons_self, by simpa using hskipped,
                  by simpa using hup⟩
            · cases hwalk

theorem named_locate {path : Path} (hnamed : tree.WellNamed)
    (hlocate : tree.locate path = .ok trail) : ∀ name ∈ trail.names, IsName name := by
  have hnone : ∀ name ∈ Trail.names [], IsName name := fun name hname => by cases hname
  have hpieces : ∀ piece ∈ pieces '/' path.text.toList, '/' ∉ piece :=
    fun piece hpiece => not_mem_of_mem_pieces hpiece
  rw [locate_eq] at hlocate
  split at hlocate
  · cases hlocate
  · unfold origin at hlocate
    by_cases habsolute : path.isAbsolute = true
    · rw [if_pos habsolute] at hlocate
      exact named_walk hnone hpieces hlocate
    · rw [if_neg habsolute] at hlocate
      cases hstart : walk tree.root [] (tree.workingDirectory.map String.toList) with
      | error err =>
          rw [hstart] at hlocate
          cases hlocate
      | ok start =>
          rw [hstart] at hlocate
          refine named_walk (named_walk hnone (fun piece hpiece => ?_) hstart) hpieces hlocate
          obtain ⟨name, hname, rfl⟩ := List.mem_map.mp hpiece
          exact hnamed name hname

theorem joinPieces_eq (parts : List (List Char)) :
    Path.joinPieces parts = List.intercalate ['/'] parts := by
  induction parts with
  | nil => rfl
  | cons piece rest ih =>
      cases rest with
      | nil => simp [Path.joinPieces, List.intercalate]
      | cons next rest =>
          rw [Path.joinPieces, ih]
          · simp [List.intercalate]
          · exact List.cons_ne_nil next rest

theorem pathOf_toList (names : List String) :
    (pathOf names).text.toList = '/' :: Path.joinPieces (names.map String.toList) := by
  rw [pathOf, String.toList_append, String.toList_intercalate, joinPieces_eq]
  rfl

theorem head_pathOf (names : List String) : Path.head (pathOf names).text.toList = ['/'] := by
  rw [pathOf_toList]
  simp [Path.head]

theorem pathOf_ne_nil (names : List String) : (pathOf names).text.toList ≠ [] := by
  rw [pathOf_toList]
  exact List.cons_ne_nil _ _

theorem steps_pathOf {names : List String} (hnames : ∀ name ∈ names, '/' ∉ name.toList) :
    Path.steps (pathOf names).text.toList =
      (names.map String.toList).filter (!Path.isSkipped ·) := by
  rw [pathOf_toList, Path.steps, pieces_separator,
    List.filter_cons_of_neg (by simp [Path.isSkipped])]
  cases names with
  | nil => rfl
  | cons name rest =>
      rw [Path.pieces_joinPieces (by simp)]
      intro piece hpiece
      obtain ⟨other, hother, rfl⟩ := List.mem_map.mp hpiece
      exact hnames other hother

theorem pathOf_components {names : List String} (hnames : ∀ name ∈ names, IsName name) :
    (pathOf names).components = .root :: names.map .normal := by
  have hbody : (Path.bodyPieces (pathOf names).text.toList).filter (!Path.isSkipped ·) =
      names.map String.toList := by
    rw [← Path.steps_eq_body, steps_pathOf fun name hname => (hnames name hname).1]
    refine List.filter_eq_self.mpr fun piece hpiece => ?_
    obtain ⟨other, hother, rfl⟩ := List.mem_map.mp hpiece
    simp [(hnames other hother).2.1]
  unfold Path.components
  dsimp only
  rw [hbody, head_pathOf, List.map_map]
  have hbodies : names.map (Path.ofPiece ∘ String.toList) = names.map Path.Component.normal :=
    List.map_congr_left fun name hname => by simp [Path.ofPiece, (hnames name hname).2.2]
  rw [hbodies]
  rfl

/-- A way whose names are names can be read back from its path. -/
theorem pathOf_injective {names others : List String} (hnames : ∀ name ∈ names, IsName name)
    (hothers : ∀ name ∈ others, IsName name) (hsame : (pathOf names).same (pathOf others) = true) :
    names = others := by
  simp only [Path.same, beq_iff_eq] at hsame
  rw [pathOf_components hnames, pathOf_components hothers, List.cons.injEq] at hsame
  exact (List.map_inj_right fun _ _ => Path.Component.normal.inj).mp hsame.2

theorem Trail.Linked.eq_of_names {other : Trail} (htrail : trail.Linked root)
    (hother : other.Linked root) (hnames : trail.names = other.names) : trail = other := by
  have hback : trail.map (·.1) = other.map (·.1) := by
    simpa [Trail.names, List.map_reverse] using hnames
  clear hnames
  induction trail generalizing other with
  | nil =>
      cases other with
      | nil => rfl
      | cons entry rest => cases hback
  | cons entry rest ih =>
      cases other with
      | nil => cases hback
      | cons entry' rest' =>
          obtain ⟨name, node⟩ := entry
          obtain ⟨name', node'⟩ := entry'
          simp only [List.map_cons, List.cons.injEq] at hback
          obtain ⟨rfl, hrest⟩ := hback
          cases ih htrail.2 hother.2 hrest
          have hnode := htrail.1.symm.trans hother.1
          cases hnode
          rfl

theorem linked_locate {path : Path} (hlocate : tree.locate path = .ok trail) :
    trail.Linked tree.root := by
  rw [locate_eq] at hlocate
  split at hlocate
  · cases hlocate
  · cases hstart : tree.origin path with
    | error err =>
        rw [hstart] at hlocate
        cases hlocate
    | ok start =>
        rw [hstart] at hlocate
        exact linked_walk (linked_origin hstart) hlocate

theorem locate_workingPath (hnamed : tree.WellNamed)
    (hstart : walk tree.root [] (tree.workingDirectory.map String.toList) = .ok trail)
    (hdirectory : (Trail.node tree.root trail).isDirectory = true) {path : Path}
    (hpath : path.isAbsolute = false) :
    tree.locate (tree.workingPath.join path) =
      walk tree.root trail (pieces '/' path.text.toList) := by
  have hsteps : Path.steps tree.workingPath.text.toList =
      (tree.workingDirectory.map String.toList).filter (!Path.isSkipped ·) :=
    steps_pathOf hnamed
  have hnonempty : tree.workingPath.text.toList ≠ [] := pathOf_ne_nil _
  obtain ⟨front, hpieces, hfront, habsolute, hjoined⟩ := Path.join_pieces hnonempty hpath
  have horigin : tree.origin (tree.workingPath.join path) = .ok [] := by
    unfold origin
    rw [if_pos]
    rw [habsolute, Path.isAbsolute, workingPath, pathOf_toList]
    rfl
  have hreached : walk tree.root [] front = .ok trail := by
    refine ((walk_steps front).mpr ⟨?_, hdirectory⟩).1
    rw [hfront, hsteps]
    exact ((walk_steps _).mp ⟨hstart, hdirectory⟩).1
  rw [locate_eq, if_neg (by simpa using hjoined), horigin, hpieces]
  dsimp only
  rw [walk_append, hreached]

/-- The normalized path of a file is made of the names on the way to it. -/
theorem normalize_of_fileAt? (hnamed : tree.WellNamed) {path : Path}
    (hfile : tree.fileAt? path = some trail) : tree.normalize path = pathOf trail.names := by
  obtain ⟨hlocate, hnode⟩ := fileAt?_eq_some.mp hfile
  have habsolute : tree.locate (if path.isAbsolute then path else tree.workingPath.join path) =
      .ok trail := by
    split
    · exact hlocate
    · rename_i hrelative
      have hrelative : path.isAbsolute = false := by simpa using hrelative
      rw [locate_eq] at hlocate
      split at hlocate
      · cases hlocate
      · unfold origin at hlocate
        rw [hrelative, if_neg (by simp)] at hlocate
        cases hstart : walk tree.root [] (tree.workingDirectory.map String.toList) with
        | error err =>
            rw [hstart] at hlocate
            cases hlocate
        | ok start =>
            rw [hstart] at hlocate
            have hdirectory : (Trail.node tree.root start).isDirectory = true := by
              obtain ⟨front, last, hparts, -, hfront, hend⟩ :=
                walk_to_file (linked_walk (linked_nil _) hstart) (pieces_ne_nil _ _)
                  hlocate hnode
              exact isDirectory_of_walk hfront hend
            rw [locate_workingPath hnamed hstart hdirectory hrelative]
            exact hlocate
  unfold normalize canonicalize
  dsimp only
  rw [habsolute]
  rfl

/-- The normalized path of a file says where the file is. -/
theorem fileAt?_eq_of_same (hnamed : tree.WellNamed) {path other : Path} {trail' : Trail}
    (hpath : tree.fileAt? path = some trail) (hother : tree.fileAt? other = some trail')
    (hsame : (tree.normalize path).same (tree.normalize other) = true) : trail = trail' := by
  have hlocate := (fileAt?_eq_some.mp hpath).1
  have hlocate' := (fileAt?_eq_some.mp hother).1
  rw [normalize_of_fileAt? hnamed hpath, normalize_of_fileAt? hnamed hother] at hsame
  exact (linked_locate hlocate).eq_of_names (linked_locate hlocate')
    (pathOf_injective (named_locate hnamed hlocate) (named_locate hnamed hlocate') hsame)

/-- What is read of a file depends on where the file is. -/
theorem read_congr {path other : Path} (hpath : tree.fileAt? path = some trail)
    (hother : tree.fileAt? other = some trail) : tree.read path = tree.read other := by
  unfold read node
  rw [(fileAt?_eq_some.mp hpath).1, (fileAt?_eq_some.mp hother).1]

theorem readText_congr {path other : Path} (hpath : tree.fileAt? path = some trail)
    (hother : tree.fileAt? other = some trail) : tree.readText path = tree.readText other := by
  unfold readText
  rw [read_congr hpath hother]

/-! ### The files of a tree -/

end FileTree

namespace FileNode

mutual

/-- The ways to the files in and below a node. -/
def ways : FileNode → List (List String)
  | .file _ => [[]]
  | .directory entries => entryWays entries

/-- The ways to the files in and below a directory's entries. -/
def entryWays : List (String × FileNode) → List (List String)
  | [] => []
  | (name, node) :: rest => (ways node).map (name :: ·) ++ entryWays rest

end

mutual

theorem length_ways (node : FileNode) : node.ways.length = node.fileCount := by
  cases node with
  | file content => simp [ways, fileCount]
  | directory entries =>
      rw [ways, fileCount]
      exact length_entryWays entries

theorem length_entryWays (entries : List (String × FileNode)) :
    (entryWays entries).length = entryCount entries := by
  cases entries with
  | nil => simp [entryWays, entryCount]
  | cons entry rest =>
      rw [entryWays, entryCount, List.length_append, List.length_map, length_ways entry.2,
        length_entryWays rest]

end

theorem mem_entryWays {entries : List (String × FileNode)} {name : String} {node : FileNode}
    {way : List String} (hmem : (name, node) ∈ entries) (hway : way ∈ node.ways) :
    name :: way ∈ entryWays entries := by
  induction entries with
  | nil => cases hmem
  | cons first rest ih =>
      rw [entryWays, List.mem_append]
      rcases List.mem_cons.mp hmem with rfl | hrest
      · exact .inl (List.mem_map_of_mem hway)
      · exact .inr (ih hrest)

theorem mem_ways_of_child? {node found : FileNode} {name : String} {way : List String}
    (hfound : node.child? name = some found) (hway : way ∈ found.ways) :
    name :: way ∈ node.ways := by
  cases node with
  | file content => cases hfound
  | directory entries =>
      obtain ⟨entry, hentry, rfl⟩ := Option.map_eq_some_iff.mp hfound
      have hname : entry.1 = name := by simpa using List.find?_some hentry
      rw [ways, ← hname]
      exact mem_entryWays (List.mem_of_find?_eq_some hentry) hway

end FileNode

namespace FileTree

variable {trail : Trail} {tree : FileTree}

/-- The normalized paths of the files of a tree. -/
def files (tree : FileTree) : List Path :=
  tree.root.ways.map pathOf

theorem length_files (tree : FileTree) : tree.files.length = tree.fileCount := by
  rw [files, List.length_map, FileNode.length_ways]
  rfl

theorem Trail.Linked.mem_ways {root : FileNode} (htrail : trail.Linked root) {way : List String}
    (hway : way ∈ (Trail.node root trail).ways) : trail.names ++ way ∈ root.ways := by
  induction trail generalizing way with
  | nil => exact hway
  | cons entry rest ih =>
      have hlonger := ih htrail.2 (FileNode.mem_ways_of_child? htrail.1 hway)
      rw [Trail.names, List.reverse_cons, List.map_append, List.append_assoc]
      exact hlonger

theorem mem_files (hnamed : tree.WellNamed) {path : Path}
    (hfile : tree.fileAt? path = some trail) : tree.normalize path ∈ tree.files := by
  obtain ⟨hlocate, hnode⟩ := fileAt?_eq_some.mp hfile
  rw [normalize_of_fileAt? hnamed hfile]
  refine List.mem_map_of_mem ?_
  have hway : [] ∈ (Trail.node tree.root trail).ways := by
    cases hend : Trail.node tree.root trail with
    | file content => simp [FileNode.ways]
    | directory entries =>
        rw [hend] at hnode
        cases hnode
  simpa using (linked_locate hlocate).mem_ways hway

end FileTree

/-! ### Looking up what is included -/

namespace SourceSearch

open FileTree

variable {search : SourceSearch} {tree : FileTree} {trail : Trail}

theorem fileAt?_of_resolveInclude {target : String} {path resolved : Path}
    (hresolved : search.resolveInclude tree target path = some resolved) :
    ∃ trail, tree.fileAt? resolved = some trail := by
  have hfound : tree.isFile resolved = true := by
    unfold resolveInclude at hresolved
    split at hresolved
    · exact List.find?_some hresolved
    · unfold findSource at hresolved
      dsimp only at hresolved
      split at hresolved
      · exact List.find?_some hresolved
      · obtain ⟨base, -, hbase⟩ := List.exists_of_findSome?_eq_some hresolved
        exact List.find?_some hbase
  rw [isFile_eq] at hfound
  exact Option.isSome_iff_exists.mp hfound

theorem find?_isFile_congr {names : List Path} {path other : Path → Path}
    (hsame : ∀ name ∈ names, tree.fileAt? (path name) = tree.fileAt? (other name)) :
    ((names.map path).find? tree.isFile).map tree.fileAt? =
      ((names.map other).find? tree.isFile).map tree.fileAt? := by
  induction names with
  | nil => rfl
  | cons name rest ih =>
      have hname := hsame name List.mem_cons_self
      rw [List.map_cons, List.map_cons, List.find?_cons, List.find?_cons, isFile_eq, isFile_eq,
        hname]
      split
      · exact congrArg some hname
      · exact ih fun next hnext => hsame next (List.mem_cons_of_mem _ hnext)

/-- What an include directive leads to depends on where the including file is, not on how its
path is spelled. -/
theorem resolveInclude_congr {path other : Path} (hpath : tree.fileAt? path = some trail)
    (hother : tree.fileAt? other = some trail) (target : String) :
    (search.resolveInclude tree target path).map tree.fileAt? =
      (search.resolveInclude tree target other).map tree.fileAt? := by
  obtain ⟨parent, hparent, hbeside⟩ := fileAt?_beside hpath
  obtain ⟨parent', hparent', hbeside'⟩ := fileAt?_beside hother
  unfold resolveInclude
  split
  · rfl
  · rw [hparent, hparent']
    unfold findSource
    dsimp only
    split
    · rfl
    · have hfirst : (((search.candidates target).map parent.join).find? tree.isFile).map
            tree.fileAt? =
          (((search.candidates target).map parent'.join).find? tree.isFile).map tree.fileAt? := by
        refine find?_isFile_congr fun name _ => ?_
        by_cases habsolute : name.isAbsolute = true
        · simp [Path.join, habsolute]
        · have hrelative : name.isAbsolute = false := by simpa using habsolute
          rw [hbeside name hrelative, hbeside' name hrelative]
      simp only [Option.toList_some, List.singleton_append, List.findSome?_cons]
      cases hfound : ((search.candidates target).map parent.join).find? tree.isFile with
      | none =>
          rw [hfound, Option.map_none] at hfirst
          rw [Option.map_eq_none_iff.mp hfirst.symm]
      | some found =>
          rw [hfound, Option.map_some] at hfirst
          obtain ⟨found', hfound', hsame⟩ := Option.map_eq_some_iff.mp hfirst.symm
          rw [hfound']
          exact congrArg some hsame.symm

end SourceSearch

end ScriptHost
