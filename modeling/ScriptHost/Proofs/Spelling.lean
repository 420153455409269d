import Mathlib.Data.List.Basic
import ScriptHost.Proofs.Trails

/-!
The spelling of normalized paths. A normalized path is made of the names on a way from the root,
or nothing is where it leads and nothing is where its parent leads either. Hence a file that can be
read through a normalized path has no other normalized path with the same components.
-/

namespace ScriptHost

namespace Path

theorem ofPiece_injective : Function.Injective ofPiece := by
  intro first second hsame
  unfold ofPiece at hsame
  split at hsame
  · rename_i hfirst
    split at hsame
    · rename_i hsecond
      rw [hfirst, hsecond]
    · cases hsame
  · split at hsame
    · cases hsame
    · exact String.ofList_injective (Component.normal.inj hsame)

/-- The components of an absolute path are its steps behind the root. -/
theorem components_of_absolute {path : Path} (habsolute : path.isAbsolute = true) :
    path.components = .root :: (steps path.text.toList).map ofPiece := by
  have hslash : path.text.toList.head? = some '/' := by simpa [isAbsolute] using habsolute
  have hhead : head path.text.toList = ['/'] := by rw [head, if_pos hslash]
  unfold components
  dsimp only
  rw [hhead, steps_eq_body]
  rfl

/-- Absolute paths with the same components have the same steps. -/
theorem steps_eq_of_components {path other : Path} (hpath : path.isAbsolute = true)
    (hother : other.isAbsolute = true) (hsame : path.components = other.components) :
    steps path.text.toList = steps other.text.toList := by
  rw [components_of_absolute hpath, components_of_absolute hother, List.cons.injEq] at hsame
  exact (List.map_inj_right fun _ _ hpiece => ofPiece_injective hpiece).mp hsame.2

/-- The name at the end of a path is a name. -/
theorem fileName?_isName {path : Path} {name : String} (hname : path.fileName? = some name) :
    FileTree.IsName name := by
  unfold fileName? at hname
  split at hname
  · rename_i before step hlast
    split at hname
    · cases hname
    · rename_i hup
      cases hname
      obtain ⟨hstep, skipped, -, hbody⟩ := lastStep?_eq_some hlast
      have hmem : step ∈ bodyPieces path.text.toList := by
        rw [hbody]
        simp
      exact ⟨by simpa using Text.not_mem_of_mem_pieces hmem, by simpa using hstep,
        by simpa using hup⟩
  · cases hname

theorem joinPieces_concat {parts : List (List Char)} (hne : parts ≠ []) (piece : List Char) :
    joinPieces (parts ++ [piece]) = joinPieces parts ++ '/' :: piece := by
  induction parts with
  | nil => exact absurd rfl hne
  | cons first rest ih =>
      cases rest with
      | nil => rfl
      | cons next rest =>
          have hrest := ih (List.cons_ne_nil next rest)
          have hfirst : ∀ more, joinPieces (first :: next :: more) =
              first ++ '/' :: joinPieces (next :: more) := fun _ => rfl
          rw [List.cons_append, List.cons_append, hfirst, hfirst, ← List.cons_append, hrest,
            List.append_assoc, List.cons_append]

end Path

namespace FileTree

variable {tree : FileTree} {trail : Trail}

theorem pathOf_isAbsolute (names : List String) : (pathOf names).isAbsolute = true := by
  rw [Path.isAbsolute, pathOf_toList]
  rfl

/-- A path that is made of names does not end with a slash, unless there are none. -/
theorem pathOf_getLast? {names : List String} (hnames : ∀ name ∈ names, IsName name)
    (hne : names ≠ []) : (pathOf names).text.toList.getLast? ≠ some '/' := by
  rcases List.eq_nil_or_concat names with rfl | ⟨front, last, rfl⟩
  · exact absurd rfl hne
  · rw [List.concat_eq_append] at hnames ⊢
    obtain ⟨hslash, hskipped, -⟩ := hnames last (by simp)
    have hsome : last.toList ≠ [] := by
      intro hnil
      rw [hnil] at hskipped
      cases hskipped
    have hends : (pathOf (front ++ [last])).text.toList.getLast? = last.toList.getLast? := by
      rw [pathOf_toList, List.map_append, List.map_singleton]
      cases front with
      | nil => exact List.getLast?_append_of_ne_nil ['/'] hsome
      | cons first rest =>
          rw [Path.joinPieces_concat (by simp), ← List.cons_append, List.append_cons,
            List.getLast?_append_of_ne_nil _ hsome]
    rw [hends]
    exact fun hlast => hslash (List.mem_of_getLast? hlast)

/-- Joining a name to a path that is made of names adds the name. -/
theorem pathOf_join {names : List String} (hnames : ∀ name ∈ names, IsName name) {name : String}
    (hname : IsName name) : (pathOf names).join ⟨name⟩ = pathOf (names ++ [name]) := by
  have hrelative : (⟨name⟩ : Path).isAbsolute = false := by
    rw [Path.isAbsolute, beq_eq_false_iff_ne]
    exact fun hslash => hname.1 (List.mem_of_mem_head? hslash)
  have htext : (pathOf names).text.isEmpty = false := by simpa using pathOf_ne_nil names
  unfold Path.join
  rw [if_neg (by simp [hrelative]), htext, Bool.false_or]
  cases names with
  | nil => rfl
  | cons first rest =>
      rw [if_neg (by simpa using pathOf_getLast? hnames (List.cons_ne_nil first rest)),
        Path.mk.injEq, ← String.toList_inj, pathOf_toList, List.map_append, List.map_singleton,
        Path.joinPieces_concat (by simp), String.toList_append, String.toList_append, pathOf_toList]
      simp

/-- A path as seen from the root. -/
def absolute (tree : FileTree) (path : Path) : Path :=
  if path.isAbsolute then path else tree.workingPath.join path

theorem absolute_isAbsolute (tree : FileTree) (path : Path) :
    (tree.absolute path).isAbsolute = true := by
  unfold absolute
  split
  · assumption
  · rename_i hrelative
    obtain ⟨-, -, -, habsolute, -⟩ := Path.join_pieces (pathOf_ne_nil tree.workingDirectory)
      (by simpa using hrelative)
    rw [workingPath, habsolute]
    exact pathOf_isAbsolute _

theorem canonicalize_eq_ok {path canonical : Path}
    (hcanonical : tree.canonicalize path = .ok canonical) :
    ∃ trail, tree.locate path = .ok trail ∧ canonical = pathOf trail.names := by
  unfold canonicalize at hcanonical
  cases hlocate : tree.locate path with
  | error err =>
      rw [hlocate] at hcanonical
      cases hcanonical
  | ok trail =>
      rw [hlocate] at hcanonical
      cases hcanonical
      exact ⟨trail, rfl, rfl⟩

theorem locate_of_canonicalize_error {path : Path} {err : IoError}
    (hcanonical : tree.canonicalize path = .error err) (trail : Trail) :
    tree.locate path ≠ .ok trail := by
  intro hlocate
  unfold canonicalize at hcanonical
  rw [hlocate] at hcanonical
  cases hcanonical

theorem canonicalize_of_locate {path : Path} (hlocate : tree.locate path = .ok trail) :
    tree.canonicalize path = .ok (pathOf trail.names) := by
  rw [canonicalize, hlocate]
  rfl

theorem canonicalize_of_lost {path : Path} (hlost : ∀ trail, tree.locate path ≠ .ok trail) :
    ∃ err, tree.canonicalize path = .error err := by
  cases hlocate : tree.locate path with
  | error err => exact ⟨err, by rw [canonicalize, hlocate]; rfl⟩
  | ok trail => exact absurd hlocate (hlost trail)

/-- How a path is normalized: as what it leads to; if that is nothing, as its name in what its
parent leads to, or as what its parent leads to if it ends with no name; or else not at all. -/
inductive Normalizes (tree : FileTree) (path : Path) : Path → Prop
  | there (trail : Trail) (hlocate : tree.locate (tree.absolute path) = .ok trail) :
      Normalizes tree path (pathOf trail.names)
  | beside (parent : Path) (trail : Trail) (name : String)
      (hlost : ∀ trail, tree.locate (tree.absolute path) ≠ .ok trail)
      (hparent : (tree.absolute path).parent? = some parent)
      (hlocate : tree.locate parent = .ok trail)
      (hname : (tree.absolute path).fileName? = some name) :
      Normalizes tree path ((pathOf trail.names).join ⟨name⟩)
  | above (parent : Path) (trail : Trail)
      (hlost : ∀ trail, tree.locate (tree.absolute path) ≠ .ok trail)
      (hparent : (tree.absolute path).parent? = some parent)
      (hlocate : tree.locate parent = .ok trail)
      (hname : (tree.absolute path).fileName? = none) : Normalizes tree path (pathOf trail.names)
  | lost (hlost : ∀ trail, tree.locate (tree.absolute path) ≠ .ok trail)
      (hparent : ∀ parent, (tree.absolute path).parent? = some parent →
        ∀ trail, tree.locate parent ≠ .ok trail) : Normalizes tree path (tree.absolute path)

theorem normalizes (tree : FileTree) (path : Path) :
    tree.Normalizes path (tree.normalize path) := by
  have habsolute : (if path.isAbsolute then path else tree.workingPath.join path) =
      tree.absolute path := rfl
  unfold FileTree.normalize
  simp only [habsolute]
  cases hself : tree.canonicalize (tree.absolute path) with
  | ok canonical =>
      obtain ⟨trail, hlocate, rfl⟩ := canonicalize_eq_ok hself
      exact .there trail hlocate
  | error err =>
      have hlost := locate_of_canonicalize_error hself
      cases hparent : (tree.absolute path).parent? with
      | none => exact .lost hlost fun _ hsome => by rw [hparent] at hsome; cases hsome
      | some parent =>
          dsimp only
          cases habove : tree.canonicalize parent with
          | error err =>
              refine .lost hlost fun other hother => ?_
              rw [hparent] at hother
              cases hother
              exact locate_of_canonicalize_error habove
          | ok canonical =>
              obtain ⟨trail, hlocate, rfl⟩ := canonicalize_eq_ok habove
              cases hname : (tree.absolute path).fileName? with
              | none => exact .above parent trail hlost hparent hlocate hname
              | some name => exact .beside parent trail name hlost hparent hlocate hname

/-- A path is normalized in one way. -/
theorem Normalizes.normalize_eq {path result : Path} (hresult : tree.Normalizes path result) :
    tree.normalize path = result := by
  have habsolute : (if path.isAbsolute then path else tree.workingPath.join path) =
      tree.absolute path := rfl
  unfold FileTree.normalize
  simp only [habsolute]
  cases hresult with
  | there trail hlocate => rw [canonicalize_of_locate hlocate]
  | beside parent trail name hlost hparent hlocate hname =>
      obtain ⟨err, herr⟩ := canonicalize_of_lost hlost
      rw [herr, hparent]
      simp only [canonicalize_of_locate hlocate, hname]
  | above parent trail hlost hparent hlocate hname =>
      obtain ⟨err, herr⟩ := canonicalize_of_lost hlost
      rw [herr, hparent]
      simp only [canonicalize_of_locate hlocate, hname]
  | lost hlost hparents =>
      obtain ⟨err, herr⟩ := canonicalize_of_lost hlost
      rw [herr]
      cases hparent : (tree.absolute path).parent? with
      | none => rfl
      | some parent =>
          obtain ⟨err, herr⟩ := canonicalize_of_lost (hparents parent hparent)
          simp only [herr]

/-- A normalized path is made of names, or neither it nor its parent leads anywhere. -/
theorem normalize_cases (hnamed : tree.WellNamed) (path : Path) :
    (∃ names, (∀ name ∈ names, IsName name) ∧ tree.normalize path = pathOf names) ∨
    tree.normalize path = tree.absolute path ∧
      (∀ trail, tree.locate (tree.absolute path) ≠ .ok trail) ∧
      ∀ parent, (tree.absolute path).parent? = some parent →
        ∀ trail, tree.locate parent ≠ .ok trail := by
  generalize hresult : tree.normalize path = result
  cases hresult ▸ tree.normalizes path with
  | there trail hlocate => exact .inl ⟨trail.names, named_locate hnamed hlocate, rfl⟩
  | beside parent trail name hlost hparent hlocate hname =>
      have hnames := named_locate hnamed hlocate
      have hlast := Path.fileName?_isName hname
      refine .inl ⟨trail.names ++ [name], fun other hother => ?_, pathOf_join hnames hlast⟩
      rcases List.mem_append.mp hother with hold | hnew
      · exact hnames other hold
      · rw [List.mem_singleton.mp hnew]
        exact hlast
  | above parent trail hlost hparent hlocate hname =>
      exact .inl ⟨trail.names, named_locate hnamed hlocate, rfl⟩
  | lost hlost hparent => exact .inr ⟨rfl, hlost, hparent⟩

theorem locate_of_absolute {path : Path} (habsolute : path.isAbsolute = true) :
    tree.locate path = walk tree.root [] (Text.pieces '/' path.text.toList) := by
  have hsome : path.text.toList ≠ [] := by
    intro hnil
    simp [Path.isAbsolute, hnil] at habsolute
  rw [locate_eq, if_neg (by simpa using hsome), origin, if_pos habsolute]

/-- The way to a file ends with a name, and the way to its directory is spelled by the steps before
it, whatever the spelling. -/
theorem exists_parent_of_file {path : Path} (habsolute : path.isAbsolute = true)
    (hfile : tree.fileAt? path = some trail) {other : Path} (hother : other.isAbsolute = true)
    (hsame : path.components = other.components) :
    ∃ parent, other.parent? = some parent ∧ tree.locate parent = .ok trail.tail := by
  obtain ⟨hlocate, hnode⟩ := fileAt?_eq_some.mp hfile
  rw [locate_of_absolute habsolute] at hlocate
  obtain ⟨front, last, hpieces, hlast, hfront, hdirectory⟩ :=
    walk_to_file (linked_nil _) (Text.pieces_ne_nil _ _) hlocate hnode
  have hsteps : Path.steps other.text.toList = front.filter (!Path.isSkipped ·) ++ [last] := by
    rw [← Path.steps_eq_of_components habsolute hother hsame, Path.steps, hpieces,
      List.filter_append, List.filter_cons_of_pos (by simp [hlast])]
    rfl
  obtain ⟨parent, hparent, hbefore, hrooted⟩ := Path.exists_parent hsteps
  refine ⟨parent, hparent, ?_⟩
  rw [locate_of_absolute (hrooted.trans hother)]
  refine ((walk_steps _).mpr ⟨?_, hdirectory⟩).1
  rw [← Path.steps, hbefore]
  exact ((walk_steps front).mp ⟨hfront, hdirectory⟩).1

theorem exists_fileAt?_of_read {path : Path} {content : FileContent}
    (hread : tree.read path = .ok content) : ∃ trail, tree.fileAt? path = some trail := by
  unfold read node at hread
  cases hlocate : tree.locate path with
  | error err =>
      rw [hlocate] at hread
      cases hread
  | ok trail =>
      refine ⟨trail, fileAt?_eq_some.mpr ⟨hlocate, ?_⟩⟩
      rw [hlocate] at hread
      simp only [Except.map] at hread
      cases hnode : Trail.node tree.root trail with
      | file content => rfl
      | directory entries =>
          rw [hnode] at hread
          cases hread

/-- A file that is read through a normalized path has one normalized path. -/
theorem normalize_eq_of_components (hnamed : tree.WellNamed) {path other : Path}
    {content : FileContent} (hread : tree.read (tree.normalize path) = .ok content)
    (hsame : (tree.normalize path).components = (tree.normalize other).components) :
    tree.normalize other = tree.normalize path := by
  obtain ⟨trail, hfile⟩ := exists_fileAt?_of_read hread
  rcases normalize_cases hnamed path with ⟨names, hnames, hpath⟩ | ⟨hpath, hlost, -⟩
  · rcases normalize_cases hnamed other with ⟨others, hothers, hother⟩ | ⟨hother, -, hlost⟩
    · rw [hpath, hother] at hsame ⊢
      rw [pathOf_injective hnames hothers (by simpa [Path.same] using hsame)]
    · -- the directory of the file is also the parent of the other path, which leads nowhere
      rw [hpath] at hfile hsame
      rw [hother] at hsame
      obtain ⟨parent, hparent, hlocate⟩ := exists_parent_of_file (pathOf_isAbsolute names) hfile
        (tree.absolute_isAbsolute other) hsame
      exact absurd hlocate (hlost parent hparent _)
  · rw [hpath] at hfile
    exact absurd (fileAt?_eq_some.mp hfile).1 (hlost trail)

end FileTree

end ScriptHost
