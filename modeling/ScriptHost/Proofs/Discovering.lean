import ScriptHost.Proofs.Declaring
import ScriptHost.Proofs.Ordering
import ScriptHost.Proofs.Reordering
import ScriptHost.Proofs.Runs
import ScriptHost.Proofs.Spelling
import ScriptHost.Proofs.Table
import ScriptHost.World.Load

/-!
What a scan finds. A search comes upon the files at and below its roots, and a file whose path has
the same components as another one is the same file. Hence a scan finds every name that is declared
below the roots, with the least of the paths that declare it, in whichever order the directories and
the roots are gone through.
-/

namespace ScriptHost

/-! ### Files below a root -/

/-- The path of what is reached from a base along some names. -/
def Path.along (base : Path) (way : List String) : Path :=
  way.foldl (fun path name => path.join ⟨name⟩) base

/-- What is reached from a node along some names. -/
def FileNode.below? (node : FileNode) : List String → Option FileNode
  | [] => some node
  | name :: way => (node.child? name).bind fun child => child.below? way

namespace FileTree

variable {tree : FileTree} {root path other base : Path} {found : FileNode} {name : String}

/-- Whether a path is a root followed by names, and leads to a file. -/
def Under (tree : FileTree) (root path : Path) : Prop :=
  (∃ node, tree.node root = .ok node) ∧
    ∃ way, (∀ name ∈ way, IsName name) ∧ path = root.along way ∧ tree.isFile path = true

theorem isFile_iff : tree.isFile path = true ↔ ∃ content, tree.node path = .ok (.file content) := by
  unfold isFile
  constructor
  · intro hfile
    split at hfile
    · exact ⟨_, by assumption⟩
    · cases hfile
  · rintro ⟨content, hnode⟩
    rw [hnode]

theorem node_eq_ok :
    tree.node path = .ok found ↔
      ∃ trail, tree.locate path = .ok trail ∧ Trail.node tree.root trail = found := by
  unfold FileTree.node
  cases tree.locate path <;> simp [Except.map]

theorem text_ne_nil_of_node (hnode : tree.node base = .ok found) : base.text.toList ≠ [] := by
  intro hnil
  obtain ⟨trail, hlocate, -⟩ := node_eq_ok.mp hnode
  rw [locate_eq, if_pos (by simpa using hnil)] at hlocate
  cases hlocate

theorem IsName.relative (hname : IsName name) : (⟨name⟩ : Path).isAbsolute = false := by
  rw [Path.isAbsolute, beq_eq_false_iff_ne]
  exact fun hslash => hname.1 (List.mem_of_mem_head? hslash)

/-- A step by a name leads to the entry of that name. -/
theorem walk_name {root : FileNode} {trail after : Trail} (hname : IsName name) :
    walk root trail [name.toList] = .ok after ↔
      ∃ node, (Trail.node root trail).child? name = some node ∧ after = (name, node) :: trail := by
  obtain ⟨-, hskipped, hup⟩ := hname
  simp only [walk, String.ofList_toList]
  constructor
  · intro hwalk
    split at hwalk
    · cases hwalk
    · simp only [hskipped, if_false, Bool.false_eq_true] at hwalk
      cases hchild : (Trail.node root trail).child? name with
      | none =>
          rw [hchild] at hwalk
          cases hwalk
      | some node =>
          rw [hchild] at hwalk
          cases hwalk
          exact ⟨node, rfl, rfl⟩
  · rintro ⟨node, hchild, rfl⟩
    rw [if_neg (by simp [isDirectory_of_child? hchild]), if_neg (by simp [hskipped]), if_neg hup,
      hchild]

/-- A name behind a path leads to the entry of that name. -/
theorem node_join (hname : IsName name) (hbase : base.text.toList ≠ []) :
    tree.node (base.join ⟨name⟩) = .ok found ↔
      ∃ start, tree.node base = .ok start ∧ start.child? name = some found := by
  obtain ⟨front, hpieces, hfront, habsolute, hjoined⟩ := Path.join_pieces hbase hname.relative
  rw [show Text.pieces '/' (⟨name⟩ : Path).text.toList = [name.toList] from
    Text.pieces_of_not_mem hname.1] at hpieces
  simp only [node_eq_ok, locate_eq, hpieces, tree.origin_congr habsolute,
    if_neg (show ¬ (base.join ⟨name⟩).text.isEmpty = true by simpa using hjoined),
    if_neg (show ¬ base.text.isEmpty = true by simpa using hbase)]
  cases tree.origin base with
  | error err => simp
  | ok start =>
      dsimp only
      -- what is in front of the name has the steps of the base, and leads to the same directories
      have hsteps : ∀ trail, (Trail.node tree.root trail).isDirectory = true →
          (walk tree.root start front = .ok trail ↔
            walk tree.root start (Text.pieces '/' base.text.toList) = .ok trail) := by
        intro trail hdirectory
        have hleft := @walk_steps tree.root start trail front
        have hright := @walk_steps tree.root start trail (Text.pieces '/' base.text.toList)
        rw [hfront, Path.steps] at hleft
        simpa [hdirectory] using hleft.trans hright.symm
      constructor
      · rintro ⟨trail, hwalk, rfl⟩
        rw [walk_append] at hwalk
        cases hreached : walk tree.root start front with
        | error err =>
            rw [hreached] at hwalk
            cases hwalk
        | ok reached =>
            rw [hreached] at hwalk
            obtain ⟨child, hchild, rfl⟩ := (walk_name hname).mp hwalk
            exact ⟨_, ⟨reached, (hsteps reached (isDirectory_of_child? hchild)).mp hreached, rfl⟩,
              hchild⟩
      · rintro ⟨_, ⟨reached, hreached, rfl⟩, hchild⟩
        refine ⟨(name, found) :: reached, ?_, rfl⟩
        rw [walk_append, (hsteps reached (isDirectory_of_child? hchild)).mpr hreached]
        exact (walk_name hname).mpr ⟨found, hchild, rfl⟩

/-- Names behind a path lead to what is reached along them. -/
theorem node_along {way : List String} (hnames : ∀ name ∈ way, IsName name)
    (hbase : base.text.toList ≠ []) :
    tree.node (base.along way) = .ok found ↔
      ∃ start, tree.node base = .ok start ∧ start.below? way = some found := by
  induction way generalizing base with
  | nil => simp [Path.along, FileNode.below?]
  | cons name way ih =>
      obtain ⟨hname, hway⟩ := List.forall_mem_cons.mp hnames
      obtain ⟨-, -, -, -, hjoined⟩ := Path.join_pieces hbase hname.relative
      have hnext : tree.node ((base.join ⟨name⟩).along way) = .ok found ↔ _ := ih hway hjoined
      rw [show base.along (name :: way) = (base.join ⟨name⟩).along way from rfl, hnext]
      simp only [node_join hname hbase, FileNode.below?, Option.bind_eq_some_iff]
      constructor
      · rintro ⟨child, ⟨start, hstart, hchild⟩, hbelow⟩
        exact ⟨start, hstart, child, hchild, hbelow⟩
      · rintro ⟨start, hstart, child, hchild, hbelow⟩
        exact ⟨child, ⟨start, hstart, hchild⟩, hbelow⟩

theorem Proper.node (hproper : tree.Proper) (hnode : tree.node path = .ok found) :
    found.Proper := by
  obtain ⟨trail, hlocate, rfl⟩ := node_eq_ok.mp hnode
  have hsame : tree.Reordered tree := ⟨.refl _, rfl⟩
  rcases (locate_reordered hsame hproper path).inv with
    ⟨reached, reached', hreached, -, hroute⟩ | ⟨err, hreached, -⟩
  · rw [hlocate] at hreached
    cases hreached
    exact (hroute.node (.refl _) hproper).2
  · rw [hlocate] at hreached
    cases hreached

end FileTree

namespace FileNode

theorem Proper.isName_of_below? {node found : FileNode} {way : List String} (hproper : node.Proper)
    (hfound : node.below? way = some found) : ∀ name ∈ way, FileTree.IsName name := by
  induction way generalizing node with
  | nil => exact fun _ hname => absurd hname List.not_mem_nil
  | cons first way ih =>
      obtain ⟨child, hchild, hbelow⟩ := Option.bind_eq_some_iff.mp hfound
      obtain ⟨hfirst, hbelowProper⟩ := hproper.child? hchild
      exact List.forall_mem_cons.mpr ⟨hfirst, ih hbelowProper hbelow⟩

end FileNode

namespace SourceSearch

variable {tree : FileTree} {extension : String} {path : Path}

mutual

/-- Whatever a search of a node comes upon is a file that is reached from it. -/
theorem exists_way_of_mem_filesAt {base : Path} {node : FileNode} (hproper : node.Proper)
    (hpath : path ∈ filesAt extension base node) :
    path.extension? = some extension ∧
      ∃ way content, node.below? way = some (.file content) ∧ path = base.along way := by
  cases node with
  | file content =>
      rw [filesAt] at hpath
      split at hpath
      · rename_i hextension
        cases List.mem_singleton.mp hpath
        exact ⟨hextension, [], content, rfl, rfl⟩
      · cases hpath
  | directory entries =>
      rw [FileNode.Proper] at hproper
      rw [filesAt] at hpath
      obtain ⟨hextension, name, node, way, content, hmem, hbelow, hway⟩ :=
        exists_way_of_mem_filesBelow hproper.2 hpath
      refine ⟨hextension, name :: way, content, ?_, hway⟩
      rw [FileNode.below?, (FileNode.child?_eq_some_iff hproper.1).mpr hmem]
      exact hbelow

theorem exists_way_of_mem_filesBelow {base : Path} {entries : List (String × FileNode)}
    (hproper : FileNode.ProperEntries entries)
    (hpath : path ∈ filesBelow extension base entries) :
    path.extension? = some extension ∧
      ∃ name node way content, (name, node) ∈ entries ∧
        node.below? way = some (.file content) ∧ path = base.along (name :: way) := by
  cases entries with
  | nil =>
      rw [filesBelow] at hpath
      cases hpath
  | cons entry rest =>
      rw [FileNode.ProperEntries] at hproper
      rw [filesBelow] at hpath
      rcases List.mem_append.mp hpath with hfirst | hrest
      · obtain ⟨hextension, way, content, hbelow, hway⟩ :=
          exists_way_of_mem_filesAt hproper.2.1 hfirst
        exact ⟨hextension, entry.1, entry.2, way, content, List.mem_cons_self, hbelow, hway⟩
      · obtain ⟨hextension, name, node, way, content, hmem, hbelow, hway⟩ :=
          exists_way_of_mem_filesBelow hproper.2.2 hrest
        exact ⟨hextension, name, node, way, content, List.mem_cons_of_mem _ hmem, hbelow, hway⟩

end

/-- A search of a node comes upon every file that is reached from it. -/
theorem mem_filesAt_along {base : Path} {node : FileNode} {way : List String} {content : FileContent}
    (hproper : node.Proper) (hbelow : node.below? way = some (.file content))
    (hextension : (base.along way).extension? = some extension) :
    base.along way ∈ filesAt extension base node := by
  induction way generalizing base node with
  | nil =>
      cases hbelow
      rw [filesAt, if_pos (show base.extension? = some extension from hextension)]
      exact List.mem_singleton.mpr rfl
  | cons name way ih =>
      obtain ⟨child, hchild, hrest⟩ := Option.bind_eq_some_iff.mp hbelow
      cases node with
      | file content => cases hchild
      | directory entries =>
          have hfound : base.along (name :: way) ∈ filesAt extension (base.join ⟨name⟩) child :=
            ih (hproper.child? hchild).2 hrest hextension
          rw [FileNode.Proper] at hproper
          rw [filesAt, filesBelow_eq]
          exact List.mem_flatMap.mpr
            ⟨(name, child), (FileNode.child?_eq_some_iff hproper.1).mp hchild, hfound⟩

/-- A search of a root comes upon the files under it that have the extension. -/
theorem mem_filesUnder_iff (hproper : tree.Proper) {root : Path} :
    path ∈ filesUnder tree extension root ↔
      tree.Under root path ∧ path.extension? = some extension := by
  unfold filesUnder FileTree.Under
  cases hroot : tree.node root with
  | error err => simp
  | ok node =>
      have hnode := FileTree.Proper.node hproper hroot
      have hbase := FileTree.text_ne_nil_of_node hroot
      dsimp only
      constructor
      · intro hpath
        obtain ⟨hextension, way, content, hbelow, rfl⟩ := exists_way_of_mem_filesAt hnode hpath
        have hnames := hnode.isName_of_below? hbelow
        have hfile := (FileTree.node_along hnames hbase).mpr ⟨node, hroot, hbelow⟩
        exact ⟨⟨⟨node, rfl⟩, way, hnames, rfl, FileTree.isFile_iff.mpr ⟨content, hfile⟩⟩,
          hextension⟩
      · rintro ⟨⟨-, way, hnames, rfl, hfile⟩, hextension⟩
        obtain ⟨content, hfile⟩ := FileTree.isFile_iff.mp hfile
        obtain ⟨start, hstart, hbelow⟩ := (FileTree.node_along hnames hbase).mp hfile
        rw [hroot] at hstart
        cases hstart
        exact mem_filesAt_along hnode hbelow hextension

end SourceSearch

/-! ### Paths with the same components -/

namespace Path

/-- Behind the root or a leading dot, the components of a path are its steps. -/
theorem components_split (path : Path) :
    ∃ start, path.components = start ++ (steps path.text.toList).map ofPiece ∧
      (start = [.root] ∧ path.isAbsolute = true ∨
        (start = [.current] ∨ start = []) ∧ path.isAbsolute = false) := by
  unfold components isAbsolute
  dsimp only
  rw [steps_eq_body]
  rcases head_cases path.text.toList with ⟨rest, htext, hhead, -⟩ | ⟨htext, hhead, -⟩ |
    ⟨rest, htext, hhead, -⟩ | ⟨hslash, hhead, -⟩
  · exact ⟨_, rfl, .inl ⟨by rw [hhead]; rfl, by rw [htext]; rfl⟩⟩
  · exact ⟨_, rfl, .inr ⟨.inl (by rw [hhead]; rfl), by rw [htext]; rfl⟩⟩
  · exact ⟨_, rfl, .inr ⟨.inl (by rw [hhead]; rfl), by rw [htext]; rfl⟩⟩
  · exact ⟨_, rfl, .inr ⟨.inr (by rw [hhead]), beq_eq_false_iff_ne.mpr hslash⟩⟩

/-- A step is not the root and not a leading dot. -/
theorem ofPiece_rank (piece : List Char) : 2 ≤ (ofPiece piece).rank := by
  unfold ofPiece
  split <;> simp [Component.rank]

/-- Paths with the same components start from the same place and have the same steps. -/
theorem steps_of_components {path other : Path} (hsame : path.components = other.components) :
    path.isAbsolute = other.isAbsolute ∧ steps path.text.toList = steps other.text.toList := by
  obtain ⟨start, hpath, hstart⟩ := components_split path
  obtain ⟨start', hother, hstart'⟩ := components_split other
  rw [hpath, hother] at hsame
  have hkept : ∀ pieces : List (List Char),
      (pieces.map ofPiece).filter (2 ≤ ·.rank) = pieces.map ofPiece := by
    intro pieces
    refine List.filter_eq_self.mpr fun component hcomponent => ?_
    obtain ⟨piece, -, rfl⟩ := List.mem_map.mp hcomponent
    exact decide_eq_true (ofPiece_rank piece)
  have hrooted : ∀ pieces : List (List Char), Component.root ∉ pieces.map ofPiece := by
    intro pieces hmem
    obtain ⟨piece, -, hroot⟩ := List.mem_map.mp hmem
    have hrank := ofPiece_rank piece
    rw [hroot] at hrank
    cases hrank
  have hsteps := congrArg (List.filter (2 ≤ ·.rank)) hsame
  have hroot := congrArg (Component.root ∈ ·) hsame
  rw [List.filter_append, List.filter_append, hkept, hkept] at hsteps
  simp only [List.mem_append, hrooted, or_false] at hroot
  have hmap : (steps path.text.toList).map ofPiece = (steps other.text.toList).map ofPiece := by
    rcases hstart with ⟨rfl, -⟩ | ⟨rfl | rfl, -⟩ <;>
      rcases hstart' with ⟨rfl, -⟩ | ⟨rfl | rfl, -⟩ <;> exact hsteps
  refine ⟨?_, (List.map_inj_right fun _ _ hpiece => ofPiece_injective hpiece).mp hmap⟩
  rcases hstart with ⟨rfl, habsolute⟩ | ⟨rfl | rfl, habsolute⟩ <;>
    rcases hstart' with ⟨rfl, habsolute'⟩ | ⟨rfl | rfl, habsolute'⟩ <;>
    simp_all

end Path

namespace FileTree

variable {tree : FileTree} {path other : Path}

/-- What leads to a file leads to it without the pieces that are no steps. -/
theorem walk_steps_of_file {start trail : Trail} {text : List Char}
    (hstart : start.Linked tree.root)
    (hwalk : walk tree.root start (Text.pieces '/' text) = .ok trail)
    (hfile : (Trail.node tree.root trail).isDirectory = false) :
    walk tree.root start (Path.steps text) = .ok trail := by
  obtain ⟨front, last, hpieces, hlast, hfront, hdirectory⟩ :=
    walk_to_file hstart (Text.pieces_ne_nil _ _) hwalk hfile
  rw [hpieces, walk_append, hfront] at hwalk
  have hsteps : Path.steps text = front.filter (!Path.isSkipped ·) ++ [last] := by
    rw [Path.steps, hpieces, List.filter_append, List.filter_cons_of_pos (by simp [hlast])]
    rfl
  rw [hsteps, walk_append, ((walk_steps front).mp ⟨hfront, hdirectory⟩).1]
  exact hwalk

/-- A file whose path has the same components as that of another file is the same file. -/
theorem fileAt?_eq_of_components {trail trail' : Trail} (hpath : tree.fileAt? path = some trail)
    (hother : tree.fileAt? other = some trail') (hsame : path.components = other.components) :
    trail = trail' := by
  obtain ⟨habsolute, hsteps⟩ := Path.steps_of_components hsame
  obtain ⟨hlocate, hfile⟩ := fileAt?_eq_some.mp hpath
  obtain ⟨hlocate', hfile'⟩ := fileAt?_eq_some.mp hother
  rw [locate_eq] at hlocate hlocate'
  split at hlocate
  · cases hlocate
  · split at hlocate'
    · cases hlocate'
    · cases horigin : tree.origin path with
      | error err =>
          rw [horigin] at hlocate
          cases hlocate
      | ok start =>
          rw [horigin] at hlocate
          rw [← tree.origin_congr habsolute, horigin] at hlocate'
          have hwalk := walk_steps_of_file (linked_origin horigin) hlocate hfile
          have hwalk' := walk_steps_of_file (linked_origin horigin) hlocate' hfile'
          rw [hsteps, hwalk'] at hwalk
          exact (Except.ok.inj hwalk).symm

/-- The name that the description file at a path declares, if it is one. -/
def nameAt? (tree : FileTree) (path : Path) : Option String :=
  match Description.load tree path with
  | .ok description => some description.name
  | .error _ => none

/-- What a file declares depends on the components of its path alone. -/
theorem nameAt?_congr (hpath : tree.isFile path = true) (hother : tree.isFile other = true)
    (hsame : path.components = other.components) : tree.nameAt? path = tree.nameAt? other := by
  rw [isFile_eq] at hpath hother
  obtain ⟨trail, hpath⟩ := Option.isSome_iff_exists.mp hpath
  obtain ⟨trail', hother⟩ := Option.isSome_iff_exists.mp hother
  obtain rfl := fileAt?_eq_of_components hpath hother hsame
  unfold nameAt? Description.load
  rw [readText_congr hpath hother]
  cases tree.readText other with
  | error cause => rfl
  | ok content =>
      dsimp only
      cases hparse : Description.parse path content with
      | ok description => rw [Description.parse_path hparse other]
      | error err =>
          cases hparse' : Description.parse other content with
          | error err' => rfl
          | ok description =>
              rw [Description.parse_path hparse' path] at hparse
              cases hparse

theorem nameAt?_reordered {again : FileTree} (htree : tree.Reordered again)
    (hproper : tree.Proper) (path : Path) : again.nameAt? path = tree.nameAt? path := by
  unfold nameAt?
  rw [Description.load_reordered htree hproper path]

end FileTree

/-! ### What the scan of a list of files knows -/

namespace Table

variable {α β : Type}

/-- Whether the keys of a table increase. -/
def Increasing (table : Table String α) : Prop :=
  table.keys.Pairwise (· < ·)

theorem Increasing.setSorted {table : Table String α} (hincreasing : table.Increasing)
    (key : String) (value : α) : (table.setSorted key value).Increasing := by
  have hkeys : ∀ (table : Table String α) (other : String),
      other ∈ (table.setSorted key value).keys → other = key ∨ other ∈ table.keys := by
    intro table other hother
    rw [mem_keys_iff, has_eq_true_iff] at hother ⊢
    obtain ⟨found, hfound⟩ := hother
    rw [get?_setSorted] at hfound
    split at hfound
    · rename_i hsame
      exact .inl hsame.symm
    · exact .inr ⟨found, hfound⟩
  induction table with
  | nil => exact List.pairwise_singleton _ key
  | cons entry rest ih =>
      obtain ⟨k, a⟩ := entry
      obtain ⟨hfirst, hrest⟩ := List.pairwise_cons.mp hincreasing
      rw [Table.setSorted]
      split
      · rename_i hless
        refine List.pairwise_cons.mpr ⟨fun other hother => ?_, hincreasing⟩
        rcases List.mem_cons.mp hother with rfl | hbehind
        · exact hless
        · exact String.lt_trans hless (hfirst other hbehind)
      · rename_i hnotless
        split
        · rename_i hsame
          subst hsame
          exact hincreasing
        · rename_i hdifferent
          refine List.pairwise_cons.mpr ⟨fun other hother => ?_, ih hrest⟩
          rcases hkeys rest other hother with rfl | hbehind
          · rcases Std.lt_trichotomy other k with hless | hsame | hless
            · exact absurd hless hnotless
            · exact absurd hsame.symm hdifferent
            · exact hless
          · exact hfirst other hbehind

theorem Increasing.nodup {table : Table String α} (hincreasing : table.Increasing) :
    table.keys.Nodup := by
  refine List.Pairwise.imp (fun {a b} hless heq => ?_) hincreasing
  subst heq
  exact String.lt_irrefl a hless

/-- Tables with increasing keys that say the same under every key are equal. -/
theorem Increasing.eq_of_get? {table other : Table String α} (hincreasing : table.Increasing)
    (hother : other.Increasing) (hsame : ∀ key, table.get? key = other.get? key) :
    table = other := by
  have hmem : ∀ entry, entry ∈ table ↔ entry ∈ other := fun entry => by
    rw [← get?_eq_some_iff hincreasing.nodup, ← get?_eq_some_iff hother.nodup, hsame]
  have hsorted : ∀ {table : Table String α}, table.Increasing →
      table.Pairwise fun a b => a.1 < b.1 := fun hincreasing => List.pairwise_map.mp hincreasing
  refine List.Perm.eq_of_pairwise (fun a b _ _ hab hba => ?_) (hsorted hincreasing)
    (hsorted hother)
    ((List.perm_ext_iff_of_nodup hincreasing.nodup.of_map hother.nodup.of_map).mpr hmem)
  exact absurd (String.lt_trans hab hba) (String.lt_irrefl a.1)

theorem get?_mapValues (table : Table String α) (change : α → β) (key : String) :
    Table.get? (table.map fun entry => (entry.1, change entry.2)) key =
      (table.get? key).map change := by
  induction table with
  | nil => rfl
  | cons entry rest ih =>
      rw [List.map_cons, Table.get?, Table.get?, ih]
      split <;> rfl

theorem Increasing.mapValues {table : Table String α} (hincreasing : table.Increasing)
    (change : α → β) : Increasing (table.map fun entry => (entry.1, change entry.2)) := by
  unfold Increasing keys at hincreasing ⊢
  rwa [List.map_map]

end Table

namespace Loader

variable {tree : FileTree} {state : Table String Path × List String}

/-- The first file that declares a name is what a scan knows under the name. -/
theorem foldl_scanFile_get? (files : List Path) (name : String) :
    (files.foldl (scanFile tree) state).1.get? name =
      (state.1.get? name).or (files.find? fun path => tree.nameAt? path == some name) := by
  induction files generalizing state with
  | nil => rw [List.foldl_nil, List.find?_nil, Option.or_none]
  | cons path rest ih =>
      obtain ⟨known, complaints⟩ := state
      rw [List.foldl_cons, ih, List.find?_cons]
      unfold scanFile FileTree.nameAt?
      cases Description.load tree path with
      | error err => rfl
      | ok description =>
          dsimp only
          by_cases hname : description.name = name
          · subst hname
            rw [beq_self_eq_true]
            split
            · rename_i hknown
              obtain ⟨found, hfound⟩ := (Table.has_eq_true_iff _ _).mp hknown
              rw [hfound, Option.some_or, Option.some_or]
            · rename_i hnew
              rw [Bool.not_eq_true, Table.has_eq_false_iff] at hnew
              rw [Table.get?_setSorted, if_pos rfl, hnew, Option.some_or, Option.none_or]
          · rw [beq_eq_false_iff_ne.mpr fun hsame => hname (Option.some.inj hsame)]
            split
            · rfl
            · rw [Table.get?_setSorted, if_neg hname]

theorem foldl_scanFile_increasing (files : List Path) (hincreasing : state.1.Increasing) :
    (files.foldl (scanFile tree) state).1.Increasing := by
  induction files generalizing state with
  | nil => exact hincreasing
  | cons path rest ih =>
      rw [List.foldl_cons]
      refine ih ?_
      obtain ⟨known, complaints⟩ := state
      unfold scanFile
      dsimp only
      split
      · exact hincreasing
      · split
        · exact hincreasing
        · exact hincreasing.setSorted _ _

/-- Whether a path is that of a file under a root that may be a description file. -/
def Finds (loader : Loader) (tree : FileTree) (path : Path) : Prop :=
  (∃ root ∈ loader.search.roots, tree.Under root path) ∧
    path.extension? = some loader.moduleExtension

/-- The files that a scan looks at. -/
def collected (loader : Loader) (tree : FileTree) : List Path :=
  loader.search.collectFiles tree loader.moduleExtension

variable {loader again : Loader} {other : FileTree}

theorem mem_gathered_iff (hproper : tree.Proper) {path : Path} :
    path ∈ loader.search.roots.flatMap (SourceSearch.filesUnder tree loader.moduleExtension) ↔
      loader.Finds tree path := by
  simp only [List.mem_flatMap, SourceSearch.mem_filesUnder_iff hproper, Finds]
  constructor
  · rintro ⟨root, hroot, hunder, hextension⟩
    exact ⟨⟨root, hroot, hunder⟩, hextension⟩
  · rintro ⟨⟨root, hroot, hunder⟩, hextension⟩
    exact ⟨root, hroot, hunder, hextension⟩

theorem finds_of_mem_collected (hproper : tree.Proper) {path : Path}
    (hpath : path ∈ loader.collected tree) : loader.Finds tree path :=
  (mem_gathered_iff hproper).mp (SourceSearch.mem_of_mem_arranged hpath)

theorem exists_mem_collected (hproper : tree.Proper) {path : Path}
    (hfinds : loader.Finds tree path) :
    ∃ file ∈ loader.collected tree, file.components = path.components :=
  SourceSearch.exists_mem_arranged ((mem_gathered_iff hproper).mpr hfinds)

theorem Finds.isFile {path : Path} (hfinds : loader.Finds tree path) :
    tree.isFile path = true := by
  obtain ⟨⟨root, -, -, way, -, -, hfile⟩, -⟩ := hfinds
  exact hfile

theorem scan_known_eq (loader : Loader) (tree : FileTree) :
    (loader.scan tree).1.known = ((loader.collected tree).foldl (scanFile tree) ([], [])).1 := rfl

theorem scan_get? (loader : Loader) (tree : FileTree) (name : String) :
    (loader.scan tree).1.known.get? name =
      (loader.collected tree).find? fun path => tree.nameAt? path == some name := by
  rw [scan_known_eq, foldl_scanFile_get?, Table.get?_nil, Option.none_or]

theorem scan_increasing (loader : Loader) (tree : FileTree) :
    (loader.scan tree).1.known.Increasing := by
  rw [scan_known_eq]
  exact foldl_scanFile_increasing _ .nil

/-- What is known of a name is the least path that declares it. -/
theorem scan_get?_least (hproper : tree.Proper) {name : String} {path : Path}
    (hget : (loader.scan tree).1.known.get? name = some path) :
    loader.Finds tree path ∧ tree.nameAt? path = some name ∧
      ∀ rival, loader.Finds tree rival → tree.nameAt? rival = some name →
        rival.components = path.components ∨ path.less rival = true := by
  rw [scan_get?] at hget
  obtain ⟨hname, before, after, hfiles, hbefore⟩ := List.find?_eq_some_iff_append.mp hget
  have hpath := finds_of_mem_collected hproper (List.mem_of_find?_eq_some hget)
  refine ⟨hpath, by simpa using hname, fun rival hrival hdeclares => ?_⟩
  obtain ⟨file, hfile, hsame⟩ := exists_mem_collected hproper hrival
  have hfileDeclares : tree.nameAt? file = some name :=
    (FileTree.nameAt?_congr (finds_of_mem_collected hproper hfile).isFile hrival.isFile
      hsame).trans hdeclares
  rw [hfiles] at hfile
  rcases List.mem_append.mp hfile with hearlier | hlater
  · have hnot := hbefore file hearlier
    rw [hfileDeclares] at hnot
    simp at hnot
  · rcases List.mem_cons.mp hlater with rfl | hbehind
    · exact .inl hsame.symm
    · have hincreasing : (loader.collected tree).Pairwise fun a b => a.less b = true :=
        SourceSearch.arranged_increasing _
      rw [hfiles] at hincreasing
      have hless := (List.pairwise_cons.mp (List.pairwise_append.mp hincreasing).2.1).1 file hbehind
      right
      rwa [Path.less, ← hsame]

/-- Whatever is declared is known. -/
theorem exists_scan_get? (hproper : tree.Proper) {name : String} {path : Path}
    (hfinds : loader.Finds tree path) (hdeclares : tree.nameAt? path = some name) :
    ∃ least, (loader.scan tree).1.known.get? name = some least := by
  obtain ⟨file, hfile, hsame⟩ := exists_mem_collected hproper hfinds
  rw [scan_get?, ← Option.isSome_iff_exists, List.find?_isSome]
  refine ⟨file, hfile, beq_iff_eq.mpr ?_⟩
  rw [← hdeclares]
  exact FileTree.nameAt?_congr (finds_of_mem_collected hproper hfile).isFile hfinds.isFile hsame

theorem find?_components {files others : List Path} {first second : Path → Bool}
    (hsame : files.map Path.components = others.map Path.components)
    (hagree : ∀ path ∈ files, ∀ path' ∈ others, path.components = path'.components →
      first path = second path') :
    (files.find? first).map Path.components = (others.find? second).map Path.components := by
  induction files generalizing others with
  | nil =>
      rw [List.map_nil, eq_comm, List.map_eq_nil_iff] at hsame
      rw [hsame]
      rfl
  | cons path rest ih =>
      cases others with
      | nil => cases hsame
      | cons path' rest' =>
          rw [List.map_cons, List.map_cons, List.cons.injEq] at hsame
          have hhead := hagree path List.mem_cons_self path' List.mem_cons_self hsame.1
          rw [List.find?_cons, List.find?_cons, hhead]
          split
          · exact congrArg some hsame.1
          · exact ih hsame.2 fun a ha b hb =>
              hagree a (List.mem_cons_of_mem _ ha) b (List.mem_cons_of_mem _ hb)

/-- A table of paths up to how they are spelled. -/
def spelled (known : Table String Path) : List (String × List Path.Component) :=
  known.map fun entry => (entry.1, entry.2.components)

/-- In which order roots and entries are gone through does not matter to what a scan knows. -/
theorem scan_reordered (hproper : tree.Proper) (htree : tree.Reordered other)
    (hroots : loader.search.roots.Perm again.search.roots)
    (hextension : again.moduleExtension = loader.moduleExtension) :
    spelled (again.scan other).1.known = spelled (loader.scan tree).1.known := by
  have hgathered := SourceSearch.gathered_reordered htree hproper hroots loader.moduleExtension
  have hcollected :
      (loader.collected tree).map Path.components = (again.collected other).map Path.components := by
    unfold collected
    rw [hextension]
    exact SourceSearch.arranged_components hgathered
  refine Table.Increasing.eq_of_get? ((scan_increasing again other).mapValues Path.components)
    ((scan_increasing loader tree).mapValues Path.components) fun name => ?_
  unfold spelled
  rw [Table.get?_mapValues, Table.get?_mapValues, scan_get?, scan_get?]
  refine (find?_components hcollected fun path hpath path' hpath' hsame => ?_).symm
  have hfile' : loader.Finds tree path' := by
    have hmem := SourceSearch.mem_of_mem_arranged hpath'
    rw [hextension] at hmem
    exact (mem_gathered_iff hproper).mp (hgathered.mem_iff.mpr hmem)
  rw [FileTree.nameAt?_reordered htree hproper,
    FileTree.nameAt?_congr (finds_of_mem_collected hproper hpath).isFile hfile'.isFile hsame]

end Loader

namespace Act

/-! ### The scan of a world -/

theorem after_forM_warn (messages : List String) (world : World) :
    (after (messages.forM warn) world).loader = world.loader := by
  induction messages generalizing world with
  | nil => rfl
  | cons message rest ih => exact ih (world.warn message)

/-- The paths that the loader of a world knows, by the names they declare. -/
def known (world : World) : Table String Path :=
  (world.loader.map Loader.known).getD []

theorem scan_eq {world : World} {loader : Loader} (hloader : world.loader = some loader) :
    result scan world = (loader.scan world.files).1.known.length ∧
      known (after scan world) = (loader.scan world.files).1.known := by
  let found : World := { world with loader := world.loader.map fun _ => (loader.scan world.files).1 }
  have hscan : result scan world = (loader.scan world.files).1.known.length ∧
      after scan world = after ((loader.scan world.files).2.forM warn) found := by
    unfold scan
    rw [result_get_bind, after_get_bind, hloader]
    exact ⟨rfl, rfl⟩
  refine ⟨hscan.1, ?_⟩
  rw [known, hscan.2, after_forM_warn]
  simp [found, hloader]

/-- A scan finds the files with the module extension under the roots, each once, and in increasing
order. It knows every name that one of them declares, with the least of the paths that declare it,
and nothing else; and it knows the same, up to the spelling of paths, in whichever order the
directories list their entries and the roots are given. -/
theorem scan_finds_least {world : World} {loader : Loader} (hloader : world.loader = some loader)
    (hproper : world.files.Proper) :
    ((loader.search.collectFiles world.files loader.moduleExtension).Pairwise
        fun first second => first.less second = true) ∧
      (∀ path, loader.Finds world.files path →
        ∃ file ∈ loader.search.collectFiles world.files loader.moduleExtension,
          file.components = path.components) ∧
      (∀ file ∈ loader.search.collectFiles world.files loader.moduleExtension,
        loader.Finds world.files file) ∧
      result scan world = (known (after scan world)).length ∧
      (known (after scan world)).Increasing ∧
      (∀ name path, (known (after scan world)).get? name = some path →
        loader.Finds world.files path ∧ world.files.nameAt? path = some name ∧
          ∀ rival, loader.Finds world.files rival → world.files.nameAt? rival = some name →
            rival.components = path.components ∨ path.less rival = true) ∧
      (∀ name path, loader.Finds world.files path → world.files.nameAt? path = some name →
        ∃ least, (known (after scan world)).get? name = some least) ∧
      ∀ (other : World) (again : Loader), other.loader = some again →
        again.moduleExtension = loader.moduleExtension →
        loader.search.roots.Perm again.search.roots → world.files.Reordered other.files →
          result scan other = result scan world ∧
            Loader.spelled (known (after scan other)) =
              Loader.spelled (known (after scan world)) := by
  obtain ⟨hcount, hknown⟩ := scan_eq hloader
  rw [hknown, hcount]
  refine ⟨SourceSearch.arranged_increasing _, fun path => Loader.exists_mem_collected hproper,
    fun file => Loader.finds_of_mem_collected hproper, rfl, loader.scan_increasing world.files,
    fun name path => Loader.scan_get?_least hproper,
    fun name path => Loader.exists_scan_get? hproper, ?_⟩
  intro other again hagain hextension hroots htree
  obtain ⟨hcount', hknown'⟩ := scan_eq hagain
  have hsame := Loader.scan_reordered hproper htree hroots hextension
  rw [hknown', hcount', hsame]
  refine ⟨?_, rfl⟩
  have hlength := congrArg List.length hsame
  rwa [Loader.spelled, Loader.spelled, List.length_map, List.length_map] at hlength

/-- A description file that declares a name. -/
def declaring (name : String) : FileNode :=
  .file (.text ("\x7b\"objects\": [[\"" ++ name ++ "\", [], [\"main.src\"]]]\x7d"))

/-- Description files in a directory, in one below it, and beside it; one of them declares nothing,
and two names are declared twice. -/
def shelves : FileNode :=
  .directory
    [("mods", .directory
      [("b.kgm", declaring "beta"), ("a.kgm", declaring "alpha"), ("bad.kgm", .file (.text "[]")),
        ("deep", .directory [("c.kgm", declaring "alpha"), ("d.txt", declaring "delta")])]),
      ("single.kgm", declaring "beta")]

/-- The same files, listed in another order. -/
def shuffledShelves : FileNode :=
  .directory
    [("single.kgm", declaring "beta"),
      ("mods", .directory
        [("deep", .directory [("d.txt", declaring "delta"), ("c.kgm", declaring "alpha")]),
          ("bad.kgm", .file (.text "[]")), ("a.kgm", declaring "alpha"),
          ("b.kgm", declaring "beta")])]

theorem shelves_reordered : shelves.Reordered shuffledShelves := by
  have hback : ∀ entries : List (String × FileNode), entries.Perm entries.reverse :=
    fun entries => (List.reverse_perm entries).symm
  have hdeep : FileNode.Reordered
      (.directory [("c.kgm", declaring "alpha"), ("d.txt", declaring "delta")])
      (.directory [("d.txt", declaring "delta"), ("c.kgm", declaring "alpha")]) :=
    .directory (.refl _) (hback _)
  have hmods := FileNode.Reordered.directory
    (.cons "b.kgm" (.refl (declaring "beta")) (.cons "a.kgm" (.refl (declaring "alpha"))
      (.cons "bad.kgm" (.refl (.file (.text "[]"))) (.cons "deep" hdeep (.refl []))))) (hback _)
  exact .directory (.cons "mods" hmods (.cons "single.kgm" (.refl _) (.refl []))) (hback _)

/-- A loader that searches some roots. -/
def searching (roots : List Path) : Loader :=
  .create 0 ⟨roots, "src"⟩ "kgm"

/-- A world with files and a loader. -/
def stocked (root : FileNode) (roots : List Path) : World :=
  { World.create ⟨root, []⟩ .standard with loader := some (searching roots) }

theorem scan_finds_least_overlapping :
    let roots : List Path := [⟨"/mods/deep"⟩, ⟨"single.kgm"⟩, ⟨"/mods"⟩, ⟨"/lost"⟩, ⟨"/mods"⟩]
    let world := stocked shelves roots
    let other := stocked shuffledShelves roots.reverse
    world.files.Proper ∧ world.files.Reordered other.files ∧
      (∃ least, (known (after scan world)).get? "alpha" = some least ∧
        (Path.components ⟨"/mods/a.kgm"⟩ = least.components ∨
          least.less ⟨"/mods/a.kgm"⟩ = true)) ∧
      result scan other = result scan world ∧
      Loader.spelled (known (after scan other)) = Loader.spelled (known (after scan world)) := by
  intro roots world other
  have hproper : world.files.Proper := by
    simp only [world, stocked, World.create, FileTree.Proper, shelves, declaring, FileNode.Proper,
      FileNode.ProperEntries, FileTree.IsName]
    decide
  have hsame : world.files.Reordered other.files := ⟨shelves_reordered, rfl⟩
  have hloader : world.loader = some (searching roots) := rfl
  obtain ⟨-, -, -, -, -, hleast, hknown, hagain⟩ := scan_finds_least hloader hproper
  refine ⟨hproper, hsame, ?_, hagain other (searching roots.reverse) rfl rfl
    (List.reverse_perm roots).symm hsame⟩
  have hfinds : (searching roots).Finds world.files ⟨"/mods/a.kgm"⟩ := by
    refine ⟨⟨⟨"/mods"⟩, by simp [searching, Loader.create, roots], ⟨_, rfl⟩, ["a.kgm"], ?_,
      by decide, by decide⟩, by decide +kernel⟩
    simp only [List.mem_singleton, forall_eq, FileTree.IsName]
    decide
  have hdeclares : world.files.nameAt? ⟨"/mods/a.kgm"⟩ = some "alpha" := by decide +kernel
  obtain ⟨least, hget⟩ := hknown "alpha" _ hfinds hdeclares
  exact ⟨least, hget, (hleast "alpha" least hget).2.2 _ hfinds hdeclares⟩

end Act

end ScriptHost
