import Mathlib.Data.List.Perm.Basic
import ScriptHost.Description
import ScriptHost.Proofs.Trails

/-!
Trees whose directories list their entries in another order. As long as no directory lists a name
twice, a path leads to the same place in both trees, so what can be read through a path is the same.
A search comes upon the same files, in another order.
-/

namespace ScriptHost

namespace FileNode

/-! ### Names in directories -/

mutual

/-- Whether the entries of each directory in and below a node have names, and distinct ones. -/
def Proper : FileNode → Prop
  | .file _ => True
  | .directory entries => (entries.map Prod.fst).Nodup ∧ ProperEntries entries

/-- Whether the entries of a directory have names, and all that is below them is proper. -/
def ProperEntries : List (String × FileNode) → Prop
  | [] => True
  | (name, node) :: rest => FileTree.IsName name ∧ Proper node ∧ ProperEntries rest

end

variable {entries others : List (String × FileNode)} {node other found : FileNode} {name : String}

theorem ProperEntries.of_mem (hproper : ProperEntries entries) (hmem : (name, node) ∈ entries) :
    FileTree.IsName name ∧ node.Proper := by
  induction entries with
  | nil => cases hmem
  | cons entry rest ih =>
      rw [ProperEntries] at hproper
      rcases List.mem_cons.mp hmem with rfl | hrest
      · exact ⟨hproper.1, hproper.2.1⟩
      · exact ih hproper.2.2 hrest

theorem child?_eq_some_iff (hdistinct : (entries.map Prod.fst).Nodup) :
    (directory entries).child? name = some node ↔ (name, node) ∈ entries := by
  induction entries with
  | nil => simp [child?]
  | cons entry rest ih =>
      rw [List.map_cons, List.nodup_cons] at hdistinct
      have hrest := ih hdistinct.2
      simp only [child?, List.find?_cons] at hrest ⊢
      by_cases hname : entry.1 = name
      · have hnone : (name, node) ∉ rest := fun hmem =>
          hdistinct.1 (hname ▸ List.mem_map_of_mem hmem)
        rw [beq_iff_eq.mpr hname, List.mem_cons]
        obtain ⟨first, below⟩ := entry
        subst hname
        simp [hnone, eq_comm]
      · rw [beq_eq_false_iff_ne.mpr hname, hrest, List.mem_cons]
        have hother : (name, node) ≠ entry := fun hsame => hname (congrArg Prod.fst hsame).symm
        simp [hother]

/-- The entries of a proper directory are proper. -/
theorem Proper.child? (hproper : node.Proper) (hchild : node.child? name = some found) :
    FileTree.IsName name ∧ found.Proper := by
  cases node with
  | file content => cases hchild
  | directory entries =>
      rw [Proper] at hproper
      exact hproper.2.of_mem ((child?_eq_some_iff hproper.1).mp hchild)

/-! ### Other orders -/

mutual

/-- Whether a node becomes the other one if its directories are listed in another order. -/
def Reordered : FileNode → FileNode → Prop
  | .file content, other => other = .file content
  | .directory entries, other =>
    ∃ middle others, EntriesReordered entries middle ∧ middle.Perm others ∧
      other = .directory others

/-- Whether the entries of a directory become the other ones if the directories below are listed in
another order. -/
def EntriesReordered : List (String × FileNode) → List (String × FileNode) → Prop
  | [], others => others = []
  | (name, node) :: rest, others =>
    ∃ node' rest', Reordered node node' ∧ EntriesReordered rest rest' ∧
      others = (name, node') :: rest'

end

theorem Reordered.directory {middle : List (String × FileNode)}
    (hentries : EntriesReordered entries middle) (hperm : middle.Perm others) :
    (FileNode.directory entries).Reordered (.directory others) := by
  rw [Reordered]
  exact ⟨middle, others, hentries, hperm, rfl⟩

theorem EntriesReordered.cons (name : String) (hnode : node.Reordered other)
    (hentries : EntriesReordered entries others) :
    EntriesReordered ((name, node) :: entries) ((name, other) :: others) := by
  rw [EntriesReordered]
  exact ⟨other, others, hnode, hentries, rfl⟩

mutual

theorem Reordered.refl (node : FileNode) : node.Reordered node := by
  cases node with
  | file content => rw [Reordered]
  | directory entries => exact .directory (EntriesReordered.refl entries) (.refl _)

theorem EntriesReordered.refl (entries : List (String × FileNode)) :
    EntriesReordered entries entries := by
  cases entries with
  | nil => rw [EntriesReordered]
  | cons entry rest =>
      exact .cons entry.1 (Reordered.refl entry.2) (EntriesReordered.refl rest)

end

theorem EntriesReordered.names (hreordered : EntriesReordered entries others) :
    others.map Prod.fst = entries.map Prod.fst := by
  induction entries generalizing others with
  | nil =>
      rw [EntriesReordered] at hreordered
      rw [hreordered]
  | cons entry rest ih =>
      rw [EntriesReordered] at hreordered
      obtain ⟨node', rest', -, hrest, rfl⟩ := hreordered
      rw [List.map_cons, List.map_cons, ih hrest]

theorem EntriesReordered.exists_mem (hreordered : EntriesReordered entries others)
    (hmem : (name, node) ∈ entries) : ∃ node', (name, node') ∈ others ∧ node.Reordered node' := by
  induction entries generalizing others with
  | nil => cases hmem
  | cons entry rest ih =>
      rw [EntriesReordered] at hreordered
      obtain ⟨node', rest', hnode, hrest, rfl⟩ := hreordered
      rcases List.mem_cons.mp hmem with rfl | hmem
      · exact ⟨node', List.mem_cons_self, hnode⟩
      · obtain ⟨below, hbelow, hsame⟩ := ih hrest hmem
        exact ⟨below, List.mem_cons_of_mem _ hbelow, hsame⟩

theorem Reordered.isDirectory (hreordered : node.Reordered other) :
    other.isDirectory = node.isDirectory := by
  cases node with
  | file content =>
      rw [Reordered] at hreordered
      rw [hreordered]
  | directory entries =>
      rw [Reordered] at hreordered
      obtain ⟨middle, others, -, -, rfl⟩ := hreordered
      rfl

/-- An entry is found in the other order as well, with what is below it in another order. -/
theorem Reordered.child?_some (hreordered : node.Reordered other) (hproper : node.Proper)
    (hchild : node.child? name = some found) :
    ∃ found', other.child? name = some found' ∧ found.Reordered found' := by
  cases node with
  | file content => cases hchild
  | directory entries =>
      rw [Reordered] at hreordered
      rw [Proper] at hproper
      obtain ⟨middle, others, hentries, hperm, rfl⟩ := hreordered
      obtain ⟨found', hmem, hfound⟩ :=
        hentries.exists_mem ((child?_eq_some_iff hproper.1).mp hchild)
      have hdistinct : (others.map Prod.fst).Nodup := by
        rw [← (hperm.map Prod.fst).nodup_iff, hentries.names]
        exact hproper.1
      exact ⟨found', (child?_eq_some_iff hdistinct).mpr (hperm.mem_iff.mp hmem), hfound⟩

/-- No entry is found in the other order either. -/
theorem Reordered.child?_none (hreordered : node.Reordered other)
    (hchild : node.child? name = none) : other.child? name = none := by
  cases node with
  | file content =>
      rw [Reordered] at hreordered
      rw [hreordered]
      rfl
  | directory entries =>
      rw [Reordered] at hreordered
      obtain ⟨middle, others, hentries, hperm, rfl⟩ := hreordered
      rw [child?, Option.map_eq_none_iff, List.find?_eq_none] at hchild ⊢
      intro entry hentry hsame
      have hname : entry.1 ∈ entries.map Prod.fst := by
        rw [← hentries.names]
        exact List.mem_map_of_mem (hperm.mem_iff.mpr hentry)
      obtain ⟨given, hgiven, hgivenName⟩ := List.mem_map.mp hname
      exact hchild given hgiven (by rwa [hgivenName])

end FileNode

namespace FileTree

/-! ### Where paths lead in either order -/

/-- Whether a tree becomes the other one if its directories are listed in another order. -/
def Reordered (tree other : FileTree) : Prop :=
  tree.root.Reordered other.root ∧ other.workingDirectory = tree.workingDirectory

/-- Whether the entries of each directory have names, and distinct ones. -/
def Proper (tree : FileTree) : Prop :=
  tree.root.Proper

/-- Trails along the same names, to nodes that differ in the order of directories. -/
inductive Trail.Alike : Trail → Trail → Prop
  | nil : Alike [] []
  | cons (name : String) {node node' : FileNode} {trail trail' : Trail}
      (hnode : node.Reordered node') (hproper : node.Proper) (hrest : Alike trail trail') :
      Alike ((name, node) :: trail) ((name, node') :: trail')

/-- Ways that end at like places, or fail for the same reason. -/
inductive EndsAlike : Except IoError Trail → Except IoError Trail → Prop
  | ok {trail trail' : Trail} (hroute : trail.Alike trail') : EndsAlike (.ok trail) (.ok trail')
  | error (err : IoError) : EndsAlike (.error err) (.error err)

theorem EndsAlike.inv {first second : Except IoError Trail} (hends : EndsAlike first second) :
    (∃ trail trail', first = .ok trail ∧ second = .ok trail' ∧ trail.Alike trail') ∨
    ∃ err, first = .error err ∧ second = .error err := by
  cases hends with
  | ok hroute => exact .inl ⟨_, _, rfl, rfl, hroute⟩
  | error err => exact .inr ⟨err, rfl, rfl⟩

variable {tree other : FileTree} {root root' : FileNode} {trail trail' : Trail}

theorem Trail.Alike.node (hroot : root.Reordered root') (hproper : root.Proper)
    (hroute : trail.Alike trail') :
    (Trail.node root trail).Reordered (Trail.node root' trail') ∧
      (Trail.node root trail).Proper := by
  cases hroute with
  | nil => exact ⟨hroot, hproper⟩
  | cons name hnode hbelow _ => exact ⟨hnode, hbelow⟩

theorem Trail.Alike.tail (hroute : trail.Alike trail') : Trail.Alike trail.tail trail'.tail := by
  cases hroute with
  | nil => exact .nil
  | cons name _ _ hrest => exact hrest

/-- A way ends alike in both orders. -/
theorem walk_reordered (hroot : root.Reordered root') (hproper : root.Proper)
    (hroute : trail.Alike trail') (parts : List (List Char)) :
    EndsAlike (walk root trail parts) (walk root' trail' parts) := by
  induction parts generalizing trail trail' with
  | nil => exact .ok hroute
  | cons piece rest ih =>
      obtain ⟨hnode, hbelow⟩ := hroute.node hroot hproper
      rw [walk, walk, hnode.isDirectory]
      split
      · exact .error _
      · split
        · exact ih hroute
        · split
          · exact ih hroute.tail
          · cases hchild : (Trail.node root trail).child? (String.ofList piece) with
            | none =>
                rw [hnode.child?_none hchild]
                exact .error _
            | some found =>
                obtain ⟨found', hchild', hfound⟩ := hnode.child?_some hbelow hchild
                rw [hchild']
                exact ih (.cons _ hfound (hbelow.child? hchild).2 hroute)

theorem locate_reordered (htree : tree.Reordered other) (hproper : tree.Proper) (path : Path) :
    EndsAlike (tree.locate path) (other.locate path) := by
  obtain ⟨hroot, hworking⟩ := htree
  have hwalk := fun {trail trail' : Trail} (hroute : trail.Alike trail') =>
    walk_reordered hroot hproper hroute (Text.pieces '/' path.text.toList)
  unfold locate
  split
  · exact .error _
  · split
    · exact hwalk .nil
    · rw [hworking]
      rcases (walk_reordered hroot hproper .nil
          (tree.workingDirectory.map String.toList)).inv with
        ⟨trail, trail', hstart, hstart', hroute⟩ | ⟨err, hstart, hstart'⟩
      · rw [hstart, hstart']
        exact hwalk hroute
      · rw [hstart, hstart']
        exact .error err

/-- A path names like nodes in both orders, or fails for the same reason. -/
theorem node_reordered (htree : tree.Reordered other) (hproper : tree.Proper) (path : Path) :
    (∃ node node', tree.node path = .ok node ∧ other.node path = .ok node' ∧
      node.Reordered node') ∨
    ∃ err, tree.node path = .error err ∧ other.node path = .error err := by
  unfold node
  rcases (locate_reordered htree hproper path).inv with
    ⟨trail, trail', hlocate, hlocate', hroute⟩ | ⟨err, hlocate, hlocate'⟩
  · rw [hlocate, hlocate']
    exact .inl ⟨_, _, rfl, rfl, (hroute.node htree.1 hproper).1⟩
  · rw [hlocate, hlocate']
    exact .inr ⟨err, rfl, rfl⟩

/-- What is read through a path is the same in both orders. -/
theorem read_reordered (htree : tree.Reordered other) (hproper : tree.Proper) (path : Path) :
    other.read path = tree.read path := by
  unfold read
  rcases node_reordered htree hproper path with
    ⟨node, node', hnode, hnode', hsame⟩ | ⟨err, hnode, hnode'⟩
  · rw [hnode, hnode']
    cases node with
    | file content =>
        rw [FileNode.Reordered] at hsame
        rw [hsame]
    | directory entries =>
        rw [FileNode.Reordered] at hsame
        obtain ⟨middle, others, -, -, rfl⟩ := hsame
        rfl
  · rw [hnode, hnode']

end FileTree

theorem Description.load_reordered {tree other : FileTree} (htree : tree.Reordered other)
    (hproper : tree.Proper) (path : Path) :
    Description.load other path = Description.load tree path := by
  unfold load FileTree.readText
  rw [FileTree.read_reordered htree hproper path]

namespace SourceSearch

variable {tree other : FileTree}

theorem filesBelow_eq (extension : String) (base : Path) (entries : List (String × FileNode)) :
    filesBelow extension base entries =
      entries.flatMap fun entry => filesAt extension (base.join ⟨entry.1⟩) entry.2 := by
  induction entries with
  | nil => rw [filesBelow, List.flatMap_nil]
  | cons entry rest ih => rw [filesBelow, ih, List.flatMap_cons]

mutual

/-- A search of a node comes upon the same files in either order. -/
theorem filesAt_reordered (extension : String) (base : Path) {node node' : FileNode}
    (hnode : node.Reordered node') :
    (filesAt extension base node).Perm (filesAt extension base node') := by
  cases node with
  | file content =>
      rw [FileNode.Reordered] at hnode
      rw [hnode]
  | directory entries =>
      rw [FileNode.Reordered] at hnode
      obtain ⟨middle, others, hentries, hperm, rfl⟩ := hnode
      rw [filesAt, filesAt]
      refine (filesBelow_reordered extension base hentries).trans ?_
      rw [filesBelow_eq, filesBelow_eq]
      exact hperm.flatMap_right _

theorem filesBelow_reordered (extension : String) (base : Path)
    {entries others : List (String × FileNode)}
    (hentries : FileNode.EntriesReordered entries others) :
    (filesBelow extension base entries).Perm (filesBelow extension base others) := by
  cases entries with
  | nil =>
      rw [FileNode.EntriesReordered] at hentries
      rw [hentries]
  | cons entry rest =>
      rw [FileNode.EntriesReordered] at hentries
      obtain ⟨node', rest', hnode, hrest, rfl⟩ := hentries
      rw [filesBelow, filesBelow]
      exact (filesAt_reordered extension _ hnode).append
        (filesBelow_reordered extension base hrest)

end

theorem filesUnder_reordered (htree : tree.Reordered other) (hproper : tree.Proper)
    (extension : String) (root : Path) :
    (filesUnder tree extension root).Perm (filesUnder other extension root) := by
  unfold filesUnder
  rcases FileTree.node_reordered htree hproper root with
    ⟨node, node', hnode, hnode', hsame⟩ | ⟨err, hnode, hnode'⟩
  · rw [hnode, hnode']
    exact filesAt_reordered extension root hsame
  · rw [hnode, hnode']

/-- In which order roots and entries are gone through does not matter to which files a search comes
upon, and how often. -/
theorem gathered_reordered (htree : tree.Reordered other) (hproper : tree.Proper)
    {roots roots' : List Path} (hroots : roots.Perm roots') (extension : String) :
    (roots.flatMap (filesUnder tree extension)).Perm
      (roots'.flatMap (filesUnder other extension)) := by
  refine .trans ?_ (hroots.flatMap_right _)
  clear hroots
  induction roots with
  | nil => exact .refl _
  | cons root rest ih =>
      rw [List.flatMap_cons, List.flatMap_cons]
      exact (filesUnder_reordered htree hproper extension root).append ih

end SourceSearch

end ScriptHost
