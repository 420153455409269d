import ScriptHost.Description
import Mathlib.Data.List.Nodup

/-!
The names that description files declare. A path leads to a node of the file tree, and
the name that a description file declares depends on its text alone, so that there are no
more names declared than there are files.
-/

namespace ScriptHost

namespace FileNode

mutual

/-- The texts of the files in and below a node. -/
def texts : FileNode → List String
  | .file (.text content) => [content]
  | .file (.binary _) => []
  | .directory entries => entryTexts entries

/-- The texts of the files in and below a directory's entries. -/
def entryTexts : List (String × FileNode) → List String
  | [] => []
  | (_, node) :: rest => texts node ++ entryTexts rest

end

mutual

theorem length_texts_le (node : FileNode) : node.texts.length ≤ node.fileCount := by
  cases node with
  | file content =>
      cases content with
      | text content => simp [texts, fileCount]
      | binary bytes => simp [texts]
  | directory entries =>
      rw [texts, fileCount]
      exact length_entryTexts_le entries

theorem length_entryTexts_le (entries : List (String × FileNode)) :
    (entryTexts entries).length ≤ entryCount entries := by
  cases entries with
  | nil => simp [entryTexts]
  | cons entry rest =>
      rw [entryTexts, entryCount, List.length_append]
      exact Nat.add_le_add (length_texts_le entry.2) (length_entryTexts_le rest)

end

theorem texts_subset_of_mem {entries : List (String × FileNode)}
    {entry : String × FileNode} (hmem : entry ∈ entries) :
    entry.2.texts ⊆ entryTexts entries := by
  induction entries with
  | nil => cases hmem
  | cons first rest ih =>
      rw [entryTexts]
      rcases List.mem_cons.mp hmem with rfl | hrest
      · exact List.subset_append_left _ _
      · exact fun content htext => List.mem_append_right _ (ih hrest htext)

/-- What a directory holds is below it. -/
theorem texts_child? {node found : FileNode} {name : String}
    (hfound : node.child? name = some found) : found.texts ⊆ node.texts := by
  cases node with
  | file content => cases hfound
  | directory entries =>
      obtain ⟨entry, hentry, rfl⟩ := Option.map_eq_some_iff.mp hfound
      rw [texts]
      exact texts_subset_of_mem (List.mem_of_find?_eq_some hentry)

end FileNode

namespace FileTree

variable {root : FileNode} {trail after : Trail} {tree : FileTree} {path : Path}

/-- The nodes on a trail are all in the tree. -/
def Trail.Stays (root : FileNode) (trail : Trail) : Prop :=
  ∀ entry ∈ trail, entry.2.texts ⊆ root.texts

theorem Trail.Stays.node (htrail : trail.Stays root) :
    (Trail.node root trail).texts ⊆ root.texts := by
  cases trail with
  | nil => exact List.Subset.refl _
  | cons entry rest => exact htrail entry List.mem_cons_self

/-- Following a path does not leave the tree. -/
theorem stays_walk {pieces : List (List Char)} (htrail : trail.Stays root)
    (hwalk : walk root trail pieces = .ok after) : after.Stays root := by
  induction pieces generalizing trail with
  | nil =>
      cases hwalk
      exact htrail
  | cons piece rest ih =>
      unfold walk at hwalk
      split at hwalk
      · cases hwalk
      · split at hwalk
        · exact ih htrail hwalk
        · split at hwalk
          · exact ih (fun entry hentry => htrail entry (List.mem_of_mem_tail hentry)) hwalk
          · split at hwalk
            · rename_i node hnode
              refine ih (fun entry hentry => ?_) hwalk
              rcases List.mem_cons.mp hentry with rfl | hrest
              · exact fun content htext => htrail.node (FileNode.texts_child? hnode htext)
              · exact htrail entry hrest
            · cases hwalk

theorem stays_locate (hlocate : tree.locate path = .ok after) : after.Stays tree.root := by
  unfold locate at hlocate
  have hnone : Trail.Stays tree.root [] := fun _ hentry => absurd hentry List.not_mem_nil
  split at hlocate
  · cases hlocate
  · split at hlocate
    · exact stays_walk hnone hlocate
    · split at hlocate
      · cases hlocate
      · rename_i start hstart
        exact stays_walk (stays_walk hnone hstart) hlocate

/-- What is read is the text of a file in the tree. -/
theorem mem_texts_of_readText {content : String} (hread : tree.readText path = .ok content) :
    content ∈ tree.root.texts := by
  unfold readText read node at hread
  cases hlocate : tree.locate path with
  | error err =>
      rw [hlocate] at hread
      cases hread
  | ok trail =>
      rw [hlocate] at hread
      have hstays := (stays_locate hlocate).node
      simp only [Except.map] at hread
      generalize Trail.node tree.root trail = node at hread hstays
      cases node with
      | directory entries => cases hread
      | file found =>
          cases found with
          | binary bytes => cases hread
          | text found =>
              cases hread
              exact hstays (by simp [FileNode.texts])

end FileTree

namespace Description

variable {path other : Path} {content : String} {description : Description}

theorem ofObject_path {version : Option String} {object : Object}
    (hobject : ofObject path version object = .ok description) (other : Path) :
    ofObject other version object = .ok { description with path := other } := by
  unfold ofObject at hobject ⊢
  dsimp only at hobject ⊢
  split at hobject
  · cases hobject
  · rename_i hname
    rw [if_neg hname]
    cases hproperties : object.properties with
    | none =>
        rw [hproperties] at hobject
        cases hobject
    | some properties =>
        rw [hproperties] at hobject
        dsimp only at hobject ⊢
        split at hobject
        · cases hobject
        · rename_i hsources
          rw [if_neg hsources]
          cases haccess : readAccess (Text.trimString object.name) properties.extraAccess with
          | error err =>
              rw [haccess] at hobject
              cases hobject
          | ok access =>
              rw [haccess] at hobject
              cases hobject
              rfl

/-- The path of a description file decides nothing else. -/
theorem parse_path (hparse : parse path content = .ok description) (other : Path) :
    parse other content = .ok { description with path := other } := by
  unfold parse at hparse ⊢
  cases hfile : (Json.parse content.toList).bind File.ofJson? with
  | none =>
      rw [hfile] at hparse
      cases hparse
  | some file =>
      rw [hfile] at hparse
      dsimp only at hparse ⊢
      rcases hobjects : file.objects with _ | ⟨object, _ | ⟨second, rest⟩⟩
      · rw [hobjects] at hparse
        cases hparse
      · rw [hobjects] at hparse
        exact ofObject_path hparse other
      · rw [hobjects] at hparse
        cases hparse

/-- The name that a text declares, if it is that of a description file. -/
def declared? (content : String) : Option String :=
  match parse ⟨""⟩ content with
  | .ok description => some description.name
  | .error _ => none

end Description

/-- The names that the description files of a tree declare. -/
def FileTree.declared (tree : FileTree) : List String :=
  tree.root.texts.filterMap Description.declared?

theorem FileTree.length_declared_le (tree : FileTree) :
    tree.declared.length ≤ tree.fileCount :=
  Nat.le_trans (List.length_filterMap_le _ _) tree.root.length_texts_le

/-- A description that has been read declares a name. -/
theorem Description.mem_declared {tree : FileTree} {path : Path} {description : Description}
    (hload : Description.load tree path = .ok description) :
    description.name ∈ tree.declared := by
  unfold Description.load at hload
  split at hload
  · cases hload
  · rename_i content hread
    refine List.mem_filterMap.mpr ⟨content, FileTree.mem_texts_of_readText hread, ?_⟩
    unfold Description.declared?
    rw [Description.parse_path hload ⟨""⟩]

end ScriptHost
