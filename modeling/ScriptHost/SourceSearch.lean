import ScriptHost.FileTree

/-!
Looking up source files and description files. Names are tried against a base directory and the
search roots, with the source extension added to names that have none; a whole tree is searched by
extension, and the files found are listed once each, in the order of their components.
-/

namespace ScriptHost

/-- Where sources are looked for. -/
structure SourceSearch where
  roots : List Path
  sourceExtension : String
  deriving DecidableEq, Repr

namespace SourceSearch

/-- Adds a root unless a root with the same components is there already. -/
def addRoot (search : SourceSearch) (root : Path) : SourceSearch :=
  if search.roots.any (·.same root) then search
  else { search with roots := search.roots ++ [root] }

/-- The paths a source name may stand for, in the order they are tried. -/
def candidates (search : SourceSearch) (name : String) : List Path :=
  let path : Path := ⟨name⟩
  match path.extension? with
  | some _ => [path]
  | none => [path.withExtension search.sourceExtension, path]

/-- The first file among the candidates of a source name, looked for in `relativeTo?` and then in
the roots. An absolute name is taken as it is. -/
def findSource (search : SourceSearch) (tree : FileTree) (name : String)
    (relativeTo? : Option Path) : Option Path :=
  let candidates := search.candidates name
  if Path.isAbsolute ⟨name⟩ then candidates.find? tree.isFile
  else
    (relativeTo?.toList ++ search.roots).findSome? fun base =>
      (candidates.map base.join).find? tree.isFile

/-- The file that an include directive names. A target that begins with `./` is looked for in the
working directory, any other beside the including file and in the roots. -/
def resolveInclude (search : SourceSearch) (tree : FileTree) (target : String)
    (includingFile : Path) : Option Path :=
  match Text.stripPrefix? ['.', '/'] target.toList with
  | some stripped =>
    ((search.candidates (String.ofList stripped)).map tree.workingPath.join).find? tree.isFile
  | none => search.findSource tree target includingFile.parent?

mutual

/-- The files with an extension at or below the path `base` of a node. -/
def filesAt (extension : String) (base : Path) : FileNode → List Path
  | .file _ => if base.extension? = some extension then [base] else []
  | .directory entries => filesBelow extension base entries

/-- The files with an extension at or below the entries of the directory `base`. -/
def filesBelow (extension : String) (base : Path) : List (String × FileNode) → List Path
  | [] => []
  | (name, node) :: rest =>
    filesAt extension (base.join ⟨name⟩) node ++ filesBelow extension base rest

end

/-- The files with an extension at or below one root. -/
def filesUnder (tree : FileTree) (extension : String) (root : Path) : List Path :=
  match tree.node root with
  | .error _ => []
  | .ok node => filesAt extension root node

/-- Leaves out each path that has the components of the one before it. -/
def dedup : List Path → List Path
  | [] => []
  | [path] => [path]
  | a :: b :: rest => if a.same b then dedup (a :: rest) else a :: dedup (b :: rest)

/-- Every file with an extension under the roots, in the order of components and without
repetition. -/
def collectFiles (search : SourceSearch) (tree : FileTree) (extension : String) : List Path :=
  dedup ((search.roots.flatMap (filesUnder tree extension)).mergeSort fun a b => !b.less a)

end SourceSearch

end ScriptHost
