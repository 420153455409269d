import ScriptHost.Path

/-!
A tree of files and directories with a working directory. Paths are resolved step by step: every
step but the last has to be a directory, and so has a path that ends in a slash or a dot. There are
no links, so the way down to a file is unique and gives its canonical path.
-/

namespace ScriptHost

/-- Why the file system refuses an operation. -/
inductive IoError
  | notFound | isADirectory | notADirectory | invalidData
  deriving DecidableEq, Repr

/-- The wording of a file system error. -/
def IoError.message : IoError → String
  | .notFound => "No such file or directory (os error 2)"
  | .isADirectory => "Is a directory (os error 21)"
  | .notADirectory => "Not a directory (os error 20)"
  | .invalidData => "stream did not contain valid UTF-8"

/-- The content of a file: a text, or bytes that are no text. -/
inductive FileContent
  | text (content : String)
  | binary (bytes : List UInt8)
  deriving DecidableEq, Repr

/-- The content made of `bytes`. -/
def FileContent.ofBytes (bytes : List UInt8) : FileContent :=
  match String.fromUTF8? ⟨bytes.toArray⟩ with
  | some content => .text content
  | none => .binary bytes

/-- A file or a directory. -/
inductive FileNode
  | file (content : FileContent)
  | directory (entries : List (String × FileNode))
  deriving Inhabited

namespace FileNode

/-- Whether the node is a directory. -/
def isDirectory : FileNode → Bool
  | .directory _ => true
  | .file _ => false

/-- The entry called `name`. -/
def child? (node : FileNode) (name : String) : Option FileNode :=
  match node with
  | .directory entries => (entries.find? (·.1 == name)).map (·.2)
  | .file _ => none

/-- Replaces the entry called `name`, or adds it. -/
def setEntry (entries : List (String × FileNode)) (name : String) (node : FileNode) :
    List (String × FileNode) :=
  match entries with
  | [] => [(name, node)]
  | entry :: rest =>
    if entry.1 = name then (name, node) :: rest else entry :: setEntry rest name node

/-- Puts `node` at the end of the way `names`, making the directories on the way. -/
def insert (node : FileNode) : List String → FileNode → FileNode
  | [], _ => node
  | name :: names, .directory entries =>
    let below := ((entries.find? (·.1 == name)).map (·.2)).getD (.directory [])
    .directory (setEntry entries name (insert node names below))
  | name :: names, .file _ => .directory [(name, insert node names (.directory []))]

/-- Takes away what is at the end of the way `names`, if there is something. -/
def erase : List String → FileNode → FileNode
  | [name], .directory entries => .directory (entries.filter (·.1 != name))
  | name :: names, .directory entries =>
    match (entries.find? (·.1 == name)).map (·.2) with
    | some below => .directory (setEntry entries name (erase names below))
    | none => .directory entries
  | _, node => node

mutual

/-- The number of files in and below a node. -/
def fileCount : FileNode → Nat
  | .file _ => 1
  | .directory entries => entryCount entries

/-- The number of files in and below a directory's entries. -/
def entryCount : List (String × FileNode) → Nat
  | [] => 0
  | (_, node) :: rest => fileCount node + entryCount rest

end

end FileNode

/-- A file system with a working directory, named by its way from the root. -/
structure FileTree where
  root : FileNode
  workingDirectory : List String
  deriving Inhabited

namespace FileTree

/-- A position in a tree: the entries on the way to it, the innermost first. -/
abbrev Trail := List (String × FileNode)

/-- The node at the end of a trail that starts at `root`. -/
def Trail.node (root : FileNode) (trail : Trail) : FileNode :=
  match trail with
  | [] => root
  | (_, node) :: _ => node

/-- Follows the pieces of a path text from a position. -/
def walk (root : FileNode) (trail : Trail) : List (List Char) → Except IoError Trail
  | [] => .ok trail
  | piece :: rest =>
    if !(Trail.node root trail).isDirectory then .error .notADirectory
    else if Path.isSkipped piece then walk root trail rest
    else if piece = ['.', '.'] then walk root trail.tail rest
    else
      match (Trail.node root trail).child? (String.ofList piece) with
      | some node => walk root ((String.ofList piece, node) :: trail) rest
      | none => .error .notFound

/-- The position that a path names. -/
def locate (tree : FileTree) (path : Path) : Except IoError Trail :=
  if path.text.isEmpty then .error .notFound
  else if path.isAbsolute then walk tree.root [] (Text.pieces '/' path.text.toList)
  else
    match walk tree.root [] (tree.workingDirectory.map String.toList) with
    | .error err => .error err
    | .ok start => walk tree.root start (Text.pieces '/' path.text.toList)

/-- The path of a way from the root. -/
def pathOf (names : List String) : Path :=
  ⟨"/" ++ String.intercalate "/" names⟩

/-- The working directory as a path. -/
def workingPath (tree : FileTree) : Path :=
  pathOf tree.workingDirectory

/-- The path of an existing file or directory without dots and doubled slashes. -/
def canonicalize (tree : FileTree) (path : Path) : Except IoError Path :=
  (tree.locate path).map fun trail => pathOf (trail.reverse.map (·.1))

/-- The node that a path names. -/
def node (tree : FileTree) (path : Path) : Except IoError FileNode :=
  (tree.locate path).map (Trail.node tree.root)

/-- The content of the file that a path names. -/
def read (tree : FileTree) (path : Path) : Except IoError FileContent :=
  match tree.node path with
  | .error err => .error err
  | .ok (.directory _) => .error .isADirectory
  | .ok (.file content) => .ok content

/-- The text of the file that a path names. -/
def readText (tree : FileTree) (path : Path) : Except IoError String :=
  match tree.read path with
  | .error err => .error err
  | .ok (.text content) => .ok content
  | .ok (.binary _) => .error .invalidData

/-- Whether the path names a file. -/
def isFile (tree : FileTree) (path : Path) : Bool :=
  match tree.node path with
  | .ok (.file _) => true
  | _ => false

/-- Whether the path names a directory. -/
def isDirectory (tree : FileTree) (path : Path) : Bool :=
  match tree.node path with
  | .ok (.directory _) => true
  | _ => false

/-- Takes one component of a path on a way from the root, whether or not the way exists. -/
def step (names : List String) : Path.Component → List String
  | .root => []
  | .current => names
  | .parent => names.dropLast
  | .normal name => names ++ [name]

/-- The way from the root that a path spells. -/
def wayTo (tree : FileTree) (path : Path) : List String :=
  path.components.foldl step tree.workingDirectory

/-- Puts a file or directory at a path, with the directories on the way. -/
def put (tree : FileTree) (path : Path) (node : FileNode) : FileTree :=
  { tree with root := FileNode.insert node (tree.wayTo path) tree.root }

/-- Writes a file, with the directories on the way to it. -/
def write (tree : FileTree) (path : Path) (content : FileContent) : FileTree :=
  tree.put path (.file content)

/-- Takes away the file or directory at a path. -/
def remove (tree : FileTree) (path : Path) : FileTree :=
  { tree with root := FileNode.erase (tree.wayTo path) tree.root }

/-- The number of files in the tree. -/
def fileCount (tree : FileTree) : Nat :=
  tree.root.fileCount

/-- One spelling for each path: the canonical path of what exists, the canonical parent and the name
for what could exist, and the absolute path otherwise. -/
def normalize (tree : FileTree) (path : Path) : Path :=
  let absolute := if path.isAbsolute then path else tree.workingPath.join path
  match tree.canonicalize absolute with
  | .ok canonical => canonical
  | .error _ =>
    match absolute.parent? with
    | none => absolute
    | some parent =>
      match tree.canonicalize parent with
      | .error _ => absolute
      | .ok parent =>
        match absolute.fileName? with
        | some name => parent.join ⟨name⟩
        | none => parent

end FileTree

end ScriptHost
