import ScriptHost.Access
import ScriptHost.Json.Parser
import ScriptHost.Json.Record
import ScriptHost.FileTree

/-!
Module descriptions. A description file is a JSON record with one described object: a named game
module with its source files, its imports and exports, and the access it wants beyond the default.
`Description.parse` checks the file in a fixed order, and the first check that fails is the error.
-/

namespace ScriptHost

/-- A valid description of a game module. -/
structure Description where
  path : Path
  name : String
  version : String
  extraAccess : AccessMask
  imports : List String
  exports : List String
  sourceFiles : List String
  deriving DecidableEq, Repr

/-- Why a file describes no game module. -/
inductive DescriptionError
  | read (cause : IoError)
  | parse
  | objectCount (count : Nat)
  | emptyName
  | missingProperties (name : String)
  | missingSourceFiles (name : String)
  | access (name : String) (cause : AccessMask.ParseError)
  deriving DecidableEq, Repr

/-- The wording of a description error; a malformed file is not told apart any further. -/
def DescriptionError.message : DescriptionError → String
  | .read cause => s!"cannot read description: {cause.message}"
  | .parse => "malformed description"
  | .objectCount count => s!"expected exactly one described object, found {count}"
  | .emptyName => "described object has an empty name"
  | .missingProperties name => s!"'{name}' has no properties"
  | .missingSourceFiles name => s!"'{name}' lists no source files"
  | .access name cause => s!"'{name}' has invalid ExtraAccess: {cause.message}"

namespace Description

/-- The properties of a described object, as written. -/
structure Properties where
  extraAccess : Option String
  imports : List String
  exports : List String
  version : Option String

/-- A described object, as written. -/
structure Object where
  name : String
  properties : Option Properties
  sourceFiles : Option (List String)

/-- A description file, as written. -/
structure File where
  version : Option String
  objects : List Object

/-- Reads the properties of a described object. -/
def Properties.ofJson? (json : Json) : Option Properties := do
  match ← json.fields? ["ExtraAccess", "Imports", "Exports", "Version"] with
  | [access, imports, exports, version] =>
    let access ← Json.withDefault none (Json.nullable? Json.string?) access
    let imports ← Json.withDefault [] (Json.list? Json.string?) imports
    let exports ← Json.withDefault [] (Json.list? Json.string?) exports
    let version ← Json.withDefault none (Json.nullable? Json.string?) version
    return ⟨access, imports, exports, version⟩
  | _ => none

/-- Reads a described object. -/
def Object.ofJson? (json : Json) : Option Object := do
  match ← json.fields? ["name", "properties", "sourcefiles"] with
  | [name, properties, sources] =>
    let name ← Json.withDefault "" Json.string? name
    let properties ← Json.withDefault none (Json.nullable? Properties.ofJson?) properties
    let sources ← Json.withDefault none (Json.nullable? (Json.list? Json.string?)) sources
    return ⟨name, properties, sources⟩
  | _ => none

/-- Reads a description file. -/
def File.ofJson? (json : Json) : Option File := do
  match ← json.fields? ["version", "objects"] with
  | [version, objects] =>
    let version ← Json.withDefault none (Json.nullable? Json.string?) version
    let objects ← Json.withDefault [] (Json.list? Object.ofJson?) objects
    return ⟨version, objects⟩
  | _ => none

/-- The access that an `ExtraAccess` property asks for; a blank one asks for nothing. -/
def readAccess (name : String) (text : Option String) : Except DescriptionError AccessMask :=
  match text.map Text.trimString with
  | none => .ok .nothing
  | some "" => .ok .nothing
  | some text =>
    match AccessMask.parse text with
    | .ok mask => .ok mask
    | .error cause => .error (.access name cause)

/-- Checks a described object and gives its description. -/
def ofObject (path : Path) (fileVersion : Option String) (object : Object) :
    Except DescriptionError Description :=
  let name := Text.trimString object.name
  if name = "" then .error .emptyName
  else
    match object.properties with
    | none => .error (.missingProperties name)
    | some properties =>
      let sources := ((object.sourceFiles.getD []).map Text.trimString).filter (· ≠ "")
      if sources.isEmpty then .error (.missingSourceFiles name)
      else
        match readAccess name properties.extraAccess with
        | .error err => .error err
        | .ok access =>
          .ok ⟨path, name, (properties.version.or fileVersion).getD "0", access,
            properties.imports, properties.exports, sources⟩

/-- Reads the description that the file `path` with this content holds. -/
def parse (path : Path) (contents : String) : Except DescriptionError Description :=
  match (Json.parse contents.toList).bind File.ofJson? with
  | none => .error .parse
  | some file =>
    match file.objects with
    | [object] => ofObject path file.version object
    | objects => .error (.objectCount objects.length)

/-- Reads a description file. -/
def load (tree : FileTree) (path : Path) : Except DescriptionError Description :=
  match tree.readText path with
  | .error cause => .error (.read cause)
  | .ok contents => parse path contents

/-- The directory that relative names of the description are looked up in first. -/
def baseDirectory? (description : Description) : Option Path :=
  description.path.parent?

end Description

end ScriptHost
