import ScriptHost.Native.Value

/-!
The table of types that scripts know. Its first six entries are the primitive types, each of which
stands for one or more native types; object types are entered behind them. An entry's number is its
place in the table.
-/

namespace ScriptHost

/-- The primitive types of scripts. -/
inductive Primitive
  | void | int | float | bool | char | string
  deriving DecidableEq, Repr

/-- What a script type is. -/
inductive ScriptTypeKind
  | primitive (type : Primitive)
  | object (type : ObjectType) (supportsWeak : Bool)
  deriving DecidableEq, Repr

/-- An entry of the type table. -/
structure TypeEntry where
  id : Nat
  name : String
  kind : ScriptTypeKind
  deriving DecidableEq, Repr

/-- Whether objects of the type can be held weakly. -/
def TypeEntry.supportsWeak (entry : TypeEntry) : Bool :=
  match entry.kind with
  | .primitive _ => false
  | .object _ supportsWeak => supportsWeak

/-- The types of the host that a lookup may ask for. -/
inductive NativeType
  | void | bool | float32 | float64 | char | string | sharedString
  | int (type : IntType)
  | handle (type : ObjectType)
  /-- A type that no script type stands for. -/
  | other (name : String)
  deriving DecidableEq, Repr

/-- The script type that stands for a native type, but for handles. -/
def NativeType.primitive? : NativeType → Option Primitive
  | .void => some .void
  | .bool => some .bool
  | .float32 => some .float
  | .float64 => some .float
  | .char => some .char
  | .string => some .string
  | .sharedString => some .string
  | .int _ => some .int
  | .handle _ => none
  | .other _ => none

/-- The types that scripts know. -/
structure TypeTable where
  entries : List TypeEntry
  deriving DecidableEq, Repr

namespace TypeTable

/-- The table with the primitive types alone. -/
def primitives : TypeTable :=
  ⟨[⟨0, "void", .primitive .void⟩, ⟨1, "int", .primitive .int⟩, ⟨2, "float", .primitive .float⟩,
    ⟨3, "bool", .primitive .bool⟩, ⟨4, "char", .primitive .char⟩,
    ⟨5, "string", .primitive .string⟩]⟩

/-- The number of types. -/
def size (table : TypeTable) : Nat :=
  table.entries.length

/-- The entry of an object type. -/
def lookupObject? (table : TypeTable) (type : ObjectType) : Option TypeEntry :=
  table.entries.find? fun entry =>
    match entry.kind with
    | .object registered _ => registered == type
    | .primitive _ => false

/-- The entry that stands for a native type. -/
def lookup? (table : TypeTable) (native : NativeType) : Option TypeEntry :=
  match native with
  | .handle type => table.lookupObject? type
  | native =>
    native.primitive?.bind fun primitive =>
      table.entries.find? fun entry => entry.kind == .primitive primitive

/-- The entry that a name stands for: the last one of that name. -/
def resolve? (table : TypeTable) (name : String) : Option TypeEntry :=
  table.entries.reverse.find? fun entry => entry.name == name

/-- The entry with a number. -/
def info? (table : TypeTable) (id : Nat) : Option TypeEntry :=
  table.entries[id]?

/-- Enters an object type under a name and gives its number; a type that is there already keeps its
number and its name. -/
def register (table : TypeTable) (type : ObjectType) (name : String) (supportsWeak : Bool) :
    TypeTable × Nat :=
  match table.lookupObject? type with
  | some entry => (table, entry.id)
  | none =>
    (⟨table.entries ++ [⟨table.size, name, .object type supportsWeak⟩]⟩, table.size)

/-- The name of an object type in scripts: the name it is entered under, or the native name of its
handles. -/
def objectName (table : TypeTable) (type : ObjectType) : String :=
  ((table.lookupObject? type).map TypeEntry.name).getD type.handlePath

/-- The name of the type of a value in scripts. -/
def nameOf (table : TypeTable) : ScriptValue → String
  | .object ref => table.objectName ref.type
  | value => value.typeName

/-- Whether objects of a type can be held weakly. -/
def supportsWeak (table : TypeTable) (type : ObjectType) : Bool :=
  ((table.lookupObject? type).map TypeEntry.supportsWeak).getD false

end TypeTable

end ScriptHost
