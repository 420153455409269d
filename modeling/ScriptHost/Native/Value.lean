import ScriptHost.Script.Value

/-!
Values of the host. They cross into scripts as arguments, and script results are read back as one of
the host's types. Integers carry their type, whose range they lie in.
-/

namespace ScriptHost

/-- The integer types of the host. -/
inductive IntType
  | i8 | i16 | i32 | i64 | u8 | u16 | u32 | u64 | usize
  deriving DecidableEq, Repr

namespace IntType

/-- The name of an integer type. -/
def name : IntType → String
  | .i8 => "i8"
  | .i16 => "i16"
  | .i32 => "i32"
  | .i64 => "i64"
  | .u8 => "u8"
  | .u16 => "u16"
  | .u32 => "u32"
  | .u64 => "u64"
  | .usize => "usize"

/-- The least value of an integer type. -/
def least : IntType → Int
  | .i8 => -128
  | .i16 => -32768
  | .i32 => -2147483648
  | .i64 => -9223372036854775808
  | _ => 0

/-- The greatest value of an integer type. -/
def greatest : IntType → Int
  | .i8 => 127
  | .i16 => 32767
  | .i32 => 2147483647
  | .i64 => 9223372036854775807
  | .u8 => 255
  | .u16 => 65535
  | .u32 => 4294967295
  | .u64 => 18446744073709551615
  | .usize => 18446744073709551615

end IntType

/-- An integer of the host. -/
structure NativeInt where
  type : IntType
  value : Int
  least_le : type.least ≤ value
  le_greatest : value ≤ type.greatest

/-- The integer `value` of a type, if it lies in its range. -/
def NativeInt.ofInt? (type : IntType) (value : Int) : Option NativeInt :=
  if least_le : type.least ≤ value then
    if le_greatest : value ≤ type.greatest then some ⟨type, value, least_le, le_greatest⟩ else none
  else none

/-- A script integer as an integer of the host. -/
def NativeInt.ofInt64 (value : Int64) : NativeInt where
  type := .i64
  value := value.toInt
  least_le := Int64.le_toInt value
  le_greatest := Int.le_sub_one_of_lt (Int64.toInt_lt value)

/-- A value of the host. -/
inductive NativeValue
  | void
  | bool (value : Bool)
  | int (value : NativeInt)
  | float32 (value : Float32)
  | float64 (value : Float)
  | char (value : Char)
  | string (value : String)
  | object (ref : ObjectRef)
  /-- A value in script form already. -/
  | script (value : ScriptValue)

namespace NativeValue

/-- The name of the type of a value. -/
def label : NativeValue → String
  | .void => "void"
  | .bool _ => "bool"
  | .int value => value.type.name
  | .float32 _ => "f32"
  | .float64 _ => "f64"
  | .char _ => "char"
  | .string _ => "string"
  | .object ref => ref.type.path
  | .script _ => "dynamic"

/-- The objects that a value holds handles of, one entry for each handle. -/
def objects : NativeValue → List ObjectRef
  | .object ref => [ref]
  | .script value => value.objects
  | _ => []

end NativeValue

/-- The host types that a script value can be read as. -/
inductive ReturnType
  | int (type : IntType)
  | float32 | float64 | bool | char | string | sharedString | unit | map
  /-- The value in script form. -/
  | script
  /-- The value in the host form that is closest to it. -/
  | native
  | object (type : ObjectType)
  deriving DecidableEq, Repr

namespace ReturnType

/-- The name of a type in conversion errors. -/
def expectedName : ReturnType → String
  | .int type => type.name
  | .float32 => "f64"
  | .float64 => "f64"
  | .bool => "bool"
  | .char => "char"
  | .string => "string"
  | .sharedString => "string"
  | .unit => "()"
  | .map => "map"
  | .script => "dynamic"
  | .native => "value"
  | .object type => type.path

/-- The full native name of a type. -/
def nativeName : ReturnType → String
  | .int type => type.name
  | .float32 => "f32"
  | .float64 => "f64"
  | .bool => "bool"
  | .char => "char"
  | .string => "alloc::string::String"
  | .sharedString => "rhai::types::immutable_string::ImmutableString"
  | .unit => "()"
  | .map =>
    "alloc::collections::btree::map::BTreeMap<smartstring::SmartString<" ++
      "smartstring::config::LazyCompact>, rhai::types::dynamic::Dynamic>"
  | .script => "rhai::types::dynamic::Dynamic"
  | .native => "kestrel_script::marshal::Value"
  | .object type => type.handlePath

end ReturnType

end ScriptHost
