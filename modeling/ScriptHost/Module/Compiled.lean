import ScriptHost.Access
import ScriptHost.Script.Syntax
import ScriptHost.Source.LineMap
import ScriptHost.Text.Quoted

/-!
The result of a build, and references to its functions. A reference keeps the compiled module it was
taken from, whatever becomes of the script module that was built.
-/

namespace ScriptHost

/-- A compiled script. -/
structure Compiled where
  /-- The number of the build, by which one compiled script is told from another. -/
  serial : Nat
  internalName : String
  program : Script.Program
  lines : LineMap
  /-- The access the script was built with. -/
  access : AccessMask

/-- A function of a compiled script. -/
structure FunctionRef where
  compiled : Compiled
  name : String
  arity : Nat

/-- The dump of a function reference. -/
def FunctionRef.text (function : FunctionRef) : String :=
  s!"{function.compiled.internalName}::{function.name}/{function.arity}"

namespace Compiled

/-- The functions of the script. -/
def functions (compiled : Compiled) : List Script.Function :=
  compiled.program.functions

/-- Whether the script has functions of that name. -/
def hasFunction (compiled : Compiled) (name : String) : Bool :=
  compiled.program.hasFunction name

/-- The numbers of parameters that the functions of a name take. -/
def arities (compiled : Compiled) (name : String) : List Nat :=
  (compiled.functions.filter (·.name == name)).map (·.arity)

/-- The number of parameters to call with `count` arguments: the greatest one that is not above
`count`, or else the least one. -/
def bestArity (count : Nat) (arities : List Nat) : Option Nat :=
  ((arities.filter (· ≤ count)).max?).or arities.min?

/-- The function of a name to call with a number of arguments. -/
def resolve? (compiled : Compiled) (name : String) (count : Nat) : Option FunctionRef :=
  (bestArity count (compiled.arities name)).map fun arity => ⟨compiled, name, arity⟩

/-- The dump of a compiled script. -/
def text (compiled : Compiled) : String :=
  s!"CompiledModule \x7b internal_name: {Text.quoted compiled.internalName}, " ++
    s!"functions: {compiled.functions.length} \x7d"

end Compiled

end ScriptHost
