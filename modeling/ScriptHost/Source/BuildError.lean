import ScriptHost.Access
import ScriptHost.FileTree

/-! The reasons why a module does not build, and their wording. -/

namespace ScriptHost

/-- Why a module does not build. -/
inductive BuildError
  /-- There is no source. -/
  | empty
  /-- A source file cannot be read. -/
  | read (path : Path) (cause : IoError)
  /-- An include directive names no file. -/
  | unresolvedInclude (file : String) (line : Nat) (target : String)
  /-- A function is called that the module has no access to. -/
  | access (file : String) (line : Nat) (function : String) (required : AccessMask)
  /-- The script does not parse. -/
  | compile (file : String) (line : Nat) (message sourceLine : String)

/-- The wording of a build error. -/
def BuildError.message : BuildError → String
  | .empty => "module has no source segments"
  | .read path cause => s!"failed to read '{path}': {cause.message}"
  | .unresolvedInclude file line target => s!"{file}:{line}: cannot resolve include \"{target}\""
  | .access file line function required =>
    s!"{file}:{line}: '{function}' requires {required} access"
  | .compile file line message _ => s!"{file}:{line}: {message}"

end ScriptHost
