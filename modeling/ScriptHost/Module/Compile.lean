import ScriptHost.Executor
import ScriptHost.Module.Basic
import ScriptHost.Script.Parser
import ScriptHost.Source.CallScan

/-!
Compiling a module: its sources are prepared, the calls in them are checked against the access of the
module, and the combined text is parsed. Only the last step counts as a build.
-/

namespace ScriptHost

/-- The build error for a text that does not parse: its place in the sources, or under the internal
name if it is behind all of them. -/
def BuildError.ofParseError (lines : LineMap) (internalName : String) (err : Script.ParseError) :
    BuildError :=
  let combinedLine := err.position.line
  let (file, line) := (lines.locate combinedLine).getD (internalName, combinedLine)
  let sourceLine := ((lines.sourceLine combinedLine).map Text.trimString).getD ""
  .compile file line err.message sourceLine

/-- The report of a build that failed. -/
def BuildError.report (err : BuildError) : String :=
  match err with
  | .compile _ _ _ sourceLine =>
    if sourceLine.isEmpty then s!"build failed: {err.message}"
    else s!"build failed: {err.message}\n    > {sourceLine}"
  | _ => s!"build failed: {err.message}"

namespace ScriptModule

/-- The files that a compile reads: those of the module's own segments and the included ones. -/
def filesRead (module : ScriptModule) (tree : FileTree) (prepared : Prepared) : List Path :=
  prepared.included.foldl
    (fun files file => if files.any (·.same file) then files else files ++ [file])
    (Prepared.diskFiles tree module.segments)

/-- The sources of a module, ready to be parsed. -/
def prepare (module : ScriptModule) (executor : Executor) (tree : FileTree) :
    Except BuildError Prepared :=
  match Prepared.ofSegments executor.search tree module.segments with
  | .error err => .error err
  | .ok prepared =>
    match CallScan.checkAccess prepared module.access executor.restricted with
    | .error err => .error err
    | .ok _ => .ok prepared

/-- Parses prepared sources as the build with the number `serial`. -/
def parsePrepared (module : ScriptModule) (serial : Nat) (prepared : Prepared) :
    Except BuildError Compiled :=
  match Script.parse prepared.combined with
  | .error err => .error (.ofParseError prepared.lines module.internalName err)
  | .ok program => .ok ⟨serial, module.internalName, program, prepared.lines, module.access⟩

/-- Compiles a module. The executor counts the build if it comes to that. On success the files that
were read come with the result. -/
def compile (module : ScriptModule) (executor : Executor) (tree : FileTree) :
    Except BuildError (Compiled × List Path) × Executor :=
  match module.prepare executor tree with
  | .error err => (.error err, executor)
  | .ok prepared =>
    let executor := { executor with builds := executor.builds + 1 }
    match module.parsePrepared executor.builds prepared with
    | .error err => (.error err, executor)
    | .ok compiled => (.ok (compiled, module.filesRead tree prepared), executor)

end ScriptModule

end ScriptHost
