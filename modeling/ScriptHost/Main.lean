import ScriptHost.Check.Report
import ScriptHost.World.Changes

/-!
The command that checks game modules. It takes in the files below the working directory, hands them to
the check, and prints what comes of it. With the option to watch it goes on until it is interrupted,
and reloads modules whose files have changed.
-/

namespace ScriptHost.Check

/-- A directory with everything below it. -/
partial def takeDirectory (directory : IO.FS.DirEntry) : IO FileNode := do
  let mut entries := #[]
  for entry in ← directory.path.readDir do
    if ← entry.path.isDir then
      entries := entries.push (entry.fileName, ← takeDirectory entry)
    else
      let bytes ← IO.FS.readBinFile entry.path
      entries := entries.push (entry.fileName, FileNode.file (.ofBytes bytes.toList))
  return .directory entries.toList

/-- The files below the working directory. -/
def takeFiles : IO FileTree := do
  let here ← IO.currentDir
  let way := (here.toString.splitOn "/").filter (· ≠ "")
  let node ← takeDirectory ⟨here, ""⟩
  return ⟨FileNode.insert (.directory []) way node, way⟩

/-- Prints an outcome. -/
def conclude (outcome : Outcome) : IO UInt32 := do
  outcome.output.forM fun line => IO.println line
  match outcome.complaint with
  | some complaint => IO.eprintln complaint
  | none => pure ()
  return UInt32.ofNat outcome.exitCode

/-- The world with the files of another tree, and the modules reloaded that read a changed one. -/
def refresh (progress : Progress) (files : FileTree) : Nat × Progress :=
  let world := { progress.world with files := files }
  let watched := (world.executor.watcher.map Watcher.watchedFiles).getD []
  let (reloaded, world) := (Act.handleChanges watched).run world
  (reloaded, { progress with world := world })

/-- Looks for changes again and again. -/
partial def watch (progress : Progress) (interval : UInt32) : IO Unit := do
  let (reloaded, progress) := refresh progress (← takeFiles)
  if 0 < reloaded then IO.println s!"Reloaded {reloaded} module(s)"
  IO.sleep interval
  watch progress interval

/-- Loads the modules and watches their files. -/
def startWatching (files : FileTree) (arguments : Arguments) : IO UInt32 := do
  match configFor files arguments with
  | .error _ => conclude (check files arguments)
  | .ok config =>
    let (_, progress) := (loadAll arguments).run (begin files config)
    progress.output.reverse.forM fun line => IO.println line
    IO.println "Watching for changes (Ctrl+C to stop)"
    watch progress (UInt32.ofNat (max config.watchPollInterval 50))
    return 0

end ScriptHost.Check

/-- Runs the command. -/
def main (args : List String) : IO UInt32 := do
  let files ← ScriptHost.Check.takeFiles
  match ScriptHost.Check.Arguments.parse args with
  | .error reason => ScriptHost.Check.conclude reason.outcome
  | .ok arguments =>
    if arguments.watch then ScriptHost.Check.startWatching files arguments
    else ScriptHost.Check.conclude (ScriptHost.Check.check files arguments)
