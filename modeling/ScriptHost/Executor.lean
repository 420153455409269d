import ScriptHost.Config
import ScriptHost.Module.Compiled
import ScriptHost.Native.TypeTable
import ScriptHost.Watch.Watcher

/-!
The executor: the registered types and restricted functions, the script modules by their numbers, the
compiled scripts by their internal names, and the access granted to each of them. A compiled script
is entered together with its grant, and both are taken out together.
-/

namespace ScriptHost

/-- The state of an executor. -/
structure Executor where
  types : TypeTable
  /-- The functions that need access, and how much. -/
  restricted : Table String AccessMask
  /-- Further native functions without parameters, and the access that each of them needs. -/
  guarded : Table String AccessMask
  search : SourceSearch
  /-- The time limit of a call in milliseconds, unless the call has its own. -/
  timeout : Option Nat
  maxCallLevels : Nat
  watcher : Option Watcher
  grants : Table String AccessMask
  compiled : Table String Compiled
  /-- The addresses of the registered modules, by their numbers. -/
  registry : Table Nat Nat
  nextId : Nat
  builds : Nat
  reloads : Nat
  invocations : Nat

namespace Executor

/-- The types that every executor knows. -/
def baseTypes : TypeTable :=
  ((TypeTable.primitives.register .gameModule "GameModule" true).1.register .event "Event" false).1

/-- An executor with the standard configuration, which does not watch files. -/
def standard : Executor where
  types := baseTypes
  restricted := [("read_text_file", .filesOnly)]
  guarded := []
  search := Config.standard.search
  timeout := Config.standard.callTimeoutMillis
  maxCallLevels := Config.standard.maxCallLevels
  watcher := none
  grants := []
  compiled := []
  registry := []
  nextId := 1
  builds := 0
  reloads := 0
  invocations := 0

instance : Inhabited Executor := ⟨standard⟩

/-- Turns the watching of files on or off. -/
def withHotReload (executor : Executor) (enabled : Bool) : Executor :=
  { executor with watcher := if enabled then some .empty else none }

/-- Applies a configuration. -/
def withConfig (executor : Executor) (config : Config) : Executor :=
  { executor with
      maxCallLevels := config.maxCallLevels
      search := config.search
      timeout := config.callTimeoutMillis }.withHotReload config.hotReload

/-- Makes a native function without parameters that needs access, and restricts its name. -/
def restrict (executor : Executor) (function : String) (required : AccessMask) : Executor :=
  { executor with
    restricted := executor.restricted.set function required
    guarded := executor.guarded.set function required }

/-- Makes the handles of a type visible to scripts under a name. -/
def registerObject (executor : Executor) (type : ObjectType) (name : String)
    (supportsWeak : Bool) : Executor :=
  { executor with types := (executor.types.register type name supportsWeak).1 }

/-- Enters a compiled script with the access it was built with. -/
def registerCompiled (executor : Executor) (compiled : Compiled) : Executor :=
  { executor with
    grants := executor.grants.set compiled.internalName compiled.access
    compiled := executor.compiled.set compiled.internalName compiled }

/-- Takes a compiled script out and revokes its access. -/
def removeCompiled (executor : Executor) (internalName : String) : Executor :=
  { executor with
    grants := executor.grants.erase internalName
    compiled := executor.compiled.erase internalName }

/-- Takes out the compiled script of a module that has one. -/
def removeCompiled? (executor : Executor) (compiled : Option Compiled) : Executor :=
  match compiled with
  | some compiled => executor.removeCompiled compiled.internalName
  | none => executor

/-- Whether a compiled script is entered under a name. -/
def isCompiled (executor : Executor) (internalName : String) : Bool :=
  executor.compiled.has internalName

/-- The access granted to the compiled script of a name; without one, nothing. -/
def granted (executor : Executor) (source : Option String) : AccessMask :=
  (source.bind executor.grants.get?).getD .nothing

/-- Ends the registration of a module's files. -/
def unwatch (executor : Executor) (id : Nat) : Executor :=
  { executor with watcher := executor.watcher.map (·.unwatch id) }

/-- Whether objects of the type of a value can be held weakly. -/
def supportsWeak (executor : Executor) : ScriptValue → Bool
  | .object ref => executor.types.supportsWeak ref.type
  | _ => false

/-- What is left of an executor that is gone. -/
def closed (executor : Executor) : Executor :=
  { executor with watcher := none, grants := [], compiled := [], registry := [] }

end Executor

end ScriptHost
