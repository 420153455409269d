import ScriptHost.Json.Parser
import ScriptHost.Json.Record
import ScriptHost.SourceSearch

/-!
The configuration of the scripting layer, read from a JSON file whose fields all have defaults.
-/

namespace ScriptHost

/-- The settings of an executor and a loader. Times are in milliseconds. -/
structure Config where
  scriptRoots : List Path
  moduleExtension : String
  sourceExtension : String
  hotReload : Bool
  watchPollMillis : Nat
  callTimeoutMillis : Option Nat
  maxCallLevels : Nat
  logFilter : String
  deriving DecidableEq, Repr

/-- Why a configuration file cannot be used. -/
inductive ConfigError
  | read (path : Path)
  | parse (path : Path)
  deriving DecidableEq, Repr

/-- The wording of a configuration error. -/
def ConfigError.message : ConfigError → String
  | .read path => s!"Failed to read config file {path}"
  | .parse path => s!"Failed to parse config file {path}"

namespace Config

/-- The configuration in which every field has its default. -/
def standard : Config where
  scriptRoots := [⟨"assets/scripts"⟩]
  moduleExtension := "kgm"
  sourceExtension := "rhai"
  hotReload := true
  watchPollMillis := 300
  callTimeoutMillis := none
  maxCallLevels := 64
  logFilter := "info"

instance : Inhabited Config := ⟨standard⟩

/-- The names of the fields, in their order. -/
def fieldNames : List String :=
  ["script_roots", "module_extension", "source_extension", "hot_reload", "watch_poll_ms",
    "call_timeout_ms", "max_call_levels", "log_filter"]

/-- Reads a configuration from a JSON value. -/
def ofJson? (json : Json) : Option Config := do
  match ← json.fields? fieldNames with
  | [roots, moduleExtension, sourceExtension, hotReload, watchPoll, callTimeout, levels, filter] =>
    let roots ← Json.withDefault standard.scriptRoots
      (Json.list? fun item => item.string?.map Path.mk) roots
    let moduleExtension ← Json.withDefault standard.moduleExtension Json.string? moduleExtension
    let sourceExtension ← Json.withDefault standard.sourceExtension Json.string? sourceExtension
    let hotReload ← Json.withDefault standard.hotReload Json.bool? hotReload
    let watchPoll ← Json.withDefault standard.watchPollMillis Json.word64? watchPoll
    let callTimeout ← Json.withDefault none (Json.nullable? Json.word64?) callTimeout
    let levels ← Json.withDefault standard.maxCallLevels Json.word64? levels
    let filter ← Json.withDefault standard.logFilter Json.string? filter
    return ⟨roots, moduleExtension, sourceExtension, hotReload, watchPoll, callTimeout, levels,
      filter⟩
  | _ => none

/-- Reads a configuration file. -/
def load (tree : FileTree) (path : Path) : Except ConfigError Config :=
  match tree.read path with
  | .error _ => .error (.read path)
  | .ok (.binary _) => .error (.parse path)
  | .ok (.text content) =>
    match (Json.parse content.toList).bind ofJson? with
    | some config => .ok config
    | none => .error (.parse path)

/-- The time between two looks at the watched files; never less than a millisecond. -/
def watchPollInterval (config : Config) : Nat :=
  max config.watchPollMillis 1

/-- Where this configuration says sources are. -/
def search (config : Config) : SourceSearch :=
  ⟨config.scriptRoots, config.sourceExtension⟩

end Config

end ScriptHost
