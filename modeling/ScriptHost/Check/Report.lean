import ScriptHost.Check.Arguments
import ScriptHost.World.Load

/-!
Checking game modules: they are loaded one after another, and what is known of each is told, with the
listeners of its script. Then an event may be fired at those that have been loaded. A check that
something fails in ends with the exit code 2.
-/

namespace ScriptHost.Check

/-- The state of a check. Lines of output are kept latest first. -/
structure Progress where
  world : World
  /-- The addresses of the modules that have been loaded, one handle each. -/
  loaded : List Nat
  failures : Nat
  output : List String

/-- A part of a check. -/
abbrev CheckAct := StateM Progress

/-- What a check comes to. -/
structure Outcome where
  exitCode : Nat
  output : List String
  /-- What is complained about on the error stream. -/
  complaint : Option String

/-- Runs an operation on the world. -/
def act {α : Type} (operation : Act α) : CheckAct α := do
  let progress ← get
  let (result, world) := operation.run progress.world
  set { progress with world := world }
  return result

/-- Tells a line. -/
def say (line : String) : CheckAct Unit :=
  modify fun progress => { progress with output := line :: progress.output }

/-- Tells a line about a failure. -/
def fail (line : String) : CheckAct Unit := do
  modify fun progress => { progress with failures := progress.failures + 1 }
  say line

/-- The line about a listener. -/
def listenerLine (entry : ListenerEntry) : String :=
  match entry.genericType with
  | some eventType => s!"  {entry.function.name} -> {entry.kind.name}({eventType})"
  | none => s!"  {entry.function.name} -> {entry.kind.name}"

/-- Tells what is known of a game module. -/
def describe (game : GameModule) : CheckAct Unit := do
  say s!"OK {game.text}"
  if !game.description.imports.isEmpty then
    let imports := String.intercalate ", " game.description.imports
    say s!"  imports: {imports}"
  match game.script with
  | none => return ()
  | some script => (← act (Act.listeners script)).forM fun entry => say (listenerLine entry)

/-- Loads a game module and tells what comes of it. -/
def loadOne (name : String) : CheckAct Unit := do
  match ← act (Act.load name "module_check") with
  | .error err => fail s!"FAIL {name}: {err.message}"
  | .ok address =>
    match (← get).world.game? address with
    | some game => describe game
    | none => pure ()
    modify fun progress => { progress with loaded := progress.loaded ++ [address] }

/-- The event of a name: a well-known one, or a generic one of that type. -/
def eventNamed (name : String) : Event :=
  match EventType.ofName? name with
  | some event => .plain event
  | none => ⟨.generic name, []⟩

/-- Fires an event at a game module and tells what comes of it. -/
def fireOne (event : Event) (address : Nat) : CheckAct Unit := do
  let name := (((← get).world.game? address).map GameModule.name).getD ""
  let (outcome, owned) ← act (Act.fire address event)
  act (Act.dropAll owned)
  match outcome with
  | .ok .handled => say s!"{name} handled {event.text}"
  | .ok _ => say s!"{name} ignored {event.text}"
  | .error err => fail s!"{name} failed {event.text}: {err.message}"

/-- Fires an event at all modules that have been loaded. -/
def fireAll (name : Option String) : CheckAct Unit := do
  match name with
  | none => return ()
  | some name => (← get).loaded.forM (fireOne (eventNamed name))

/-- The names to load: those that are asked for, or all that are known. -/
def namesToLoad (arguments : Arguments) : CheckAct (List String) := do
  if arguments.modules.isEmpty then
    return ((← get).world.loader.map fun loader => loader.known.keys).getD []
  else return arguments.modules

/-- Tells how much has been done. -/
def summarize (asked : Nat) : CheckAct Unit := do
  let progress ← get
  let stats := progress.world.executor.stats
  say (s!"Loaded {progress.loaded.length} of {asked} module(s), {stats.builds} build(s), " ++
    s!"{stats.invocations} invocation(s)")

/-- Looks for game modules, loads them and fires the event; gives the number of modules asked for. -/
def loadAll (arguments : Arguments) : CheckAct Nat := do
  let found ← act Act.scan
  say s!"Found {found} game module(s)"
  let names ← namesToLoad arguments
  names.forM loadOne
  fireAll arguments.event
  return names.length

/-- The configuration of a check. -/
def configFor (files : FileTree) (arguments : Arguments) : Except ConfigError Config :=
  let loaded := match arguments.config with
    | some path => Config.load files path
    | none => .ok .standard
  loaded.map fun config => { config with
    scriptRoots := config.scriptRoots ++ arguments.roots
    hotReload := arguments.watch }

/-- The state in which a check begins. -/
def begin (files : FileTree) (config : Config) : Progress :=
  let world := World.create files (Executor.standard.withConfig config)
  let (_, world) := (Act.makeLoader config.search config.moduleExtension).run world
  ⟨world, [], 0, []⟩

/-- The outcome of a check that has come to its end. -/
def Progress.outcome (progress : Progress) : Outcome where
  exitCode := if progress.failures = 0 then 0 else 2
  output := progress.output.reverse
  complaint := none

/-- Checks game modules once. -/
def check (files : FileTree) (arguments : Arguments) : Outcome :=
  match configFor files arguments with
  | .error err => ⟨1, [], some s!"module_check error: {err.message}"⟩
  | .ok config =>
    let (_, progress) := (do summarize (← loadAll arguments) : CheckAct Unit).run (begin files config)
    progress.outcome

/-- How the command is used. -/
def usage : List String :=
  ["Load game modules and report their script listeners", "",
    "Usage: module_check [OPTIONS] [MODULES]...", "",
    "Arguments:",
    "  [MODULES]...  Modules to load. Every scanned module when empty", "",
    "Options:",
    "  -c, --config <CONFIG>  Scripting config file (JSON)",
    "  -r, --root <ROOTS>     Extra directory to scan for module descriptions",
    "  -f, --fire <FIRE>      Event to fire after loading: a well-known event name or any " ++
      "generic event type",
    "  -w, --watch            Keep running and apply hot reloads",
    "  -h, --help             Print help",
    "  -V, --version          Print version"]

/-- What the command comes to when it does not check anything. -/
def NoCheck.outcome : NoCheck → Outcome
  | .help => ⟨0, usage, none⟩
  | .version => ⟨0, ["kestrel_script 0.7.0"], none⟩
  | .refused => ⟨2, [], some "error: invalid arguments"⟩

/-- What the command comes to. -/
def run (files : FileTree) (arguments : List String) : Outcome :=
  match Arguments.parse arguments with
  | .error err => err.outcome
  | .ok arguments => check files arguments

end ScriptHost.Check
