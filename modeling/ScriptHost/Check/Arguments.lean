import ScriptHost.Path

/-!
The arguments of the command that checks game modules. Options may stand anywhere before `--`; their
values are attached or stand in the next argument, which must not look like an option itself. Only the
option for roots may be repeated.
-/

namespace ScriptHost.Check

/-- What the command is asked to do. -/
structure Arguments where
  config : Option Path
  roots : List Path
  /-- The name of the event to fire once all modules are loaded. -/
  event : Option String
  watch : Bool
  /-- The modules to load, by name or path; without any, all that are found. -/
  modules : List String
  deriving DecidableEq, Repr

/-- Why arguments ask for no check. -/
inductive NoCheck
  | help | version
  /-- The arguments are not understood. -/
  | refused
  deriving DecidableEq, Repr

/-- The options that take a value. -/
inductive ValueOption
  | config | root | event
  deriving DecidableEq, Repr

/-- How far the arguments have been read. -/
structure Reading where
  arguments : Arguments
  /-- The option whose value is the next argument. -/
  awaiting : Option ValueOption
  /-- Whether all further arguments are modules. -/
  onlyModules : Bool
  deriving DecidableEq, Repr

namespace Reading

/-- Nothing has been read. -/
def start : Reading := ⟨⟨none, [], none, false, []⟩, none, false⟩

/-- Takes the value of an option. Paths must not be empty. -/
def takeValue (reading : Reading) (option : ValueOption) (value : String) :
    Except NoCheck Reading :=
  let arguments := reading.arguments
  let reading := { reading with awaiting := none }
  match option with
  | .config =>
    if arguments.config.isSome || value.isEmpty then .error .refused
    else .ok { reading with arguments := { arguments with config := some ⟨value⟩ } }
  | .root =>
    if value.isEmpty then .error .refused
    else .ok { reading with arguments := { arguments with roots := arguments.roots ++ [⟨value⟩] } }
  | .event =>
    if arguments.event.isSome then .error .refused
    else .ok { reading with arguments := { arguments with event := some value } }

/-- Takes an option with the value attached to it, or waits for its value. -/
def takeOption (reading : Reading) (option : ValueOption) (attached : Option String) :
    Except NoCheck Reading :=
  match attached with
  | some value => reading.takeValue option value
  | none => .ok { reading with awaiting := some option }

/-- Takes the option to watch. -/
def takeWatch (reading : Reading) : Except NoCheck Reading :=
  if reading.arguments.watch then .error .refused
  else .ok { reading with arguments := { reading.arguments with watch := true } }

/-- Takes an option that is given by its long name. -/
def takeLong (reading : Reading) (name : String) (attached : Option String) :
    Except NoCheck Reading :=
  match name, attached with
  | "config", attached => reading.takeOption .config attached
  | "root", attached => reading.takeOption .root attached
  | "fire", attached => reading.takeOption .event attached
  | "watch", none => reading.takeWatch
  | "help", none => .error .help
  | "version", none => .error .version
  | _, _ => .error .refused

/-- The value that is attached to a short option. -/
def attachedTo : List Char → Option String
  | [] => none
  | '=' :: value => some (String.ofList value)
  | value => some (String.ofList value)

/-- Takes options that are given by their letters. -/
def takeShort (reading : Reading) : List Char → Except NoCheck Reading
  | [] => .ok reading
  | 'c' :: rest => reading.takeOption .config (attachedTo rest)
  | 'r' :: rest => reading.takeOption .root (attachedTo rest)
  | 'f' :: rest => reading.takeOption .event (attachedTo rest)
  | 'w' :: rest =>
    match reading.takeWatch with
    | .ok reading => takeShort reading rest
    | .error err => .error err
  | 'h' :: _ => .error .help
  | 'V' :: _ => .error .version
  | _ => .error .refused

/-- Takes a module. -/
def takeModule (reading : Reading) (name : String) : Reading :=
  { reading with arguments :=
      { reading.arguments with modules := reading.arguments.modules ++ [name] } }

/-- The name of a long option and the value behind its first equals sign. -/
def splitLong (text : List Char) : String × Option String :=
  let name := text.takeWhile (· ≠ '=')
  match text.drop name.length with
  | [] => (String.ofList name, none)
  | _ :: value => (String.ofList name, some (String.ofList value))

/-- Takes one argument. -/
def take (reading : Reading) (argument : String) : Except NoCheck Reading :=
  match reading.onlyModules, reading.awaiting, argument.toList with
  | true, _, _ => .ok (reading.takeModule argument)
  | false, some _, '-' :: _ :: _ => .error .refused
  | false, some option, _ => reading.takeValue option argument
  | false, none, ['-', '-'] => .ok { reading with onlyModules := true }
  | false, none, '-' :: '-' :: text =>
    let (name, attached) := splitLong text
    reading.takeLong name attached
  | false, none, '-' :: letter :: letters => reading.takeShort (letter :: letters)
  | false, none, _ => .ok (reading.takeModule argument)

end Reading

/-- Reads the arguments of the command. -/
def Arguments.parse (arguments : List String) : Except NoCheck Arguments :=
  match arguments.foldlM Reading.take .start with
  | .error err => .error err
  | .ok reading =>
    if reading.awaiting.isSome then .error .refused else .ok reading.arguments

end ScriptHost.Check
