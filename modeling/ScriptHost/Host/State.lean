import ScriptHost.Call.Active
import ScriptHost.Script.Shown

/-!
What scripts can change about their host: the values of objects, the abort switches, and what they
emit or report. The clock and the frames of running calls are here too, since running a script moves
them on.
-/

namespace ScriptHost

/-- How grave a report is. -/
inductive LogLevel
  | warn | error
  deriving DecidableEq, Repr

/-- A reported message. -/
structure LogLine where
  level : LogLevel
  message : String
  deriving DecidableEq, Repr

/-- A report as a line of text. -/
def LogLine.text (line : LogLine) : String :=
  match line.level with
  | .warn => s!"WARN {line.message}"
  | .error => s!"ERROR {line.message}"

/-- What a script emits. -/
inductive Emission
  | record (value : ShownValue)
  | print (text : String)
  | debug (text : String)
  | log (text : String)

/-- The part of the host that scripts can change. Emissions and reports are kept latest first. -/
structure Host where
  /-- The `value` property of objects, by their address. -/
  values : Table Nat Int64
  switches : Switches
  now : Nat
  calls : List ActiveCall
  emitted : List Emission
  log : List LogLine

namespace Host

/-- The host before anything has run. -/
def initial : Host := ⟨[], [("main", false)], 0, [], [], []⟩

instance : Inhabited Host := ⟨initial⟩

/-- The `value` property of an object. -/
def valueOf (host : Host) (address : Nat) : Int64 :=
  (host.values.get? address).getD 0

/-- Sets the `value` property of an object. -/
def setValue (host : Host) (address : Nat) (value : Int64) : Host :=
  { host with values := host.values.set address value }

/-- Sets or resets an abort switch. -/
def setSwitch (host : Host) (name : String) (state : Bool) : Host :=
  { host with switches := host.switches.set name state }

/-- Emits something. -/
def emit (host : Host) (emission : Emission) : Host :=
  { host with emitted := emission :: host.emitted }

/-- Reports a message. -/
def report (host : Host) (level : LogLevel) (message : String) : Host :=
  { host with log := ⟨level, message⟩ :: host.log }

/-- Reports a warning. -/
def warn (host : Host) (message : String) : Host := host.report .warn message

/-- Reports an error. -/
def error (host : Host) (message : String) : Host := host.report .error message

/-- Enters a call with a time limit in milliseconds and an abort switch. -/
def enterCall (host : Host) (limit : Option Nat) (switch : Option String) : Host :=
  { host with calls := .start host.now limit switch :: host.calls }

/-- Leaves the calls within the outermost `depth` ones. -/
def leaveCall (host : Host) (depth : Nat) : Host :=
  { host with calls := host.calls.drop (host.calls.length - depth) }

/-- The reason for which the call with `depth` calls around it has tripped. -/
def trippedAt (host : Host) (depth : Nat) : Option AbortReason :=
  (host.calls.reverse[depth]?).bind ActiveCall.tripped

/-- The progress check after a number of operations; it takes one tick of the clock. -/
def check (host : Host) (operations : Nat) : Host × Option AbortReason :=
  let (calls, reason) := checkProgress host.switches host.now operations host.calls
  ({ host with calls := calls, now := host.now + 1 }, reason)

end Host

end ScriptHost
