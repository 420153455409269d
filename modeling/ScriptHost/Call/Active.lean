import ScriptHost.Table
import ScriptHost.Text.Duration

/-!
Calls that are running. Each has a frame with its deadline and its abort switch; the frames are kept
innermost first. A progress check walks the frames from the inside out and stops at the first one
that has tripped. A frame trips once: whatever it tripped for stays the reason.
-/

namespace ScriptHost

/-- Why a call is stopped. -/
inductive AbortReason
  /-- The time of the call, in milliseconds, is over. -/
  | timeout (limit : Nat)
  | requested
  deriving DecidableEq, Repr

/-- The wording of an abort reason. -/
def AbortReason.text : AbortReason → String
  | .timeout limit => s!"timed out after {Text.duration limit}"
  | .requested => "aborted by host"

/-- A deadline, and the time limit in milliseconds that it came from. -/
structure Deadline where
  time : Nat
  limit : Nat
  deriving DecidableEq, Repr

/-- The frame of a running call. -/
structure ActiveCall where
  deadline : Option Deadline
  /-- The name of the abort switch that stops the call. -/
  switch : Option String
  tripped : Option AbortReason
  deriving DecidableEq, Repr

/-- The abort switches, by name. -/
abbrev Switches := Table String Bool

/-- Whether a switch is set. -/
def Switches.isSet (switches : Switches) (name : String) : Bool :=
  (switches.get? name).getD false

/-- The number of clock ticks in a millisecond. -/
def ticksPerMilli : Nat := 1000

/-- Deadlines are looked at in every progress check whose number is a multiple of this one. -/
def deadlineInterval : Nat := 128

namespace ActiveCall

/-- The frame of a call that begins at `now`. -/
def start (now : Nat) (limit : Option Nat) (switch : Option String) : ActiveCall :=
  ⟨limit.map fun limit => ⟨now + limit * ticksPerMilli, limit⟩, switch, none⟩

/-- Whether the abort switch of the call is set. -/
def isAborted (call : ActiveCall) (switches : Switches) : Bool :=
  match call.switch with
  | some name => switches.isSet name
  | none => false

/-- The reason to stop that the deadline of the call gives at `now`. -/
def expired (call : ActiveCall) (now : Nat) : Option AbortReason :=
  match call.deadline with
  | some deadline => if deadline.time ≤ now then some (.timeout deadline.limit) else none
  | none => none

/-- Looks at one frame: a frame that has not tripped trips if its switch is set, or if deadlines
count in this check and its own has passed. -/
def check (call : ActiveCall) (switches : Switches) (now operations : Nat) : ActiveCall :=
  match call.tripped with
  | some _ => call
  | none =>
    if call.isAborted switches then { call with tripped := some .requested }
    else if operations % deadlineInterval = 0 then { call with tripped := call.expired now }
    else call

end ActiveCall

/-- Checks the frames from the inside out up to the first tripped one, whose reason it gives. -/
def checkProgress (switches : Switches) (now operations : Nat) :
    List ActiveCall → List ActiveCall × Option AbortReason
  | [] => ([], none)
  | call :: outer =>
    let call := call.check switches now operations
    match call.tripped with
    | some reason => (call :: outer, some reason)
    | none =>
      let (outer, reason) := checkProgress switches now operations outer
      (call :: outer, reason)

end ScriptHost
