import Mathlib.Data.List.Induction
import ScriptHost.Proofs.Frames

/-!
Trips of running calls, whatever happens. Calls are entered and left, switches are set and reset,
the clock goes on and progress is checked, in any order. A frame trips at a check only, for its own
switch or its own deadline, and keeps its reason as long as its call runs; every check that finds a
tripped frame anywhere asks for the end.
-/

namespace ScriptHost

/-- Something that happens to the running calls. -/
inductive Occurrence
  /-- A call begins, with a time limit in milliseconds and an abort switch. -/
  | enter (limit : Option Nat) (switch : Option String)
  /-- The innermost call ends. -/
  | leave
  | switch (name : String) (state : Bool)
  /-- The clock shows another time. -/
  | clock (time : Nat)
  /-- A progress check after a number of operations. -/
  | check (operations : Nat)

namespace Host

/-- The host after something has happened. -/
def happen (host : Host) : Occurrence → Host
  | .enter limit switch => host.enterCall limit switch
  | .leave => host.leaveCall (host.calls.length - 1)
  | .switch name state => host.setSwitch name state
  | .clock time => { host with now := time }
  | .check operations => (host.check operations).1

/-- The host after events, one after another. -/
def through (host : Host) (events : List Occurrence) : Host :=
  events.foldl happen host

/-- The frame of the call with `depth` calls around it. -/
def frameAt? (host : Host) (depth : Nat) : Option ActiveCall :=
  host.calls.reverse[depth]?

/-- Whether the call with `depth` calls around it runs while the events happen. -/
def Runs (host : Host) (depth : Nat) (events : List Occurrence) : Prop :=
  ∀ front, front <+: events → depth < (host.through front).calls.length

end Host

namespace ActiveCall

/-- What makes a frame trip at a progress check of the host: the switch of its own call is set, or
deadlines count in this check and that of its own call has passed. -/
inductive Cause (call : ActiveCall) (host : Host) (operations : Nat) : AbortReason → Prop
  | requested (name : String) (hswitch : call.switch = some name)
      (hset : host.switches.isSet name = true) : Cause call host operations .requested
  | timeout (deadline : Deadline) (hdeadline : call.deadline = some deadline)
      (hpassed : deadline.time ≤ host.now) (hcounts : operations % deadlineInterval = 0) :
      Cause call host operations (.timeout deadline.limit)

/-- What can become of a frame while events happen to the host: it stays as it is, or it trips once,
at a check that finds a cause of its own. -/
inductive Trips (host : Host) (events : List Occurrence) (call : ActiveCall) : ActiveCall → Prop
  | kept : Trips host events call call
  | tripped (front back : List Occurrence) (operations : Nat) (reason : AbortReason)
      (hevents : events = front ++ .check operations :: back) (hfresh : call.tripped = none)
      (hcause : call.Cause (host.through front) operations reason) :
      Trips host events call { call with tripped := some reason }

end ActiveCall

namespace Host

/-- Whether the frame `call`, with `depth` frames around it, has tripped for `reason` at a check
among the events, for a cause of its own, and its call has been running since. -/
def TrippedAmong (host : Host) (events : List Occurrence) (depth : Nat) (call : ActiveCall)
    (reason : AbortReason) : Prop :=
  ∃ front operations back fresh, events = front ++ .check operations :: back ∧
    (host.through front).frameAt? depth = some fresh ∧ fresh.tripped = none ∧
    fresh.Cause (host.through front) operations reason ∧
    call = { fresh with tripped := some reason } ∧
    (host.through front).Runs depth (.check operations :: back)

variable {host : Host} {events : List Occurrence} {depth : Nat}

@[simp]
theorem through_nil (host : Host) : host.through [] = host := rfl

@[simp]
theorem through_cons (host : Host) (event : Occurrence) (events : List Occurrence) :
    host.through (event :: events) = (host.happen event).through events := rfl

theorem through_append (host : Host) (first second : List Occurrence) :
    host.through (first ++ second) = (host.through first).through second :=
  List.foldl_append

theorem through_concat (host : Host) (events : List Occurrence) (event : Occurrence) :
    host.through (events ++ [event]) = (host.through events).happen event :=
  through_append host events [event]

theorem Runs.lt (hruns : host.Runs depth events) : depth < host.calls.length :=
  hruns [] List.nil_prefix

theorem runs_nil_iff : host.Runs depth [] ↔ depth < host.calls.length := by
  simp [Runs]

theorem runs_cons_iff {event : Occurrence} :
    host.Runs depth (event :: events) ↔
      depth < host.calls.length ∧ (host.happen event).Runs depth events := by
  constructor
  · intro hruns
    refine ⟨hruns.lt, fun front hfront => ?_⟩
    exact hruns (event :: front) ((List.prefix_cons_inj event).mpr hfront)
  · rintro ⟨hhere, hlater⟩ front hfront
    cases front with
    | nil => exact hhere
    | cons first rest =>
        obtain ⟨rfl, hrest⟩ := List.cons_prefix_cons.mp hfront
        exact hlater rest hrest

instance decidableRuns (host : Host) (depth : Nat) :
    (events : List Occurrence) → Decidable (host.Runs depth events)
  | [] => decidable_of_iff _ runs_nil_iff.symm
  | event :: rest =>
    have : Decidable ((host.happen event).Runs depth rest) := decidableRuns _ depth rest
    decidable_of_iff _ runs_cons_iff.symm

theorem runs_append_iff {first second : List Occurrence} :
    host.Runs depth (first ++ second) ↔
      host.Runs depth first ∧ (host.through first).Runs depth second := by
  induction first generalizing host with
  | nil =>
      simp only [List.nil_append, runs_nil_iff, through_nil]
      exact ⟨fun hruns => ⟨hruns.lt, hruns⟩, fun hruns => hruns.2⟩
  | cons event rest ih =>
      rw [List.cons_append, runs_cons_iff, runs_cons_iff, ih, through_cons, and_assoc]

theorem Runs.mono {within : Nat} (hruns : host.Runs within events) (hdepth : depth ≤ within) :
    host.Runs depth events :=
  fun front hfront => Nat.lt_of_le_of_lt hdepth (hruns front hfront)

/-! ### Frames by their depth -/

theorem exists_frameAt? (hdepth : depth < host.calls.length) :
    ∃ call, host.frameAt? depth = some call :=
  ⟨_, List.getElem?_eq_getElem (by simpa using hdepth)⟩

theorem lt_of_frameAt? {call : ActiveCall} (hframe : host.frameAt? depth = some call) :
    depth < host.calls.length := by
  simpa using (List.getElem?_eq_some_iff.mp hframe).1

theorem frameAt?_enterCall (hdepth : depth < host.calls.length) (limit : Option Nat)
    (switch : Option String) :
    (host.enterCall limit switch).frameAt? depth = host.frameAt? depth := by
  have hcalls : (host.enterCall limit switch).calls =
      .start host.now limit switch :: host.calls := rfl
  rw [frameAt?, frameAt?, hcalls, List.reverse_cons, List.getElem?_append_left (by simpa)]

theorem frameAt?_entered (host : Host) (limit : Option Nat) (switch : Option String) :
    (host.enterCall limit switch).frameAt? host.calls.length =
      some (.start host.now limit switch) := by
  have hcalls : (host.enterCall limit switch).calls =
      .start host.now limit switch :: host.calls := rfl
  rw [frameAt?, hcalls, List.reverse_cons, ← List.length_reverse, List.getElem?_concat_length]

theorem frameAt?_leave (hdepth : depth < (host.happen .leave).calls.length) :
    (host.happen .leave).frameAt? depth = host.frameAt? depth := by
  have hcalls : (host.happen .leave).calls =
      host.calls.drop (host.calls.length - (host.calls.length - 1)) := rfl
  rw [hcalls, List.length_drop] at hdepth
  rw [frameAt?, hcalls, List.reverse_drop, List.getElem?_take_of_lt (by omega)]
  rfl

end Host

/-! ### Progress checks -/

theorem ActiveCall.check_trips (call : ActiveCall) (host : Host) (operations : Nat) :
    call.Trips host [.check operations] (call.check host.switches host.now operations) := by
  have htrip {reason : AbortReason} (hfresh : call.tripped = none)
      (hcause : call.Cause host operations reason) :
      call.Trips host [.check operations] { call with tripped := some reason } :=
    .tripped [] [] operations reason rfl hfresh hcause
  cases hfresh : call.tripped with
  | some reason =>
      rw [check_of_tripped hfresh]
      exact .kept
  | none =>
      have hkept : { call with tripped := none } = call := by rw [← hfresh]
      unfold check
      rw [hfresh]
      dsimp only
      split
      · rename_i haborted
        unfold isAborted at haborted
        split at haborted
        · rename_i name hswitch
          exact htrip hfresh (.requested name hswitch haborted)
        · cases haborted
      · split
        · rename_i hcounts
          unfold expired
          split
          · rename_i deadline hdeadline
            split
            · rename_i hpassed
              exact htrip hfresh (.timeout deadline hdeadline hpassed hcounts)
            · rw [hkept]
              exact .kept
          · rw [hkept]
            exact .kept
        · exact .kept

theorem checkProgress_trips (host : Host) (operations : Nat) (calls : List ActiveCall) :
    List.Forall₂ (ActiveCall.Trips host [.check operations]) calls
      (checkProgress host.switches host.now operations calls).1 := by
  induction calls with
  | nil => exact .nil
  | cons call outer ih =>
      simp only [checkProgress]
      split
      · exact .cons (call.check_trips host operations) (List.forall₂_same.mpr fun _ _ => .kept)
      · exact .cons (call.check_trips host operations) ih

/-! ### What becomes of a frame -/

namespace ActiveCall

variable {call middle after : ActiveCall} {host : Host} {first second : List Occurrence}

/-- A frame that has tripped stays as it is. -/
theorem Trips.eq_of_tripped (htrips : call.Trips host first after)
    (htripped : call.tripped ≠ none) : after = call := by
  cases htrips with
  | kept => rfl
  | tripped _ _ _ _ _ hfresh _ => exact absurd hfresh htripped

/-- What becomes of a frame in one course of events and then in another. -/
theorem Trips.trans (hfirst : call.Trips host first middle)
    (hsecond : middle.Trips (host.through first) second after) :
    call.Trips host (first ++ second) after := by
  cases hfirst with
  | kept =>
      cases hsecond with
      | kept => exact .kept
      | tripped front back operations reason hevents hfresh hcause =>
          rw [← Host.through_append] at hcause
          exact .tripped (first ++ front) back operations reason
            (by rw [hevents, List.append_assoc]) hfresh hcause
  | tripped front back operations reason hevents hfresh hcause =>
      rw [hsecond.eq_of_tripped (by simp)]
      exact .tripped front (back ++ second) operations reason (by simp [hevents]) hfresh hcause

end ActiveCall

namespace Host

variable {host : Host} {events : List Occurrence} {depth : Nat} {call : ActiveCall}

/-- What one event makes of the frame of a call that runs before and after it. -/
theorem happen_trips {event : Occurrence} (hframe : host.frameAt? depth = some call)
    (hafter : depth < (host.happen event).calls.length) :
    ∃ after, (host.happen event).frameAt? depth = some after ∧ call.Trips host [event] after := by
  cases event with
  | enter limit switch =>
      exact ⟨call, (frameAt?_enterCall (lt_of_frameAt? hframe) limit switch).trans hframe, .kept⟩
  | leave => exact ⟨call, (frameAt?_leave hafter).trans hframe, .kept⟩
  | switch name state => exact ⟨call, hframe, .kept⟩
  | clock time => exact ⟨call, hframe, .kept⟩
  | check operations =>
      have htrips : List.Forall₂ (ActiveCall.Trips host [.check operations]) host.calls.reverse
          (host.happen (.check operations)).calls.reverse :=
        List.forall₂_reverse_iff.mpr (checkProgress_trips host operations host.calls)
      obtain ⟨after, hfound⟩ := exists_frameAt? hafter
      obtain ⟨hbefore, hcall⟩ := List.getElem?_eq_some_iff.mp hframe
      obtain ⟨hlt, hget⟩ := List.getElem?_eq_some_iff.mp hfound
      have hstep := List.Forall₂.get htrips hbefore hlt
      rw [List.get_eq_getElem, List.get_eq_getElem, hcall, hget] at hstep
      exact ⟨after, hfound, hstep⟩

/-- What events make of the frame of a call that runs all the while. -/
theorem through_trips (hruns : host.Runs depth events) (hframe : host.frameAt? depth = some call) :
    ∃ after, (host.through events).frameAt? depth = some after ∧
      call.Trips host events after := by
  induction events generalizing host call with
  | nil => exact ⟨call, hframe, .kept⟩
  | cons event rest ih =>
      obtain ⟨-, hlater⟩ := runs_cons_iff.mp hruns
      obtain ⟨middle, hmiddle, hfirst⟩ := happen_trips hframe hlater.lt
      obtain ⟨after, hafter, hrest⟩ := ih hlater hmiddle
      exact ⟨after, hafter, hfirst.trans hrest⟩

/-- A frame is that of a call that has just been entered, or has come from the one in its place. -/
theorem frameAt?_happen {event : Occurrence}
    (hframe : (host.happen event).frameAt? depth = some call) :
    call.tripped = none ∨
      ∃ before, host.frameAt? depth = some before ∧ before.Trips host [event] call := by
  have hafter := lt_of_frameAt? hframe
  by_cases hdepth : depth < host.calls.length
  · obtain ⟨before, hbefore⟩ := exists_frameAt? hdepth
    obtain ⟨after, hfound, htrips⟩ := happen_trips hbefore hafter
    cases hfound.symm.trans hframe
    exact .inr ⟨before, hbefore, htrips⟩
  · left
    cases event with
    | enter limit switch =>
        have hlength : depth < host.calls.length + 1 := hafter
        have hnew : depth = host.calls.length := by omega
        rw [hnew, happen, frameAt?_entered] at hframe
        cases hframe
        rfl
    | leave =>
        have hfewer : (host.happen .leave).calls.length ≤ host.calls.length := by
          simp [happen, leaveCall]
        omega
    | switch name state => exact absurd hafter hdepth
    | clock time => exact absurd hafter hdepth
    | check operations =>
        have hsame := (host.check_lead operations).length_eq
        have hlength : depth < (host.check operations).1.calls.length := hafter
        omega

/-- A frame that is found tripped was so from the beginning, or has tripped among the events. -/
theorem tripped_origin {reason : AbortReason}
    (hframe : (host.through events).frameAt? depth = some call)
    (htripped : call.tripped = some reason) :
    host.Runs depth events ∧ host.frameAt? depth = some call ∨
      host.TrippedAmong events depth call reason := by
  induction events using List.reverseRecOn generalizing call with
  | nil => exact .inl ⟨runs_nil_iff.mpr (lt_of_frameAt? hframe), hframe⟩
  | append_singleton rest event ih =>
      rw [through_concat] at hframe
      have hafter := lt_of_frameAt? hframe
      rcases frameAt?_happen hframe with hfresh | ⟨before, hbefore, htrips⟩
      · rw [htripped] at hfresh
        cases hfresh
      have hruns : (host.through rest).Runs depth [event] :=
        runs_cons_iff.mpr ⟨lt_of_frameAt? hbefore, runs_nil_iff.mpr hafter⟩
      cases htrips with
      | kept =>
          rcases ih hbefore htripped with ⟨hearlier, hstart⟩ |
            ⟨front, operations, back, fresh, rfl, hstart, hfresh, hcause, hcall, hearlier⟩
          · exact .inl ⟨runs_append_iff.mpr ⟨hearlier, hruns⟩, hstart⟩
          · rw [through_append] at hruns
            exact .inr ⟨front, operations, back ++ [event], fresh, by simp, hstart, hfresh, hcause,
              hcall, runs_append_iff.mpr ⟨hearlier, hruns⟩⟩
      | tripped front back operations found hevents hfresh hcause =>
          rcases List.singleton_eq_append_iff.mp hevents with ⟨rfl, hcheck⟩ | ⟨-, hnone⟩
          · cases hcheck
            cases htripped
            exact .inr ⟨rest, operations, [], before, rfl, hbefore, hfresh, hcause, rfl, hruns⟩
          · cases hnone

/-- Trips of running calls, from any frames and whatever happens. A call that ends leaves the frames
around it, in their places and as they were but for trips of their own; a frame that has tripped
keeps its reason as long as its call runs; a check asks for the end whenever some frame has tripped;
and it asks for the end only for the reason of a frame that has tripped at this check or before, for
its own switch or its own deadline, unless it had tripped to begin with. -/
theorem trips_stick (host : Host) (events : List Occurrence) :
    (∀ limit switch, (host.enterCall limit switch).Runs host.calls.length events →
      ((host.enterCall limit switch).through events).calls.length = host.calls.length + 1 →
      List.Forall₂ (ActiveCall.Trips (host.enterCall limit switch) events) host.calls
        (((host.enterCall limit switch).through events).happen .leave).calls) ∧
    (∀ depth reason, host.Runs depth events → host.trippedAt depth = some reason →
      (host.through events).trippedAt depth = some reason) ∧
    (∀ operations, (∃ call ∈ (host.through events).calls, call.tripped ≠ none) →
      ((host.through events).check operations).2 ≠ none) ∧
    ∀ operations reason, ((host.through events).check operations).2 = some reason →
      ∃ depth call, ((host.through events).check operations).1.frameAt? depth = some call ∧
        call.tripped = some reason ∧
        (host.Runs depth (events ++ [.check operations]) ∧ host.frameAt? depth = some call ∨
          host.TrippedAmong (events ++ [.check operations]) depth call reason) := by
  refine ⟨?leave, ?sticky, fun operations => checkProgress_asks, ?asks⟩
  case leave =>
    intro limit switch hruns hlength
    apply List.forall₂_reverse_iff.mp
    have hleft : (((host.enterCall limit switch).through events).happen .leave).calls.length =
        host.calls.length := by
      simp [happen, leaveCall, hlength]
    rw [List.forall₂_iff_get]
    refine ⟨by simp [hleft], fun depth hbefore hafter => ?_⟩
    rw [List.length_reverse] at hbefore hafter
    have hframe := frameAt?_enterCall hbefore limit switch
    obtain ⟨call, hcall⟩ := exists_frameAt? hbefore
    obtain ⟨after, hfound, htrips⟩ :=
      through_trips (hruns.mono (Nat.le_of_lt hbefore)) (hframe.trans hcall)
    rw [← frameAt?_leave hafter] at hfound
    obtain ⟨hlt, hget⟩ := List.getElem?_eq_some_iff.mp hcall
    obtain ⟨hlt', hget'⟩ := List.getElem?_eq_some_iff.mp hfound
    rw [List.get_eq_getElem, List.get_eq_getElem, hget, hget']
    exact htrips
  case sticky =>
    intro depth reason hruns htripped
    obtain ⟨call, hcall, hreason⟩ := Option.bind_eq_some_iff.mp htripped
    obtain ⟨after, hafter, htrips⟩ := through_trips hruns hcall
    rw [htrips.eq_of_tripped (by simp [hreason])] at hafter
    exact Option.bind_eq_some_iff.mpr ⟨call, hafter, hreason⟩
  case asks =>
    intro operations reason hasks
    obtain ⟨call, hmem, hreason⟩ :=
      List.exists_of_findSome?_eq_some ((checkProgress_reason _ _ _ _).symm.trans hasks)
    obtain ⟨depth, hdepth⟩ := List.mem_iff_getElem?.mp (List.mem_reverse.mpr hmem)
    have hframe : (host.through (events ++ [.check operations])).frameAt? depth = some call := by
      rw [through_concat]
      exact hdepth
    exact ⟨depth, call, hdepth, hreason, tripped_origin hframe hreason⟩

/-- A host with one running call, which has five milliseconds and the switch `main`. -/
def busy : Host :=
  { initial with calls := [.start 0 (some 5) (some "main")] }

/-- The switch is set for one progress check; then both deadlines pass before the next one. -/
def interrupted : List Occurrence :=
  [.switch "main" true, .check 1, .switch "main" false, .clock 9000, .check 128]

theorem trips_stick_nested :
    let entered := busy.enterCall (some 3) none
    entered.Runs 1 interrupted ∧ (entered.through interrupted).calls.length = 2 ∧
      List.Forall₂ (ActiveCall.Trips entered interrupted) busy.calls
        ((entered.through interrupted).happen .leave).calls ∧
      (entered.through (interrupted.take 2)).trippedAt 0 = some .requested ∧
      (entered.through interrupted).trippedAt 0 = some .requested ∧
      (entered.through interrupted).trippedAt 1 = some (.timeout 3) ∧
      ∀ operations, ((entered.through interrupted).check operations).2 ≠ none := by
  intro entered
  have hruns : entered.Runs 1 interrupted := by decide
  have hlength : (entered.through interrupted).calls.length = 2 := by decide
  have hearly : (entered.through (interrupted.take 2)).trippedAt 0 = some .requested := by decide
  have hlater : (entered.through (interrupted.take 2)).Runs 0 (interrupted.drop 2) := by decide
  have htripped : ∃ call ∈ (entered.through interrupted).calls, call.tripped ≠ none := by decide
  refine ⟨hruns, hlength, (trips_stick busy interrupted).1 (some 3) none hruns hlength, hearly,
    ?_, by decide, fun operations => ?_⟩
  · exact (trips_stick (entered.through (interrupted.take 2)) (interrupted.drop 2)).2.1 0
      .requested hlater hearly
  · exact (trips_stick entered interrupted).2.2.1 operations htripped

end Host

end ScriptHost
