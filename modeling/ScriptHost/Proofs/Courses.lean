import ScriptHost.Proofs.Frames
import ScriptHost.Proofs.Runs
import ScriptHost.World.Call

/-!
Calls within calls. The course of a run is what happens in it one after another: progress checks,
deeds of the host and of its functions, and calls that host functions make into scripts, whose
errors the host function may hand on or swallow. A course is run in the world, with the frames, the
progress checks and the ends of calls that every call has.
-/

namespace ScriptHost

/-- Something that happens in a run and leaves the frames of the running calls alone: a switch is
set, the clock goes on, a host function does its work. -/
structure Deed where
  change : World → World
  keeps : ∀ world, (change world).host.calls = world.host.calls

/-- The course of a run. -/
inductive Course
  /-- The run is over. -/
  | done (result : Except Script.RuntimeError ScriptValue)
  /-- A progress check after a number of operations. -/
  | check (operations : Nat) (next : Option AbortReason → Course)
  | act (deed : Deed) (next : World → Course)
  /-- A host function calls a script function. -/
  | call (function : FunctionRef) (setup : RunSetup) (wanted : ReturnType) (inner : Course)
    (next : Except InvokeError (Option NativeValue) → Course)

namespace World

/-- The world with the frame of a new call. -/
def entered (world : World) (setup : RunSetup) : World :=
  { world with
    host := world.host.enterCall (setup.timeout.or world.executor.timeout) setup.abort }

/-- The world without the frames within the outermost `depth` ones. -/
def left (world : World) (depth : Nat) : World :=
  { world with host := world.host.leaveCall depth }

end World

namespace Act

/-- A progress check. -/
def check (operations : Nat) : Act (Option AbortReason) := do
  let world ← get
  set { world with host := (world.host.check operations).1 }
  return (world.host.check operations).2

/-- What a run that is over means to the caller. -/
def conclude (function : FunctionRef) (setup : RunSetup) (wanted : ReturnType)
    (tripped : Option AbortReason) (result : Except Script.RuntimeError ScriptValue) :
    Act (Except InvokeError (Option NativeValue)) :=
  match result with
  | .ok value => readResult function value wanted
  | .error err => Except.error <$> reportFailure function err tripped setup

/-- A call of a script function with a given run. -/
def callBy (function : FunctionRef) (setup : RunSetup) (wanted : ReturnType)
    (run : Act (Except Script.RuntimeError ScriptValue)) :
    Act (Except InvokeError (Option NativeValue)) := do
  let depth := (← get).host.calls.length
  modify (·.entered setup)
  let result ← run
  let tripped := (← get).host.trippedAt depth
  modify (·.left depth)
  conclude function setup wanted tripped result

end Act

namespace Course

/-- Runs a course. -/
def run : Course → Act (Except Script.RuntimeError ScriptValue)
  | .done result => pure result
  | .check operations next => do
    (next (← Act.check operations)).run
  | .act deed next => do
    modify deed.change
    (next (← get)).run
  | .call function setup wanted inner next => do
    (next (← Act.callBy function setup wanted inner.run)).run

/-- What the frame with `depth` frames around it has tripped for after each progress check of a run,
also after those in calls within it. -/
def seen (depth : Nat) : Course → World → List (Option AbortReason)
  | .done _, _ => []
  | .check operations next, world =>
    let after := (Act.check operations).after world
    after.host.trippedAt depth ::
      (next ((Act.check operations).result world)).seen depth after
  | .act deed next, world => (next (deed.change world)).seen depth (deed.change world)
  | .call function setup wanted inner next, world =>
    let call := Act.callBy function setup wanted inner.run
    inner.seen depth (world.entered setup) ++
      (next (call.result world)).seen depth (call.after world)

/-- What the frame with `depth` frames around it has tripped for after each progress check of the
run itself. -/
def ownSeen (depth : Nat) : Course → World → List (Option AbortReason)
  | .done _, _ => []
  | .check operations next, world =>
    let after := (Act.check operations).after world
    after.host.trippedAt depth ::
      (next ((Act.check operations).result world)).ownSeen depth after
  | .act deed next, world => (next (deed.change world)).ownSeen depth (deed.change world)
  | .call function setup wanted inner next, world =>
    let call := Act.callBy function setup wanted inner.run
    (next (call.result world)).ownSeen depth (call.after world)

/-- Whether a run and the calls within it end, for good, with the first progress check that gives a
reason. -/
def Obedient : Course → Prop
  | .done _ => True
  | .check _ next =>
    (∀ reason, ∃ err, next (some reason) = .done (.error err) ∧ err.cause = .terminated) ∧
      (next none).Obedient
  | .act _ next => ∀ world, (next world).Obedient
  | .call _ _ _ inner next => inner.Obedient ∧ ∀ result, (next result).Obedient

end Course

namespace Act

variable {function : FunctionRef} {setup : RunSetup} {wanted : ReturnType}

/-! ### The end of a call -/

theorem readResult_calls (value : ScriptValue) (world : World) :
    ((readResult function value wanted).after world).host.calls = world.host.calls := by
  unfold readResult
  split
  · split <;> rfl
  · split <;> rfl

theorem reportFailure_calls (err : Script.RuntimeError) (tripped : Option AbortReason)
    (world : World) :
    ((reportFailure function err tripped setup).after world).host.calls = world.host.calls := by
  unfold reportFailure
  dsimp only
  split
  · rfl
  · split <;> rfl
  · rfl

theorem conclude_calls (tripped : Option AbortReason)
    (result : Except Script.RuntimeError ScriptValue) (world : World) :
    ((conclude function setup wanted tripped result).after world).host.calls =
      world.host.calls := by
  cases result with
  | ok value => exact readResult_calls value world
  | error err => exact reportFailure_calls err tripped world

theorem reportFailure_result (err : Script.RuntimeError) (tripped : Option AbortReason)
    (world : World) :
    (reportFailure function err tripped setup).result world =
      InvokeError.ofRun function err tripped := by
  unfold reportFailure
  dsimp only
  split
  · rfl
  · split <;> rfl
  · rfl

/-- An error ends a call whose frame has tripped as an aborted one, whatever the error is. -/
theorem conclude_error (err : Script.RuntimeError) (reason : AbortReason) (world : World) :
    (conclude function setup wanted (some reason) (.error err)).result world =
      .error (.aborted function.name reason) := by
  have hresult : (conclude function setup wanted (some reason) (.error err)).result world =
      .error ((reportFailure function err (some reason) setup).result world) := rfl
  rw [hresult, reportFailure_result]
  simp [InvokeError.ofRun]

/-- A value ends a call without an exception. -/
theorem conclude_value (value : ScriptValue) (tripped : Option AbortReason)
    (exception : ScriptException) (world : World) :
    (conclude function setup wanted tripped (.ok value)).result world ≠
      .error (.exception exception) := by
  simp only [conclude, readResult]
  split
  · split <;> simp
  · split <;> simp

/-- To end without a value is to give none, whatever is wanted. -/
theorem conclude_nothing (tripped : Option AbortReason) (world : World) :
    (conclude function setup wanted tripped (.ok .unit)).result world = .ok none := by
  simp only [conclude, readResult, ScriptValue.isUnit, if_true]
  split <;> rfl

end Act

namespace Course

variable {depth : Nat} {reason : AbortReason}

/-! ### Frames along a course -/

theorem check_lead (operations : Nat) (world : World) :
    FramesLead world.host.calls ((Act.check operations).after world).host.calls :=
  world.host.check_lead operations

theorem callBy_lead {function : FunctionRef} {setup : RunSetup} {wanted : ReturnType}
    {run : Act (Except Script.RuntimeError ScriptValue)} {world : World}
    (hrun : FramesLead (world.entered setup).host.calls
      (run.after (world.entered setup)).host.calls) :
    FramesLead world.host.calls
      ((Act.callBy function setup wanted run).after world).host.calls := by
  have hafter : ((Act.callBy function setup wanted run).after world).host.calls =
      ((run.after (world.entered setup)).left world.host.calls.length).host.calls :=
    Act.conclude_calls _ _ _
  rw [hafter]
  exact Host.leaveCall_lead hrun

theorem callBy_trippedAt {function : FunctionRef} {setup : RunSetup} {wanted : ReturnType}
    {run : Act (Except Script.RuntimeError ScriptValue)} {world : World}
    (hdepth : depth < world.host.calls.length)
    (hkept : world.host.calls.length ≤ (run.after (world.entered setup)).host.calls.length) :
    ((Act.callBy function setup wanted run).after world).host.trippedAt depth =
      (run.after (world.entered setup)).host.trippedAt depth := by
  have hafter : ((Act.callBy function setup wanted run).after world).host.calls =
      ((run.after (world.entered setup)).left world.host.calls.length).host.calls :=
    Act.conclude_calls _ _ _
  have hleft : ((Act.callBy function setup wanted run).after world).host.trippedAt depth =
      ((run.after (world.entered setup)).left world.host.calls.length).host.trippedAt depth := by
    unfold Host.trippedAt
    rw [hafter]
  rw [hleft]
  exact Host.trippedAt_leaveCall hdepth hkept

/-- A run moves the frames of the calls around it on, and drops or makes none. -/
theorem run_lead (course : Course) (world : World) :
    FramesLead world.host.calls (course.run.after world).host.calls := by
  induction course generalizing world with
  | done result => exact FramesLead.refl _
  | check operations next ih =>
      exact (check_lead operations world).trans (ih _ _)
  | act deed next ih =>
      have hdeed : FramesLead world.host.calls (deed.change world).host.calls :=
        FramesLead.of_eq (deed.keeps world)
      exact hdeed.trans (ih _ _)
  | call function setup wanted inner next ihinner ihnext =>
      exact (callBy_lead (ihinner (world.entered setup))).trans (ihnext _ _)

/-- What a frame has tripped for at any progress check of a run, it has tripped for when the run is
over. -/
theorem trippedAt_of_seen {course : Course} {world : World}
    (hdepth : depth < world.host.calls.length) (hseen : some reason ∈ course.seen depth world) :
    (course.run.after world).host.trippedAt depth = some reason := by
  induction course generalizing world with
  | done result => simp [seen] at hseen
  | check operations next ih =>
      have hafter : depth < ((Act.check operations).after world).host.calls.length := by
        rw [(check_lead operations world).length_eq]
        exact hdepth
      obtain hhere | hlater := List.mem_cons.mp hseen
      · exact Host.trippedAt_of_lead (run_lead (next _) _) hhere.symm
      · exact ih _ hafter hlater
  | act deed next ih =>
      have hafter : depth < (deed.change world).host.calls.length := by
        rw [deed.keeps world]
        exact hdepth
      exact ih _ hafter hseen
  | call function setup wanted inner next ihinner ihnext =>
      have hentered := run_lead inner (world.entered setup)
      have hafter : depth <
          ((Act.callBy function setup wanted inner.run).after world).host.calls.length := by
        rw [(callBy_lead hentered).length_eq]
        exact hdepth
      obtain hinner | hlater := List.mem_append.mp hseen
      · have hwithin : depth < (world.entered setup).host.calls.length :=
          Nat.lt_succ_of_lt hdepth
        have hkept : world.host.calls.length ≤
            (inner.run.after (world.entered setup)).host.calls.length := by
          rw [hentered.length_eq]
          exact Nat.le_succ _
        have htripped : ((Act.callBy function setup wanted inner.run).after world).host.trippedAt
            depth = some reason :=
          (callBy_trippedAt hdepth hkept).trans (ihinner hwithin hinner)
        exact Host.trippedAt_of_lead (run_lead (next _) _) htripped
      · exact ihnext _ hafter hlater

/-- A run that is ended as soon as one of its own progress checks asks for it ends by an error if
its frame has tripped by one of these checks. -/
theorem error_of_ownSeen {course : Course} (hobedient : course.Obedient) {world : World}
    (hdepth : world.host.calls.length = depth + 1)
    (hseen : some reason ∈ course.ownSeen depth world) :
    ∃ err, course.run.result world = .error err := by
  induction course generalizing world with
  | done result => simp [ownSeen] at hseen
  | check operations next ih =>
      obtain ⟨hends, hgoesOn⟩ := hobedient
      have hafter : ((Act.check operations).after world).host.calls.length = depth + 1 := by
        rw [(check_lead operations world).length_eq]
        exact hdepth
      have hrun : (check operations next).run.result world =
          (next ((Act.check operations).result world)).run.result
            ((Act.check operations).after world) := rfl
      rw [hrun]
      cases hasked : (Act.check operations).result world with
      | some asked =>
          obtain ⟨err, herr, -⟩ := hends asked
          rw [herr]
          exact ⟨err, rfl⟩
      | none =>
          simp only [ownSeen, hasked] at hseen
          obtain hhere | hlater := List.mem_cons.mp hseen
          · have hstopped : (Act.check operations).result world = some reason :=
              Host.check_of_trippedAt hdepth hhere.symm
            rw [hasked] at hstopped
            cases hstopped
          · exact ih none hgoesOn hafter hlater
  | act deed next ih =>
      have hafter : (deed.change world).host.calls.length = depth + 1 := by
        rw [deed.keeps world]
        exact hdepth
      exact ih _ (hobedient _) hafter hseen
  | call function setup wanted inner next _ ihnext =>
      have hafter : ((Act.callBy function setup wanted inner.run).after world).host.calls.length =
          depth + 1 := by
        rw [(callBy_lead (run_lead inner _)).length_eq]
        exact hdepth
      exact ihnext _ (hobedient.2 _) hafter hseen

/-! ### Calls that have tripped -/

theorem callBy_result (function : FunctionRef) (setup : RunSetup) (wanted : ReturnType)
    (run : Act (Except Script.RuntimeError ScriptValue)) (world : World) :
    (Act.callBy function setup wanted run).result world =
      (Act.conclude function setup wanted
        ((run.after (world.entered setup)).host.trippedAt world.host.calls.length)
        (run.result (world.entered setup))).result
          ((run.after (world.entered setup)).left world.host.calls.length) := rfl

/-- A call whose frame has tripped by the end of its run is aborted for that reason, unless the run
comes to a value. It is never an exception. -/
theorem callBy_of_tripped (function : FunctionRef) (setup : RunSetup) (wanted : ReturnType)
    {run : Act (Except Script.RuntimeError ScriptValue)} {world : World}
    (htripped : (run.after (world.entered setup)).host.trippedAt world.host.calls.length =
      some reason) :
    (∀ exception, (Act.callBy function setup wanted run).result world ≠
        .error (.exception exception)) ∧
      ((Act.callBy function setup wanted run).result world =
          .error (.aborted function.name reason) ∨
        ∃ value, run.result (world.entered setup) = .ok value) := by
  rw [callBy_result, htripped]
  cases hrun : run.result (world.entered setup) with
  | error err =>
      rw [Act.conclude_error]
      exact ⟨by simp, .inl rfl⟩
  | ok value =>
      exact ⟨fun exception => Act.conclude_value value _ exception _, .inr ⟨value, rfl⟩⟩

/-- A call whose frame trips at any progress check of its run, wherever in the calls within it the
check is made, is never an exception. It is aborted for the reason its frame has tripped for, unless
its run comes to a value after all; then none of its own checks has found its frame tripped. -/
theorem tripped_call_aborts (function : FunctionRef) (setup : RunSetup) (wanted : ReturnType)
    {course : Course} (hobedient : course.Obedient) {world : World}
    (hseen : some reason ∈ course.seen world.host.calls.length (world.entered setup)) :
    (∀ exception, (Act.callBy function setup wanted course.run).result world ≠
        .error (.exception exception)) ∧
      ((Act.callBy function setup wanted course.run).result world =
          .error (.aborted function.name reason) ∨
        (∃ value, course.run.result (world.entered setup) = .ok value) ∧
          ∀ found ∈ course.ownSeen world.host.calls.length (world.entered setup),
            found = none) := by
  have hentered : (world.entered setup).host.calls.length = world.host.calls.length + 1 := rfl
  have hdepth : world.host.calls.length < (world.entered setup).host.calls.length := by
    omega
  obtain ⟨hnever, hends⟩ :=
    callBy_of_tripped function setup wanted (trippedAt_of_seen hdepth hseen)
  refine ⟨hnever, ?_⟩
  obtain haborted | ⟨value, hvalue⟩ := hends
  · exact .inl haborted
  · refine .inr ⟨⟨value, hvalue⟩, fun found hfound => ?_⟩
    cases found with
    | none => rfl
    | some earlier =>
        obtain ⟨err, herr⟩ := error_of_ownSeen hobedient hentered hfound
        rw [hvalue] at herr
        cases herr

/-- A function without a body to speak of. -/
def idle : FunctionRef := ⟨⟨1, "M-1", ⟨[], []⟩, ⟨[]⟩, .nothing⟩, "idle", 0⟩

/-- A run that goes on until it is stopped, which is at its first progress check. -/
def waiting : Course :=
  .check 1 fun
    | some _ => .done (.error (.plain .terminated none))
    | none => .done (.ok .unit)

/-- A run in which a host function calls a function that goes on until it is stopped, and answers a
value whatever has become of the call. -/
def swallowing : Course :=
  .call idle .standard .script waiting fun _ => .done (.ok (.bool true))

/-- A world in which the host has asked for the end of the calls with the switch `main`. -/
def halting : World :=
  let world := World.create ⟨.directory [], []⟩ .standard
  { world with host := world.host.setSwitch "main" true }

/-- The way calls are made that the switch `main` stops. -/
def stoppable : RunSetup := { RunSetup.standard with abort := some "main" }

theorem tripped_call_aborts_waiting :
    waiting.Obedient ∧
      some .requested ∈ waiting.seen halting.host.calls.length (halting.entered stoppable) ∧
      (∀ exception, (Act.callBy idle stoppable .script waiting.run).result halting ≠
        .error (.exception exception)) ∧
      (Act.callBy idle stoppable .script waiting.run).result halting =
        .error (.aborted "idle" .requested) := by
  have hobedient : waiting.Obedient := ⟨fun _ => ⟨_, rfl, rfl⟩, trivial⟩
  have hseen : some .requested ∈
      waiting.seen halting.host.calls.length (halting.entered stoppable) := by decide
  obtain ⟨hnever, hends⟩ := tripped_call_aborts idle stoppable .script hobedient hseen
  refine ⟨hobedient, hseen, hnever, ?_⟩
  obtain haborted | ⟨⟨value, hvalue⟩, -⟩ := hends
  · exact haborted
  · cases hvalue

/-- A call can come to a value although its frame has tripped: here a progress check in a call
within it trips the frame, and nothing asks for the frame afterwards. -/
theorem swallowed_trip_yields_value :
    swallowing.Obedient ∧
      some .requested ∈ swallowing.seen halting.host.calls.length (halting.entered stoppable) ∧
      (Act.callBy idle stoppable .bool swallowing.run).result halting =
        .ok (some (.bool true)) := by
  refine ⟨⟨⟨fun _ => ⟨_, rfl, rfl⟩, trivial⟩, fun _ => trivial⟩, ?_, ?_⟩
  · decide
  · rfl

end Course

end ScriptHost
