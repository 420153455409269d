import ScriptHost.Proofs.Composing

/-!
What running a script does to the frames of running calls. Whatever a script is made of, its run
moves the host on by progress checks and by changes that leave the frames alone. So each call of a
script function is a call along some course, and what holds for calls along courses holds for it.
-/

namespace ScriptHost

namespace Script.Eval

variable {α β : Type}

/-- The state that a step leaves behind. -/
def after (step : Eval α) (env : Surroundings) (state : RunState) : RunState :=
  ((step env).run.run state).2

theorem after_bind (step : Eval α) (next : α → Eval β) (env : Surroundings) (state : RunState) :
    (step >>= next).after env state =
      match ((step env).run.run state).1 with
      | .ok value => (next value).after env (step.after env state)
      | .error _ => step.after env state := by
  unfold after
  simp only [bind, ReaderT.bind, ExceptT.bind, ExceptT.run, ExceptT.mk, StateT.run, StateT.bind,
    ExceptT.bindCont]
  cases hrun : step env state with
  | mk result state' => cases result <;> rfl

/-- A step that runs are composed of moves the host on like a run. -/
theorem Composed.moves {step : Eval α} (hstep : Composed step) (env : Surroundings)
    (state : RunState) : state.host.Moves (step.after env state).host := by
  induction hstep generalizing env state with
  | pure | throw | get => exact .refl state.host
  | read _ _ ih => exact ih env env state
  | update hmoves _ ih => exact (hmoves state).trans (ih state env _)
  | attempt _ ih => exact ih env state
  | @bind _ _ step next _ _ ihstep ihnext =>
      rw [after_bind]
      split
      · exact (ihstep env state).trans (ihnext _ env _)
      · exact ihstep env state

end Script.Eval

/-! ### Calls of script functions as courses -/

/-- A run that moves the host on has a course. -/
theorem Host.Moves.course {before after : Host} (hmoves : before.Moves after)
    (result : Except Script.RuntimeError ScriptValue) :
    ∃ course : Course, ∀ world : World, world.host = before →
      course.run.run world = (result, { world with host := after }) := by
  induction hmoves using Relation.ReflTransGen.head_induction_on with
  | refl =>
      refine ⟨.done result, fun world hworld => ?_⟩
      rw [← hworld]
      rfl
  | @head _ middle hstep _ ih =>
      obtain ⟨course, hcourse⟩ := ih
      cases hstep with
      | check operations =>
          refine ⟨.check operations fun _ => course, fun world hworld => ?_⟩
          subst hworld
          exact hcourse _ rfl
      | aside hcalls =>
          refine ⟨.act ⟨fun world => { world with host := { middle with
            calls := world.host.calls } }, fun _ => rfl⟩ fun _ => course, fun world hworld => ?_⟩
          subst hworld
          have hmiddle : { middle with calls := world.host.calls } = middle := by
            rw [← hcalls]
          exact (hcourse _ hmiddle).trans rfl

/-- What a run that has reached the host means: a signal that is no error is no value. -/
def Script.endOf : Except Script.Signal ScriptValue → Except Script.RuntimeError ScriptValue
  | .ok value => .ok value
  | .error (.error err) => .error err
  | .error _ => .ok .unit

variable (function : FunctionRef) (this : Option ScriptValue) (values : List ScriptValue)
  (setup : RunSetup) (world : World)

/-- The run of a script function has a course, which ends as the run does, trips the frame of the
call for the same reason and leaves the same host. -/
theorem World.runFunction_course :
    ∃ course : Course,
      let outcome := world.runFunction function this values
        (setup.timeout.or world.executor.timeout) setup.abort
      course.run.result (world.entered setup) = Script.endOf outcome.result ∧
        (course.run.after (world.entered setup)).host.trippedAt world.host.calls.length =
          outcome.tripped ∧
        (course.run.after (world.entered setup)).left world.host.calls.length =
          { world with host := outcome.host } := by
  unfold World.runFunction
  dsimp only
  split
  · refine ⟨.done (.ok .unit), rfl, Host.trippedAt_enterCall _ _ _, ?_⟩
    have hleft : (world.entered setup).left world.host.calls.length = world := by
      simp [World.entered, World.left, Host.leaveCall, Host.enterCall]
    exact hleft
  next code _ =>
    have hmoves : (world.entered setup).host.Moves
        ((Script.callFunction runFuel code this values none
          (world.surroundings function.compiled)).run
            ⟨world.host.enterCall (setup.timeout.or world.executor.timeout) setup.abort,
              0, 0, [], none⟩).2.host :=
      ((Script.composedWith runFuel).callFunction code this values none).moves
        (world.surroundings function.compiled) ⟨(world.entered setup).host, 0, 0, [], none⟩
    generalize (Script.callFunction runFuel code this values none
      (world.surroundings function.compiled)).run
        ⟨world.host.enterCall (setup.timeout.or world.executor.timeout) setup.abort,
          0, 0, [], none⟩ = ran at hmoves ⊢
    obtain ⟨result, state⟩ := ran
    obtain ⟨course, hcourse⟩ := hmoves.course (Script.endOf (result.bind Prod.fst))
    have hended := hcourse (world.entered setup) rfl
    have hresult : course.run.result (world.entered setup) = Script.endOf (result.bind Prod.fst) :=
      congrArg Prod.fst hended
    have hafter : course.run.after (world.entered setup) =
        { world.entered setup with host := state.host } := congrArg Prod.snd hended
    refine ⟨course, ?_⟩
    rw [hresult, hafter]
    cases result with
    | ok ended => exact ⟨rfl, rfl, rfl⟩
    | error signal => exact ⟨rfl, rfl, rfl⟩

/-- A call of a script function is a call along some course, with the frame tripped for the same
reason. -/
theorem Act.callWith_course (wanted : ReturnType) :
    ∃ course : Course,
      ((Act.callWith function this values setup wanted).result world).1 =
          (Act.callBy function setup wanted course.run).result world ∧
        (course.run.after (world.entered setup)).host.trippedAt world.host.calls.length =
          (world.runFunction function this values (setup.timeout.or world.executor.timeout)
            setup.abort).tripped := by
  obtain ⟨course, hresult, htripped, hleft⟩ :=
    world.runFunction_course function this values setup
  refine ⟨course, ?_, htripped⟩
  rw [Course.callBy_result, hresult, htripped, hleft]
  unfold Act.callWith
  simp only [Act.result_bind, Act.result_get]
  generalize world.runFunction function this values (setup.timeout.or world.executor.timeout)
    setup.abort = outcome
  obtain ⟨result, after, host, tripped⟩ := outcome
  cases result with
  | ok value => rfl
  | error signal =>
      cases signal with
      | error err => rfl
      | leaveLoop | nextRound | leaveFunction =>
          exact (Act.conclude_nothing tripped _).symm

variable {function this values setup world}

/-- A call of a script function whose frame has tripped is never an exception. -/
theorem Act.callWith_of_tripped {reason : AbortReason} (wanted : ReturnType)
    (htripped : (world.runFunction function this values
      (setup.timeout.or world.executor.timeout) setup.abort).tripped = some reason)
    (exception : ScriptException) :
    ((Act.callWith function this values setup wanted).result world).1 ≠
      .error (.exception exception) := by
  obtain ⟨course, hresult, hreason⟩ :=
    Act.callWith_course function this values setup world wanted
  rw [hresult]
  rw [htripped] at hreason
  exact (Course.callBy_of_tripped function setup wanted hreason).1 exception

/-- A call of a script function leaves the frames of the calls around it in their places. -/
theorem World.runFunction_lead :
    FramesLead world.host.calls (world.runFunction function this values
      (setup.timeout.or world.executor.timeout) setup.abort).host.calls := by
  obtain ⟨course, -, -, hleft⟩ := world.runFunction_course function this values setup
  have hcalls := congrArg (fun world : World => world.host.calls) hleft
  dsimp only at hcalls
  rw [← hcalls]
  exact Host.leaveCall_lead (course.run_lead (world.entered setup))

end ScriptHost
