import ScriptHost.Session.FileStep
import ScriptHost.Session.GameStep
import ScriptHost.Session.ModuleStep

/-!
Steps of a session, and the executor that a session begins with. A report of a step holds its answer
and all that has been reported and emitted meanwhile, in that order.
-/

namespace ScriptHost

/-- A step of a session. -/
inductive Step
  | onModules (step : ModuleStep)
  | onCalls (step : CallStep)
  | onGames (step : GameStep)
  | onFiles (step : FileStep)

/-- What comes of a step. -/
structure StepReport where
  answer : Answer
  log : List LogLine
  emitted : List Emission

/-- The wishes that a session has about its executor. -/
structure ExecutorPlan where
  config : Option Config
  search : Option SourceSearch
  hotReload : Option Bool
  timeoutMillis : Option Nat
  restricted : List (String × AccessMask)

/-- The executor of a plan. Widgets can be held weakly and gadgets cannot; sprites are unknown to
scripts. -/
def ExecutorPlan.executor (plan : ExecutorPlan) : Executor :=
  let executor := match plan.config with
    | some config => Executor.standard.withConfig config
    | none => Executor.standard
  let executor := match plan.search with
    | some search => { executor with search := search }
    | none => executor
  let executor := match plan.hotReload with
    | some enabled => executor.withHotReload enabled
    | none => executor
  let executor := match plan.timeoutMillis with
    | some limit => { executor with timeout := some limit }
    | none => executor
  let executor := plan.restricted.foldl (fun executor (name, mask) => executor.restrict name mask)
    executor
  (executor.registerObject .widget "Widget" true).registerObject .gadget "Gadget" false

namespace Session

/-- The session that begins with some files and the executor of a plan. -/
def begin (files : FileTree) (plan : ExecutorPlan) : Session :=
  .create (.create files plan.executor)

/-- Takes a step, as far as its names stand for something. -/
def perform : Step → SessionAct Answer
  | .onModules step => step.perform
  | .onCalls step => step.perform
  | .onGames step => step.perform
  | .onFiles step => step.perform

/-- The session without what has been reported and emitted. -/
def cleared (session : Session) : Session :=
  { session with
    world := { session.world with host := { session.world.host with log := [], emitted := [] } } }

/-- Takes a step and reports what comes of it. -/
def step (session : Session) (step : Step) : StepReport × Session :=
  let (result, session) := (perform step).run.run session
  let answer := match result with
    | .ok answer => answer
    | .error absent => .missing absent.name
  let host := session.world.host
  (⟨answer, host.log.reverse, host.emitted.reverse⟩, session.cleared)

end Session

end ScriptHost
