import RouteFlow.Run.Failure

/-!
# Events

What a run tells of itself while it goes on. An event is told with the identity of its run
(`Notice`) and written as an object with its type, that identity and what the event is about.
-/

namespace RouteFlow.Run

/-- How far a run has come. -/
inductive State where
  | running
  | completed
  | failed
  deriving DecidableEq, Repr

/-- The name of a state. -/
def State.name : State → String
  | .running => "running"
  | .completed => "completed"
  | .failed => "failed"

/-- An event of a run. -/
inductive Event where
  | runStarted (pipeline : String)
  | stepStarted (step : String)
  | stepSucceeded (step : String)
  | branched (origin target : String)
  | stepFailed (step : String) (cause : CauseCode)
  | runFinished (state : State) (steps : Nat)
  deriving DecidableEq

namespace Event

/-- The type of an event. -/
def type : Event → String
  | .runStarted _ => "run.started"
  | .stepStarted _ => "step.started"
  | .stepSucceeded _ => "step.succeeded"
  | .branched .. => "step.branched"
  | .stepFailed .. => "step.failed"
  | .runFinished .. => "run.finished"

/-- What an event is about. -/
def details : Event → List (String × Json)
  | .runStarted pipeline => [("pipeline", .string pipeline)]
  | .stepStarted step | .stepSucceeded step => [("step", .string step)]
  | .branched origin target => [("from", .string origin), ("to", .string target)]
  | .stepFailed step cause => [("step", .string step), ("cause_code", .string cause.name)]
  | .runFinished state steps => [("state", .string state.name), ("steps", Json.nat steps)]

/-- An event as an object. -/
def toJson (runId : String) (e : Event) : Json :=
  .object ([("type", .string e.type), ("run_id", .string runId)] ++ e.details)

end Event

/-- An event as it is told: with the identity of its run. -/
structure Notice where
  runId : String
  event : Event

/-- What is told, as an object. -/
def Notice.toJson (n : Notice) : Json := n.event.toJson n.runId

end RouteFlow.Run
