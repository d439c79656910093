import RouteFlow.Http.Exchange
import RouteFlow.Run.Cause
import RouteFlow.Template.Evaluation

/-!
# Failures

Why a step fails, and what the caller of a pipeline learns of it. Every cause has a kind, the kind
determines the cause code, and the code determines the status of the answer; the wording plays no
part in it.

* `Failure.kind`, `Failure.message?`: kind and wording of a failure.
* `RunError`: a failure with the pipeline and the step that it is attributed to.
-/

namespace RouteFlow.Run

/-! ### Causes -/

/-- Why the evaluator of scripts gave no value. -/
inductive ScriptError where
  | compile (detail : String)
  | runtime (detail : String)
  | unavailable (detail : String)
  deriving DecidableEq

/-- The wording of a script error. -/
def ScriptError.message : ScriptError → String
  | .compile detail => "script compilation failed: " ++ detail
  | .runtime detail => "script execution failed: " ++ detail
  | .unavailable detail => "script engine unavailable: " ++ detail

/-- Why a step failed or a run could not go on. -/
inductive Failure where
  /-- A template could not be evaluated. -/
  | evaluation (error : Template.EvalError)
  /-- The address of a call is not a string. -/
  | addressNotString
  /-- The address of a call is no address. -/
  | badAddress (text : String) (fault : Url.Fault)
  /-- A call brought no answer. -/
  | call (error : Http.CallError)
  /-- The body of an answer is not the JSON that it claims to be. -/
  | badBody (error : Json.TextError)
  /-- The evaluator of scripts gave no value. -/
  | script (error : ScriptError)
  /-- The deadline passed during a step; `inCall` tells whether the step makes calls. -/
  | deadline (inCall : Bool)
  /-- A step was reached when no more steps may be invoked. -/
  | budgetSpent (limit : Nat)
  /-- A jump names no step. -/
  | unknownStep (target : String)
  /-- A step of a kind of its own reports a failure. -/
  | reported (kind : FailureKind) (detail? : Option String)
  deriving DecidableEq

namespace Failure

/-- The kind of a failure. -/
def kind : Failure → FailureKind
  | .evaluation (.missing _) => .missingValue
  | .evaluation (.malformed _) => .other
  | .addressNotString | .badAddress .. => .other
  | .call _ | .badBody _ => .network
  | .script _ => .script
  | .deadline true => .network
  | .deadline false => .cancelled
  | .budgetSpent _ | .unknownStep _ => .integrity
  | .reported kind _ => kind

/-- The wording of a failure, if it has any. -/
def message? : Failure → Option String
  | .evaluation e => some e.message
  | .addressNotString => some "`args.url` did not evaluate to a string"
  | .badAddress text fault => some ("invalid url `" ++ text ++ "`: " ++ fault.message)
  | .call e => some e.message
  | .badBody e => some (Http.CallError.malformed ("invalid JSON body: " ++ e.message)).message
  | .script e => some e.message
  | .deadline true => some "deadline exceeded while awaiting a remote call"
  | .deadline false => some "deadline exceeded"
  | .budgetSpent limit => some ("step budget of " ++ toString limit ++ " invocations exhausted")
  | .unknownStep target => some ("unknown step `" ++ target ++ "`")
  | .reported _ detail? => detail?

/-- Kind and wording of a failure. -/
def text (f : Failure) : String :=
  f.kind.name ++ " failure: " ++ f.message?.getD "(no detail)"

end Failure

/-! ### Attribution -/

/-- A failure with the pipeline and the step that it is attributed to. -/
structure RunError where
  pipeline : String
  step : String
  failure : Failure
  deriving DecidableEq

namespace RunError

/-- The cause code of an error. -/
def cause (e : RunError) : CauseCode := e.failure.kind.cause

/-- The wording of an error. -/
def message (e : RunError) : String :=
  "pipeline `" ++ e.pipeline ++ "` failed at step `" ++ e.step ++ "` with " ++ e.cause.name

/-- The wording of the step's part in an error. -/
def stepMessage (e : RunError) : String := "error executing: " ++ e.step

/-- The object that the caller is answered with. -/
def toJson (e : RunError) : Json :=
  .object [
    ("dslName", .string e.pipeline),
    ("stepName", .string e.step),
    ("causeCode", .string e.cause.name),
    ("message", Json.ofText? e.failure.message?)]

end RunError
end RouteFlow.Run
