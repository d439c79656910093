import RouteFlow.Document.Step
import RouteFlow.Run.Task

/-!
# Step kinds

A registry names the kinds of steps and says how each kind makes a task of the parameters of a
step. The standard kinds are `assign`, `return`, `switch` and `http.` with one of five methods;
`script` comes on top where there is an evaluator.

* `Registry.standard`: the standard kinds.
-/

namespace RouteFlow.Pipeline

open Document (Step)
open Run (Task)

/-- Why the parameters of a step make no task. -/
inductive BuildFault where
  | assignNotMapping
  | noReturnValue
  | casesNotList
  | noCondition (number : Nat)
  | noNext (number : Nat)
  | argsNotMapping
  | noAddress
  | resultNotName
  | noScript
  | sourceNotString
  | other (reason : String)
  deriving DecidableEq

/-- The wording of a fault. -/
def BuildFault.message : BuildFault → String
  | .assignNotMapping => "`assign` must be a mapping of variable names to values"
  | .noReturnValue => "missing `return` value"
  | .casesNotList => "`switch` must be a list of cases"
  | .noCondition i => "case " ++ toString i ++ " has no `condition`"
  | .noNext i => "case " ++ toString i ++ " has no `next`"
  | .argsNotMapping => "`args` must be a mapping"
  | .noAddress => "`args.url` is required"
  | .resultNotName => "`result` must be a variable name"
  | .noScript => "missing `script` block"
  | .sourceNotString => "`script.source` must be a string"
  | .other reason => reason

/-- How a kind makes a task of a step. -/
abbrev Factory := Step → Except BuildFault Task

/-- The kinds that there are. -/
abbrev Registry := Entries Factory

/-! ### The standard kinds -/

/-- `assign`: a mapping of variables to values. -/
def assignTask : Factory := fun s =>
  match s.param? "assign" with
  | some (.object entries) => .ok (.assign entries)
  | _ => .error .assignNotMapping

/-- `return`: a value. -/
def returnTask : Factory := fun s =>
  match s.param? "return" with
  | some value => .ok (.reply value)
  | none => .error .noReturnValue

/-- The cases of a switch from number `i` on. -/
def readCases (i : Nat) : List Json → Except BuildFault (List Run.Case)
  | [] => .ok []
  | c :: rest =>
    match c.get? "condition", (c.get? "next").bind Json.text? with
    | none, _ => .error (.noCondition i)
    | _, none => .error (.noNext i)
    | some condition, some next => do
      let cases ← readCases (i + 1) rest
      .ok (⟨condition, next⟩ :: cases)

/-- `switch`: a list of cases. -/
def switchTask : Factory := fun s =>
  match s.param? "switch" with
  | some (.array cases) => (readCases 0 cases).map .choose
  | _ => .error .casesNotList

/-- The name under which a call puts its answer. -/
def callResult? (s : Step) : Except BuildFault (Option String) :=
  match s.param? "result" with
  | none => .ok none
  | some (.string name) => .ok (some name)
  | some _ => .error .resultNotName

/-- `http.` and a method: arguments with an address, and a name for the answer. -/
def callTask (settings : Run.CallSettings) (method : Http.Method) : Factory := fun s =>
  match s.param? "args" with
  | some (.object args) =>
    if Entries.has args "url" then do
      let result? ← callResult? s
      .ok (.call ⟨method, .object args, result?, settings⟩)
    else .error .noAddress
  | _ => .error .argsNotMapping

/-- `script`: a source, an input and a name for the result. -/
def scriptTask : Factory := fun s =>
  match s.param? "script" with
  | none => .error .noScript
  | some body =>
    match (body.get? "source").bind Json.text? with
    | none => .error .sourceNotString
    | some source =>
      .ok (.script ⟨source, (body.get? "input").getD .null, (s.param? "result").bind Json.text?⟩)

/-! ### Registries -/

/-- The methods of the `http.` kinds. -/
def callMethods : List Http.Method := [.get, .post, .put, .delete, .patch]

/-- The kind that calls with a method. -/
def callKind (m : Http.Method) : String := "http." ++ Text.lower m.name

namespace Registry

/-- The standard kinds. -/
def standard (settings : Run.CallSettings) : Registry :=
  [("assign", assignTask), ("return", returnTask), ("switch", switchTask)] ++
    callMethods.map fun m => (callKind m, callTask settings m)

/-- The kinds with `script`. -/
def withScript (r : Registry) : Registry := r.insert "script" scriptTask

/-- The names of the kinds, ascending. -/
def kinds (r : Registry) : List String := (Entries.names r).mergeSort (· ≤ ·)

end Registry
end RouteFlow.Pipeline
