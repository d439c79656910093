import RouteFlow.Json.Printer
import RouteFlow.Text.Blank

/-!
# Steps as written

A step of a document has a name, a kind, the step it goes on to and parameters. The kind is what
`call` says, and without `call` the first of `assign`, `switch`, `return` and `script` that stands
in the body.

* `Step.ofBody`: the step with a given body, refused if `next` is not a string.
-/

namespace RouteFlow.Document

/-- The target that ends a run. -/
def endTarget : String := "end"

/-- The body entries that tell the kind of a step, in order of precedence. -/
def tellingKeys : List String := ["assign", "switch", "return", "script"]

/-- A step of a document. -/
structure Step where
  name : String
  kind? : Option String
  next? : Option String
  parameters : Entries Json

namespace Step

/-- The kind that a body stands for. -/
def kindOf? (body : Entries Json) : Option String :=
  match body.get? "call" with
  | some call => call.text?.map Text.trimmed
  | none => tellingKeys.find? body.has

/-- The wording for a `next` that is not a string. -/
def badNext (found : Json) : String := "`next` must be a string, got " ++ found.compact

/-- The step `name` with the body `body`; the error is what stands under `next`. -/
def ofBody (name : String) (body : Entries Json) : Except Json Step :=
  let parameters := body.remove "next"
  match body.get? "next" with
  | none => .ok ⟨name, kindOf? body, none, body⟩
  | some (.string next) => .ok ⟨name, kindOf? parameters, some next, parameters⟩
  | some other => .error other

/-- The kind, empty if there is none. -/
def kind (s : Step) : String := s.kind?.getD ""

/-- A parameter of the step. -/
def param? (s : Step) (key : String) : Option Json := s.parameters.get? key

end Step
end RouteFlow.Document
