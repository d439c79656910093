import RouteFlow.Document.Declaration
import RouteFlow.Document.Step

/-!
# Pipeline documents

A document is an object: one entry is the declaration and the others are the steps, in their order.
The entry named `declaration` declares; without it, the first entry whose `call` is `declare`.

* `Document.ofJson`: the document that a value describes, or the first entry that is amiss.
-/

namespace RouteFlow

/-- A pipeline as written: its name, its declaration if it has one, and its steps. -/
structure Document where
  name : String
  declaration? : Option Document.Declaration
  steps : List Document.Step

namespace Document

/-- The entry in which a declaration is usually written. -/
def declarationKey : String := "declaration"

/-- Why a step body is no step. -/
inductive StepFault where
  | notMapping
  | badNext (found : Json)

/-- The wording of a step fault. -/
def StepFault.message : StepFault → String
  | .notMapping => "step body must be a mapping"
  | .badNext found => Step.badNext found

/-- Why a value is no document. -/
inductive Fault where
  | notMapping
  | badDeclaration (error : Json.ShapeError)
  | badStep (name : String) (fault : StepFault)

/-- The wording of a fault. -/
def Fault.message : Fault → String
  | .notMapping => "pipeline document must be a mapping of step names to step bodies"
  | .badDeclaration e => "invalid declaration: " ++ e.message
  | .badStep name fault => "invalid step `" ++ name ++ "`: " ++ fault.message

/-- Whether the body of an entry says that it declares. -/
def declares (body : Json) : Bool := (body.get? "call").bind Json.text? == some declareCall

/-- The entry that holds the declaration. -/
def declaringKey? (entries : Entries Json) : Option String :=
  if entries.has declarationKey then some declarationKey
  else (entries.find? fun (_, body) => declares body).map (·.1)

/-- The step in the entry `name`. -/
def readStep (name : String) : Json → Except Fault Step
  | .object body => (Step.ofBody name body).mapError fun found => .badStep name (.badNext found)
  | _ => .error (.badStep name .notMapping)

/-- Reads entries in order, the one named `declaring` as the declaration. -/
def readEntries (declaring : Option String) :
    Entries Json → Except Fault (Option Declaration × List Step)
  | [] => .ok (none, [])
  | (key, body) :: rest =>
    if declaring = some key then do
      let d ← (Declaration.reader.ofJson body).mapError .badDeclaration
      let (_, steps) ← readEntries declaring rest
      .ok (some d, steps)
    else do
      let step ← readStep key body
      let (d, steps) ← readEntries declaring rest
      .ok (d, step :: steps)

/-- The document `name` that a value describes. -/
def ofJson (name : String) : Json → Except Fault Document
  | .object entries => do
    let (d, steps) ← readEntries (declaringKey? entries) entries
    .ok ⟨name, d, steps⟩
  | _ => .error .notMapping

/-- The first step named `name`. -/
def step? (doc : Document) (name : String) : Option Step := doc.steps.find? (·.name == name)

/-- The position of the first step named `name`. -/
def stepIndex? (doc : Document) (name : String) : Option Nat :=
  doc.steps.findIdx? (·.name == name)

end Document
end RouteFlow
