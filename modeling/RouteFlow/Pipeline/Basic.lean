import RouteFlow.Document.Basic
import RouteFlow.Pipeline.Registry
import RouteFlow.Text.Quoted

/-!
# Pipelines

A pipeline is a document whose steps are bound to tasks. Binding fails at the first fault: a
missing declaration, no steps, a repeated name, and then step by step a `next` that leads nowhere,
a missing or unknown kind, and parameters that make no task. The names are put into an index before
the first step is bound, since a `next` may lead to a step further down.

* `bind`: the pipeline of a document.
* `Pipeline.position?`: the place of a step, by the index.
-/

namespace RouteFlow

namespace Pipeline

/-- A step with its task. -/
structure BoundStep where
  name : String
  kind : String
  next? : Option String
  task : Run.Task

end Pipeline

/-- A pipeline: at least one step, with distinct names. -/
structure Pipeline where
  name : String
  declaration : Document.Declaration
  steps : List Pipeline.BoundStep
  /-- The place of each step, by its name. -/
  index : Entries Nat

namespace Pipeline

/-! ### Views -/

/-- The public path of a pipeline. -/
def route (p : Pipeline) : String := p.declaration.route p.name

/-- The place of the step with a name. -/
def position? (p : Pipeline) (name : String) : Option Nat := p.index.get? name

/-- The step at a place. -/
def stepAt? (p : Pipeline) (i : Nat) : Option BoundStep := p.steps[i]?

/-- A step in words, without its task. -/
def BoundStep.describe (s : BoundStep) : String :=
  "BoundStep \x7b name: " ++ Text.quoted s.name ++ ", kind: " ++ Text.quoted s.kind ++ ", next: " ++
    (match s.next? with
      | none => "None"
      | some next => "Some(" ++ Text.quoted next ++ ")") ++ ", .. \x7d"

/-! ### Binding -/

/-- Why a document cannot be bound. -/
inductive BindError where
  | missingDeclaration (pipeline : String)
  | empty (pipeline : String)
  | duplicateStep (step : String)
  | unknownNext (step target : String)
  | missingKind (step : String)
  | unknownKind (step kind : String)
  | build (step kind : String) (fault : BuildFault)
  deriving DecidableEq

/-- The wording of an error. -/
def BindError.message : BindError → String
  | .missingDeclaration p => "pipeline `" ++ p ++ "` has no declaration"
  | .empty p => "pipeline `" ++ p ++ "` has no steps"
  | .duplicateStep s => "duplicate step name `" ++ s ++ "`"
  | .unknownNext s target => "step `" ++ s ++ "` names unknown next step `" ++ target ++ "`"
  | .missingKind s => "step `" ++ s ++ "` has no kind"
  | .unknownKind s kind => "step `" ++ s ++ "` uses unknown kind `" ++ kind ++ "`"
  | .build s kind fault =>
    "step `" ++ s ++ "` (" ++ kind ++ ") could not be built: " ++ fault.message

/-- Puts the names of steps into an index, with their places from `place` on. A name that is there
already is refused. -/
def addNames (index : Entries Nat) (place : Nat) : List String → Except BindError (Entries Nat)
  | [] => .ok index
  | n :: rest =>
    if index.has n then .error (.duplicateStep n)
    else addNames (index.insert n place) (place + 1) rest

/-- The task of a step. -/
def buildTask (registry : Registry) (s : Document.Step) : Except BindError Run.Task :=
  match s.kind? with
  | none | some "" => .error (.missingKind s.name)
  | some kind =>
    match registry.get? kind with
    | none => .error (.unknownKind s.name kind)
    | some factory => (factory s).mapError (.build s.name kind)

/-- Binds a step of a document whose steps have the names `names`. -/
def bindStep (registry : Registry) (names : List String) (s : Document.Step) :
    Except BindError BoundStep := do
  match s.next?.filter fun t => !(t == Document.endTarget || names.contains t) with
  | some target => .error (.unknownNext s.name target)
  | none =>
    let task ← buildTask registry s
    .ok ⟨s.name, s.kind, s.next?, task⟩

/-- Binds steps in order. -/
def bindSteps (registry : Registry) (names : List String) :
    List Document.Step → Except BindError (List BoundStep)
  | [] => .ok []
  | s :: rest => do
    let bound ← bindStep registry names s
    let others ← bindSteps registry names rest
    .ok (bound :: others)

/-- The pipeline of a document. -/
def bind (registry : Registry) (doc : Document) : Except BindError Pipeline := do
  match doc.declaration? with
  | none => .error (.missingDeclaration doc.name)
  | some declaration =>
    if doc.steps.isEmpty then .error (.empty doc.name)
    else
      let index ← addNames [] 0 (doc.steps.map (·.name))
      let steps ← bindSteps registry index.names doc.steps
      .ok ⟨doc.name, declaration, steps, index⟩

end Pipeline
end RouteFlow
