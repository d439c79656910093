import RouteFlow.Document.Basic
import RouteFlow.Template.Basic

/-!
# Validation

`Document.violations` lists everything that is wrong with a document, each defect with the place it
is found at: the declaration first, then the steps one by one, then the targets of `next`, then
those of switch cases. A document without violations is valid.

* `Step.evaluatedParameters`: the part of a step whose strings have to be templates.
-/

namespace RouteFlow.Document

/-! ### Defects -/

/-- What can be wrong with a document. -/
inductive Defect where
  | noDeclaration
  | notDeclare
  | emptyNamespace
  | slashedNamespace
  | fieldMissing
  | fieldRepeated
  | noSteps
  | badStepName
  | reservedStepName
  | repeatedStepName
  | noKind
  | secondDeclaration
  | badExpression (error : Template.TemplateError)
  | unknownTarget (target : String)
  | casesNotList
  | casePartMissing
  deriving DecidableEq

/-- The wording of a defect. -/
def Defect.message : Defect → String
  | .noDeclaration => "pipeline must start with a declaration"
  | .notDeclare => "must be `declare`"
  | .emptyNamespace => "must not be empty"
  | .slashedNamespace => "must not start or end with '/'"
  | .fieldMissing => "must be provided"
  | .fieldRepeated => "must be unique"
  | .noSteps => "pipeline must have at least one step"
  | .badStepName => "step name must match regex [A-Za-z0-9_\\-]+"
  | .reservedStepName => "`end` is reserved and cannot name a step"
  | .repeatedStepName => "step name must be unique"
  | .noKind =>
    "cannot determine step kind (expected `call`, `assign`, `switch`, `return` or `script`)"
  | .secondDeclaration => "only one declaration is allowed per pipeline"
  | .badExpression e => "invalid expression: " ++ e.message
  | .unknownTarget target =>
    "must reference an existing step or `end` (got `" ++ target ++ "`)"
  | .casesNotList => "must be a list of cases"
  | .casePartMissing => "must be provided"

/-- A defect and its place in the document. -/
structure Violation where
  path : String
  defect : Defect
  deriving DecidableEq

/-- The wording of a violation. -/
def Violation.message (v : Violation) : String := v.path ++ ": " ++ v.defect.message

/-- A violation at `path` if `fails`. -/
def violationIf (fails : Bool) (path : String) (defect : Defect) : List Violation :=
  if fails then [⟨path, defect⟩] else []

/-! ### The declaration -/

/-- The violations of allowed fields from number `i` on, after the names `seen`. -/
def fieldViolations (path : String) (seen : List String) (i : Nat) :
    List AllowedField → List Violation
  | [] => []
  | f :: rest =>
    let place := path ++ "[" ++ toString i ++ "].field"
    match f.field?.map Text.trimmed with
    | none | some "" => ⟨place, .fieldMissing⟩ :: fieldViolations path seen (i + 1) rest
    | some name =>
      violationIf (seen.contains name) place .fieldRepeated ++
        fieldViolations path (name :: seen) (i + 1) rest

/-- The violations of a namespace. -/
def namespaceViolations (path : String) (ns : String) : List Violation :=
  let cs := Text.trim ns.toList
  if cs.isEmpty then [⟨path, .emptyNamespace⟩]
  else violationIf (cs.head? == some '/' || cs.getLast? == some '/') path .slashedNamespace

/-- The violations of a declaration. -/
def Declaration.violations (d : Declaration) : List Violation :=
  violationIf (d.call?.any (· != declareCall)) "$.declaration.call" .notDeclare ++
  namespaceViolations "$.declaration.namespace" d.namespacePath ++
  fieldViolations "$.declaration.allowlist.body" [] 0 d.bodyFields ++
  fieldViolations "$.declaration.allowlist.params" [] 0 d.paramFields

/-! ### Steps -/

/-- The parameters of a step that are evaluated as templates: all but the source of a script, which
is the evaluator's own. -/
def Step.evaluatedParameters (s : Step) : Json :=
  .object <|
    if s.kind = "script" then
      s.parameters.adjust "script" fun
        | .object script => .object (Entries.remove script "source")
        | other => other
    else s.parameters

/-- The violations of a step's kind. -/
def kindViolations (path : String) : Option String → List Violation
  | none | some "" => [⟨path, .noKind⟩]
  | some kind => violationIf (kind == declareCall) path .secondDeclaration

/-- The violations of a step's templates. -/
def expressionViolations (path : String) (parameters : Json) : List Violation :=
  match Template.check parameters with
  | .ok _ => []
  | .error e => [⟨path, .badExpression e⟩]

/-- The violations of a step after steps with the names `seen`. -/
def Step.violations (seen : List String) (s : Step) : List Violation :=
  let path := "$." ++ s.name
  violationIf (!Template.isName s.name.toList) path .badStepName ++
  violationIf (s.name == endTarget) path .reservedStepName ++
  violationIf (seen.contains s.name) path .repeatedStepName ++
  kindViolations path s.kind? ++
  expressionViolations path s.evaluatedParameters

/-- The violations of steps one by one. -/
def stepViolations (seen : List String) : List Step → List Violation
  | [] => []
  | s :: rest => s.violations seen ++ stepViolations (s.name :: seen) rest

/-! ### Targets -/

/-- Whether a target is the end or among the names. -/
def isTarget (names : List String) (target : String) : Bool :=
  target == endTarget || names.contains target

/-- The violations of a step's `next`. -/
def Step.nextViolations (names : List String) (s : Step) : List Violation :=
  match s.next? with
  | none => []
  | some next =>
    violationIf (!isTarget names next) ("$." ++ s.name ++ ".next") (.unknownTarget next)

/-- The violations of a switch case. -/
def caseViolations (names : List String) (path : String) (c : Json) : List Violation :=
  violationIf (c.get? "condition").isNone (path ++ ".condition") .casePartMissing ++
  match (c.get? "next").bind Json.text? with
  | none => [⟨path ++ ".next", .casePartMissing⟩]
  | some target => violationIf (!isTarget names target) (path ++ ".next") (.unknownTarget target)

/-- The violations of switch cases from number `i` on. -/
def casesViolations (names : List String) (path : String) (i : Nat) : List Json → List Violation
  | [] => []
  | c :: rest =>
    caseViolations names (path ++ "[" ++ toString i ++ "]") c ++
      casesViolations names path (i + 1) rest

/-- The violations of the cases of a switch step. -/
def Step.switchViolations (names : List String) (s : Step) : List Violation :=
  let path := "$." ++ s.name ++ ".switch"
  if s.kind = "switch" then
    match (s.param? "switch").bind Json.items? with
    | none => [⟨path, .casesNotList⟩]
    | some cases => casesViolations names path 0 cases
  else []

/-! ### Documents -/

/-- The names of the steps. -/
def stepNames (doc : Document) : List String := doc.steps.map (·.name)

/-- Everything that is wrong with a document. -/
def violations (doc : Document) : List Violation :=
  (match doc.declaration? with
    | none => [⟨"$.declaration", .noDeclaration⟩]
    | some d => d.violations) ++
  violationIf doc.steps.isEmpty "$" .noSteps ++
  stepViolations [] doc.steps ++
  doc.steps.flatMap (Step.nextViolations doc.stepNames) ++
  doc.steps.flatMap (Step.switchViolations doc.stepNames)

/-- Whether nothing is wrong with a document. -/
def isValid (doc : Document) : Bool := doc.violations.isEmpty

/-- The wording of the verdict on a document with violations. -/
def invalidMessage (violations : List Violation) : String :=
  "pipeline document failed validation (" ++ toString violations.length ++ " violations)"

end RouteFlow.Document
