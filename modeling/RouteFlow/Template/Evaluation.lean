import RouteFlow.Template.Basic
import RouteFlow.Json.Printer

/-!
# Evaluating templates

`evaluate` replaces each reference in the strings of a value by the value that its path leads to
among the variables. A string that is one reference becomes that value, whatever its type; in any
other string the text of the value takes the place of the reference. What is put in is not looked
at again.

* `EvalError`: a path that leads nowhere, or a string that is no template.
-/

namespace RouteFlow.Template

/-- Why a value cannot be evaluated. -/
inductive EvalError where
  | missing (path : Path)
  | malformed (error : TemplateError)
  deriving DecidableEq

/-- The wording of an evaluation error. -/
def EvalError.message : EvalError → String
  | .missing p => "no value at `" ++ p.text ++ "`"
  | .malformed e => "invalid expression: " ++ e.message

/-- The value that a path leads to, which must be there. -/
def fetch (vars : Entries Json) (p : Path) : Except EvalError Json :=
  match p.lookupIn vars with
  | some j => .ok j
  | none => .error (.missing p)

/-- The text of pieces with the references filled in. -/
def fill (vars : Entries Json) : List Piece → Except EvalError String
  | [] => .ok ""
  | .literal s :: rest => do
    let text ← fill vars rest
    .ok (s ++ text)
  | .reference p :: rest => do
    let j ← fetch vars p
    let text ← fill vars rest
    .ok (j.asText ++ text)

/-- The value of a template written as `s`. -/
def evaluateTemplate (vars : Entries Json) (s : String) (t : Template) : Except EvalError Json :=
  if t.isLiteral then .ok (.string s)
  else
    match t.single? with
    | some p => fetch vars p
    | none => (fill vars t.pieces).map .string

/-- The value of a string. -/
def evaluateString (vars : Entries Json) (s : String) : Except EvalError Json := do
  let t ← (parse s).mapError .malformed
  evaluateTemplate vars s t

mutual

/-- The value of a value: its strings are evaluated and all else stays as it is. -/
def evaluate (vars : Entries Json) : Json → Except EvalError Json
  | .string s => evaluateString vars s
  | .array items => (evaluateItems vars items).map .array
  | .object ms => (evaluateMembers vars ms).map .object
  | j => .ok j

/-- The values of items. -/
def evaluateItems (vars : Entries Json) : List Json → Except EvalError (List Json)
  | [] => .ok []
  | j :: rest => do
    let v ← evaluate vars j
    let vs ← evaluateItems vars rest
    .ok (v :: vs)

/-- The values of members; names stay as they are. -/
def evaluateMembers (vars : Entries Json) :
    List (String × Json) → Except EvalError (List (String × Json))
  | [] => .ok []
  | (k, j) :: rest => do
    let v ← evaluate vars j
    let vs ← evaluateMembers vars rest
    .ok ((k, v) :: vs)

end

end RouteFlow.Template
