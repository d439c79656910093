import RouteFlow.Template.Path

/-!
# Templates

A template is text with references: `${path}` stands for the value that the path leads to, and the
first `}` ends a reference. `Template.parse` cuts a text into literal pieces and references;
`Template.render` writes the pieces down again. A value is checked by parsing every string in it.

* `Template.single?`: the path of a template that is one reference and nothing else.
* `Template.check`: whether each string of a value is a template, with the first fault if not.
-/

namespace RouteFlow

namespace Template

/-- A piece of a template. -/
inductive Piece where
  | literal (text : String)
  | reference (path : Path)
  deriving DecidableEq

/-- Why a text is not a template. -/
inductive TemplateError where
  | badPath (error : PathError)
  | unclosed
  deriving DecidableEq

/-- The wording of a template error. -/
def TemplateError.message : TemplateError → String
  | .badPath e => "invalid context path: " ++ e.message
  | .unclosed => "unclosed embedded expression (missing '\x7d')"

end Template

/-- A text cut into literal pieces and references. -/
structure Template where
  pieces : List Template.Piece
  deriving DecidableEq

namespace Template

/-! ### Reading -/

/-- A literal piece for characters gathered last to first, none for no characters. -/
def literalPieces (gathered : List Char) : List Piece :=
  if gathered.isEmpty then [] else [.literal (String.ofList gathered.reverse)]

/-- Reads pieces. `gathered` is the literal read so far and `inside` the path read so far if a
reference is open, both last character first. -/
def scan (gathered : List Char) : Option (List Char) → List Char → Except TemplateError (List Piece)
  | none, [] => .ok (literalPieces gathered)
  | none, '$' :: '{' :: rest => scan gathered (some []) rest
  | none, c :: rest => scan (c :: gathered) none rest
  | some _, [] => .error .unclosed
  | some inside, '}' :: rest => do
    let path ← (Path.parse (String.ofList inside.reverse)).mapError .badPath
    let pieces ← scan [] none rest
    .ok (literalPieces gathered ++ .reference path :: pieces)
  | some inside, c :: rest => scan gathered (some (c :: inside)) rest

/-- Reads a template. -/
def parse (s : String) : Except TemplateError Template := (scan [] none s.toList).map .mk

/-! ### Views -/

/-- The path of a template that is one reference. -/
def single? (t : Template) : Option Path :=
  match t.pieces with
  | [.reference p] => some p
  | _ => none

/-- Whether a piece is literal. -/
def Piece.isLiteral : Piece → Bool
  | .literal _ => true
  | .reference _ => false

/-- Whether a template has no reference. -/
def isLiteral (t : Template) : Bool := t.pieces.all Piece.isLiteral

/-- The paths of the references, in order. -/
def paths (t : Template) : List Path :=
  t.pieces.filterMap fun
    | .literal _ => none
    | .reference p => some p

/-- The text of a piece. -/
def Piece.render : Piece → List Char
  | .literal text => text.toList
  | .reference p => ['$', '{'] ++ p.text.toList ++ ['}']

/-- The text of a template. -/
def render (t : Template) : String := String.ofList (t.pieces.flatMap Piece.render)

/-! ### Checking values -/

mutual

/-- The strings in a value, in order. Names of members do not count. -/
def strings : Json → List String
  | .string s => [s]
  | .array items => stringsOfItems items
  | .object ms => stringsOfMembers ms
  | _ => []

/-- The strings in items. -/
def stringsOfItems : List Json → List String
  | [] => []
  | j :: rest => strings j ++ stringsOfItems rest

/-- The strings in the values of members. -/
def stringsOfMembers : List (String × Json) → List String
  | [] => []
  | (_, j) :: rest => strings j ++ stringsOfMembers rest

end

/-- The first fault among texts that should be templates. -/
def checkAll : List String → Except TemplateError Unit
  | [] => .ok ()
  | s :: rest =>
    match parse s with
    | .error e => .error e
    | .ok _ => checkAll rest

/-- Checks that each string in a value is a template. The check goes through the value part by part
(`check_string`, `check_array`, `check_object`). -/
def check (j : Json) : Except TemplateError Unit := checkAll (strings j)

theorem checkAll_append (a b : List String) :
    checkAll (a ++ b) = (checkAll a).bind fun _ => checkAll b := by
  induction a with
  | nil => rfl
  | cons s a ih =>
    cases h : parse s with
    | error e => simp [checkAll, h, Except.bind]
    | ok t => simpa [checkAll, h] using ih

theorem check_string (s : String) : check (.string s) = (parse s).map fun _ => () := by
  rw [check, strings, checkAll]
  cases parse s <;> rfl

/-- An array is checked item by item. -/
theorem check_array (items : List Json) : check (.array items) = items.forM check := by
  change checkAll (stringsOfItems items) = _
  induction items with
  | nil => rfl
  | cons j rest ih =>
    rw [stringsOfItems, checkAll_append, ih]
    rfl

/-- An object is checked member by member. -/
theorem check_object (ms : List (String × Json)) :
    check (.object ms) = ms.forM fun m => check m.2 := by
  change checkAll (stringsOfMembers ms) = _
  induction ms with
  | nil => rfl
  | cons m rest ih =>
    rw [stringsOfMembers, checkAll_append, ih]
    rfl

theorem checkAll_eq_ok_iff (l : List String) :
    checkAll l = .ok () ↔ ∀ s ∈ l, ∃ t, parse s = .ok t := by
  induction l with
  | nil => simp [checkAll]
  | cons s l ih => cases h : parse s <;> simp [checkAll, h, ih]

end Template
end RouteFlow
