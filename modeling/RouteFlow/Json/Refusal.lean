import RouteFlow.Text.Numeral

/-!
# Refusals

A value of the right kind may be refused all the same, with a reason in words. A reason that ends
with a line and a column names its own place, which then stands for the place of the value; line 0
stands for no place.

* `Refusal.ofReason`: a reason with the place that it names.
-/

namespace RouteFlow.Json

/-- Why a value is refused, and the line and the column that the reason names. -/
structure Refusal where
  reason : String
  place? : Option (Nat × Nat)
  deriving DecidableEq, Repr

namespace Refusal

/-- The wording of a place behind a reason. -/
def placeText (line column : Nat) : String :=
  " at line " ++ toString line ++ " column " ++ toString column

/-- The number of 64 bits at the front, and what follows its digits. -/
def number? (cs : List Char) : Option (Nat × List Char) :=
  let digits := cs.takeWhile Text.isDecimal
  ((Text.digits? digits).filter (· < UInt64.size)).map (·, cs.drop digits.length)

/-- The line and the column that a text consists of, the words before the line left out. -/
def placeOf? (cs : List Char) : Option (Nat × Nat) := do
  let (line, rest) ← number? cs
  let words := " column ".toList
  if words.isPrefixOf rest then
    let (column, rest) ← number? (rest.drop words.length)
    if rest.isEmpty then some (line, column) else none
  else none

/-- What comes before and after the last place at which `words` stand in a text. -/
def cutLast? (words : List Char) : List Char → Option (List Char × List Char)
  | [] => none
  | c :: rest =>
    match cutLast? words rest with
    | some (before, after) => some (c :: before, after)
    | none =>
      if words.isPrefixOf (c :: rest) then some ([], (c :: rest).drop words.length) else none

/-- A reason with the place that it names at its end. -/
def ofReason (reason : String) : Refusal :=
  match cutLast? " at line ".toList reason.toList with
  | none => ⟨reason, none⟩
  | some (before, after) =>
    match placeOf? after with
    | none => ⟨reason, none⟩
    | some place => ⟨String.ofList before, if place.1 = 0 then none else some place⟩

end Refusal
end RouteFlow.Json
