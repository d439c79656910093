import RouteFlow.Text.Numeral

/-!
# Reading decimals

`real?` reads a decimal such as `-1.5e3` as the nearest double. Digits may stand on either side of
the point, on at least one of them, and the exponent may be left out.
-/

namespace RouteFlow.Decimal

/-- A decimal as written: its digits before and after the point and its exponent. -/
structure Written where
  negative : Bool
  whole : List Char
  places : List Char
  exponent : Int
  deriving DecidableEq

/-- Reads a sign: whether it is a minus, and what follows. -/
def readSign : List Char → Bool × List Char
  | '-' :: cs => (true, cs)
  | '+' :: cs => (false, cs)
  | cs => (false, cs)

/-- Reads an exponent after its `e`. -/
def readExponent? (cs : List Char) : Option Int :=
  let (negative, ds) := readSign cs
  (Text.digits? ds).map fun n => if negative then -(n : Int) else n

/-- Takes a decimal apart. -/
def written? (cs : List Char) : Option Written :=
  let (negative, cs) := readSign cs
  let whole := cs.takeWhile Text.isDecimal
  let rest := cs.dropWhile Text.isDecimal
  let (places, rest) :=
    match rest with
    | '.' :: rest => (rest.takeWhile Text.isDecimal, rest.dropWhile Text.isDecimal)
    | rest => ([], rest)
  if whole.isEmpty && places.isEmpty then none
  else
    match rest with
    | [] => some ⟨negative, whole, places, 0⟩
    | e :: rest =>
      if e = 'e' ∨ e = 'E' then (readExponent? rest).map (⟨negative, whole, places, ·⟩) else none

/-- The nearest double to `digits * 10 ^ exponent`; infinite if the value exceeds all of them. -/
def nearest (digits : Nat) (exponent : Int) : Float :=
  let size : Int := exponent + (Nat.toDigits 10 digits).length
  if digits = 0 ∨ size < -400 then 0
  else if 400 < size then 1 / 0
  else Float.ofScientific digits (exponent < 0) exponent.natAbs

/-- The double nearest to a decimal. -/
def Written.toFloat (w : Written) : Float :=
  let x := nearest (Text.digitsValue (w.whole ++ w.places)) (w.exponent - w.places.length)
  if w.negative then -x else x

/-- Reads a decimal as a double, infinite if it exceeds all of them. -/
def real? (cs : List Char) : Option Float := (written? cs).map Written.toFloat

end RouteFlow.Decimal
