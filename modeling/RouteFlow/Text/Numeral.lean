/-!
# Numerals

Natural numbers written in decimal digits, with an optional plus sign, and the bounded forms that
fit a machine word.
-/

namespace RouteFlow.Text

/-- Whether a character is one of `0` to `9`. -/
def isDecimal (c : Char) : Bool := '0' ≤ c && c ≤ '9'

/-- The number that digits denote. -/
def digitsValue (cs : List Char) : Nat := cs.foldl (fun n c => n * 10 + (c.toNat - 48)) 0

/-- The number that a non-empty text of digits denotes. -/
def digits? (cs : List Char) : Option Nat :=
  if !cs.isEmpty && cs.all isDecimal then some (digitsValue cs) else none

/-- The number that digits after an optional `+` denote. -/
def natural? : List Char → Option Nat
  | '+' :: cs => digits? cs
  | cs => digits? cs

/-- A number below `bound`. -/
def naturalBelow? (bound : Nat) (cs : List Char) : Option Nat :=
  (natural? cs).filter (· < bound)

/-- A number of 64 bits. -/
def word64? (cs : List Char) : Option Nat := naturalBelow? UInt64.size cs

end RouteFlow.Text
