/-!
# The fields of a double

The 64 bits of a double are its sign, eleven bits of exponent and 52 bits of fraction. An exponent
field of zero stands for zero and for the numbers below the normal ones, the greatest one for
infinities and for what is not a number; between them the significand has one more bit on top,
`leadingUnit`.
-/

namespace RouteFlow.Decimal

/-- The fields of a double. -/
structure Binary where
  negative : Bool
  exponent : Nat
  fraction : Nat
  deriving DecidableEq, Repr

namespace Binary

/-- How many values the fraction has, and the weight of the bit above it. -/
def leadingUnit : Nat := 0x10000000000000

/-- How many values the exponent field has. -/
def exponentCount : Nat := 2048

/-- The fields that 64 bits hold. -/
def ofBits (bits : UInt64) : Binary where
  negative := bits.toNat / (leadingUnit * exponentCount) == 1
  exponent := bits.toNat / leadingUnit % exponentCount
  fraction := bits.toNat % leadingUnit

/-- Whether the fields are those of an infinity or of what is not a number. -/
def isSpecial (b : Binary) : Bool := b.exponent == exponentCount - 1

/-- The significand of a normal number. -/
def significand (b : Binary) : Nat := leadingUnit + b.fraction

/-- The power of two by which the significand of a normal number counts. -/
def scale (b : Binary) : Int := (b.exponent : Int) - 1075

end Binary
end RouteFlow.Decimal
