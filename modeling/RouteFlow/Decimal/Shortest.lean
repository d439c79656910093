import RouteFlow.Decimal.Binary

/-!
# The shortest decimal of a binary fraction

A finite double is `m * 2 ^ q`. The reals that round to it form an interval around it, closed when
`m` is even. `Shortest.ofParts` looks for a decimal with as few digits as possible inside that
interval: for 1, 2, … 17 digits it tries the two neighbours of the value on the grid of decimals of
that length. A point of a grid lies in the interval only if a neighbour of the value does, so the
first grid with a hit gives the least number of digits; of two hits the nearer one is taken, and of
two equally near ones the even one.
-/

namespace RouteFlow.Decimal

/-- The decimal `digits * 10 ^ exponent`. -/
structure Scaled where
  digits : Nat
  exponent : Int
  deriving DecidableEq, Repr

/-- The value `num / den`, cut into natural numbers. -/
structure Ratio where
  num : Nat
  den : Nat

namespace Ratio

/-- `n * base ^ e`. -/
def scale (n base : Nat) (e : Int) : Ratio :=
  match e with
  | .ofNat k => ⟨n * Nat.pow base k, 1⟩
  | .negSucc k => ⟨n, Nat.pow base (k + 1)⟩

/-- Whether one ratio is below another. -/
def lt (a b : Ratio) : Bool := a.num * b.den < b.num * a.den

/-- Whether one ratio is not above another. -/
def le (a b : Ratio) : Bool := a.num * b.den ≤ b.num * a.den

/-- The distance between two ratios. -/
def dist (a b : Ratio) : Ratio :=
  let x := a.num * b.den
  let y := b.num * a.den
  ⟨if x ≤ y then y - x else x - y, a.den * b.den⟩

end Ratio

namespace Shortest

/-- The reals that round to `m * 2 ^ q`, from `low` to `high`, ends included when `closed`. -/
structure Interval where
  value : Ratio
  low : Ratio
  high : Ratio
  closed : Bool

/-- Half a unit lies on either side; below a power of two the neighbour is only half as far. -/
def Interval.ofParts (m : Nat) (q : Int) (narrowBelow : Bool) : Interval where
  value := Ratio.scale m 2 q
  low := Ratio.scale (4 * m - if narrowBelow then 1 else 2) 2 (q - 2)
  high := Ratio.scale (4 * m + 2) 2 (q - 2)
  closed := m % 2 == 0

/-- Whether a ratio lies in the interval. -/
def Interval.has (i : Interval) (r : Ratio) : Bool :=
  if i.closed then i.low.le r && r.le i.high else i.low.lt r && r.lt i.high

/-- The greatest `e` with `10 ^ e ≤ r`, searched downwards from `top`. -/
def magnitude (r : Ratio) (top : Int) : Nat → Int
  | 0 => top
  | fuel + 1 => if (Ratio.scale 1 10 top).le r then top else magnitude r (top - 1) fuel

/-- The decimal with exponent `k` that the interval holds and that lies nearest its value. -/
def onGrid? (i : Interval) (k : Int) : Option Scaled :=
  let unit := Ratio.scale 1 10 k
  let below := (i.value.num * unit.den) / (i.value.den * unit.num)
  let a := Ratio.scale below 10 k
  let b := Ratio.scale (below + 1) 10 k
  match i.has a && below != 0, i.has b with
  | false, false => none
  | true, false => some ⟨below, k⟩
  | false, true => some ⟨below + 1, k⟩
  | true, true =>
    let da := i.value.dist a
    let db := i.value.dist b
    if da.lt db then some ⟨below, k⟩
    else if db.lt da then some ⟨below + 1, k⟩
    else some ⟨if below % 2 == 0 then below else below + 1, k⟩

/-- Tries grids of `n`, `n + 1`, … digits for a value whose leading digit has weight `10 ^ e`. -/
def search (i : Interval) (e : Int) (n : Nat) : Nat → Scaled
  | 0 => ⟨0, 0⟩
  | fuel + 1 =>
    match onGrid? i (e - n + 1) with
    | some d => d
    | none => search i e (n + 1) fuel

/-- Moves the trailing zeros of the digits into the exponent. -/
def strip (d : Scaled) : Nat → Scaled
  | 0 => d
  | fuel + 1 =>
    if d.digits != 0 && d.digits % 10 == 0 then strip ⟨d.digits / 10, d.exponent + 1⟩ fuel else d

/-- The shortest decimal that rounds to `m * 2 ^ q`, for `m ≠ 0`. -/
def ofParts (m : Nat) (q : Int) (narrowBelow : Bool) : Scaled :=
  let i := Interval.ofParts m q narrowBelow
  strip (search i (magnitude i.value 309 640) 1 20) 20

end Shortest

/-- The shortest decimal that reads back as the positive finite double with these bits, the sign
bit left out of account. -/
def ofBits (bits : UInt64) : Scaled :=
  let b := Binary.ofBits bits
  if b.exponent = 0 then
    if b.fraction = 0 then ⟨0, 0⟩ else Shortest.ofParts b.fraction (-1074) false
  else Shortest.ofParts b.significand b.scale (b.fraction == 0 && b.exponent != 1)

end RouteFlow.Decimal
