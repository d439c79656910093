import RouteFlow.Json.Basic
import RouteFlow.Json.Source.Place

/-!
# Numbers as written

The form of a number and its value are two matters: one with a sound form may still exceed every
finite double. A whole number that fits 64 bits is exact; every other number is the double that its
digits and its exponent scale to, rounded at each scaling.

* `readNumber`: reads a number after its sign.
* `realValue`: the double written with given digits.
-/

namespace RouteFlow.Json

/-- The value of the digits `ds`. -/
def digitsValue (ds : List UInt8) : Nat := ds.foldl (fun n b => n * 10 + (b.toNat - 0x30)) 0

/-- How many leading digits keep the value within 64 bits, continued from `acc`. -/
def wordDigits (acc : Nat) : List UInt8 → Nat × Nat
  | [] => (acc, 0)
  | b :: rest =>
    let next := acc * 10 + (b.toNat - 0x30)
    if next < UInt64.size then
      let (value, n) := wordDigits next rest
      (value, n + 1)
    else (acc, 0)

/-- `significand * 10 ^ exponent` as a double, rounded after each multiplication or division by a
power of ten up to 10^308. None if the value exceeds every finite double. -/
def scaledReal (significand : Float) (exponent : Int) : Nat → Option Float
  | 0 => some significand
  | fuel + 1 =>
    if exponent.natAbs ≤ 308 then
      let power := Float.ofScientific 1 false exponent.natAbs
      if 0 ≤ exponent then
        let x := significand * power
        if x.isInf then none else some x
      else some (significand / power)
    else if significand == 0 then some significand
    else if 0 ≤ exponent then none
    else scaledReal (significand / Float.ofScientific 1 false 308) (exponent + 308) fuel

/-- The greatest exponent that is taken literally. -/
def exponentLimit : Nat := 2147483647

/-- How many digits follow the one that carries the value beyond `exponentLimit`. -/
def digitsBeyond (acc : Nat) : List UInt8 → Nat
  | [] => 0
  | b :: rest =>
    let next := acc * 10 + (b.toNat - 0x30)
    if next > exponentLimit then rest.length else digitsBeyond next rest

/-- The double written with these digits: those beyond 64 bits before the point count only by their
number, and those after it not at all. -/
def realValue (negative : Bool) (whole places : List UInt8) (expNegative : Bool)
    (exp : List UInt8) : Option Float :=
  let (high, used) := wordDigits 0 whole
  let dropped := whole.length - used
  let (significand, usedPlaces) := wordDigits high places
  let signed (x : Float) : Float := if negative then -x else x
  let given := digitsValue exp
  let shift : Int := (dropped : Int) - usedPlaces
  if given > exponentLimit then
    if significand != 0 && !expNegative then none else some (signed 0)
  else
    let total : Int := if expNegative then shift - given else shift + given
    (scaledReal (UInt64.ofNat significand).toFloat total (given + 4)).map signed

/-- The number written with these parts. -/
def numberValue (negative : Bool) (whole : List UInt8) (places : Option (List UInt8))
    (exp : Option (Bool × List UInt8)) : Option Number :=
  match places, exp with
  | none, none =>
    let n := digitsValue whole
    if !negative && n < UInt64.size then some (.whole n)
    else if negative && 0 < n && 2 * n ≤ UInt64.size then some (.whole (-n))
    else (realValue negative whole [] false []).map .real
  | places, exp =>
    let (expNegative, expDigits) := exp.getD (false, [])
    (realValue negative whole (places.getD []) expNegative expDigits).map .real

/-- Reads the digits after an `e`, the sign first. -/
def readExponent (p : Place) : Except FaultAt (Bool × List UInt8 × Place) :=
  let (negative, q) :=
    match p.rest with
    | 0x2B :: _ => (false, p.advance 1)
    | 0x2D :: _ => (true, p.advance 1)
    | _ => (false, p)
  match q.rest with
  | [] => .error (q.fault .endInValue)
  | b :: _ =>
    if isDigit b then
      let ds := q.rest.takeWhile isDigit
      .ok (negative, ds, q.advance ds.length)
    else .error ((q.advance 1).fault .badNumber)

/-- Reads what follows the whole part of a number. -/
def readFraction (p : Place) :
    Except FaultAt (Option (List UInt8) × Option (Bool × List UInt8) × Place) := do
  let (places, q) ←
    match p.rest with
    | 0x2E :: _ =>
      let q := p.advance 1
      let ds := q.rest.takeWhile isDigit
      if ds.isEmpty then
        .error (q.faultNext (if q.rest.isEmpty then .endInValue else .badNumber))
      else .ok (some ds, q.advance ds.length)
    | _ => .ok (none, p)
  match q.rest with
  | b :: _ =>
    if b = 0x65 ∨ b = 0x45 then
      let (negative, ds, r) ← readExponent (q.advance 1)
      .ok (places, some (negative, ds), r)
    else .ok (places, none, q)
  | [] => .ok (places, none, q)

/-- Reads a number after its sign; the value stands apart from the form. -/
def readNumber (negative : Bool) (p : Place) : Except FaultAt (Except FaultAt Number × Place) := do
  let (whole, q) ←
    match p.rest with
    | [] => .error (p.fault .endInValue)
    | 0x30 :: next :: _ =>
      if isDigit next then .error ((p.advance 1).faultNext .badNumber)
      else .ok ([0x30], p.advance 1)
    | b :: _ =>
      if isDigit b then
        let ds := p.rest.takeWhile isDigit
        .ok (ds, p.advance ds.length)
      else .error ((p.advance 1).fault .badNumber)
  let (places, exp, r) ← readFraction q
  let unread := digitsBeyond 0 ((exp.map (·.2)).getD [])
  .ok (((numberValue negative whole places exp).map Except.ok).getD
    (.error ⟨.numberOutOfRange, r.offset - unread⟩), r)

end RouteFlow.Json
