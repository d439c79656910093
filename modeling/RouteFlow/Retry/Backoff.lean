import RouteFlow.Clock
import RouteFlow.Decimal.Binary

/-!
# Growing waits

Before attempt `n + 1` the wait is drawn from the milliseconds up to a ceiling that grows with
`n`: the base delay times the `(n - 1)`-th power of the factor, but not beyond the longest wait.
The product is computed in doubles; what is not a number, or infinite, loses against the longest
wait.

* `draw?_le`: what is drawn does not exceed the ceiling.
-/

namespace RouteFlow.Retry

/-- The nearest double to a whole number, as a whole number. -/
def roundToDouble (n : Nat) : Nat :=
  if n < 2 * Decimal.Binary.leadingUnit then n
  else
    let unit := 1 <<< (n.log2 - 52)
    let below := n / unit
    let rest := n % unit
    if 2 * rest < unit ∨ (2 * rest = unit ∧ below % 2 = 0) then below * unit
    else (below + 1) * unit

/-- The whole part of a double, zero for a negative one; none if it is infinite or not a number. -/
def wholePart? (x : Float) : Option Nat :=
  let b := Decimal.Binary.ofBits x.toBits
  if b.isSpecial then if b.fraction = 0 && b.negative then some 0 else none
  else if b.negative || b.exponent = 0 then some 0
  else
    match b.scale with
    | .ofNat k => some (b.significand <<< k)
    | .negSucc k => some (b.significand >>> (k + 1))

/-- The power of a double by repeated squaring, one bit of the exponent for each unit of fuel. -/
def powerOf (x acc : Float) (n : Nat) : Nat → Float
  | 0 => acc
  | fuel + 1 =>
    let acc := if n % 2 = 1 then acc * x else acc
    if n < 2 then acc else powerOf (x * x) acc (n / 2) fuel

/-- The power of a double; the exponent is taken within 32 bits. -/
def power (x : Float) (exponent : Nat) : Float :=
  let n := Int.bmod exponent UInt32.size
  let p := powerOf x 1 n.natAbs 33
  if n < 0 then 1 / p else p

/-- The ceiling of the wait after attempt `attempt`, in milliseconds. -/
def ceiling (baseMillis : Nat) (factor : Float) (maxMillis attempt : Nat) : Nat :=
  let product := Float.ofNat baseMillis * power factor (attempt - 1)
  let cap := roundToDouble maxMillis
  let bound := match wholePart? product with
    | some n => min n cap
    | none => cap
  min bound (UInt64.size - 1)

/-- Draws from the numbers up to a ceiling by a random word; none if they are more than a word can
count. -/
def draw? (ceiling word : Nat) : Option Nat :=
  if ceiling = 0 then some 0
  else if ceiling + 1 < UInt64.size then some (word % (ceiling + 1))
  else none

theorem draw?_le {ceiling word n : Nat} (h : draw? ceiling word = some n) : n ≤ ceiling := by
  unfold draw? at h
  split at h
  · simp_all
  · split at h
    · simp only [Option.some.injEq] at h
      exact h ▸ Nat.le_of_lt_succ (Nat.mod_lt word (Nat.succ_pos ceiling))
    · simp at h

end RouteFlow.Retry
