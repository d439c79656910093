import RouteFlow.Text.Numeral

/-!
# Punycode

The encoding of international labels in ASCII: the ASCII characters of a label come first, then,
after a hyphen, each other character as the distance to it in the order of code points, in digits
to the base 36 whose weights adapt to what came before.

* `encode`, `decode?`: a label in ASCII and back.
-/

namespace RouteFlow.Url.Punycode

/-- The digit with a value below 36. -/
def digit (n : Nat) : Char := Char.ofNat (if n < 26 then 97 + n else 22 + n)

/-- The value of a digit. -/
def digitValue? (c : Char) : Option Nat :=
  if 'a' ≤ c ∧ c ≤ 'z' then some (c.toNat - 97)
  else if 'A' ≤ c ∧ c ≤ 'Z' then some (c.toNat - 65)
  else if '0' ≤ c ∧ c ≤ '9' then some (c.toNat - 22)
  else none

/-- The threshold of the digit at position `k`, a multiple of 36. -/
def threshold (k bias : Nat) : Nat := if k ≤ bias then 1 else min (k - bias) 26

/-- Divides by 35 until the value is at most 455, counting in steps of 36. -/
def dampen (delta k : Nat) : Nat → Nat × Nat
  | 0 => (delta, k)
  | fuel + 1 => if 455 < delta then dampen (delta / 35) (k + 36) fuel else (delta, k)

/-- The bias after a distance `delta`, when `points` characters are placed. -/
def adapt (delta points : Nat) (isFirst : Bool) : Nat :=
  let damped := if isFirst then delta / 700 else delta / 2
  let (rest, k) := dampen (damped + damped / points) 0 64
  k + 36 * rest / (rest + 38)

/-- The digits of a distance. -/
def encodeNumber (bias q k : Nat) : Nat → List Char
  | 0 => []
  | fuel + 1 =>
    let t := threshold k bias
    if q < t then [digit q]
    else digit (t + (q - t) % (36 - t)) :: encodeNumber bias ((q - t) / (36 - t)) (k + 36) fuel

/-- The state of an encoding: the distance so far, the bias and the characters placed. -/
structure State where
  delta : Nat
  bias : Nat
  placed : Nat
  out : List Char

/-- Passes one character of the label while characters with the code `n` are placed. -/
def encodeChar (basic n : Nat) (s : State) (c : Char) : State :=
  if c.toNat < n then { s with delta := s.delta + 1 }
  else if c.toNat = n then
    { delta := 0
      bias := adapt s.delta (s.placed + 1) (s.placed == basic)
      placed := s.placed + 1
      out := s.out ++ encodeNumber s.bias s.delta 36 64 }
  else s

/-- Places the characters with the codes `codes`, which ascend, from code `n` on. -/
def encodeCodes (label : List Char) (basic n : Nat) (s : State) : List Nat → State
  | [] => s
  | code :: rest =>
    let s := { s with delta := s.delta + (code - n) * (s.placed + 1) }
    let s := label.foldl (encodeChar basic code) s
    encodeCodes label basic (code + 1) { s with delta := s.delta + 1 } rest

/-- The ASCII form of a label. -/
def encode (label : List Char) : List Char :=
  let basic := label.filter fun c => c.toNat < 128
  let codes := ((label.map Char.toNat).filter (128 ≤ ·)).mergeSort (· ≤ ·)
  let start : List Char := if basic.isEmpty then [] else basic ++ ['-']
  (encodeCodes label basic.length 128 ⟨0, 72, basic.length, start⟩ codes.eraseDups).out

/-- Reads a distance: its value, and what follows. -/
def decodeNumber (bias value weight k : Nat) : List Char → Option (Nat × List Char)
  | [] => none
  | c :: rest =>
    match digitValue? c with
    | none => none
    | some d =>
      let value := value + d * weight
      let t := threshold k bias
      if d < t then some (value, rest)
      else decodeNumber bias value (weight * (36 - t)) (k + 36) rest

/-- Places the characters that the digits tell of, one for each unit of fuel. -/
def decodeAll (n i bias : Nat) (isFirst : Bool) (out : List Char) :
    Nat → List Char → Option (List Char)
  | _, [] => some out
  | 0, _ => none
  | fuel + 1, cs =>
    match decodeNumber bias 0 1 36 cs with
    | none => none
    | some (value, rest) =>
      let points := out.length + 1
      let i := i + value
      let n := n + i / points
      if !n.isValidChar then none
      else
        let at' := i % points
        decodeAll n (at' + 1) (adapt value points isFirst) false
          (out.take at' ++ Char.ofNat n :: out.drop at') fuel rest

/-- The label that an ASCII form stands for. -/
def decode? (cs : List Char) : Option (List Char) :=
  let tail := (cs.reverse.takeWhile (· != '-')).reverse
  let basic := cs.take (cs.length - tail.length - 1)
  if cs.any fun c => 128 ≤ c.toNat then none
  else decodeAll 128 0 72 true basic (tail.length + 1) tail

end RouteFlow.Url.Punycode
