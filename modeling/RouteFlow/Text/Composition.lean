import RouteFlow.Text.Composition.Order
import RouteFlow.Text.Composition.Pairs

/-!
# Composed form

Texts that differ only in whether a letter and its marks are written as one character or as
several, or in the order of marks that do not touch one another, have one composed form: every
composed character is taken apart, the marks after each letter are sorted by their class, and each
letter is then put together with the marks that follow it, as far as nothing between them is in the
way.

* `compose`: the composed form of a text.
-/

namespace RouteFlow.Text

/-! ### Syllables of the Korean script -/

/-- Composed syllables are numbered by their initial, vowel and final letter: 19 times 21 times 28
of them, no final letter included. -/
def syllableBase : Nat := 0xAC00

/-- How many composed syllables there are. -/
def syllableCount : Nat := 11172

/-- The character before the first final letter. -/
def finalBase : Nat := 0x11A7

/-- The pair that a composed syllable stands for. -/
def syllablePair? (c : Nat) : Option (Nat × Nat) :=
  if syllableBase ≤ c ∧ c < syllableBase + syllableCount then
    let n := c - syllableBase
    if n % 28 = 0 then some (0x1100 + n / 588, 0x1161 + n % 588 / 28)
    else some (c - n % 28, finalBase + n % 28)
  else none

/-- The composed syllable of an initial letter and a vowel, or of a syllable and a final letter. -/
def syllableOf? (a b : Nat) : Option Nat :=
  if 0x1100 ≤ a ∧ a < 0x1113 ∧ 0x1161 ≤ b ∧ b < 0x1176 then
    some (syllableBase + ((a - 0x1100) * 21 + (b - 0x1161)) * 28)
  else if syllableBase ≤ a ∧ a < syllableBase + syllableCount ∧ (a - syllableBase) % 28 = 0
      ∧ finalBase < b ∧ b < finalBase + 28 then
    some (a + (b - finalBase))
  else none

/-! ### Taking apart -/

/-- The characters that a character stands for, taken apart at most so many times. -/
def parts (c : Nat) : Nat → List Nat
  | 0 => [c]
  | fuel + 1 =>
    match (syllablePair? c).orElse fun _ => pairOf? c with
    | some (a, b) => parts a fuel ++ [b]
    | none => [c]

/-- Puts a mark in front of those that follow, behind marks of a lower class. -/
def place (c : Nat) : List Nat → List Nat
  | [] => [c]
  | d :: rest =>
    if combiningClass d ≠ 0 ∧ combiningClass d < combiningClass c then d :: place c rest
    else c :: d :: rest

/-- A text taken apart, its marks in order. No character is taken apart more than four times. -/
def decompose (text : List Nat) : List Nat := (text.flatMap (parts · 4)).foldr place []

/-! ### Putting together -/

/-- The character that stands for a letter with a mark, or for two letters of a syllable. -/
def jointOf? (a b : Nat) : Option Nat := (syllableOf? a b).orElse fun _ => compositeOf? a b

/-- Puts a letter together with the marks that follow it: `held` are the marks since the letter
that stay, the last one first. A mark is out of reach if the one before it that stays has a class
not below its own. -/
def composeAfter (letter : Nat) (held : List Nat) : List Nat → List Nat
  | [] => letter :: held.reverse
  | c :: rest =>
    let inReach := held.head?.all fun d => combiningClass d < combiningClass c
    match if inReach then jointOf? letter c else none with
    | some joint => composeAfter joint held rest
    | none =>
      if combiningClass c = 0 then letter :: held.reverse ++ composeAfter c [] rest
      else composeAfter letter (c :: held) rest

/-- Puts letters together with their marks. -/
def recompose : List Nat → List Nat
  | [] => []
  | c :: rest => if combiningClass c = 0 then composeAfter c [] rest else c :: recompose rest

/-- The composed form of a text. -/
def compose (text : List Char) : List Char :=
  (recompose (decompose (text.map Char.toNat))).map Char.ofNat

end RouteFlow.Text
