/-!
# UTF-8

`step?` takes one character off a sequence of octets, or says how many octets the malformed start
occupies: the longest part that could have begun a character. Everything else is built from it:
`decode?` accepts well-formed sequences only, `decodeLossy` replaces each malformed part by U+FFFD.

* `decode?_nil`: the empty sequence stands for the empty text.
-/

namespace RouteFlow.Text

/-- The octets of a text. -/
def octets (s : String) : List UInt8 := s.toUTF8.toList

namespace Utf8

/-- What stands at the start of a sequence of octets. -/
inductive Step where
  /-- Nothing. -/
  | done
  /-- A character that occupies `size` octets, and what follows it. -/
  | char (c : Char) (size : Nat) (rest : List UInt8)
  /-- `size` octets that begin no character, and what follows them. -/
  | malformed (size : Nat) (rest : List UInt8)

/-- Reads the octets that must follow a leading one, the first of them from `lo` to `hi` and the
others from 80 to BF. `code` collects the value and `size` counts the octets read. -/
def continuation (lo hi : UInt8) (code size : Nat) : Nat → List UInt8 → Step
  | 0, rest => .char (Char.ofNat code) size rest
  | _ + 1, [] => .malformed size []
  | n + 1, b :: rest =>
    if lo ≤ b ∧ b ≤ hi then
      continuation 0x80 0xBF (code * 64 + (b.toNat - 0x80)) (size + 1) n rest
    else .malformed size (b :: rest)

/-- Takes one character off the front. -/
def step? : List UInt8 → Step
  | [] => .done
  | b :: rest =>
    if b < 0x80 then .char (Char.ofNat b.toNat) 1 rest
    else if 0xC2 ≤ b ∧ b ≤ 0xDF then continuation 0x80 0xBF (b.toNat - 0xC0) 1 1 rest
    else if b = 0xE0 then continuation 0xA0 0xBF 0 1 2 rest
    else if b = 0xED then continuation 0x80 0x9F 0xD 1 2 rest
    else if 0xE1 ≤ b ∧ b ≤ 0xEF then continuation 0x80 0xBF (b.toNat - 0xE0) 1 2 rest
    else if b = 0xF0 then continuation 0x90 0xBF 0 1 3 rest
    else if 0xF1 ≤ b ∧ b ≤ 0xF3 then continuation 0x80 0xBF (b.toNat - 0xF0) 1 3 rest
    else if b = 0xF4 then continuation 0x80 0x8F 4 1 3 rest
    else .malformed 1 rest

/-- Decodes with one step for each of the first `fuel` characters. -/
def decodeWith (onMalformed : Option Char) : Nat → List UInt8 → Option (List Char)
  | 0, _ => some []
  | fuel + 1, bs =>
    match step? bs with
    | .done => some []
    | .char c _ rest => (decodeWith onMalformed fuel rest).map (c :: ·)
    | .malformed _ rest =>
      match onMalformed with
      | none => none
      | some c => (decodeWith onMalformed fuel rest).map (c :: ·)

/-- The text that `bs` encodes, if `bs` is well formed. -/
def decode? (bs : List UInt8) : Option String :=
  (decodeWith none (bs.length + 1) bs).map String.ofList

/-- The text that `bs` encodes, with U+FFFD for each malformed part. -/
def decodeLossy (bs : List UInt8) : String :=
  ((decodeWith (some (Char.ofNat 0xFFFD)) (bs.length + 1) bs).map String.ofList).getD ""

/-- Whether `bs` is well formed. -/
def isValid (bs : List UInt8) : Bool := (decode? bs).isSome

@[simp] theorem decode?_nil : decode? [] = some "" := rfl

@[simp] theorem decodeLossy_nil : decodeLossy [] = "" := rfl

end Utf8
end RouteFlow.Text
