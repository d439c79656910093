import RouteFlow.Json.Fault

/-!
# Reading positions

A place in a JSON text is the number of octets before it with the octets still to come; faults are
shown by the octets read so far or by the one that comes next.
-/

namespace RouteFlow.Json

/-- Whether an octet is a decimal digit. -/
def isDigit (b : UInt8) : Bool := 0x30 ≤ b && b ≤ 0x39

/-- A place in a sequence of octets. -/
structure Place where
  offset : Nat
  rest : List UInt8

namespace Place

/-- The place after `n` more octets. -/
def advance (p : Place) (n : Nat) : Place := ⟨p.offset + n, p.rest.drop n⟩

/-- A fault shown by the octets read so far. -/
def fault (p : Place) (f : Fault) : FaultAt := ⟨f, p.offset⟩

/-- The offset after the octet that comes next, if any. -/
def afterNext (p : Place) : Nat := if p.rest.isEmpty then p.offset else p.offset + 1

/-- A fault shown by the octet that comes next, if any. -/
def faultNext (p : Place) (f : Fault) : FaultAt := ⟨f, p.afterNext⟩

/-- A break at which every reader meets the fault `f`. -/
def breakWith (p : Place) (f : FaultAt) : Break := ⟨f, f, p.afterNext⟩

/-- Blanks of a JSON text: space, line feed, carriage return and tab. -/
def isBlank (b : UInt8) : Bool := b == 0x20 || b == 0x0A || b == 0x0D || b == 0x09

/-- The place after the blanks that come next. -/
def skipBlanks (p : Place) : Place := p.advance (p.rest.takeWhile isBlank).length

/-- The offset after the blanks that come next and a closing brace. -/
def settledInObject (p : Place) : Nat :=
  let q := p.skipBlanks
  match q.rest with
  | 0x7D :: _ => q.offset + 1
  | _ => q.offset

/-- The offset after the blanks that come next and a closing bracket, or a comma and blanks. -/
def settledInList (p : Place) : Nat :=
  let q := p.skipBlanks
  match q.rest with
  | 0x5D :: _ => q.offset + 1
  | 0x2C :: _ => (q.advance 1).skipBlanks.offset
  | _ => q.offset

/-- The fault of a text in which something other than blanks is left. -/
def trailing? (p : Place) : Option FaultAt :=
  let q := p.skipBlanks
  if q.rest.isEmpty then none else some (q.faultNext .trailingCharacters)

end Place

end RouteFlow.Json
