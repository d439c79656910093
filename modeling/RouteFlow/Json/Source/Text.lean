import RouteFlow.Json.Source.Place
import RouteFlow.Text.Utf8

/-!
# Strings as written

A string is followed to its closing quote also when it has no value, because an escape stands for no
character or because its octets are malformed: who passes over it does not meet that fault.

* `readString`: reads a string from its opening quote.
* `readEscape`: reads what follows a backslash.
-/

namespace RouteFlow.Json

/-- The value of a hexadecimal digit. -/
def hexValue? (b : UInt8) : Option Nat :=
  if isDigit b then some (b.toNat - 0x30)
  else if 0x61 ≤ b && b ≤ 0x66 then some (b.toNat - 0x57)
  else if 0x41 ≤ b && b ≤ 0x46 then some (b.toNat - 0x37)
  else none

/-- Reads the four digits of a `\u` escape. -/
def readHex (p : Place) : Except FaultAt (Nat × Place) :=
  match p.rest with
  | a :: b :: c :: d :: _ =>
    match hexValue? a, hexValue? b, hexValue? c, hexValue? d with
    | some a, some b, some c, some d => .ok (((a * 16 + b) * 16 + c) * 16 + d, p.advance 4)
    | _, _, _, _ => .error ((p.advance 4).fault .badEscape)
  | _ => .error ((p.advance p.rest.length).fault .endInString)

/-- Reads the second half of a surrogate pair. -/
def readTrail (lead : Nat) (p : Place) : Except FaultAt (Char × Place) := do
  match p.rest with
  | 0x5C :: 0x75 :: _ =>
    let (n, q) ← readHex (p.advance 2)
    if n < 0xDC00 ∨ 0xDFFF < n then .error (q.fault .loneSurrogate)
    else .ok (Char.ofNat ((lead - 0xD800) * 1024 + (n - 0xDC00) + 0x10000), q)
  | [] => .error (p.fault .endInString)
  | [0x5C] => .error ((p.advance 1).fault .endInString)
  | 0x5C :: _ => .error ((p.advance 2).fault .endOfHexEscape)
  | _ => .error ((p.advance 1).fault .endOfHexEscape)

/-- Reads what follows a backslash: the character it stands for with the place after it, or why it
stands for none, and in any case the place at which a reader goes on that does not want the
character. -/
def readEscape (p : Place) : Except FaultAt (Except FaultAt (Char × Place) × Place) := do
  match p.rest with
  | [] => .error (p.fault .endInString)
  | b :: _ =>
    let q := p.advance 1
    let plain (c : Char) : Except FaultAt (Except FaultAt (Char × Place) × Place) :=
      .ok (.ok (c, q), q)
    if b = 0x75 then
      let (n, r) ← readHex q
      if 0xDC00 ≤ n ∧ n ≤ 0xDFFF then .ok (.error (r.fault .loneSurrogate), r)
      else if 0xD800 ≤ n ∧ n ≤ 0xDBFF then .ok (readTrail n r, r)
      else .ok (.ok (Char.ofNat n, r), r)
    else if b = 0x22 then plain '"'
    else if b = 0x5C then plain '\\'
    else if b = 0x2F then plain '/'
    else if b = 0x62 then plain (Char.ofNat 8)
    else if b = 0x66 then plain (Char.ofNat 12)
    else if b = 0x6E then plain '\n'
    else if b = 0x72 then plain '\r'
    else if b = 0x74 then plain '\t'
    else .error (q.fault .badEscape)

/-- The fault that is reported of a string: the earlier one, except that malformed octets show only
when the string is complete. -/
def reported (earlier? : Option FaultAt) (later : FaultAt) : FaultAt :=
  match earlier? with
  | some earlier => if earlier.fault = .badCodePoint then later else earlier
  | none => later

/-- Reads the characters up to the closing quote, most recent first in `acc`. `bad` is what keeps
the string from having a value. -/
def readChars (p : Place) (acc : List Char) (bad : Option FaultAt) :
    Nat → Except Break (Except FaultAt String × Place)
  | 0 => .error (p.breakWith (p.fault .endInString))
  | fuel + 1 =>
    let stopped (wanted passed : FaultAt) : Except Break (Except FaultAt String × Place) :=
      .error ⟨reported bad wanted, passed, 0⟩
    match p.rest with
    | [] => stopped (p.fault .endInString) (p.fault .endInString)
    | b :: _ =>
      if b = 0x22 then
        .ok ((bad.map Except.error).getD (.ok (String.ofList acc.reverse)), p.advance 1)
      else if b = 0x5C then
        match readEscape (p.advance 1) with
        | .error f => stopped f f
        | .ok (.ok (c, q), _) => readChars q (c :: acc) bad fuel
        | .ok (.error f, q) => readChars q acc (some (reported bad f)) fuel
      else if b < 0x20 then
        stopped ((p.advance 1).fault .controlCharacter) (p.fault .controlCharacter)
      else
        match Text.Utf8.step? p.rest with
        | .char c size rest => readChars ⟨p.offset + size, rest⟩ (c :: acc) bad fuel
        | .malformed size rest =>
          readChars ⟨p.offset + size, rest⟩ acc
            (bad.orElse fun _ => some ((p.advance 1).fault .badCodePoint)) fuel
        | .done => stopped (p.fault .endInString) (p.fault .endInString)

/-- Reads the string whose opening quote comes next. -/
def readString (p : Place) : Except Break (Except FaultAt String × Place) :=
  (readChars (p.advance 1) [] none (p.rest.length + 1)).mapError ({ · with first := p.afterNext })

end RouteFlow.Json
