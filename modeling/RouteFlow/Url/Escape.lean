import RouteFlow.Text.Blank
import RouteFlow.Text.Utf8

/-!
# Escapes in addresses

An octet that may not stand for itself in an address is written `%XX`. Which octets those are
depends on the part of the address; each part has its set here. Query pairs have a form of their
own, in which a space is written `+`.

* `escape`: a text with its octets outside a set of allowed ones escaped.
* `unescape`: the octets of a text with its escapes resolved.
* `formDecode`: the pairs of a query.
-/

namespace RouteFlow.Url

/-! ### Sets of octets -/

/-- The octets that are escaped everywhere: controls and all beyond ASCII. -/
def isControl (b : UInt8) : Bool := b < 0x20 || 0x7F ≤ b

/-- Whether an octet is one of the characters of `s`. -/
def isAmong (s : String) (b : UInt8) : Bool := s.toList.any fun c => c.toNat == b.toNat

/-- The octets escaped in a fragment. -/
def inFragment (b : UInt8) : Bool := isControl b || isAmong " \"<>`" b

/-- The octets escaped in a query. -/
def inQuery (b : UInt8) : Bool := isControl b || isAmong " \"#<>" b

/-- The octets escaped in a query of a special scheme. -/
def inSpecialQuery (b : UInt8) : Bool := inQuery b || isAmong "'" b

/-- The octets escaped in a path. -/
def inPath (b : UInt8) : Bool := inFragment b || isAmong "#?\x7b\x7d" b

/-- The octets escaped in a user name or a password. -/
def inUserInfo (b : UInt8) : Bool := inPath b || isAmong "/:;=@[\\]^|" b

/-- The octets escaped in a query pair, a space apart. -/
def inForm (b : UInt8) : Bool :=
  !((0x30 ≤ b && b ≤ 0x39) || (0x41 ≤ b && b ≤ 0x5A) || (0x61 ≤ b && b ≤ 0x7A) || isAmong "*-._" b)

/-! ### Writing -/

/-- A hexadecimal digit in upper case. -/
def hexDigit (n : Nat) : Char := (Nat.digitChar n).toUpper

/-- The escape of an octet. -/
def escapeOctet (b : UInt8) : List Char :=
  ['%', hexDigit (b.toNat / 16), hexDigit (b.toNat % 16)]

/-- The octets of a text, those in `set` escaped. -/
def escape (set : UInt8 → Bool) (cs : List Char) : List Char :=
  (Text.octets (String.ofList cs)).flatMap fun b =>
    if set b then escapeOctet b else [Char.ofNat b.toNat]

/-- A name or a value in a query pair. -/
def formEncode (s : String) : List Char :=
  (Text.octets s).flatMap fun b =>
    if b = 0x20 then ['+'] else if inForm b then escapeOctet b else [Char.ofNat b.toNat]

/-- Pairs as a query: names and values joined by `=`, pairs by `&`. -/
def formPairs (ps : List (String × String)) : List Char :=
  (ps.map fun (k, v) => formEncode k ++ '=' :: formEncode v).intersperse ['&'] |>.flatten

/-! ### Reading -/

/-- The value of a hexadecimal digit. -/
def hexValue? (b : UInt8) : Option Nat :=
  if 0x30 ≤ b ∧ b ≤ 0x39 then some (b.toNat - 0x30)
  else if 0x41 ≤ b ∧ b ≤ 0x46 then some (b.toNat - 0x37)
  else if 0x61 ≤ b ∧ b ≤ 0x66 then some (b.toNat - 0x57)
  else none

/-- Octets with the escapes among them resolved; a `%` that begins none stands for itself. -/
def unescape : List UInt8 → List UInt8
  | [] => []
  | [b] => [b]
  | [b, c] => [b, c]
  | b :: h :: l :: rest =>
    if b = 0x25 then
      match hexValue? h, hexValue? l with
      | some x, some y => UInt8.ofNat (x * 16 + y) :: unescape rest
      | _, _ => b :: unescape (h :: l :: rest)
    else b :: unescape (h :: l :: rest)

/-- A name or a value of a query pair. -/
def formDecodePart (bs : List UInt8) : String :=
  Text.Utf8.decodeLossy (unescape (bs.map fun b => if b = 0x2B then 0x20 else b))

/-- The pairs of a query. A part without `=` is a name without a value, and an empty part is none.
-/
def formDecode (query : String) : List (String × String) :=
  ((Text.octets query).splitOn 0x26).filterMap fun part =>
    if part.isEmpty then none
    else
      some (formDecodePart (part.takeWhile (· != 0x3D)),
        formDecodePart ((part.dropWhile (· != 0x3D)).drop 1))

end RouteFlow.Url
