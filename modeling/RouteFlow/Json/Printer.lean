import RouteFlow.Json.Basic
import RouteFlow.Decimal.Shortest

/-!
# JSON text

`Json.compact` writes a value without blanks, `Json.pretty` with one member or item a line and two
spaces of indentation a level. A double has the fewest digits that read back: positional with at
least one place after the point from 1e-5 up to 1e16 and for zero, else one digit before the point
and a signed exponent.
-/

namespace RouteFlow.Json

/-! ### Numbers -/

/-- Writes a decimal: positional for the leading weights from 10^-5 to 10^15, else scientific. -/
def decimalText (d : Decimal.Scaled) : String :=
  let ds := Nat.toDigits 10 d.digits
  let lead : Int := d.exponent + ds.length - 1
  let zeros (n : Int) : List Char := List.replicate n.toNat '0'
  String.ofList <|
    if d.digits = 0 then ['0', '.', '0']
    else if -5 ≤ lead ∧ lead < 0 then ['0', '.'] ++ zeros (-lead - 1) ++ ds
    else if 0 ≤ lead ∧ lead < 16 then
      if 0 ≤ d.exponent then ds ++ zeros d.exponent ++ ['.', '0']
      else ds.take (lead.toNat + 1) ++ ['.'] ++ ds.drop (lead.toNat + 1)
    else
      let places := ds.drop 1
      ds.take 1 ++ (if places.isEmpty then [] else '.' :: places) ++
        ['e', if lead < 0 then '-' else '+'] ++ Nat.toDigits 10 lead.natAbs

/-- The text of a double; infinities and NaN have no JSON text and are written as `null`. -/
def realText (x : Float) : String :=
  if !x.isFinite then "null"
  else
    let sign := if (Decimal.Binary.ofBits x.toBits).negative then "-" else ""
    sign ++ decimalText (Decimal.ofBits x.toBits)

/-- The text of a number. -/
def Number.text : Number → String
  | .whole n => toString n
  | .real x => realText x

/-! ### Strings -/

/-- How one character stands inside quotes. -/
def escapedChar (c : Char) : List Char :=
  let n := c.toNat
  if c = '"' then ['\\', '"']
  else if c = '\\' then ['\\', '\\']
  else if n = 8 then ['\\', 'b']
  else if n = 9 then ['\\', 't']
  else if n = 10 then ['\\', 'n']
  else if n = 12 then ['\\', 'f']
  else if n = 13 then ['\\', 'r']
  else if n < 0x20 then
    ['\\', 'u', '0', '0'] ++ [Nat.digitChar (n / 16), Nat.digitChar (n % 16)]
  else [c]

/-- A string in quotes. -/
def quoted (s : String) : String :=
  String.ofList (['"'] ++ s.toList.flatMap escapedChar ++ ['"'])

/-! ### Values -/

mutual

/-- The text of a value without any blanks. -/
def compact : Json → String
  | .null => "null"
  | .bool b => if b then "true" else "false"
  | .number n => n.text
  | .string s => quoted s
  | .array items => "[" ++ String.intercalate "," (compactItems items) ++ "]"
  | .object ms => "\x7b" ++ String.intercalate "," (compactMembers ms) ++ "\x7d"

/-- The texts of items. -/
def compactItems : List Json → List String
  | [] => []
  | j :: rest => compact j :: compactItems rest

/-- The texts of members, each with its name. -/
def compactMembers : List (String × Json) → List String
  | [] => []
  | (k, j) :: rest => (quoted k ++ ":" ++ compact j) :: compactMembers rest

end

/-- The blanks in front of a line of depth `n`. -/
def indent (n : Nat) : String := String.ofList (List.replicate (2 * n) ' ')

/-- Lines of a container between its brackets, which is written closed up when it is empty. -/
def block (level : Nat) (opening closing : String) (lines : List String) : String :=
  if lines.isEmpty then opening ++ closing
  else
    opening ++ "\n" ++
      String.intercalate ",\n" (lines.map fun line => indent (level + 1) ++ line) ++
      "\n" ++ indent level ++ closing

mutual

/-- The text of a value that begins at depth `level`, one member or item a line. -/
def prettyAt (level : Nat) : Json → String
  | .array items => block level "[" "]" (prettyItems (level + 1) items)
  | .object ms => block level "\x7b" "\x7d" (prettyMembers (level + 1) ms)
  | j => compact j

/-- The texts of items. -/
def prettyItems (level : Nat) : List Json → List String
  | [] => []
  | j :: rest => prettyAt level j :: prettyItems level rest

/-- The texts of members, each with its name. -/
def prettyMembers (level : Nat) : List (String × Json) → List String
  | [] => []
  | (k, j) :: rest => (quoted k ++ ": " ++ prettyAt level j) :: prettyMembers level rest

end

/-- The text of a value, one member or item a line. -/
def pretty (j : Json) : String := prettyAt 0 j

/-- A value as a piece of text: a string as it is, `null` as nothing, all else as JSON. -/
def asText : Json → String
  | .string s => s
  | .null => ""
  | j => compact j

end RouteFlow.Json
