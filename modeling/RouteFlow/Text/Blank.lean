/-!
# Blanks, letter case and pieces of text

Text is handled as a list of characters wherever it is cut or searched. This module holds the
white-space class `isBlank`, the three trims, the comparison that ignores the case of ASCII letters,
and the search for a fixed piece of text.
-/

namespace RouteFlow.Text

/-! ### White space -/

/-- The characters with the Unicode property `White_Space`. -/
def isBlank (c : Char) : Bool :=
  let n := c.toNat
  (9 ≤ n && n ≤ 13) || n == 0x20 || n == 0x85 || n == 0xA0 || n == 0x1680
    || (0x2000 ≤ n && n ≤ 0x200A) || n == 0x2028 || n == 0x2029 || n == 0x202F || n == 0x205F
    || n == 0x3000

/-- `cs` without the blanks it begins with. -/
def trimStart (cs : List Char) : List Char := cs.dropWhile isBlank

/-- `cs` without the blanks it ends with. -/
def trimEnd (cs : List Char) : List Char := (cs.reverse.dropWhile isBlank).reverse

/-- `cs` without the blanks on either side. -/
def trim (cs : List Char) : List Char := trimEnd (trimStart cs)

/-- `s` without the blanks on either side. -/
def trimmed (s : String) : String := String.ofList (trim s.toList)

/-- `s` without any `c` it begins with. -/
def withoutLeading (c : Char) (s : String) : String := String.ofList (s.toList.dropWhile (· == c))

/-- `s` without any `c` it ends with. -/
def withoutTrailing (c : Char) (s : String) : String :=
  String.ofList (s.toList.reverse.dropWhile (· == c)).reverse

/-! ### Letter case -/

/-- `s` with the letters `A` to `Z` in lower case and all else as it is. -/
def lower (s : String) : String := String.ofList (s.toList.map Char.toLower)

/-- `s` with the letters `a` to `z` in upper case and all else as it is. -/
def upper (s : String) : String := String.ofList (s.toList.map Char.toUpper)

/-- Equality up to the case of ASCII letters. -/
def sameLetters (a b : String) : Bool := lower a == lower b

/-! ### Searching -/

/-- The text before the first occurrence of `piece` and the text after it. -/
def cut? (piece : List Char) : List Char → Option (List Char × List Char)
  | [] => if piece.isEmpty then some ([], []) else none
  | c :: rest =>
    if piece.isPrefixOf (c :: rest) then some ([], (c :: rest).drop piece.length)
    else (cut? piece rest).map fun (before, after) => (c :: before, after)

/-- Whether `piece` occurs in `text`. -/
def contains (piece text : String) : Bool := (cut? piece.toList text.toList).isSome

end RouteFlow.Text
