/-!
# Glyphs

A YAML text is read as glyphs: characters with the place at which they stand. The ends of lines are
made alike first, so that carriage return, line feed, the pair of them and U+0085 are all one line
feed. The column of a glyph, which indentation is about, is a matter of its place alone.

* `glyphs?`: the glyphs of a text, none if a character is one that YAML does not admit.
-/

namespace RouteFlow.Yaml

/-- A character and its place: how many characters stand before it in the text, which line it is on
and how many characters stand before it on that line. -/
structure Glyph where
  char : Char
  index : Nat
  line : Nat
  column : Nat
  deriving DecidableEq

/-- Whether a YAML text may hold a character. -/
def isAdmitted (c : Char) : Bool :=
  let n := c.toNat
  n == 0x09 || n == 0x0A || n == 0x0D || (0x20 ≤ n && n ≤ 0x7E) || n == 0x85
    || (0xA0 ≤ n && n ≤ 0xD7FF) || (0xE000 ≤ n && n ≤ 0xFFFD) || 0x10000 ≤ n

/-- Whether a character, line ends made alike, ends a line. -/
def isBreak (c : Char) : Bool := c == '\n' || c.toNat == 0x2028 || c.toNat == 0x2029

/-- Whether a character is a space or a tab. -/
def isSpace (c : Char) : Bool := c == ' ' || c == '\t'

/-- Whether a character is a space, a tab or a line end. -/
def isGap (c : Char) : Bool := isSpace c || isBreak c

/-- The glyphs of characters from a place on. -/
def place (index line column : Nat) : List Char → List Glyph
  | [] => []
  | '\r' :: '\n' :: rest => ⟨'\n', index, line, column⟩ :: place (index + 2) (line + 1) 0 rest
  | c :: rest =>
    if c = '\r' ∨ c = '\n' ∨ c.toNat = 0x85 then
      ⟨'\n', index, line, column⟩ :: place (index + 1) (line + 1) 0 rest
    else if isBreak c then ⟨c, index, line, column⟩ :: place (index + 1) (line + 1) 0 rest
    else ⟨c, index, line, column⟩ :: place (index + 1) line (column + 1) rest

/-- The glyphs of a text. -/
def glyphs? (s : String) : Option (List Glyph) :=
  if s.toList.all isAdmitted then some (place 0 0 0 s.toList) else none

/-- Whether the next glyph is a gap or there is none. -/
def atGap : List Glyph → Bool
  | [] => true
  | g :: _ => isGap g.char

/-- Whether the next glyph ends a line or there is none. -/
def atBreak : List Glyph → Bool
  | [] => true
  | g :: _ => isBreak g.char

/-- Whether the next glyph is `c`. -/
def atChar (c : Char) : List Glyph → Bool
  | [] => false
  | g :: _ => g.char == c

/-- Whether the glyphs begin with `---` or `...` at the start of a line, closed by a gap. -/
def atMarker : List Glyph → Bool
  | a :: b :: c :: rest =>
    a.column == 0 && ((a.char == '-' && b.char == '-' && c.char == '-')
      || (a.char == '.' && b.char == '.' && c.char == '.')) && atGap rest
  | _ => false

/-- The glyphs after spaces and tabs. -/
def skipSpaces (gs : List Glyph) : List Glyph := gs.dropWhile fun g => isSpace g.char

/-- The glyphs from the end of the line on. -/
def skipLine (gs : List Glyph) : List Glyph := gs.dropWhile fun g => !isBreak g.char

end RouteFlow.Yaml
