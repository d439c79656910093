import RouteFlow.Yaml.Fault
import RouteFlow.Yaml.Glyph

/-!
# Scalars as written

The four ways to write a scalar: plain, between single quotes, between double quotes, and as an
indented block. A run of spaces and line ends inside the first three is folded: spaces around a line
end vanish, one line end becomes a space and further ones stay.

* `readPlain`, `readSingle`, `readDouble`, `readBlock`: the text of a scalar and what follows it.
-/

namespace RouteFlow.Yaml

/-! ### Gaps -/

/-- What stands between two words of a scalar: spaces on the line and the line ends after it.
`joined` gaps begin with an escaped line end, which counts for nothing itself. -/
structure Gap where
  spaces : List Char
  breaks : List Char
  joined : Bool
  deriving DecidableEq

namespace Gap

/-- No gap. -/
def empty : Gap := ⟨[], [], false⟩

/-- Whether the gap leads to another line. -/
def isBroken (g : Gap) : Bool := !g.breaks.isEmpty || g.joined

/-- Whether there is a gap. -/
def isOpen (g : Gap) : Bool := g.isBroken || !g.spaces.isEmpty

/-- The gap with one more space, tab or line end. -/
def push (g : Gap) (c : Char) : Gap :=
  if isBreak c then { g with breaks := g.breaks ++ [c] }
  else if g.isBroken then g
  else { g with spaces := g.spaces ++ [c] }

/-- The text that the gap stands for. -/
def text (g : Gap) : List Char :=
  if g.joined then g.breaks
  else
    match g.breaks with
    | [] => g.spaces
    | b :: more =>
      if b = '\n' then
        if more.isEmpty then [' '] else more
      else b :: more

end Gap

/-! ### Plain scalars -/

/-- Whether a character separates entries in a flow collection. -/
def isFlowMark (c : Char) : Bool :=
  c == ',' || c == '[' || c == ']' || c == '{' || c == '}'

/-- Whether a `:` that the glyphs follow must not stand in a plain scalar of a flow collection. -/
def badAfterColon : List Glyph → Bool
  | [] => false
  | g :: _ => isFlowMark g.char || g.char == '?'

/-- Reads a plain scalar. `inFlow` tells whether it stands in a flow collection and `indent` is the
least column that its further lines may have. The answer holds the text, whether a line end was
passed after it, and the glyphs that follow. -/
def readPlain (inFlow : Bool) (indent : Int) (gathered : List Char) (gap : Gap) :
    List Glyph → Except Fault (List Char × Bool × List Glyph)
  | [] => .ok (gathered.reverse, gap.isBroken, [])
  | g :: rest =>
    if isGap g.char then
      if gap.isBroken && (g.column : Int) < indent && g.char == '\t' then .error .tabInIndentation
      else readPlain inFlow indent gathered (gap.push g.char) rest
    else if gap.isOpen &&
        (atMarker (g :: rest) || g.char == '#' || (!inFlow && (g.column : Int) < indent)) then
      .ok (gathered.reverse, gap.isBroken, g :: rest)
    else if inFlow && g.char == ':' && badAfterColon rest then .error .unexpectedColon
    else if (g.char == ':' && atGap rest) || (inFlow && isFlowMark g.char) then
      .ok (gathered.reverse, gap.isBroken, g :: rest)
    else readPlain inFlow indent (g.char :: (gap.text.reverse ++ gathered)) .empty rest

/-! ### Quoted scalars -/

/-- Reads a scalar after its opening single quote; a quote inside is written twice. -/
def readSingle (gathered : List Char) (gap : Gap) :
    List Glyph → Except Fault (List Char × List Glyph)
  | [] => .error .endInScalar
  | g :: rest =>
    if atMarker (g :: rest) then .error .markerInScalar
    else if isGap g.char then readSingle gathered (gap.push g.char) rest
    else
      let gathered := gap.text.reverse ++ gathered
      if g.char = '\'' then
        match rest with
        | h :: rest' =>
          if h.char = '\'' then readSingle ('\'' :: gathered) .empty rest'
          else .ok (gathered.reverse, h :: rest')
        | [] => .ok (gathered.reverse, [])
      else readSingle (g.char :: gathered) .empty rest

/-- The character that a letter after a backslash stands for. -/
def escaped? (c : Char) : Option Char :=
  match c with
  | '0' => some (Char.ofNat 0)
  | 'a' => some (Char.ofNat 7)
  | 'b' => some (Char.ofNat 8)
  | 't' => some '\t'
  | '\t' => some '\t'
  | 'n' => some '\n'
  | 'v' => some (Char.ofNat 11)
  | 'f' => some (Char.ofNat 12)
  | 'r' => some '\r'
  | 'e' => some (Char.ofNat 27)
  | ' ' => some ' '
  | '"' => some '"'
  | '/' => some '/'
  | '\\' => some '\\'
  | 'N' => some (Char.ofNat 0x85)
  | '_' => some (Char.ofNat 0xA0)
  | 'L' => some (Char.ofNat 0x2028)
  | 'P' => some (Char.ofNat 0x2029)
  | _ => none

/-- How many hexadecimal digits follow a letter after a backslash. -/
def hexLength? (c : Char) : Option Nat :=
  match c with
  | 'x' => some 2
  | 'u' => some 4
  | 'U' => some 8
  | _ => none

/-- The value of a hexadecimal digit. -/
def hexDigit? (c : Char) : Option Nat :=
  if '0' ≤ c ∧ c ≤ '9' then some (c.toNat - 48)
  else if 'a' ≤ c ∧ c ≤ 'f' then some (c.toNat - 87)
  else if 'A' ≤ c ∧ c ≤ 'F' then some (c.toNat - 55)
  else none

/-- The character with a code point, if it is one. -/
def character? (n : Nat) : Option Char :=
  if n.isValidChar then some (Char.ofNat n) else none

/-- Where the reader of a double-quoted scalar stands: among characters, after a backslash, or
before the last digits of a code point. -/
inductive Escape where
  | none
  | begun
  | digits (left value : Nat)

/-- Reads a scalar after its opening double quote. -/
def readDouble (gathered : List Char) (gap : Gap) :
    Escape → List Glyph → Except Fault (List Char × List Glyph)
  | _, [] => .error .endInScalar
  | .none, g :: rest =>
    if atMarker (g :: rest) then .error .markerInScalar
    else if isGap g.char then readDouble gathered (gap.push g.char) .none rest
    else
      let gathered := gap.text.reverse ++ gathered
      if g.char = '"' then .ok (gathered.reverse, rest)
      else if g.char = '\\' then readDouble gathered .empty .begun rest
      else readDouble (g.char :: gathered) .empty .none rest
  | .begun, g :: rest =>
    if isBreak g.char then readDouble gathered ⟨[], [], true⟩ .none rest
    else
      match escaped? g.char, hexLength? g.char with
      | some c, _ => readDouble (c :: gathered) .empty .none rest
      | _, some n => readDouble gathered .empty (.digits n 0) rest
      | _, _ => .error .badEscape
  | .digits left value, g :: rest =>
    match hexDigit? g.char with
    | none => .error .badEscape
    | some d =>
      let value := value * 16 + d
      if left ≤ 1 then
        match character? value with
        | none => .error .badEscape
        | some c => readDouble (c :: gathered) .empty .none rest
      else readDouble gathered .empty (.digits (left - 1) value) rest

/-! ### Block scalars -/

/-- What becomes of the line ends at the end of a block: dropped, one kept, or all kept. -/
inductive Chomping where
  | strip
  | clip
  | keep
  deriving DecidableEq

/-- Reads an indentation digit. -/
def readIncrement (gs : List Glyph) : Except Fault (Option Nat × List Glyph) :=
  match gs with
  | g :: rest =>
    if g.char = '0' then .error .badBlockHeader
    else if '1' ≤ g.char ∧ g.char ≤ '9' then .ok (some (g.char.toNat - 48), rest)
    else .ok (none, gs)
  | [] => .ok (none, gs)

/-- Reads a chomping sign. -/
def readChomping (gs : List Glyph) : Option Chomping × List Glyph :=
  match gs with
  | g :: rest =>
    if g.char = '+' then (some .keep, rest)
    else if g.char = '-' then (some .strip, rest)
    else (none, gs)
  | [] => (none, gs)

/-- Reads the line that opens a block after its mark: a chomping sign and an indentation digit in
either order, then nothing but a comment. -/
def readHeader (gs : List Glyph) : Except Fault (Chomping × Option Nat × List Glyph) := do
  let (sign, gs) := readChomping gs
  let (increment, gs) ← readIncrement gs
  let (late, gs) :=
    match sign, increment with
    | none, some _ => readChomping gs
    | _, _ => (none, gs)
  let gs := skipSpaces gs
  let gs := if atChar '#' gs then skipLine gs else gs
  if atBreak gs then .ok ((sign.or late).getD .clip, increment, gs.drop 1)
  else .error .badBlockHeader

/-- Passes empty lines and the indentation of the next one, at most `indent` columns of it; with
`indent` zero all of it. `deepest` is the greatest column that was reached. -/
def readBreaks (indent deepest : Nat) (breaks : List Char) :
    List Glyph → Except Fault (List Char × Nat × List Glyph)
  | [] => .ok (breaks, deepest, [])
  | g :: rest =>
    let within := indent = 0 ∨ g.column < indent
    let deepest := max deepest g.column
    if within ∧ g.char = ' ' then readBreaks indent (max deepest (g.column + 1)) breaks rest
    else if within ∧ g.char = '\t' then .error .tabInIndentation
    else if isBreak g.char then readBreaks indent deepest (breaks ++ [g.char]) rest
    else .ok (breaks, deepest, g :: rest)

/-- What goes between the text so far and the next line of a block: the line end, folded to a space
unless the block is literal or either line begins with a blank, and the empty lines. -/
def lineJoint (literal : Bool) (lead : List Char) (empties : List Char)
    (blankBefore blankNext : Bool) : List Char :=
  if !literal && lead == ['\n'] && !blankBefore && !blankNext then
    if empties.isEmpty then [' '] else empties
  else lead ++ empties

/-- Reads the lines of a block that stand at column `indent`. `lead` is the end of the line before
and `empties` the empty lines after it. -/
def readLines (literal : Bool) (indent : Nat) (text lead empties : List Char)
    (blankBefore : Bool) :
    Nat → List Glyph → Except Fault (List Char × List Char × List Char × List Glyph)
  | 0, gs => .ok (text, lead, empties, gs)
  | _, [] => .ok (text, lead, empties, [])
  | fuel + 1, g :: rest =>
    if g.column = indent then do
      let blank := isSpace g.char
      let line := (g :: rest).takeWhile fun h => !isBreak h.char
      let after := skipLine (g :: rest)
      let text := text ++ lineJoint literal lead empties blankBefore blank ++ line.map (·.char)
      let (empties, _, next) ← readBreaks indent 0 [] (after.drop 1)
      readLines literal indent text ((after.take 1).map (·.char)) empties blank fuel next
    else .ok (text, lead, empties, g :: rest)

/-- Reads a block after its `|` or `>`. `parent` is the column of the collection around it. -/
def readBlock (literal : Bool) (parent : Int) (gs : List Glyph) :
    Except Fault (List Char × List Glyph) := do
  let (chomping, increment, gs) ← readHeader gs
  let least : Nat := max (parent + 1).toNat 1
  let given : Nat := (increment.map fun n => (max parent 0).toNat + n).getD 0
  let (empties, deepest, gs) ← readBreaks given 0 [] gs
  let indent : Nat := if given = 0 then max deepest least else given
  let (text, lead, empties, gs) ←
    readLines literal indent [] [] empties false (gs.length + 1) gs
  match chomping with
  | .strip => .ok (text, gs)
  | .clip => .ok (text ++ lead, gs)
  | .keep => .ok (text ++ lead ++ empties, gs)

end RouteFlow.Yaml
