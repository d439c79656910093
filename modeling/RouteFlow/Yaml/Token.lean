import RouteFlow.Yaml.Scalar
import RouteFlow.Text.Utf8

/-!
# Tokens

`Token.ofText?` cuts a YAML text into tokens. Indentation becomes explicit: a block collection is
opened by a token of its own and closed by `blockEnd`. A key without `?` is only known as a key once
its `:` comes, so wherever a key might begin the place among the tokens is remembered, and the `key`
token is put in there later. Such a key stands on one line and within 1024 characters.
-/

namespace RouteFlow.Yaml

/-- A piece of a YAML text. -/
inductive Token where
  | version (major minor : Nat)
  | tagHandle (handle start : String)
  | documentStart
  | documentEnd
  | blockSequence
  | blockMapping
  | blockEnd
  | flowSequence
  | flowSequenceEnd
  | flowMapping
  | flowMappingEnd
  | blockEntry
  | flowEntry
  | key
  | value
  | alias (name : String)
  | anchor (name : String)
  | tag (handle suffix : String)
  | scalar (text : String) (plain : Bool)
  deriving DecidableEq

/-- A place where a key without `?` may begin: the number of tokens before it and the glyph. A
required key must turn out to be one. -/
structure KeyPlace where
  before : Nat
  glyph : Glyph
  required : Bool
  deriving DecidableEq

/-- The state of the scanner: the glyphs to come, the tokens so far, last first, the columns of the
open block collections, inmost first and -1 outside all, and for each open flow collection, inmost
first, and for the block around them the place where a key may have begun. -/
structure Scanner where
  glyphs : List Glyph
  tokens : List Token
  indents : List Int
  keys : List (Option KeyPlace)
  keyAllowed : Bool

namespace Scanner

/-- The start of a text. -/
def start (gs : List Glyph) : Scanner := ⟨gs, [], [], [none], true⟩

/-- Whether the scanner is inside a flow collection. -/
def inFlow (s : Scanner) : Bool := 1 < s.keys.length

/-- The column of the inmost open block collection. -/
def indent (s : Scanner) : Int := s.indents.headD (-1)

/-- Adds a token. -/
def emit (s : Scanner) (t : Token) : Scanner := { s with tokens := t :: s.tokens }

/-- Puts a token in after the first `before` ones. -/
def emitAt (s : Scanner) (before : Nat) (t : Token) : Scanner :=
  let late := s.tokens.length - before
  { s with tokens := s.tokens.take late ++ t :: s.tokens.drop late }

/-- Goes on after `n` glyphs. -/
def skip (s : Scanner) (n : Nat) : Scanner := { s with glyphs := s.glyphs.drop n }

/-- Sets whether a key without `?` may come next. -/
def allowKey (s : Scanner) (allowed : Bool) : Scanner := { s with keyAllowed := allowed }

/-! ### Keys -/

/-- Forgets the place where a key may have begun in the inmost collection. -/
def dropKey (s : Scanner) : Except Fault Scanner :=
  match s.keys with
  | some k :: rest =>
    if k.required then .error .keyWithoutColon else .ok { s with keys := none :: rest }
  | _ => .ok s

/-- Remembers that a key may begin with the next glyph. -/
def markKey (s : Scanner) : Except Fault Scanner :=
  match s.keyAllowed, s.glyphs with
  | true, g :: _ => do
    let s ← s.dropKey
    let place : KeyPlace := ⟨s.tokens.length, g, !s.inFlow && s.indent == g.column⟩
    .ok { s with keys := some place :: s.keys.drop 1 }
  | _, _ => .ok s

/-- Whether a key that begins at `k` can no longer end before `g`. -/
def isPast (k : KeyPlace) (g : Glyph) : Bool :=
  k.glyph.line < g.line || k.glyph.index + 1024 < g.index

/-- Forgets places where a key can no longer have begun. -/
def dropPastKeys (g : Glyph) : List (Option KeyPlace) → Except Fault (List (Option KeyPlace))
  | [] => .ok []
  | none :: rest => (dropPastKeys g rest).map (none :: ·)
  | some k :: rest =>
    if isPast k g then
      if k.required then .error .keyWithoutColon else (dropPastKeys g rest).map (none :: ·)
    else (dropPastKeys g rest).map (some k :: ·)

/-! ### Indentation -/

/-- Closes the block collections that are indented further than `column`. -/
def unindent (column : Int) : List Int → List Token → List Int × List Token
  | i :: rest, tokens =>
    if column < i then unindent column rest (.blockEnd :: tokens) else (i :: rest, tokens)
  | [], tokens => ([], tokens)

/-- Closes the block collections that are indented further than `column`, outside flow
collections. -/
def closeTo (s : Scanner) (column : Int) : Scanner :=
  if s.inFlow then s
  else
    let (indents, tokens) := unindent column s.indents s.tokens
    { s with indents, tokens }

/-- Opens a block collection at `column`, unless one is open there; its token comes after the first
`before` tokens. -/
def openAt (s : Scanner) (column : Nat) (before : Nat) (t : Token) : Scanner :=
  if s.inFlow then s
  else if s.indent < column then { s.emitAt before t with indents := (column : Int) :: s.indents }
  else s

/-! ### Blanks between tokens -/

/-- Passes blanks, comments and line ends. A tab counts as a blank where no indentation is at
stake, and after a line end a key may begin outside flow collections. -/
def skipBlanks (inFlow keyAllowed inComment : Bool) : List Glyph → Bool × List Glyph
  | [] => (keyAllowed, [])
  | g :: rest =>
    if isBreak g.char then skipBlanks inFlow (keyAllowed || !inFlow) false rest
    else if inComment then skipBlanks inFlow keyAllowed true rest
    else if g.char = ' ' ∨ (g.char = '\t' ∧ (inFlow ∨ !keyAllowed)) then
      skipBlanks inFlow keyAllowed false rest
    else if g.char = '#' then skipBlanks inFlow keyAllowed true rest
    else (keyAllowed, g :: rest)

/-- The glyphs after a byte order mark that begins the text. -/
def skipMark : List Glyph → List Glyph
  | g :: rest => if g.index = 0 ∧ g.char.toNat = 0xFEFF then rest else g :: rest
  | [] => []

/-- Moves to the next token. -/
def settle (s : Scanner) : Scanner :=
  let (keyAllowed, glyphs) := skipBlanks s.inFlow s.keyAllowed false (skipMark s.glyphs)
  { s with keyAllowed, glyphs }

/-! ### Directives -/

/-- The characters of a handle, an anchor or the name of a directive. -/
def isWordChar (c : Char) : Bool := c.isAlphanum || c == '_' || c == '-'

/-- The text of glyphs. -/
def text (gs : List Glyph) : String := String.ofList (gs.map (·.char))

/-- The word that comes next, and what follows it. -/
def word (gs : List Glyph) : List Glyph × List Glyph :=
  (gs.takeWhile fun g => isWordChar g.char, gs.dropWhile fun g => isWordChar g.char)

/-- Reads a version number of at most nine digits. -/
def readVersionNumber (gs : List Glyph) : Except Fault (Nat × List Glyph) :=
  let digits := gs.takeWhile fun g => g.char.isDigit
  if digits.isEmpty ∨ 9 < digits.length then .error .badDirective
  else
    .ok (digits.foldl (fun n g => n * 10 + (g.char.toNat - 48)) 0, gs.drop digits.length)

/-- Reads the handle of a tag: `!`, `!!` or a word between two exclamation marks. Outside a
directive the second mark may be missing. -/
def readHandle (inDirective : Bool) (gs : List Glyph) : Except Fault (String × List Glyph) :=
  match gs with
  | bang :: rest =>
    if bang.char ≠ '!' then .error .badTag
    else
      let (name, after) := word rest
      match after with
      | g :: after' =>
        if g.char = '!' then .ok ("!" ++ text name ++ "!", after')
        else if inDirective && !name.isEmpty then .error .badTag
        else .ok ("!" ++ text name, after)
      | [] => if inDirective && !name.isEmpty then .error .badTag else .ok ("!" ++ text name, [])
  | [] => .error .badTag

/-- The characters that may stand in a tag besides word characters; the last three only where no
flow collection can be meant. -/
def isTagChar (wide : Bool) (c : Char) : Bool :=
  isWordChar c || ";/?:@&=+$.%!~*'()".toList.contains c || (wide && ",[]".toList.contains c)

/-- The octet of an escape `%XX`. -/
def escapedOctet? (a b c : Glyph) : Option UInt8 :=
  if a.char = '%' then
    match hexDigit? b.char, hexDigit? c.char with
    | some h, some l => some (UInt8.ofNat (h * 16 + l))
    | _, _ => none
  else none

/-- The octets of a tag whose escapes are resolved. -/
def tagOctets : List Glyph → Option (List UInt8)
  | [] => some []
  | g :: rest =>
    if g.char = '%' then
      match rest with
      | h :: l :: rest' =>
        match escapedOctet? g h l with
        | some b => (tagOctets rest').map (b :: ·)
        | none => none
      | _ => none
    else (tagOctets rest).map (Text.octets (String.singleton g.char) ++ ·)

/-- Reads the characters of a tag. -/
def readTagText (wide : Bool) (gs : List Glyph) : Except Fault (String × List Glyph) :=
  let body := gs.takeWhile fun g => isTagChar wide g.char
  match (tagOctets body).bind Text.Utf8.decode? with
  | some s => .ok (s, gs.drop body.length)
  | none => .error .badTag

/-- Reads a directive after its `%`. -/
def readDirective (gs : List Glyph) : Except Fault (Token × List Glyph) := do
  let (name, gs) := word gs
  if !atGap gs then .error .badDirective
  else
    let (token, gs) ←
      if text name = "YAML" then do
        let (major, gs) ← readVersionNumber (skipSpaces gs)
        if !atChar '.' gs then .error .badDirective
        else
          let (minor, gs) ← readVersionNumber (gs.drop 1)
          Except.ok (Token.version major minor, gs)
      else if text name = "TAG" then do
        let (handle, gs) ← readHandle true (skipSpaces gs)
        if !(gs.head?.any fun g => isSpace g.char) then .error .badDirective
        else
          let (start, gs) ← readTagText true (skipSpaces gs)
          if start.isEmpty || !atGap gs then .error .badDirective
          else .ok (Token.tagHandle handle start, gs)
      else .error .badDirective
    let gs := skipSpaces gs
    let gs := if atChar '#' gs then skipLine gs else gs
    if atBreak gs then .ok (token, gs.drop 1) else .error .badDirective

/-! ### Anchors and tags -/

/-- Reads the name of an anchor or an alias after its mark. -/
def readAnchor (gs : List Glyph) : Except Fault (String × List Glyph) :=
  let (name, rest) := word gs
  let closed :=
    match rest with
    | [] => true
    | g :: _ => isGap g.char || "?:,]\x7d%@\x60".toList.contains g.char
  if name.isEmpty || !closed then .error .badAnchor else .ok (text name, rest)

/-- Reads a tag from its exclamation mark on. -/
def readTag (inFlow : Bool) (gs : List Glyph) : Except Fault (Token × List Glyph) := do
  let (token, gs) ←
    if atChar '<' (gs.drop 1) then do
      let (suffix, gs) ← readTagText true (gs.drop 2)
      if suffix.isEmpty || !atChar '>' gs then Except.error Fault.badTag
      else .ok (Token.tag "" suffix, gs.drop 1)
    else do
      let (handle, gs) ← readHandle false gs
      let (suffix, gs) ← readTagText false gs
      if handle = "!" || !handle.endsWith "!" then
        let suffix := String.ofList (handle.toList.drop 1) ++ suffix
        .ok (if suffix.isEmpty then Token.tag "" "!" else .tag "!" suffix, gs)
      else if suffix.isEmpty then .error .badTag
      else .ok (.tag handle suffix, gs)
  if atGap gs || (inFlow && atChar ',' gs) then .ok (token, gs) else .error .badTag

/-! ### Tokens -/

/-- Passes a mark of the text and adds its token. -/
def mark (s : Scanner) (t : Token) : Scanner := (s.skip 1).emit t

/-- Adds the token of something that may be a key, read by `read`. -/
def content (s : Scanner) (read : List Glyph → Except Fault (Token × List Glyph)) :
    Except Fault Scanner := do
  let s ← s.markKey
  let (t, glyphs) ← read s.glyphs
  .ok { s.emit t with glyphs, keyAllowed := false }

/-- The opening bracket of a flow collection. -/
def openFlow (s : Scanner) (t : Token) : Except Fault Scanner := do
  let s ← s.markKey
  .ok (({ s with keys := none :: s.keys }.allowKey true).mark t)

/-- The closing bracket of a flow collection. -/
def closeFlow (s : Scanner) (t : Token) : Except Fault Scanner := do
  let s ← s.dropKey
  let keys := if s.inFlow then s.keys.drop 1 else s.keys
  .ok (({ s with keys }.allowKey false).mark t)

/-- The `-` of a block sequence. -/
def blockEntry (s : Scanner) (column : Nat) : Except Fault Scanner := do
  if !s.inFlow && !s.keyAllowed then .error .entryNotAllowed
  else
    let s := s.openAt column s.tokens.length .blockSequence
    let s ← s.dropKey
    .ok ((s.allowKey true).mark .blockEntry)

/-- The `?` before a key. -/
def explicitKey (s : Scanner) (column : Nat) : Except Fault Scanner := do
  if !s.inFlow && !s.keyAllowed then .error .keyNotAllowed
  else
    let s := s.openAt column s.tokens.length .blockMapping
    let s ← s.dropKey
    .ok ((s.allowKey !s.inFlow).mark .key)

/-- The `:` before a value. -/
def value (s : Scanner) (column : Nat) : Except Fault Scanner :=
  match s.keys with
  | some k :: rest =>
    let s := (s.emitAt k.before .key).openAt k.glyph.column k.before .blockMapping
    .ok (({ s with keys := none :: rest }.allowKey false).mark .value)
  | _ =>
    if s.inFlow then .ok ((s.allowKey false).mark .value)
    else if !s.keyAllowed then .error .valueNotAllowed
    else .ok (((s.openAt column s.tokens.length .blockMapping).allowKey true).mark .value)

/-- Leaves the current document: block collections are closed and no key may come. -/
def leaveDocument (s : Scanner) : Except Fault Scanner := do
  let s ← (s.closeTo (-1)).dropKey
  .ok (s.allowKey false)

/-- A scalar in quotes. -/
def quoted (s : Scanner) (read : List Glyph → Except Fault (List Char × List Glyph)) :
    Except Fault Scanner :=
  s.content fun gs => do
    let (cs, rest) ← read (gs.drop 1)
    .ok (.scalar (String.ofList cs) false, rest)

/-- A plain scalar. After a line end a key may begin. -/
def plain (s : Scanner) : Except Fault Scanner := do
  let s ← s.markKey
  let (cs, broken, glyphs) ← readPlain s.inFlow (s.indent + 1) [] .empty s.glyphs
  .ok { s.emit (.scalar (String.ofList cs) true) with glyphs, keyAllowed := broken }

/-- A block scalar. -/
def block (s : Scanner) (literal : Bool) : Except Fault Scanner := do
  let s ← s.dropKey
  let (cs, glyphs) ← readBlock literal s.indent (s.glyphs.drop 1)
  .ok { s.emit (.scalar (String.ofList cs) false) with glyphs, keyAllowed := true }

/-- Whether a plain scalar can begin with `c`, whatever follows. -/
def beginsPlain (c : Char) : Bool :=
  !isGap c && !"-?:,[]\x7b\x7d#&*!|>'\"%@\x60".toList.contains c

/-- Reads the token that begins with the glyph `g`. -/
def token (s : Scanner) (g : Glyph) (rest : List Glyph) : Except Fault Scanner :=
  let c := g.char
  if g.column = 0 ∧ c = '%' then do
    let s ← s.leaveDocument
    let (t, glyphs) ← readDirective rest
    .ok { s.emit t with glyphs }
  else if atMarker (g :: rest) then do
    let s ← s.leaveDocument
    .ok ((s.skip 3).emit (if c = '-' then .documentStart else .documentEnd))
  else if c = '[' then s.openFlow .flowSequence
  else if c = '{' then s.openFlow .flowMapping
  else if c = ']' then s.closeFlow .flowSequenceEnd
  else if c = '}' then s.closeFlow .flowMappingEnd
  else if c = ',' then do
    let s ← s.dropKey
    .ok ((s.allowKey true).mark .flowEntry)
  else if c = '-' ∧ atGap rest then s.blockEntry g.column
  else if c = '?' ∧ (s.inFlow ∨ atGap rest) then s.explicitKey g.column
  else if c = ':' ∧ (s.inFlow ∨ atGap rest) then s.value g.column
  else if c = '*' then s.content fun gs => do
    let (name, rest) ← readAnchor (gs.drop 1)
    .ok (.alias name, rest)
  else if c = '&' then s.content fun gs => do
    let (name, rest) ← readAnchor (gs.drop 1)
    .ok (.anchor name, rest)
  else if c = '!' then s.content (readTag s.inFlow)
  else if c = '|' ∧ !s.inFlow then s.block true
  else if c = '>' ∧ !s.inFlow then s.block false
  else if c = '\'' then s.quoted (readSingle [] .empty)
  else if c = '"' then s.quoted (readDouble [] .empty .none)
  else if beginsPlain c || c == '-' || (!s.inFlow && (c == '?' || c == ':')) then s.plain
  else .error .noSuchToken

/-- Reads all tokens; one is read for each unit of fuel. -/
def run (s : Scanner) : Nat → Except Fault (List Token)
  | 0 => .error .noSuchToken
  | fuel + 1 => do
    let s := s.settle
    match s.glyphs with
    | [] =>
      let s ← s.leaveDocument
      .ok s.tokens.reverse
    | g :: rest =>
      let keys ← dropPastKeys g s.keys
      let s ← ({ s with keys }.closeTo g.column).token g rest
      run s fuel

end Scanner

/-- The tokens of a text. -/
def Token.ofText? (s : String) : Except Fault (List Token) :=
  match glyphs? s with
  | none => .error .badCharacter
  | some gs => (Scanner.start gs).run (gs.length + 1)

end RouteFlow.Yaml
