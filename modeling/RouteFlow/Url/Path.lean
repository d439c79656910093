import RouteFlow.Url.Escape

/-!
# Paths of addresses

A path is read segment by segment. A segment of one point stands for the place that is reached
already, one of two points for the place above it, unless that is the letter of a drive: drives are
never left. In the address of a file a drive letter in front is written with a colon, and whatever
host the address names is dropped. A tab or a line end just behind such a letter counts as the slash
that is missing there; what follows it up to the next slash is taken as it is.

* `Trail.add`: one segment more.
* `resolve`: the path that raw segments stand for.
-/

namespace RouteFlow.Url

/-! ### Schemes -/

/-- The port that a scheme of the web stands for. -/
def defaultPort? : String → Option Nat
  | "http" | "ws" => some 80
  | "https" | "wss" => some 443
  | "ftp" => some 21
  | _ => none

/-- What kind of address a scheme introduces. -/
inductive Kind where
  | web
  | file
  | other
  deriving DecidableEq, Repr

/-- The kind of a scheme. -/
def kindOf (scheme : String) : Kind :=
  if scheme = "file" then .file
  else if (defaultPort? scheme).isSome then .web
  else .other

/-- Whether a backslash counts as a slash. -/
def Kind.isSpecial (k : Kind) : Bool := k != .other

/-- Whether a character separates path segments. -/
def Kind.isSlash (k : Kind) (c : Char) : Bool := c == '/' || (k.isSpecial && c == '\\')

/-- Whether a character ends the path. -/
def endsPath (c : Char) : Bool := c == '?' || c == '#'

/-- Whether a character is left out of an address: tabs and line ends. -/
def isBreak (c : Char) : Bool := c == '\t' || c == '\n' || c == '\r'

/-- What is left of characters without tabs and line ends. -/
def withoutBreaks (cs : List Char) : List Char := cs.filter (!isBreak ·)

/-! ### Segments -/

/-- A text with the escapes of a point resolved. -/
def plainPoints : List Char → List Char
  | '%' :: '2' :: 'e' :: rest | '%' :: '2' :: 'E' :: rest => '.' :: plainPoints rest
  | c :: rest => c :: plainPoints rest
  | [] => []

/-- Whether a segment stands for the directory itself. -/
def isHere (segment : List Char) : Bool := plainPoints segment == ['.']

/-- Whether a segment stands for the directory above. -/
def isAbove (segment : List Char) : Bool := plainPoints segment == ['.', '.']

/-- Whether a segment is the letter of a drive. -/
def isDrive (segment : List Char) : Bool :=
  match segment with
  | [c, ':'] | [c, '|'] => c.isAlpha
  | _ => false

/-- The letter of a drive with a break behind it, and what follows the break, if anything does. -/
def brokenDrive? (raw : List Char) : Option (List Char × List Char) :=
  match raw.dropWhile isBreak with
  | [] => none
  | c :: rest =>
    match rest.dropWhile isBreak with
    | ':' :: rest =>
      let after := withoutBreaks rest
      if c.isAlpha && rest.head?.any isBreak && !after.isEmpty then some ([c, ':'], after) else none
    | _ => none

/-! ### Resolution -/

/-- The segments of a path so far, and whether the path of a file came upon a drive in front. -/
structure Trail where
  segments : List (List Char)
  onDrive : Bool

namespace Trail

/-- Nothing but the root. -/
def root : Trail := ⟨[], false⟩

/-- The trail with one segment more. -/
def push (t : Trail) (segment : List Char) : Trail := { t with segments := t.segments ++ [segment] }

/-- The place above, the place itself when it is a drive. -/
def above (t : Trail) : Trail :=
  if t.segments.getLast?.any isDrive then t else { t with segments := t.segments.dropLast }

/-- One raw segment more; `isLast` tells that no slash follows it. -/
def add (k : Kind) (t : Trail) (isLast : Bool) (raw : List Char) : Trail :=
  let segment := withoutBreaks raw
  let settle (t : Trail) : Trail := if isLast then t.push [] else t
  let isFront := k == .file && t.segments.isEmpty
  match if isFront then brokenDrive? raw else none with
  | some (drive, after) => (t.push drive).push (escape inPath after)
  | none =>
    if isAbove segment then settle t.above
    else if isHere segment then settle t
    else if isFront && isDrive segment then ⟨[segment.take 1 ++ [':']], true⟩
    else t.push (escape inPath segment)

/-- Raw segments more, in order. -/
def addAll (k : Kind) (t : Trail) : List (List Char) → Trail
  | [] => t
  | [raw] => t.add k true raw
  | raw :: rest => (t.add k false raw).addAll k rest

/-- The text of a path. -/
def text (t : Trail) : List Char := t.segments.flatMap fun s => '/' :: s

end Trail

/-- Where the raw characters after the first slash of a path lead. -/
def resolve (k : Kind) (cs : List Char) : Trail := Trail.root.addAll k (cs.splitOnP k.isSlash)

end RouteFlow.Url
