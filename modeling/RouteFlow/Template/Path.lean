import RouteFlow.Json.Basic
import RouteFlow.Text.Blank
import RouteFlow.Text.Numeral

/-!
# Paths to values

A path such as `user.tags[1]` names a variable and a way into its value: by member name and by
index. `Path.parse` reads one, blanks around it set aside; `Path.render` writes segments down again.

* `Path.lookup`: the value that a path leads to from a given value.
* `Path.lookupIn`: the value that it leads to from the variable it starts with.
-/

namespace RouteFlow.Template

/-! ### Segments -/

/-- One step of a path: into the member of an object or to the item of an array. -/
inductive Segment where
  | key (name : String)
  | index (n : Nat)
  deriving DecidableEq

/-- A path: its text, without blanks around it, and the segments it stands for. -/
structure Path where
  text : String
  segments : List Segment
  deriving DecidableEq

/-- Why a text is not a path. -/
inductive PathError where
  | empty
  | emptySegment (text : String)
  | badName (name : String)
  | badIndex (part : String)
  deriving DecidableEq

/-- The wording of a path error. -/
def PathError.message : PathError → String
  | .empty => "context path must not be empty"
  | .emptySegment text => "context path `" ++ text ++ "` contains an empty segment"
  | .badName name => "invalid name segment: " ++ name
  | .badIndex part => "invalid index in segment: " ++ part

/-- The characters of a name: ASCII letters and digits, `_` and `-`. -/
def isNameChar (c : Char) : Bool := c.isAlphanum || c == '_' || c == '-'

/-- Whether `cs` is a name: one or more name characters. -/
def isName (cs : List Char) : Bool := !cs.isEmpty && cs.all isNameChar

namespace Path

/-! ### Reading -/

/-- The index in `[n`, an index part without its closing bracket. Blanks around the number do not
count. -/
def index? : List Char → Option Segment
  | '[' :: cs => (Text.word64? (Text.trim cs)).map .index
  | _ => none

/-- The indexes in a row of parts `[n]`. -/
def indexes? (cs : List Char) : Option (List Segment) :=
  match (cs.splitOn ']').reverse with
  | [] :: groups => groups.reverse.mapM index?
  | _ => none

/-- Reads one of the parts between the points of the path `text`: a name and the indexes after
it. -/
def readPart (text : String) (part : List Char) : Except PathError (List Segment) :=
  let name := part.takeWhile (· != '[')
  if name.isEmpty then .error (.emptySegment text)
  else if !isName name then .error (.badName (String.ofList name))
  else
    match indexes? (part.dropWhile (· != '[')) with
    | none => .error (.badIndex (String.ofList part))
    | some indexes => .ok (.key (String.ofList name) :: indexes)

/-- Reads the parts of the path `text` in order. -/
def readParts (text : String) : List (List Char) → Except PathError (List Segment)
  | [] => .ok []
  | part :: rest => do
    let segments ← readPart text part
    let others ← readParts text rest
    .ok (segments ++ others)

/-- Reads a path. -/
def parse (s : String) : Except PathError Path :=
  let cs := Text.trim s.toList
  if cs.isEmpty then .error .empty
  else do
    let segments ← readParts (String.ofList cs) (cs.splitOn '.')
    .ok ⟨String.ofList cs, segments⟩

/-! ### Writing -/

/-- The text of segments after the first one. -/
def renderRest : List Segment → List Char
  | [] => []
  | .key name :: rest => '.' :: name.toList ++ renderRest rest
  | .index n :: rest => '[' :: Nat.toDigits 10 n ++ ']' :: renderRest rest

/-- The text of segments: names joined by points, indexes in brackets. -/
def render : List Segment → String
  | .key name :: rest => String.ofList (name.toList ++ renderRest rest)
  | segments => String.ofList (renderRest segments)

/-! ### Following -/

/-- The value one segment away. -/
def step? (j : Json) : Segment → Option Json
  | .key name => j.get? name
  | .index n => j.items?.bind (·[n]?)

/-- The value that segments lead to. -/
def walk (j : Json) : List Segment → Option Json
  | [] => some j
  | s :: rest => (step? j s).bind (walk · rest)

/-- The value that a path leads to from `j`. -/
def lookup (p : Path) (j : Json) : Option Json := walk j p.segments

/-- The value that a path leads to from the variable named by its first segment. -/
def lookupIn (p : Path) (vars : Entries Json) : Option Json :=
  match p.segments with
  | .key name :: rest => (vars.get? name).bind (walk · rest)
  | _ => none

/-- The name of the variable that a path starts with. -/
def root (p : Path) : String :=
  match p.segments with
  | .key name :: _ => name
  | _ => ""

@[simp] theorem walk_nil (j : Json) : walk j [] = some j := rfl

end Path
end RouteFlow.Template
