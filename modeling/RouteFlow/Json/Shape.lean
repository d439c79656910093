import RouteFlow.Json.Printer
import RouteFlow.Json.Refusal
import RouteFlow.Json.Source.Reading
import RouteFlow.Text.Quoted

/-!
# Reading values of a known shape

A `Reader α` reads an `α` from a `Source`, that is, from a value or straight from a text. A
`Shape α` describes a record: its name and its fields, each with the way it is stored and what
happens when it is absent. `Shape.read` accepts an object, in which unknown members are passed over
and a known one may stand only once, and a list, whose items fill the fields in order.

A reader that fails says where, if it knows; otherwise the record around it supplies the place.

* `Reader.ofJson`, `Reader.ofText`: reading from a value, with a bare message, and from a text, with
  line and column.
-/

namespace RouteFlow.Json

/-! ### Mismatches -/

/-- What was found in place of the expected kind of value. -/
inductive Found where
  | null
  | bool (b : Bool)
  | number (n : Number)
  | string (s : String)
  | list
  | object
  deriving DecidableEq

/-- The description of what was found. -/
def Found.text : Found → String
  | .null => "null"
  | .bool b => "boolean `" ++ (if b then "true" else "false") ++ "`"
  | .number (.whole n) => "integer `" ++ toString n ++ "`"
  | .number (.real x) => "floating point `" ++ realText x ++ "`"
  | .string s => "string " ++ Text.quoted s
  | .list => "sequence"
  | .object => "map"

/-- A way in which a well-formed text misses the expected shape. -/
inductive Mismatch where
  | wrongType (found : Found) (expected : String)
  | missingField (name : String)
  | duplicateField (name : String)
  | wrongLength (length : Nat) (expected : String)
  | unknownVariant (name : String) (known : List String)
  | refused (refusal : Refusal)
  deriving DecidableEq

/-- The wording of a mismatch. -/
def Mismatch.message : Mismatch → String
  | .wrongType found expected => "invalid type: " ++ found.text ++ ", expected " ++ expected
  | .missingField name => "missing field `" ++ name ++ "`"
  | .duplicateField name => "duplicate field `" ++ name ++ "`"
  | .wrongLength length expected =>
    "invalid length " ++ toString length ++ ", expected " ++ expected
  | .unknownVariant name known =>
    "unknown variant `" ++ name ++ "`, expected one of " ++
      String.intercalate ", " (known.map fun k => "`" ++ k ++ "`")
  | .refused r => r.reason

/-- Why a source could not be read: a fault of form or of shape, the latter with its place if one is
known. -/
inductive ShapeError where
  | form (fault : FaultAt)
  | shape (mismatch : Mismatch) (offset : Option Nat)
  deriving DecidableEq

/-- The wording of an error, without the place in a text. -/
def ShapeError.reason : ShapeError → String
  | .form f => f.fault.message
  | .shape m _ => m.message

/-- The line and the column that an error names of its own. -/
def ShapeError.ownPlace? : ShapeError → Option (Nat × Nat)
  | .shape (.refused r) _ => r.place?
  | _ => none

/-- The wording of an error of a value. -/
def ShapeError.message (e : ShapeError) : String :=
  match e.ownPlace? with
  | some (line, column) => e.reason ++ Refusal.placeText line column
  | none => e.reason

/-- Gives an error without a place the place `offset`. -/
def ShapeError.placedAt (offset : Nat) : ShapeError → ShapeError
  | .shape m none => .shape m (some offset)
  | e => e

/-- The place of an error. -/
def ShapeError.offset? : ShapeError → Option Nat
  | .form f => some f.offset
  | .shape _ o => o

/-! ### Readers -/

/-- A way to read an `α`. -/
abbrev Reader (α : Type) := Source → Except ShapeError α

namespace Source

/-- The kind of a source and the place at which a wrong kind is reported; none where the text breaks
off. -/
def found : Source → Except ShapeError (Found × Nat)
  | .null span => .ok (.null, span.stop)
  | .bool b span => .ok (.bool b, span.stop)
  | .number n span => match n with
    | .ok n => .ok (.number n, span.stop)
    | .error f => .error (.form f)
  | .string s span => match s with
    | .ok s => .ok (.string s, span.stop)
    | .error f => .error (.form f)
  | .list _ span => .ok (.list, span.start)
  | .object _ span => .ok (.object, span.start)
  | .deep s => s.found
  | .broken b => .error (.form b.wanted)

/-- The error of a source that is not what was expected. -/
def mismatch (s : Source) (expected : String) : ShapeError :=
  match s.found with
  | .ok (found, at?) => .shape (.wrongType found expected) (some at?)
  | .error e => e

mutual

/-- The first fault that who passes over a source meets. -/
def firstBreak? : Source → Option FaultAt
  | .list items _ => firstBreakIn? items
  | .object ms _ => firstBreakAmong? ms
  | .deep s => s.firstBreak?
  | .broken b => some b.passed
  | _ => none

/-- The first fault that who passes over items meets. -/
def firstBreakIn? : List Source → Option FaultAt
  | [] => none
  | s :: rest => (firstBreak? s).orElse fun _ => firstBreakIn? rest

/-- The first fault that who passes over members meets. -/
def firstBreakAmong? : List Member → Option FaultAt
  | [] => none
  | (_, s) :: rest => (firstBreak? s).orElse fun _ => firstBreakAmong? rest

end

end Source

namespace Reader

/-- Reads any value. -/
def json : Reader Json := fun s => s.toJson.mapError .form

/-- Reads a string. -/
def string : Reader String
  | .string (.ok s) _ => .ok s
  | s => .error (s.mismatch "a string")

/-- Reads `null` as none and all else with `r`. -/
def optional {α : Type} (r : Reader α) : Reader (Option α)
  | .null _ => .ok none
  | s => (r s).map some

/-- Reads the items of a list with `r`; `settle` places an error of an item. -/
def items {α : Type} (r : Reader α) : List Source → Except ShapeError (List α)
  | [] => .ok []
  | s :: rest => do
    let a ← (r s).mapError (·.placedAt s.span.settled)
    let as ← items r rest
    .ok (a :: as)

/-- Reads a list whose items `r` reads. -/
def list {α : Type} (r : Reader α) : Reader (List α)
  | .list ss _ => items r ss
  | .deep (.list ss span) => .error (.form (Source.list ss span).depthFault)
  | s => .error (s.mismatch "a sequence")

/-- Reads the members of an object with `r` and hands each to `add`. -/
def members {α : Type} (r : Reader α) (add : Entries α → String → α → Entries α)
    (acc : Entries α) :
    List Member → Except ShapeError (Entries α)
  | [] => .ok acc
  | ((key, _), s) :: rest => do
    let k ← key.mapError .form
    let a ← (r s).mapError (·.placedAt s.span.settled)
    members r add (add acc k a) rest

/-- Reads an object whose members `r` reads, in their order. -/
def entries {α : Type} (r : Reader α) : Reader (Entries α)
  | .object ms _ => members r Entries.insert [] ms
  | .deep (.object ms span) => .error (.form (Source.object ms span).depthFault)
  | s => .error (s.mismatch "a map")

/-- Reads an object whose members `r` reads, names ascending. -/
def sorted {α : Type} (r : Reader α) : Reader (Entries α)
  | .object ms _ => members r Entries.insertSorted [] ms
  | .deep (.object ms span) => .error (.form (Source.object ms span).depthFault)
  | s => .error (s.mismatch "a map")

end Reader

/-! ### Records -/

/-- A field of a record under construction: how a value is stored in it, and what becomes of it when
no value is given. -/
structure Field (α : Type) where
  name : String
  store : Source → α → Except ShapeError α
  required : Bool

/-- A record: its name, the state before any field is read and the fields in order. -/
structure Shape (α : Type) where
  name : String
  fields : List (Field α)
  start : α

namespace Field

/-- A field read with `r` that may be absent. -/
def plain {α β : Type} (name : String) (r : Reader β) (set : α → β → α) : Field α :=
  ⟨name, fun s a => (r s).map (set a), false⟩

/-- A field read with `r` that must be given. -/
def needed {α β : Type} (name : String) (r : Reader β) (set : α → β → α) : Field α :=
  ⟨name, fun s a => (r s).map (set a), true⟩

end Field

namespace Shape

variable {α : Type}

/-- How a reader of the record describes it. -/
def title (shape : Shape α) : String := "struct " ++ shape.name

/-- Stores the members of an object; `seen` lists the fields that have their value. -/
def fill (shape : Shape α) (seen : List String) (a : α) :
    List Member → Except ShapeError (List String × α)
  | [] => .ok (seen, a)
  | ((key, place), s) :: rest => do
    let k ← key.mapError .form
    match shape.fields.find? (·.name == k) with
    | none =>
      match s.firstBreak? with
      | some f => .error (.form f)
      | none => fill shape seen a rest
    | some field =>
      if seen.contains k then .error (.shape (.duplicateField k) (some place.settled))
      else
        let a ← (field.store s a).mapError (·.placedAt s.span.settled)
        fill shape (k :: seen) a rest

/-- The first field that had to be given and was not. -/
def missing? (shape : Shape α) (seen : List String) : Option (Field α) :=
  shape.fields.find? fun field => field.required && !seen.contains field.name

/-- Stores the items of a list in the fields in order; what is left over comes back. -/
def fillInOrder (a : α) : List (Field α) → List Source → Except ShapeError
    (α × List (Field α) × List Source)
  | field :: fields, s :: rest => do
    let a ← (field.store s a).mapError (·.placedAt s.span.settled)
    fillInOrder a fields rest
  | fields, rest => .ok (a, fields, rest)

/-- The error of a list that goes on after the last field. -/
def surplus (length : Nat) (extra : Source) (written : Bool) : ShapeError :=
  if written then
    match extra with
    | .broken b =>
      .form (if b.wanted.fault = .trailingComma ∨ b.wanted.fault = .endInList then b.wanted
        else ⟨.trailingCharacters, b.first⟩)
    | s => .form ⟨.trailingCharacters, s.span.start + 1⟩
  else .shape (.wrongLength length "fewer elements in array") none

/-- Reads the record from an object or from a list. -/
def read (shape : Shape α) : Reader α
  | .object ms span => do
    let (seen, a) ← shape.fill [] shape.start ms
    match shape.missing? seen with
    | some field => .error (.shape (.missingField field.name) (some span.stop))
    | none => .ok a
  | .list ss span => do
    let (a, unfilled, extra) ← fillInOrder shape.start shape.fields ss
    match unfilled.find? (·.required) with
    | some field =>
      let index := shape.fields.findIdx (·.name == field.name)
      .error (.shape
        (.wrongLength index (shape.title ++ " with " ++ toString shape.fields.length ++
          (if shape.fields.length = 1 then " element" else " elements")))
        (some span.stop))
    | none =>
      match extra with
      | [] => .ok a
      | s :: _ => .error (surplus ss.length s (span != .nowhere))
  | .deep s => .error (.form s.depthFault)
  | s => .error (s.mismatch shape.title)

end Shape

/-! ### Texts -/

/-- An error of a text with the line and column it is reported at. -/
structure TextError where
  error : ShapeError
  line : Nat
  column : Nat
  deriving DecidableEq

/-- The line and the column after the first `offset` octets of a text. -/
def lineAndColumn (bs : List UInt8) (offset : Nat) : Nat × Nat :=
  (bs.take offset).foldl
    (fun (p : Nat × Nat) (b : UInt8) => if b = 0x0A then (p.1 + 1, 0) else (p.1, p.2 + 1)) (1, 0)

/-- An error of the text `bs`. -/
def TextError.of (bs : List UInt8) (e : ShapeError) : TextError :=
  let (line, column) := e.ownPlace?.getD (lineAndColumn bs (e.offset?.getD 0))
  ⟨e, line, column⟩

/-- The wording of an error, with its place. -/
def TextError.message (e : TextError) : String :=
  match e.error.offset? with
  | none => e.error.message
  | some _ => e.error.reason ++ Refusal.placeText e.line e.column

namespace Reader

variable {α : Type}

/-- Reads an `α` from a value. -/
def ofJson (r : Reader α) (j : Json) : Except ShapeError α := r (.ofJson j)

/-- Reads an `α` from a whole text. -/
def ofOctets (r : Reader α) (bs : List UInt8) : Except TextError α :=
  let part := Source.ofOctets bs
  (do
    let a ← r part.source
    match part.next.bind Place.trailing? with
    | some f => .error (.form f)
    | none => .ok a).mapError (.of bs)

/-- Reads an `α` from a whole text. -/
def ofText (r : Reader α) (s : String) : Except TextError α := r.ofOctets (Text.octets s)

end Reader

/-- Reads a value from a text. -/
def ofText (s : String) : Except TextError Json := Reader.json.ofText s

/-- Reads a value from the octets of a text. -/
def ofOctets (bs : List UInt8) : Except TextError Json := Reader.json.ofOctets bs

end RouteFlow.Json
