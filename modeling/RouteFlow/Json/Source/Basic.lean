import RouteFlow.Json.Basic
import RouteFlow.Json.Fault

/-!
# JSON as written

`Source` is a JSON text taken apart, each part with the offsets where it begins and ends, so that
a reader that expects a certain shape can say where the text departs from it. The text is followed
as far as it is well formed: the first fault of form becomes a part of its own (`Source.broken`)
and nothing after it is read. A fault that matters only to who wants the value, such as a number
out of range, an unpaired surrogate or a container that nests too deep, stays inside the part it
belongs to: who passes over a part does not meet it.

* `Source.toJson`: the value of a text, or the first fault on the way to it.
* `Source.ofJson`: a value viewed as a text, without places.
* `Source.depth`: how many containers surround the innermost part.
-/

namespace RouteFlow.Json

/-! ### The parts of a text -/

/-- Where something begins and ends, and where a reader stands after it once the blanks that follow
and a closing bracket are passed. -/
structure Span where
  start : Nat
  stop : Nat
  settled : Nat
  deriving DecidableEq, Repr

/-- A text without places. -/
def Span.nowhere : Span := ⟨0, 0, 0⟩

/-- A JSON text in parts. A list or an object that breaks off ends with a broken part, and one that
nests too deep is marked as such. -/
inductive Source where
  | null (span : Span)
  | bool (b : Bool) (span : Span)
  | number (value : Except FaultAt Number) (span : Span)
  | string (value : Except FaultAt String) (span : Span)
  | list (items : List Source) (span : Span)
  | object (members : List ((Except FaultAt String × Span) × Source)) (span : Span)
  | deep (inside : Source)
  | broken (break_ : Break)

instance : Inhabited Source := ⟨.null .nowhere⟩

/-- A member of an object: its name, where that stands, and its value. Where the text breaks off
before a name, the fault stands in place of it. -/
abbrev Member := (Except FaultAt String × Span) × Source

namespace Source

/-! ### Values as sources -/

mutual

/-- A value as if it had been written, without places. -/
def ofJson : Json → Source
  | .null => .null .nowhere
  | .bool b => .bool b .nowhere
  | .number n => .number (.ok n) .nowhere
  | .string s => .string (.ok s) .nowhere
  | .array items => .list (ofItems items) .nowhere
  | .object ms => .object (ofMembers ms) .nowhere

/-- Items as if they had been written. -/
def ofItems : List Json → List Source
  | [] => []
  | j :: rest => ofJson j :: ofItems rest

/-- Members as if they had been written. -/
def ofMembers : List (String × Json) → List Member
  | [] => []
  | (k, j) :: rest => ((.ok k, .nowhere), ofJson j) :: ofMembers rest

end

/-! ### Depth -/

mutual

/-- The number of containers around the innermost part. -/
def depth : Source → Nat
  | .list items _ => depthOfItems items + 1
  | .object ms _ => depthOfMembers ms + 1
  | .deep s => s.depth
  | _ => 0

/-- The greatest depth among items. -/
def depthOfItems : List Source → Nat
  | [] => 0
  | s :: rest => max s.depth (depthOfItems rest)

/-- The greatest depth among members. -/
def depthOfMembers : List Member → Nat
  | [] => 0
  | (_, s) :: rest => max s.depth (depthOfMembers rest)

end

/-! ### Sources as values -/

/-- The span of a source. -/
def span : Source → Span
  | .null span | .bool _ span | .number _ span | .string _ span | .list _ span | .object _ span =>
    span
  | .deep s => s.span
  | .broken b => ⟨b.wanted.offset, b.wanted.offset, b.wanted.offset⟩

/-- The fault of a container that nests too deep. -/
def depthFault (inside : Source) : FaultAt := ⟨.tooDeep, inside.span.start + 1⟩

mutual

/-- The value of a source: of equal member names the first place and the last value count. -/
def toJson : Source → Except FaultAt Json
  | .null _ => .ok .null
  | .bool b _ => .ok (.bool b)
  | .number n _ => n.map .number
  | .string s _ => s.map .string
  | .list items _ => (toItems items).map .array
  | .object ms _ => (toMembers [] ms).map .object
  | .deep s => .error s.depthFault
  | .broken b => .error b.wanted

/-- The values of items. -/
def toItems : List Source → Except FaultAt (List Json)
  | [] => .ok []
  | s :: rest => do
    let j ← toJson s
    let js ← toItems rest
    .ok (j :: js)

/-- The values of members, added to `acc`. -/
def toMembers (acc : Entries Json) : List Member → Except FaultAt (Entries Json)
  | [] => .ok acc
  | ((key, _), s) :: rest => do
    let k ← key
    let j ← toJson s
    toMembers (acc.insert k j) rest

end

end Source

end RouteFlow.Json
