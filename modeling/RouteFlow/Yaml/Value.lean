import RouteFlow.Yaml.Node
import RouteFlow.Json.Basic
import RouteFlow.Decimal.Reading

/-!
# YAML values

`ofText?` reads the value that a YAML text stands for. A plain scalar is `null`, a boolean, an
integer of 64 bits, a double or a string by the way it is spelled; one in quotes or in a block is
a string. Keys are the spelling of a scalar, and of equal keys the first place and the last value
count. Aliases are followed, but not more often than a hundred times for each event of the
document, and collections nest at most 128 deep.

* `scalarOf`: the value of a plain scalar.
-/

namespace RouteFlow.Yaml

/-! ### Plain scalars -/

/-- Whether a scalar is spelled as null. -/
def isNull (s : String) : Bool := ["null", "Null", "NULL", "~"].contains s

/-- The boolean that a scalar is spelled as. -/
def bool? (s : String) : Option Bool :=
  if ["true", "True", "TRUE"].contains s then some true
  else if ["false", "False", "FALSE"].contains s then some false
  else none

/-- The value of a digit in a base up to 16. -/
def digitIn? (base : Nat) (c : Char) : Option Nat := (hexDigit? c).filter (· < base)

/-- The number that digits in a base denote; there has to be one. -/
def digitsIn? (base : Nat) (cs : List Char) : Option Nat :=
  if cs.isEmpty then none
  else cs.foldlM (fun n c => (digitIn? base c).map (n * base + ·)) 0

/-- Whether digits begin with a zero that is not all there is, which makes them no number. -/
def hasIdleZero (cs : List Char) : Bool :=
  let ds := (Decimal.readSign cs).2
  1 < ds.length && ds.head? == some '0' && ds.all Text.isDecimal

/-- The magnitude of an integer after its sign. -/
def magnitude? (cs : List Char) : Option Nat :=
  match cs with
  | '0' :: 'x' :: ds => digitsIn? 16 ds
  | '0' :: 'o' :: ds => digitsIn? 8 ds
  | '0' :: 'b' :: ds => digitsIn? 2 ds
  | ds => if hasIdleZero ds then none else digitsIn? 10 ds

/-- The integer that a scalar is spelled as: whether it has a minus, and its magnitude. -/
def integer? : List Char → Option (Bool × Nat)
  | '-' :: cs => (magnitude? cs).map (true, ·)
  | '+' :: cs => (magnitude? cs).map (false, ·)
  | cs => (magnitude? cs).map (false, ·)

/-- How many numbers have 128 bits. -/
def doubleWordSize : Nat := UInt64.size * UInt64.size

/-- The value of an integer; one that has more than 64 bits but not more than 128 is a fault, and a
longer one is no integer. -/
def integerValue (negative : Bool) (n : Nat) : Except Fault (Option Json) :=
  if negative then
    if 2 * n ≤ UInt64.size then .ok (some (.number (.whole (-n))))
    else if 2 * n ≤ doubleWordSize then .error .wideInteger
    else .ok none
  else if n < UInt64.size then .ok (some (.number (.whole n)))
  else if n < doubleWordSize then .error .wideInteger
  else .ok none

/-- The integer that a scalar is spelled as. -/
def integerOf (s : String) : Except Fault (Option Json) :=
  match integer? s.toList with
  | some (negative, n) => integerValue negative n
  | none => .ok none

/-- The double that a scalar is spelled as; infinities and NaN are null. -/
def realOf? (s : String) : Option Json :=
  if [".inf", ".Inf", ".INF", "+.inf", "+.Inf", "+.INF", "-.inf", "-.Inf", "-.INF",
      ".nan", ".NaN", ".NAN"].contains s then some .null
  else
    let unsigned? :=
      match s.toList with
      | '+' :: '+' :: _ | '+' :: '-' :: _ => none
      | cs => some cs
    (unsigned?.bind Decimal.real?).bind fun x =>
      if x.isFinite then some (.number (.real x)) else none

/-- The value of a plain scalar without a tag. -/
def scalarOf (s : String) : Except Fault Json :=
  if s.isEmpty || isNull s then .ok .null
  else
    match bool? s with
    | some b => .ok (.bool b)
    | none => do
      match ← integerOf s with
      | some j => .ok j
      | none =>
        if hasIdleZero s.toList then .ok (.string s) else .ok ((realOf? s).getD (.string s))

/-! ### Tags -/

/-- What a tag says about a scalar. -/
inductive Kind where
  | bool
  | integer
  | real
  | null
  | string

/-- The kind that a tag names; any tag that names no other kind makes a string. -/
def kindOfTag (tag : String) : Kind :=
  if tag = "tag:yaml.org,2002:bool" then .bool
  else if tag = "tag:yaml.org,2002:int" then .integer
  else if tag = "tag:yaml.org,2002:float" then .real
  else if tag = "tag:yaml.org,2002:null" then .null
  else .string

/-- Whether no value can have a tag: those of the text's own making begin with `!`. -/
def isForeign (tag : String) : Bool := tag.startsWith "!"

/-- The value of a scalar with a tag. -/
def taggedScalar (tag s : String) : Except Fault Json :=
  match kindOfTag tag with
  | .bool => ((bool? s).map fun b => Except.ok (Json.bool b)).getD (.error .tagNotHeld)
  | .integer => do
    match ← integerOf s with
    | some j => .ok j
    | none => .error .tagNotHeld
  | .real => ((realOf? s).map Except.ok).getD (.error .tagNotHeld)
  | .null => if isNull s then .ok .null else .error .tagNotHeld
  | .string => .ok (.string s)

/-! ### Nodes -/

/-- The anchored nodes of a document; of equal numbers the one that begins last counts. -/
abbrev Anchors := List (Nat × Node)

/-- The node with an anchor. -/
def Anchors.find? (anchors : Anchors) (id : Nat) : Option Node :=
  (List.find? (fun p => p.1 == id) (List.reverse anchors)).map (·.2)

/-- The node that a node stands for, and how many aliases may still be followed. -/
def follow (anchors : Anchors) (jumps : Nat) : Node → Except Fault (Node × Nat)
  | .alias id =>
    match jumps, anchors.find? id with
    | 0, _ => .error .tooManyAliases
    | _, none => .error .unknownAlias
    | left + 1, some node => .ok (node, left)
  | node => .ok (node, jumps)

/-- The values of items read with `read`. -/
def valuesOfItems (read : Node → Nat → Except Fault (Json × Nat)) (jumps : Nat) :
    List Node → Except Fault (List Json × Nat)
  | [] => .ok ([], jumps)
  | n :: rest => do
    let (j, jumps) ← read n jumps
    let (js, jumps) ← valuesOfItems read jumps rest
    .ok (j :: js, jumps)

/-- The values of pairs read with `read`, added to `acc`. -/
def valuesOfPairs (anchors : Anchors) (read : Node → Nat → Except Fault (Json × Nat))
    (jumps : Nat) (acc : Entries Json) : List (Node × Node) → Except Fault (Entries Json × Nat)
  | [] => .ok (acc, jumps)
  | (k, v) :: rest => do
    let (k, jumps) ← follow anchors jumps k
    match k with
    | .scalar key _ _ _ => do
      let (j, jumps) ← read v jumps
      valuesOfPairs anchors read jumps (acc.insert key j) rest
    | _ => .error .keyNotScalar

/-- The value of a node; `depth` collections may still be opened. -/
def valueOf (anchors : Anchors) : Nat → Node → Nat → Except Fault (Json × Nat)
  | depth, node, jumps => do
    let (node, jumps) ← follow anchors jumps node
    match node with
    | .scalar text plain tag? _ =>
      match tag? with
      | some tag =>
        if isForeign tag then .error .foreignTag
        else do
          let j ← taggedScalar tag text
          .ok (j, jumps)
      | none =>
        if plain then do
          let j ← scalarOf text
          .ok (j, jumps)
        else .ok (.string text, jumps)
    | .sequence items tag? _ =>
      if tag?.any isForeign then .error .foreignTag
      else
        match depth with
        | 0 => .error .tooDeep
        | d + 1 => do
          let (js, jumps) ← valuesOfItems (valueOf anchors d) jumps items
          .ok (.array js, jumps)
    | .mapping pairs tag? _ =>
      if tag?.any isForeign then .error .foreignTag
      else
        match depth with
        | 0 => .error .tooDeep
        | d + 1 => do
          let (ms, jumps) ← valuesOfPairs anchors (valueOf anchors d) jumps [] pairs
          .ok (.object ms, jumps)
    | .alias _ => .error .unknownAlias

/-- The value of a document. -/
def Node.value (node : Node) : Except Fault Json :=
  (valueOf node.anchored 128 node (100 * node.size)).map (·.1)

/-- The value that a YAML text stands for. -/
def ofText? (s : String) : Except Fault Json := do
  let tokens ← Token.ofText? s
  let node ← Node.ofTokens? tokens
  node.value

end RouteFlow.Yaml
