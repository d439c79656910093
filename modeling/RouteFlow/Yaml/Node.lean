import RouteFlow.Yaml.Token
import RouteFlow.Entries

/-!
# Nodes

`Node.ofTokens?` builds the tree of the one document of a text. Anchors are numbered by how many
names are known when they come up, so that an anchor whose name is used again may share its number
with a later one; an alias is the number that its name has at that point.
-/

namespace RouteFlow.Yaml

/-- A node of a document. -/
inductive Node where
  | scalar (text : String) (plain : Bool) (tag? : Option String) (anchor? : Option Nat)
  | sequence (items : List Node) (tag? : Option String) (anchor? : Option Nat)
  | mapping (pairs : List (Node × Node)) (tag? : Option String) (anchor? : Option Nat)
  | alias (anchor : Nat)

instance : Inhabited Node := ⟨.scalar "" true none none⟩

/-- The node where nothing is written. -/
def Node.absent : Node := .scalar "" true none none

/-! ### Views -/

mutual

/-- The number of events that tell of a node: one for a scalar or an alias, and a collection has a
beginning and an end. -/
def Node.size : Node → Nat
  | .scalar .. => 1
  | .alias _ => 1
  | .sequence items _ _ => sizeOfItems items + 2
  | .mapping pairs _ _ => sizeOfPairs pairs + 2

/-- The events of items. -/
def sizeOfItems : List Node → Nat
  | [] => 0
  | n :: rest => n.size + sizeOfItems rest

/-- The events of pairs. -/
def sizeOfPairs : List (Node × Node) → Nat
  | [] => 0
  | (k, v) :: rest => k.size + v.size + sizeOfPairs rest

end

mutual

/-- The anchored nodes with their numbers, in the order in which they begin. -/
def Node.anchored : Node → List (Nat × Node)
  | .scalar text plain tag? anchor? =>
    anchor?.toList.map fun a => (a, .scalar text plain tag? anchor?)
  | .sequence items tag? anchor? =>
    (anchor?.toList.map fun a => (a, .sequence items tag? anchor?)) ++ anchoredItems items
  | .mapping pairs tag? anchor? =>
    (anchor?.toList.map fun a => (a, .mapping pairs tag? anchor?)) ++ anchoredPairs pairs
  | .alias _ => []

/-- The anchored nodes among items. -/
def anchoredItems : List Node → List (Nat × Node)
  | [] => []
  | n :: rest => n.anchored ++ anchoredItems rest

/-- The anchored nodes among pairs. -/
def anchoredPairs : List (Node × Node) → List (Nat × Node)
  | [] => []
  | (k, v) :: rest => k.anchored ++ v.anchored ++ anchoredPairs rest

end

/-! ### Building -/

/-- What is left to read and the numbers of the anchor names so far. -/
structure Reading where
  tokens : List Token
  names : Entries Nat

namespace Reading

/-- The reading after the next token. -/
def advance (r : Reading) : Reading := { r with tokens := r.tokens.drop 1 }

/-- Numbers an anchor. -/
def register (r : Reading) : Option String → Option Nat × Reading
  | none => (none, r)
  | some name =>
    let id := r.names.length
    (some id, { r with names := r.names.insert name id })

end Reading

/-- The anchor and the tag before a node, in either order, and what follows. -/
def properties : List Token → Option String × Option (String × String) × List Token
  | .anchor name :: .tag handle suffix :: rest => (some name, some (handle, suffix), rest)
  | .tag handle suffix :: .anchor name :: rest => (some name, some (handle, suffix), rest)
  | .anchor name :: rest => (some name, none, rest)
  | .tag handle suffix :: rest => (none, some (handle, suffix), rest)
  | rest => (none, none, rest)

/-- The tag that a handle and a suffix stand for. -/
def resolveTag (handles : Entries String) :
    Option (String × String) → Except Fault (Option String)
  | none => .ok none
  | some ("", suffix) => .ok (some suffix)
  | some (handle, suffix) =>
    match handles.get? handle with
    | some start => .ok (some (start ++ suffix))
    | none => .error .undefinedTag

/-- Whether an entry of a block sequence has nothing in it. -/
def endsBlockEntry : List Token → Bool
  | .blockEntry :: _ | .blockEnd :: _ => true
  | _ => false

/-- Whether an entry of a sequence without indentation has nothing in it. -/
def endsFlatEntry : List Token → Bool
  | .blockEntry :: _ | .key :: _ | .value :: _ | .blockEnd :: _ => true
  | _ => false

/-- Whether a key or a value of a block mapping has nothing in it. -/
def endsBlockPart : List Token → Bool
  | .key :: _ | .value :: _ | .blockEnd :: _ => true
  | _ => false

/-- Whether a key of a flow mapping has nothing in it. -/
def endsFlowKey : List Token → Bool
  | .value :: _ | .flowEntry :: _ | .flowMappingEnd :: _ => true
  | _ => false

/-- Whether a value of a flow mapping has nothing in it. -/
def endsFlowValue : List Token → Bool
  | .flowEntry :: _ | .flowMappingEnd :: _ => true
  | _ => false

/-- Whether the key of a pair in a flow sequence has nothing in it. -/
def endsPairKey : List Token → Bool
  | .value :: _ | .flowEntry :: _ | .flowSequenceEnd :: _ => true
  | _ => false

/-- Whether the value of a pair in a flow sequence has nothing in it. -/
def endsPairValue : List Token → Bool
  | .flowEntry :: _ | .flowSequenceEnd :: _ => true
  | _ => false

mutual

/-- Reads a node. Block collections are admitted when `block`, and a sequence whose entries stand
at the column of the mapping around it when `flat`. -/
def readNode (handles : Entries String) (block flat : Bool) (r : Reading) :
    Nat → Except Fault (Node × Reading)
  | 0 => .error .contentExpected
  | fuel + 1 =>
    match r.tokens with
    | .alias name :: rest =>
      match r.names.get? name with
      | some id => .ok (.alias id, { r with tokens := rest })
      | none => .error .unknownAlias
    | tokens => do
      let (name?, written?, tokens) := properties tokens
      let tag? ← resolveTag handles written?
      let (anchor?, r) := ({ r with tokens }).register name?
      let sequence (p : List Node × Reading) : Node × Reading :=
        (.sequence p.1 tag? anchor?, p.2)
      let mapping (p : List (Node × Node) × Reading) : Node × Reading :=
        (.mapping p.1 tag? anchor?, p.2)
      match tokens with
      | .scalar text plain :: _ => .ok (.scalar text plain tag? anchor?, r.advance)
      | .flowSequence :: _ => (readFlowItems handles true r.advance fuel).map sequence
      | .flowMapping :: _ => (readFlowPairs handles true r.advance fuel).map mapping
      | tokens =>
        match block, flat, tokens with
        | _, true, .blockEntry :: _ => (readFlatItems handles r fuel).map sequence
        | true, _, .blockSequence :: _ => (readBlockItems handles r.advance fuel).map sequence
        | true, _, .blockMapping :: _ => (readBlockPairs handles r.advance fuel).map mapping
        | _, _, _ =>
          if name?.isSome || tag?.isSome then .ok (.scalar "" true tag? anchor?, r)
          else .error .contentExpected

/-- Reads a node, or the absent one if nothing is written. -/
def readPart (handles : Entries String) (block flat : Bool) (isAbsent : Bool) (r : Reading) :
    Nat → Except Fault (Node × Reading)
  | 0 => .error .contentExpected
  | fuel + 1 => if isAbsent then .ok (.absent, r) else readNode handles block flat r fuel

/-- Reads the entries of a block sequence and its end. -/
def readBlockItems (handles : Entries String) (r : Reading) :
    Nat → Except Fault (List Node × Reading)
  | 0 => .error .dashExpected
  | fuel + 1 =>
    match r.tokens with
    | .blockEntry :: rest => do
      let (item, r) ← readPart handles true false (endsBlockEntry rest) r.advance fuel
      let (items, r) ← readBlockItems handles r fuel
      .ok (item :: items, r)
    | .blockEnd :: _ => .ok ([], r.advance)
    | _ => .error .dashExpected

/-- Reads the entries of a sequence without indentation. -/
def readFlatItems (handles : Entries String) (r : Reading) :
    Nat → Except Fault (List Node × Reading)
  | 0 => .error .dashExpected
  | fuel + 1 =>
    match r.tokens with
    | .blockEntry :: rest => do
      let (item, r) ← readPart handles true false (endsFlatEntry rest) r.advance fuel
      let (items, r) ← readFlatItems handles r fuel
      .ok (item :: items, r)
    | _ => .ok ([], r)

/-- Reads the pairs of a block mapping and its end. -/
def readBlockPairs (handles : Entries String) (r : Reading) :
    Nat → Except Fault (List (Node × Node) × Reading)
  | 0 => .error .keyExpected
  | fuel + 1 =>
    match r.tokens with
    | .key :: rest => do
      let (k, r) ← readPart handles true true (endsBlockPart rest) r.advance fuel
      let (v, r) ←
        match r.tokens with
        | .value :: rest => readPart handles true true (endsBlockPart rest) r.advance fuel
        | _ => .ok (.absent, r)
      let (pairs, r) ← readBlockPairs handles r fuel
      .ok ((k, v) :: pairs, r)
    | .blockEnd :: _ => .ok ([], r.advance)
    | _ => .error .keyExpected

/-- Reads the entries of a flow sequence and its closing bracket. -/
def readFlowItems (handles : Entries String) (isFirst : Bool) (r : Reading) :
    Nat → Except Fault (List Node × Reading)
  | 0 => .error .listEndExpected
  | fuel + 1 => do
    let r ←
      match isFirst, r.tokens with
      | true, _ => .ok r
      | false, .flowEntry :: _ => .ok r.advance
      | false, .flowSequenceEnd :: _ => .ok r
      | false, _ => .error .listEndExpected
    match r.tokens with
    | .flowSequenceEnd :: _ => .ok ([], r.advance)
    | .key :: _ => do
      let (pair, r) ← readFlowPair handles r.advance fuel
      let (items, r) ← readFlowItems handles false r fuel
      .ok (.mapping [pair] none none :: items, r)
    | _ => do
      let (item, r) ← readNode handles false false r fuel
      let (items, r) ← readFlowItems handles false r fuel
      .ok (item :: items, r)

/-- Reads a single pair in a flow sequence after its key mark. Where the key has nothing in it the
token in its place is passed over. -/
def readFlowPair (handles : Entries String) (r : Reading) :
    Nat → Except Fault ((Node × Node) × Reading)
  | 0 => .error .keyExpected
  | fuel + 1 => do
    let (k, r) ←
      if endsPairKey r.tokens then .ok (.absent, r.advance) else readNode handles false false r fuel
    match r.tokens with
    | .value :: rest => do
      let (v, r) ← readPart handles false false (endsPairValue rest) r.advance fuel
      .ok ((k, v), r)
    | _ => .ok ((k, .absent), r)

/-- Reads the pairs of a flow mapping and its closing brace. -/
def readFlowPairs (handles : Entries String) (isFirst : Bool) (r : Reading) :
    Nat → Except Fault (List (Node × Node) × Reading)
  | 0 => .error .mappingEndExpected
  | fuel + 1 => do
    let r ←
      match isFirst, r.tokens with
      | true, _ => .ok r
      | false, .flowEntry :: _ => .ok r.advance
      | false, .flowMappingEnd :: _ => .ok r
      | false, _ => .error .mappingEndExpected
    match r.tokens with
    | .flowMappingEnd :: _ => .ok ([], r.advance)
    | .key :: rest => do
      let (k, r) ← readPart handles false false (endsFlowKey rest) r.advance fuel
      let (v, r) ←
        match r.tokens with
        | .value :: rest => readPart handles false false (endsFlowValue rest) r.advance fuel
        | _ => .ok (.absent, r)
      let (pairs, r) ← readFlowPairs handles false r fuel
      .ok ((k, v) :: pairs, r)
    | _ => do
      let (k, r) ← readNode handles false false r fuel
      let (pairs, r) ← readFlowPairs handles false r fuel
      .ok ((k, .absent) :: pairs, r)

end

/-! ### Documents -/

/-- The tag handles that every document has. -/
def standardHandles : Entries String := [("!", "!"), ("!!", "tag:yaml.org,2002:")]

/-- Reads the directives before a document; `versioned` tells whether a version came. -/
def readDirectives (versioned : Bool) (handles : Entries String) :
    List Token → Except Fault (Entries String × List Token)
  | .version major minor :: rest =>
    if versioned then .error .repeatedDirective
    else if major = 1 ∧ (minor = 1 ∨ minor = 2) then readDirectives true handles rest
    else .error .otherVersion
  | .tagHandle handle start :: rest =>
    if handles.has handle then .error .repeatedDirective
    else readDirectives versioned (handles.insert handle start) rest
  | tokens =>
    let missing := standardHandles.filter fun (h, _) => !handles.has h
    .ok (handles ++ missing, tokens)

/-- Whether a document has nothing in it. -/
def endsDocument : List Token → Bool
  | [] => true
  | .version .. :: _ | .tagHandle .. :: _ | .documentStart :: _ | .documentEnd :: _ => true
  | _ => false

/-- Reads the first document and says what follows it. -/
def readDocument (tokens : List Token) : Except Fault (Node × List Token) := do
  let fuel := 3 * tokens.length + 3
  let (handles, opened) ← readDirectives false [] tokens
  let explicit :=
    match tokens with
    | .version .. :: _ | .tagHandle .. :: _ | .documentStart :: _ => true
    | _ => false
  if explicit then
    match opened with
    | .documentStart :: body => do
      let (node, r) ← readPart handles true false (endsDocument body) ⟨body, []⟩ fuel
      .ok (node, r.tokens)
    | _ => .error .documentStartExpected
  else if tokens.isEmpty then .ok (.absent, [])
  else do
    let (node, r) ← readNode handles true false ⟨tokens, []⟩ fuel
    .ok (node, r.tokens)

/-- The tree of the one document that tokens hold. -/
def Node.ofTokens? (tokens : List Token) : Except Fault Node := do
  let (node, rest) ← readDocument tokens
  if (rest.dropWhile (· == .documentEnd)).isEmpty then .ok node else .error .secondDocument

end RouteFlow.Yaml
