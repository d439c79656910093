import RouteFlow.Json.Source.Basic
import RouteFlow.Json.Source.Number
import RouteFlow.Json.Source.Text

/-!
# Reading a JSON text

A text is read in one pass, each value up to the place after it. A part after which nothing follows
is one in which the text breaks off, and the containers around it end there.

* `Source.ofOctets`: the parts of a text.
-/

namespace RouteFlow.Json

/-- How many containers a text may nest, plus one. -/
def depthLimit : Nat := 128

/-! ### Words -/

/-- Reads the octets of `word`, the first of which has been seen. -/
def readWord (word : List UInt8) (p : Place) : Except FaultAt Place :=
  match word with
  | [] => .ok p
  | w :: ws =>
    match p.rest with
    | [] => .error (p.fault .endInValue)
    | b :: _ =>
      if b = w then readWord ws (p.advance 1) else .error ((p.advance 1).fault .wordExpected)

/-! ### Values -/

/-- A part and the place after it, none when the text breaks off inside the part. -/
structure Part where
  source : Source
  next : Option Place

/-- The part that breaks off. -/
def Part.broken (b : Break) : Part := ⟨.broken b, none⟩

/-- A fault of a number as it shows to who passes over the number: its end is as good as any octet
that does not belong there. -/
def passedNumber (f : FaultAt) : FaultAt :=
  if f.fault = .endInValue then ⟨.badNumber, f.offset⟩ else f

mutual

/-- Reads one value; `depth` containers may still be opened, less one. -/
def readValue (settle : Place → Nat) (depth : Nat) (p : Place) : Nat → Part
  | 0 => .broken (p.breakWith (p.fault .endInValue))
  | fuel + 1 =>
    let q := p.skipBlanks
    let leaf (make : Span → Source) (r : Place) : Part :=
      ⟨make ⟨q.offset, r.offset, settle r⟩, some r⟩
    let word (rest : List UInt8) (make : Span → Source) : Part :=
      match readWord rest (q.advance 1) with
      | .ok r => leaf make r
      | .error f => .broken (q.breakWith f)
    let container (make : Span → Source) (end? : Option Place) : Part :=
      let mark (s : Source) : Source := if depth ≤ 1 then .deep s else s
      match end? with
      | some r => leaf (fun span => mark (make span)) r
      | none => ⟨mark (make ⟨q.offset, q.afterNext, q.afterNext⟩), none⟩
    match q.rest with
    | [] => .broken (q.breakWith (q.fault .endInValue))
    | b :: _ =>
      if b = 0x6E then word [0x75, 0x6C, 0x6C] .null
      else if b = 0x74 then word [0x72, 0x75, 0x65] (.bool true)
      else if b = 0x66 then word [0x61, 0x6C, 0x73, 0x65] (.bool false)
      else if b = 0x2D || isDigit b then
        match readNumber (b = 0x2D) (if b = 0x2D then q.advance 1 else q) with
        | .ok (value, r) => leaf (.number value) r
        | .error f => .broken ⟨f, passedNumber f, q.afterNext⟩
      else if b = 0x22 then
        match readString q with
        | .ok (value, r) => leaf (.string value) r
        | .error f => .broken f
      else if b = 0x5B then
        let (items, end?) := readItems (depth - 1) (q.advance 1) true fuel
        container (.list items) end?
      else if b = 0x7B then
        let (members, end?) := readMembers (depth - 1) (q.advance 1) true fuel
        container (.object members) end?
      else .broken (q.breakWith (q.faultNext .valueExpected))

/-- Reads the items of a list and its closing bracket. -/
def readItems (depth : Nat) (p : Place) (isFirst : Bool) : Nat → List Source × Option Place
  | 0 => ([.broken (p.breakWith (p.fault .endInList))], none)
  | fuel + 1 =>
    let q := p.skipBlanks
    let stopped (b : Break) : List Source × Option Place := ([.broken b], none)
    let item (r : Place) : List Source × Option Place :=
      let part := readValue Place.settledInList depth r fuel
      match part.next with
      | none => ([part.source], none)
      | some s =>
        let (rest, end?) := readItems depth s false fuel
        (part.source :: rest, end?)
    match q.rest with
    | [] => stopped (q.breakWith (q.fault .endInList))
    | b :: _ =>
      if b = 0x5D then ([], some (q.advance 1))
      else if isFirst then item q
      else if b = 0x2C then
        let r := (q.advance 1).skipBlanks
        match r.rest with
        | 0x5D :: _ => stopped ⟨r.faultNext .trailingComma, r.faultNext .valueExpected, r.afterNext⟩
        | _ => item r
      else stopped (q.breakWith (q.faultNext .listCommaExpected))

/-- Reads the members of an object and its closing brace. -/
def readMembers (depth : Nat) (p : Place) (isFirst : Bool) : Nat → List Member × Option Place
  | 0 =>
    let f := p.fault .endInObject
    ([((.error f, .nowhere), .broken (p.breakWith f))], none)
  | fuel + 1 =>
    let q := p.skipBlanks
    let stopped (b : Break) : List Member × Option Place :=
      ([((.error b.wanted, .nowhere), .broken b)], none)
    let member (r : Place) : List Member × Option Place :=
      match readString r with
      | .error f => stopped f
      | .ok (key, s) =>
        let span : Span := ⟨r.offset, s.offset, s.settledInObject⟩
        let t := s.skipBlanks
        match t.rest with
        | 0x3A :: _ =>
          let part := readValue Place.settledInObject depth (t.advance 1) fuel
          match part.next with
          | none => ([((key, span), part.source)], none)
          | some u =>
            let (rest, end?) := readMembers depth u false fuel
            (((key, span), part.source) :: rest, end?)
        | [] => ([((key, span), .broken (t.breakWith (t.fault .endInObject)))], none)
        | _ => ([((key, span), .broken (t.breakWith (t.faultNext .colonExpected)))], none)
    match q.rest with
    | [] => stopped (q.breakWith (q.fault .endInObject))
    | b :: _ =>
      if b = 0x7D then ([], some (q.advance 1))
      else if isFirst then
        if b = 0x22 then member q else stopped (q.breakWith (q.faultNext .keyNotString))
      else if b = 0x2C then
        let r := (q.advance 1).skipBlanks
        match r.rest with
        | [] => stopped ⟨r.fault .endInValue, r.fault .endInObject, r.afterNext⟩
        | 0x22 :: _ => member r
        | 0x7D :: _ => stopped ⟨r.faultNext .trailingComma, r.faultNext .keyNotString, r.afterNext⟩
        | _ => stopped (r.breakWith (r.faultNext .keyNotString))
      else stopped (q.breakWith (q.faultNext .objectCommaExpected))

end

/-! ### Texts -/

/-- A whole text in parts, and the place after its value. -/
def Source.ofOctets (bs : List UInt8) : Part :=
  readValue Place.offset depthLimit ⟨0, bs⟩ (2 * bs.length + 2)

end RouteFlow.Json
