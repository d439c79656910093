import RouteFlow.Proofs.Json.Lexemes
import RouteFlow.Proofs.Json.WellFormed

/-!
# What is printed reads back

A value that is written in any spacing is read as this value, as long as its numbers can be and its
containers do not nest too deep (`Plain`). The proof follows the reader: what stands in a container
begins behind blanks, or behind a comma and blanks, and ends where the rest of the container begins
(`exists_item`, `exists_member`).

* `yields_readValue` — reading a value up to the place behind it;
* `ofText_compact`, `ofText_pretty` — what either printer writes reads back.
-/

namespace RouteFlow.Json

open Text (encode)

/-! ### Values -/

/-- **A plain value**: its whole numbers have 64 bits and there are no others in it, no object has
two members of one name, and no more than `n` containers nest. -/
inductive Plain : Nat → Json → Prop
  | null {n : Nat} : Plain n .null
  | bool {n : Nat} {b : Bool} : Plain n (.bool b)
  | whole {n : Nat} {i : Int} (h : Fits i) : Plain n (.number (.whole i))
  | string {n : Nat} {text : String} : Plain n (.string text)
  | array {n : Nat} {items : List Json} (h : ∀ j ∈ items, Plain n j) : Plain (n + 1) (.array items)
  | object {n : Nat} {ms : Entries Json} (hn : ms.names.Nodup) (h : ∀ m ∈ ms, Plain n m.2) :
      Plain (n + 1) (.object ms)

theorem Plain.single {name : String} {n : Nat} {j : Json} (h : Plain n j) :
    Plain (n + 1) (.object [(name, j)]) :=
  .object (List.pairwise_singleton _ _) (List.forall_mem_singleton.mpr h)

/-- **A value is read off a part of a text**, up to the rest. -/
def Yields (part : Part) (j : Json) (rest : List UInt8) : Prop :=
  ∃ source q, part = ⟨source, some q⟩ ∧ q.rest = rest ∧ source.toJson = .ok j

variable {s : Spacing}

theorem ne_of_isDigit {b b' : UInt8} (h : isDigit b = true) (h' : isDigit b' = false) : b ≠ b' := by
  rintro rfl
  rw [h] at h'
  cases h'

theorem isBlank_of_isDigit {b : UInt8} (h : isDigit b = true) : Place.isBlank b = false := by
  have hne : ∀ b', isDigit b' = false → (b == b') = false :=
    fun b' h' => beq_eq_false_iff_ne.mpr (ne_of_isDigit h h')
  rw [Place.isBlank, hne 0x20 rfl, hne 0x0A rfl, hne 0x0D rfl, hne 0x09 rfl]
  rfl

/-- What the text of a plain value begins with. -/
theorem exists_first {n : Nat} {j : Json} (hj : Plain n j) (k : Nat) :
    ∃ b bs, encode (s.write k j) = b :: bs ∧ b ≠ 0x5D ∧ Place.isBlank b = false := by
  cases hj with
  | null => exact ⟨0x6E, _, rfl, by decide, rfl⟩
  | @bool n b =>
    cases b
    · exact ⟨0x66, _, rfl, by decide, rfl⟩
    · exact ⟨0x74, _, rfl, by decide, rfl⟩
  | @whole n i h =>
    obtain ⟨b, bs, hb, hlead⟩ := exists_lead_toString i
    refine ⟨b, bs, hb, ?_⟩
    rcases hlead with rfl | hdigit
    · exact ⟨by decide, rfl⟩
    · exact ⟨ne_of_isDigit hdigit rfl, isBlank_of_isDigit hdigit⟩
  | @string n text => exact ⟨0x22, _, encode_quoted text, by decide, rfl⟩
  | array h => exact ⟨0x5B, _, rfl, by decide, rfl⟩
  | object hn h => exact ⟨0x7B, _, rfl, by decide, rfl⟩

/-! ### Parts of a container -/

/-- The closing brackets. -/
def IsClosing (c : Char) : Prop := c = ']' ∨ c = '\x7d'

/-- A closing bracket is an octet. -/
theorem IsClosing.encode {c : Char} (h : IsClosing c) (cs : List Char) :
    encode (c :: cs) = UInt8.ofNat c.toNat :: encode cs := by
  rcases h with rfl | rfl
  · rfl
  · rfl

variable {p : Place} {rest : List UInt8}

section Container

variable {close : Char} {k : Nat} {t : List Char}
variable {ts : List (List Char)}

/-- What stands in a container behind a part of it. -/
theorem endsNumber_enclose (hclose : IsClosing close) (k : Nat) (ts : List (List Char))
    (rest : List UInt8) : EndsNumber (encode (s.enclose k close false ts) ++ rest) := by
  intro b hb
  cases ts with
  | nil =>
    -- a blank, or the bracket if there is none
    have hgap := isBlank_of_mem_encode (s.gap_space k)
    have henclose : encode (s.enclose k close false []) =
        encode (s.gap k) ++ [UInt8.ofNat close.toNat] := by
      rw [Spacing.enclose, Text.encode_append, hclose.encode]
      rfl
    rw [henclose] at hb
    cases hgapEncoded : encode (s.gap k) with
    | nil =>
      rw [hgapEncoded] at hb
      obtain rfl : UInt8.ofNat close.toNat = b := Option.some.inj hb
      rcases hclose with rfl | rfl
      · decide
      · decide
    | cons b' bs =>
      rw [hgapEncoded] at hb hgap
      obtain rfl : b' = b := Option.some.inj hb
      have hblank : b' = 0x20 ∨ b' = 0x0A ∨ b' = 0x0D ∨ b' = 0x09 := by
        simpa [Place.isBlank, or_assoc] using hgap b' List.mem_cons_self
      rcases hblank with rfl | rfl | rfl | rfl
      all_goals decide
  | cons t ts =>
    obtain rfl : 0x2C = b := Option.some.inj hb
    decide

/-- An empty rest of a container is its closing bracket. -/
theorem rest_of_enclose_nil (hclose : IsClosing close) {isFirst : Bool}
    (hp : p.rest = encode (s.enclose k close isFirst []) ++ rest) :
    p.skipBlanks.rest = UInt8.ofNat close.toNat :: rest := by
  have hgap : ∀ c ∈ (if isFirst then [] else s.gap k), isSpace c = true := by
    cases isFirst with
    | true => exact List.forall_mem_nil _
    | false => exact s.gap_space k
  refine rest_skipBlanks ?_ (isBlank_of_mem_encode hgap) ?_
  · rw [hp, Spacing.enclose, Text.encode_append, hclose.encode, List.append_assoc]
    rfl
  · intro b hb
    obtain rfl : UInt8.ofNat close.toNat = b := Option.some.inj hb
    rcases hclose with rfl | rfl
    · rfl
    · rfl

theorem isBlank_head_append {b : UInt8} {bs : List UInt8} (ht : encode t = b :: bs)
    (hb : Place.isBlank b = false) (rest : List UInt8) :
    ∀ b' ∈ (encode t ++ rest).head?, Place.isBlank b' = false := by
  rw [ht]
  intro b' hb'
  obtain rfl : b = b' := Option.some.inj hb'
  exact hb

/-- The first part stands behind blanks. -/
theorem rest_of_enclose_first {b : UInt8} {bs : List UInt8} (ht : encode t = b :: bs)
    (hb : Place.isBlank b = false)
    (hp : p.rest = encode (s.enclose k close true (t :: ts)) ++ rest) :
    p.skipBlanks.rest = encode t ++ (encode (s.enclose k close false ts) ++ rest) := by
  refine rest_skipBlanks ?_ (isBlank_of_mem_encode (s.gap_space (k + 1)))
    (isBlank_head_append ht hb _)
  rw [hp, Spacing.enclose]
  simp

/-- Every other part stands behind a comma and blanks. -/
theorem rest_of_enclose_next {b : UInt8} {bs : List UInt8} (ht : encode t = b :: bs)
    (hb : Place.isBlank b = false)
    (hp : p.rest = encode (s.enclose k close false (t :: ts)) ++ rest) :
    ∃ more, p.skipBlanks.rest = 0x2C :: more ∧
      (p.skipBlanks.advance 1).skipBlanks.rest =
        encode t ++ (encode (s.enclose k close false ts) ++ rest) := by
  have hcomma : p.rest = 0x2C :: (encode (s.gap (k + 1)) ++
      (encode t ++ (encode (s.enclose k close false ts) ++ rest))) := by
    have hencode : encode (s.enclose k close false (t :: ts)) =
        0x2C :: encode (s.gap (k + 1) ++ (t ++ s.enclose k close false ts)) := rfl
    rw [hp, hencode]
    simp
  have hskip := rest_skipBlanks_self hcomma (by rintro _ ⟨⟩; rfl)
  exact ⟨_, hskip, rest_skipBlanks (rest_advance hskip)
    (isBlank_of_mem_encode (s.gap_space (k + 1))) (isBlank_head_append ht hb _)⟩

end Container

/-- A word is read letter by letter. -/
theorem exists_readWord {word rest : List UInt8} {p : Place} (hp : p.rest = word ++ rest) :
    ∃ q : Place, q.rest = rest ∧ readWord word p = .ok q := by
  induction word generalizing p with
  | nil => exact ⟨p, hp, rfl⟩
  | cons w word ih =>
    obtain ⟨q, hq, hread⟩ := ih (rest_advance hp)
    refine ⟨q, hq, ?_⟩
    rw [readWord, hp, List.cons_append]
    dsimp only
    rw [if_pos rfl, hread]

/-! ### Kinds of values -/

section Kinds

variable {settle : Place → Nat} {depth fuel : Nat}

theorem yields_null (hq : p.skipBlanks.rest = encode "null".toList ++ rest) :
    Yields (readValue settle depth p (fuel + 1)) .null rest := by
  have hcons : p.skipBlanks.rest = 0x6E :: ([0x75, 0x6C, 0x6C] ++ rest) := hq
  obtain ⟨r, hr, hword⟩ := exists_readWord (rest_advance hcons)
  refine ⟨.null ⟨p.skipBlanks.offset, r.offset, settle r⟩, r, ?_, hr, rfl⟩
  rw [readValue]
  dsimp only
  rw [hcons]
  dsimp only
  rw [if_pos rfl, hword]

theorem yields_true (hq : p.skipBlanks.rest = encode "true".toList ++ rest) :
    Yields (readValue settle depth p (fuel + 1)) (.bool true) rest := by
  have hcons : p.skipBlanks.rest = 0x74 :: ([0x72, 0x75, 0x65] ++ rest) := hq
  obtain ⟨r, hr, hword⟩ := exists_readWord (rest_advance hcons)
  refine ⟨.bool true ⟨p.skipBlanks.offset, r.offset, settle r⟩, r, ?_, hr, rfl⟩
  rw [readValue]
  dsimp only
  rw [hcons]
  dsimp only
  rw [if_neg (by decide), if_pos rfl, hword]

theorem yields_false (hq : p.skipBlanks.rest = encode "false".toList ++ rest) :
    Yields (readValue settle depth p (fuel + 1)) (.bool false) rest := by
  have hcons : p.skipBlanks.rest = 0x66 :: ([0x61, 0x6C, 0x73, 0x65] ++ rest) := hq
  obtain ⟨r, hr, hword⟩ := exists_readWord (rest_advance hcons)
  refine ⟨.bool false ⟨p.skipBlanks.offset, r.offset, settle r⟩, r, ?_, hr, rfl⟩
  rw [readValue]
  dsimp only
  rw [hcons]
  dsimp only
  rw [if_neg (by decide), if_neg (by decide), if_pos rfl, hword]

theorem yields_whole {i : Int} (hi : Fits i)
    (hq : p.skipBlanks.rest = encode (toString i).toList ++ rest) (hrest : EndsNumber rest) :
    Yields (readValue settle depth p (fuel + 1)) (.number (.whole i)) rest := by
  obtain ⟨b, bs, hb, hlead⟩ := exists_lead_toString i
  have hcons : p.skipBlanks.rest = b :: (bs ++ rest) := by rw [hq, hb, List.cons_append]
  obtain ⟨r, hr, hnumber⟩ := exists_readNumber_toString hi hb hq hrest
  have hword : ∀ b', isDigit b' = false → 0x2D ≠ b' → b ≠ b' := by
    intro b' hdigit hminus
    rcases hlead with rfl | hlead
    · exact hminus
    · exact ne_of_isDigit hlead hdigit
  have hkind : (decide (b = 0x2D) || isDigit b) = true := by simpa using hlead
  refine ⟨.number (.ok (.whole i)) ⟨p.skipBlanks.offset, r.offset, settle r⟩, r, ?_, hr, rfl⟩
  rw [readValue]
  dsimp only
  rw [hcons]
  dsimp only
  rw [if_neg (hword 0x6E rfl (by decide)), if_neg (hword 0x74 rfl (by decide)),
    if_neg (hword 0x66 rfl (by decide)), if_pos hkind, hnumber]

theorem yields_string {text : String}
    (hq : p.skipBlanks.rest = encode (quoted text).toList ++ rest) :
    Yields (readValue settle depth p (fuel + 1)) (.string text) rest := by
  have hcons := hq
  rw [encode_quoted, List.cons_append] at hcons
  obtain ⟨r, hr, hstring⟩ := exists_readString_quoted hq
  refine ⟨.string (.ok text) ⟨p.skipBlanks.offset, r.offset, settle r⟩, r, ?_, hr, rfl⟩
  rw [readValue]
  dsimp only
  rw [hcons]
  dsimp only
  rw [if_neg (by decide), if_neg (by decide), if_neg (by decide), if_neg (by decide), if_pos rfl,
    hstring]

theorem yields_array {items : List Json} {sources : List Source} {bs : List UInt8} {r : Place}
    (hq : p.skipBlanks.rest = 0x5B :: bs) (hdepth : 1 < depth)
    (hitems : readItems (depth - 1) (p.skipBlanks.advance 1) true fuel = (sources, some r))
    (hr : r.rest = rest) (hvalues : Source.toItems sources = .ok items) :
    Yields (readValue settle depth p (fuel + 1)) (.array items) rest := by
  refine ⟨.list sources ⟨p.skipBlanks.offset, r.offset, settle r⟩, r, ?_, hr, ?_⟩
  · rw [readValue]
    dsimp only
    rw [hq]
    dsimp only
    rw [if_neg (by decide), if_neg (by decide), if_neg (by decide), if_neg (by decide),
      if_neg (by decide), if_pos rfl, hitems]
    dsimp only
    rw [if_neg (Nat.not_le.mpr hdepth)]
  · rw [Source.toJson, hvalues]
    rfl

theorem yields_object {ms : Entries Json} {members : List Member} {bs : List UInt8} {r : Place}
    (hq : p.skipBlanks.rest = 0x7B :: bs) (hdepth : 1 < depth)
    (hmembers : readMembers (depth - 1) (p.skipBlanks.advance 1) true fuel = (members, some r))
    (hr : r.rest = rest) (hvalues : Source.toMembers [] members = .ok ms) :
    Yields (readValue settle depth p (fuel + 1)) (.object ms) rest := by
  refine ⟨.object members ⟨p.skipBlanks.offset, r.offset, settle r⟩, r, ?_, hr, ?_⟩
  · rw [readValue]
    dsimp only
    rw [hq]
    dsimp only
    rw [if_neg (by decide), if_neg (by decide), if_neg (by decide), if_neg (by decide),
      if_neg (by decide), if_neg (by decide), if_pos rfl, hmembers]
    dsimp only
    rw [if_neg (Nat.not_le.mpr hdepth)]
  · rw [Source.toJson, hvalues]
    rfl

/-- The closing bracket of a list. -/
theorem readItems_close {isFirst : Bool} {bs : List UInt8} (hq : p.skipBlanks.rest = 0x5D :: bs) :
    readItems depth p isFirst (fuel + 1) = ([], some (p.skipBlanks.advance 1)) := by
  rw [readItems]
  dsimp only
  rw [hq]
  rfl

theorem readMembers_close {isFirst : Bool} {bs : List UInt8}
    (hq : p.skipBlanks.rest = 0x7D :: bs) :
    readMembers depth p isFirst (fuel + 1) = ([], some (p.skipBlanks.advance 1)) := by
  rw [readMembers]
  dsimp only
  rw [hq]
  rfl

/-- An item of a list. -/
theorem readItems_first {b : UInt8} {bs : List UInt8} {source : Source} {r : Place}
    (hq : p.skipBlanks.rest = b :: bs) (hb : b ≠ 0x5D)
    (hitem : readValue Place.settledInList depth p.skipBlanks fuel = ⟨source, some r⟩) :
    readItems depth p true (fuel + 1) =
      (source :: (readItems depth r false fuel).1, (readItems depth r false fuel).2) := by
  rw [readItems]
  dsimp only
  rw [hq]
  dsimp only
  rw [if_neg hb, if_pos rfl, hitem]

theorem readItems_next {b : UInt8} {bs more : List UInt8} {source : Source} {r : Place}
    (hq : p.skipBlanks.rest = 0x2C :: more)
    (hnext : (p.skipBlanks.advance 1).skipBlanks.rest = b :: bs) (hb : b ≠ 0x5D)
    (hitem : readValue Place.settledInList depth (p.skipBlanks.advance 1).skipBlanks fuel =
      ⟨source, some r⟩) :
    readItems depth p false (fuel + 1) =
      (source :: (readItems depth r false fuel).1, (readItems depth r false fuel).2) := by
  rw [readItems]
  dsimp only
  rw [hq]
  dsimp only
  rw [if_neg (by decide), if_neg Bool.false_ne_true, if_pos rfl]
  split
  · next tail hclose =>
    rw [hnext] at hclose
    exact absurd (List.cons.inj hclose).1 hb
  · rw [hitem]

/-- A member of an object. -/
theorem exists_readMembers_first {bs more : List UInt8} {name : String} {source : Source}
    {u r : Place} (hq : p.skipBlanks.rest = 0x22 :: bs)
    (hname : readString p.skipBlanks = .ok (.ok name, u))
    (hcolon : u.skipBlanks.rest = 0x3A :: more)
    (hvalue : readValue Place.settledInObject depth (u.skipBlanks.advance 1) fuel =
      ⟨source, some r⟩) :
    ∃ span, readMembers depth p true (fuel + 1) =
      (((.ok name, span), source) :: (readMembers depth r false fuel).1,
        (readMembers depth r false fuel).2) := by
  refine ⟨⟨p.skipBlanks.offset, u.offset, u.settledInObject⟩, ?_⟩
  rw [readMembers]
  dsimp only
  rw [hq]
  dsimp only
  rw [if_neg (by decide), if_pos rfl, if_pos rfl, hname]
  dsimp only
  rw [hcolon, hvalue]
  rfl

theorem exists_readMembers_next {bs more more' : List UInt8} {name : String} {source : Source}
    {u r : Place} (hq : p.skipBlanks.rest = 0x2C :: more')
    (hnext : (p.skipBlanks.advance 1).skipBlanks.rest = 0x22 :: bs)
    (hname : readString (p.skipBlanks.advance 1).skipBlanks = .ok (.ok name, u))
    (hcolon : u.skipBlanks.rest = 0x3A :: more)
    (hvalue : readValue Place.settledInObject depth (u.skipBlanks.advance 1) fuel =
      ⟨source, some r⟩) :
    ∃ span, readMembers depth p false (fuel + 1) =
      (((.ok name, span), source) :: (readMembers depth r false fuel).1,
        (readMembers depth r false fuel).2) := by
  refine ⟨⟨(p.skipBlanks.advance 1).skipBlanks.offset, u.offset, u.settledInObject⟩, ?_⟩
  rw [readMembers]
  dsimp only
  rw [hq]
  dsimp only
  rw [if_neg (by decide), if_neg Bool.false_ne_true, if_pos rfl, hnext, hname]
  dsimp only
  rw [hcolon, hvalue]
  rfl

end Kinds

/-! ### Values -/

/-- **An item of a list in any spacing**: where it stands, and what is read if it is. -/
theorem exists_item {k : Nat} {isFirst : Bool} {t : List Char} {ts : List (List Char)} {b : UInt8}
    {bs : List UInt8} (ht : encode t = b :: bs) (hnclose : b ≠ 0x5D)
    (hblank : Place.isBlank b = false)
    (hp : p.rest = encode (s.enclose k ']' isFirst (t :: ts)) ++ rest) :
    ∃ q : Place, q.skipBlanks.rest = encode t ++ (encode (s.enclose k ']' false ts) ++ rest) ∧
      ∀ {depth fuel : Nat} {source : Source} {r : Place},
        readValue Place.settledInList depth q fuel = ⟨source, some r⟩ →
        readItems depth p isFirst (fuel + 1) =
          (source :: (readItems depth r false fuel).1, (readItems depth r false fuel).2) := by
  cases isFirst with
  | true =>
    have hq := rest_of_enclose_first ht hblank hp
    refine ⟨p.skipBlanks, rest_skipBlanks_self hq (isBlank_head_append ht hblank _),
      fun hitem => ?_⟩
    rw [ht, List.cons_append] at hq
    exact readItems_first hq hnclose hitem
  | false =>
    obtain ⟨more, hcomma, hq⟩ := rest_of_enclose_next ht hblank hp
    refine ⟨(p.skipBlanks.advance 1).skipBlanks,
      rest_skipBlanks_self hq (isBlank_head_append ht hblank _), fun hitem => ?_⟩
    rw [ht, List.cons_append] at hq
    exact readItems_next hcomma hq hnclose hitem

/-- **A member of an object in any spacing**: where its value stands, and what is read if it is. -/
theorem exists_member {k : Nat} {isFirst : Bool} {name : String} {t : List Char}
    {ts : List (List Char)} {b : UInt8} {bs : List UInt8} (ht : encode t = b :: bs)
    (hblank : Place.isBlank b = false)
    (hp : p.rest = encode (s.enclose k '\x7d' isFirst
      (((quoted name).toList ++ ':' :: (s.colon ++ t)) :: ts)) ++ rest) :
    ∃ q : Place, q.skipBlanks.rest = encode t ++ (encode (s.enclose k '\x7d' false ts) ++ rest) ∧
      ∀ {depth fuel : Nat} {source : Source} {r : Place},
        readValue Place.settledInObject depth q fuel = ⟨source, some r⟩ →
        ∃ span, readMembers depth p isFirst (fuel + 1) =
          (((.ok name, span), source) :: (readMembers depth r false fuel).1,
            (readMembers depth r false fuel).2) := by
  have hmember : encode ((quoted name).toList ++ ':' :: (s.colon ++ t)) =
      encode (quoted name).toList ++ (0x3A :: (encode s.colon ++ encode t)) := by
    rw [Text.encode_append, ← Text.encode_append s.colon]
    rfl
  have hfirst : encode ((quoted name).toList ++ ':' :: (s.colon ++ t)) =
      0x22 :: (encode (name.toList.flatMap escapedChar) ++ [0x22] ++
        (0x3A :: (encode s.colon ++ encode t))) := by
    rw [hmember, encode_quoted]
    rfl
  -- where the name stands, its colon and the value behind it are found
  have hname : ∀ {q : Place}, q.rest = encode ((quoted name).toList ++ ':' :: (s.colon ++ t)) ++
        (encode (s.enclose k '\x7d' false ts) ++ rest) →
      ∃ u : Place, readString q = .ok (.ok name, u) ∧ (∃ more, u.skipBlanks.rest = 0x3A :: more) ∧
        (u.skipBlanks.advance 1).skipBlanks.rest =
          encode t ++ (encode (s.enclose k '\x7d' false ts) ++ rest) := by
    intro q hq
    rw [hmember, List.append_assoc, List.cons_append, List.append_assoc] at hq
    obtain ⟨u, hu, hread⟩ := exists_readString_quoted hq
    have hcolon := rest_skipBlanks_self hu (by rintro _ ⟨⟩; rfl)
    refine ⟨u, hread, ⟨_, hcolon⟩, ?_⟩
    exact rest_skipBlanks (rest_advance hcolon) (isBlank_of_mem_encode s.colon_space)
      (isBlank_head_append ht hblank _)
  cases isFirst with
  | true =>
    have hq := rest_of_enclose_first hfirst rfl hp
    obtain ⟨u, hread, ⟨more, hcolon⟩, hvalue⟩ := hname hq
    rw [hfirst, List.cons_append] at hq
    exact ⟨_, hvalue, exists_readMembers_first hq hread hcolon⟩
  | false =>
    obtain ⟨more', hcomma, hq⟩ := rest_of_enclose_next hfirst rfl hp
    obtain ⟨u, hread, ⟨more, hcolon⟩, hvalue⟩ := hname hq
    rw [hfirst, List.cons_append] at hq
    exact ⟨_, hvalue, exists_readMembers_next hcomma hq hread hcolon⟩

/-- A part of a container is no longer than what it stands in. -/
theorem length_part_le {close : Char} {k : Nat} {isFirst : Bool} {t : List Char}
    {ts : List (List Char)}
    (hp : p.rest = encode (s.enclose k close isFirst (t :: ts)) ++ rest) :
    (encode t).length + (encode (s.enclose k close false ts) ++ rest).length ≤ p.rest.length := by
  rw [hp, Spacing.enclose]
  simp only [Text.encode_append, List.length_append]
  omega

mutual

/-- **A plain value that is written in any spacing reads back**, as far as containers may nest. -/
theorem yields_readValue : ∀ {j : Json} {n : Nat}, Plain n j →
    ∀ {k depth fuel : Nat} {settle : Place → Nat} {p : Place} {rest : List UInt8},
      p.skipBlanks.rest = encode (s.write k j) ++ rest → EndsNumber rest → n < depth →
      2 * p.skipBlanks.rest.length ≤ fuel + 1 → Yields (readValue settle depth p (fuel + 1)) j rest
  | .null, _, _, _, _, _, _, _, _, hq, _, _, _ => yields_null hq
  | .bool true, _, _, _, _, _, _, _, _, hq, _, _, _ => yields_true hq
  | .bool false, _, _, _, _, _, _, _, _, hq, _, _, _ => yields_false hq
  | .number (.whole i), _, hj, _, _, _, _, _, _, hq, hrest, _, _ => by
    cases hj with
    | whole hi => exact yields_whole hi hq hrest
  | .number (.real x), _, hj, _, _, _, _, _, _, _, _, _, _ => by cases hj
  | .string text, _, _, _, _, _, _, _, _, hq, _, _, _ => yields_string hq
  | .array items, n, hj, k, depth, fuel, settle, p, rest, hq, hrest, hdepth, hfuel => by
    cases hj with
    | @array n _ h =>
      have hcons : p.skipBlanks.rest =
          0x5B :: (encode (s.enclose k ']' true (s.writeItems (k + 1) items)) ++ rest) := by
        rw [hq, Spacing.write]
        rfl
      have hlength : (p.skipBlanks.advance 1).rest.length + 1 = p.skipBlanks.rest.length := by
        rw [rest_advance hcons, hcons]
        rfl
      -- the octet of the bracket is worth two steps: this one and the first of the items
      obtain ⟨sources, r, hitems, hr, hvalues⟩ := exists_readItems h (rest_advance hcons)
        (by omega : n < depth - 1) (by omega : _ ≤ fuel)
      exact yields_array hcons (by omega) hitems hr hvalues
  | .object ms, n, hj, k, depth, fuel, settle, p, rest, hq, hrest, hdepth, hfuel => by
    cases hj with
    | @object n _ hn h =>
      have hcons : p.skipBlanks.rest =
          0x7B :: (encode (s.enclose k '\x7d' true (s.writeMembers (k + 1) ms)) ++ rest) := by
        rw [hq, Spacing.write]
        rfl
      have hlength : (p.skipBlanks.advance 1).rest.length + 1 = p.skipBlanks.rest.length := by
        rw [rest_advance hcons, hcons]
        rfl
      obtain ⟨members, r, hmembers, hr, hvalues⟩ := exists_readMembers h (rest_advance hcons)
        (by omega : n < depth - 1) (by omega : _ ≤ fuel)
      refine yields_object hcons (by omega) hmembers hr ?_
      have hback : Source.toMembers [] members = .ok (Entries.ofList ms) := hvalues []
      rw [hback, Entries.ofList_of_nodup hn]

theorem exists_readItems : ∀ {items : List Json} {n : Nat}, (∀ j ∈ items, Plain n j) →
    ∀ {k depth fuel : Nat} {p : Place} {isFirst : Bool} {rest : List UInt8},
      p.rest = encode (s.enclose k ']' isFirst (s.writeItems (k + 1) items)) ++ rest →
      n < depth → 2 * p.rest.length + 1 ≤ fuel →
      ∃ sources q, readItems depth p isFirst fuel = (sources, some q) ∧ q.rest = rest ∧
        Source.toItems sources = .ok items
  | [], n, h, k, depth, fuel, p, isFirst, rest, hp, hdepth, hfuel => by
    obtain ⟨f, rfl⟩ : ∃ f, fuel = f + 1 := Nat.exists_eq_add_one.mpr (by omega)
    have hq := rest_of_enclose_nil (.inl rfl) hp
    exact ⟨[], _, readItems_close hq, rest_advance hq, rfl⟩
  | j :: items, n, h, k, depth, fuel, p, isFirst, rest, hp, hdepth, hfuel => by
    obtain ⟨hj, hitems⟩ := List.forall_mem_cons.mp h
    obtain ⟨b, bs, hb, hnclose, hblank⟩ := exists_first hj (s := s) (k + 1)
    obtain ⟨q, hq, hread⟩ := exists_item hb hnclose hblank hp
    have hlength := length_part_le hp
    -- an item has an octet at least, which is worth the step of the list and the first of the item
    have hpart : 0 < (encode (s.write (k + 1) j)).length := by
      rw [hb]
      exact Nat.zero_lt_succ _
    obtain ⟨f, rfl⟩ : ∃ f, fuel = f + 1 + 1 := ⟨fuel - 2, by omega⟩
    have hqlength := congrArg List.length hq
    rw [List.length_append] at hqlength
    obtain ⟨source, r, hitem, hr, hvalue⟩ : Yields (readValue Place.settledInList depth q (f + 1)) j
        (encode (s.enclose k ']' false (s.writeItems (k + 1) items)) ++ rest) :=
      yields_readValue hj hq (endsNumber_enclose (.inl rfl) k _ rest) hdepth (by omega)
    have hrlength := congrArg List.length hr
    obtain ⟨sources, u, hsources, hu, hvalues⟩ := exists_readItems hitems hr hdepth
      (by omega : 2 * r.rest.length + 1 ≤ f + 1)
    refine ⟨source :: sources, u, ?_, hu, ?_⟩
    · rw [hread hitem, hsources]
    · rw [Source.toItems, hvalue, hvalues]
      rfl

theorem exists_readMembers : ∀ {ms : List (String × Json)} {n : Nat}, (∀ m ∈ ms, Plain n m.2) →
    ∀ {k depth fuel : Nat} {p : Place} {isFirst : Bool} {rest : List UInt8},
      p.rest = encode (s.enclose k '\x7d' isFirst (s.writeMembers (k + 1) ms)) ++ rest →
      n < depth → 2 * p.rest.length + 1 ≤ fuel →
      ∃ members q, readMembers depth p isFirst fuel = (members, some q) ∧ q.rest = rest ∧
        ∀ acc : Entries Json, Source.toMembers acc members =
          .ok (ms.foldl (fun es m => es.insert m.1 m.2) acc)
  | [], n, h, k, depth, fuel, p, isFirst, rest, hp, hdepth, hfuel => by
    obtain ⟨f, rfl⟩ : ∃ f, fuel = f + 1 := Nat.exists_eq_add_one.mpr (by omega)
    have hq := rest_of_enclose_nil (.inr rfl) hp
    exact ⟨[], _, readMembers_close hq, rest_advance hq, fun _ => rfl⟩
  | (name, j) :: ms, n, h, k, depth, fuel, p, isFirst, rest, hp, hdepth, hfuel => by
    obtain ⟨hj, hms⟩ : Plain n j ∧ ∀ m ∈ ms, Plain n m.2 := List.forall_mem_cons.mp h
    obtain ⟨b, bs, hb, -, hblank⟩ := exists_first hj (s := s) (k + 1)
    obtain ⟨q, hq, hread⟩ := exists_member hb hblank hp
    have hlength := length_part_le hp
    -- so is the value of a member, whose name counts for more than nothing
    have hpart : (encode (s.write (k + 1) j)).length < (encode ((quoted name).toList ++
        ':' :: (s.colon ++ s.write (k + 1) j))).length := by
      rw [Text.encode_append, encode_quoted, Text.encode_cons, Text.encode_append]
      simp only [List.length_append, List.length_cons]
      omega
    obtain ⟨f, rfl⟩ : ∃ f, fuel = f + 1 + 1 := ⟨fuel - 2, by omega⟩
    have hqlength := congrArg List.length hq
    rw [List.length_append] at hqlength
    obtain ⟨source, r, hmember, hr, hvalue⟩ :
        Yields (readValue Place.settledInObject depth q (f + 1)) j
          (encode (s.enclose k '\x7d' false (s.writeMembers (k + 1) ms)) ++ rest) :=
      yields_readValue hj hq (endsNumber_enclose (.inr rfl) k _ rest) hdepth (by omega)
    have hrlength := congrArg List.length hr
    obtain ⟨members, u, hmembers, hu, hvalues⟩ := exists_readMembers hms hr hdepth
      (by omega : 2 * r.rest.length + 1 ≤ f + 1)
    obtain ⟨span, hspan⟩ := hread hmember
    refine ⟨((.ok name, span), source) :: members, u, ?_, hu, fun acc => ?_⟩
    · rw [hspan, hmembers]
    · rw [Source.toMembers, hvalue]
      exact hvalues (acc.insert name j)

end

/-! ### Whole texts -/

/-- **A plain value reads back from a text that is written in any spacing.** -/
theorem ofOctets_write {j : Json} {n : Nat} (hj : Plain n j) (hn : n < depthLimit) :
    ofOctets (encode (s.write 0 j)) = .ok j := by
  obtain ⟨b, bs, hb, -, hblank⟩ := exists_first hj (s := s) 0
  have hplace : (⟨0, encode (s.write 0 j)⟩ : Place).skipBlanks.rest =
      encode (s.write 0 j) ++ [] := by
    refine rest_skipBlanks_self ?_ (isBlank_head_append hb hblank [])
    rw [List.append_nil]
  obtain ⟨source, q, hpart, hrest, hvalue⟩ :
      Yields (Source.ofOctets (encode (s.write 0 j))) j [] := by
    refine yields_readValue hj hplace nofun hn ?_
    rw [hplace, List.append_nil]
    omega
  -- nothing stands behind the value
  have htrailing : q.trailing? = none := by
    have hend : q.skipBlanks.rest = [] := rest_skipBlanks_self hrest nofun
    rw [Place.trailing?, hend]
    rfl
  have hread : Reader.json source = .ok j := by
    rw [Reader.json, hvalue]
    rfl
  rw [ofOctets, Reader.ofOctets, hpart]
  dsimp only [Option.bind_some]
  rw [hread, htrailing]
  rfl

theorem ofText_compact {j : Json} {n : Nat} (hj : Plain n j) (hn : n < depthLimit) :
    ofText j.compact = .ok j := by
  rw [ofText, Reader.ofText, Text.octets_eq_encode, Spacing.toList_compact]
  exact ofOctets_write hj hn

/-- Plain values with the same text are the same. -/
theorem eq_of_compact_eq {j j' : Json} {n n' : Nat} (hj : Plain n j) (hn : n < depthLimit)
    (hj' : Plain n' j') (hn' : n' < depthLimit) (h : j.compact = j'.compact) : j = j' := by
  have hread := ofText_compact hj hn
  rw [h, ofText_compact hj' hn'] at hread
  exact (Except.ok.inj hread).symm

theorem ofText_pretty {j : Json} {n : Nat} (hj : Plain n j) (hn : n < depthLimit) :
    ofText j.pretty = .ok j := by
  rw [ofText, Reader.ofText, Text.octets_eq_encode, Spacing.toList_pretty]
  exact ofOctets_write hj hn

end RouteFlow.Json
