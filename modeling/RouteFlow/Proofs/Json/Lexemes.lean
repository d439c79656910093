import RouteFlow.Json.Source.Number
import RouteFlow.Json.Source.Text
import RouteFlow.Proofs.Json.Spacing
import RouteFlow.Proofs.Text.Octets

/-!
# Strings and numbers that are printed read back

Whatever is printed is read from its octets, up to the place behind it. A string is read character
by character, each in the form in which it stands inside the quotes (`exists_readChars_of_stands`).
A number goes on as long as digits follow, so that it is known to end only by what stands behind it
(`EndsNumber`).

* `exists_readString_quoted` — a string reads back;
* `exists_readNumber_toString` — so does a whole number of 64 bits.
-/

namespace RouteFlow.Json

open Text (encode)

/-! ### Places -/

theorem rest_advance {p : Place} {b : UInt8} {bs : List UInt8} (h : p.rest = b :: bs) :
    (p.advance 1).rest = bs := by
  rw [Place.advance, h]
  rfl

/-- Octets are passed over as long as they are of a kind. -/
theorem takeWhile_append_of_head {f : UInt8 → Bool} {before rest : List UInt8}
    (hb : ∀ b ∈ before, f b = true) (hr : ∀ b ∈ rest.head?, f b = false) :
    (before ++ rest).takeWhile f = before := by
  rw [List.takeWhile_append_of_pos hb]
  cases rest with
  | nil => exact List.append_nil _
  | cons b rest => rw [List.takeWhile_cons_of_neg (by simpa using hr b rfl), List.append_nil]

/-- What stands behind blanks, if it does not begin with one. -/
theorem rest_skipBlanks {p : Place} {before rest : List UInt8} (hp : p.rest = before ++ rest)
    (hb : ∀ b ∈ before, Place.isBlank b = true) (hr : ∀ b ∈ rest.head?, Place.isBlank b = false) :
    p.skipBlanks.rest = rest := by
  rw [Place.skipBlanks, Place.advance, hp, takeWhile_append_of_head hb hr]
  exact List.drop_left

theorem rest_skipBlanks_self {p : Place} {rest : List UInt8} (hp : p.rest = rest)
    (hr : ∀ b ∈ rest.head?, Place.isBlank b = false) : p.skipBlanks.rest = rest :=
  rest_skipBlanks (show p.rest = [] ++ rest from hp) (List.forall_mem_nil _) hr

theorem isBlank_of_mem_encode {cs : List Char} (h : ∀ c ∈ cs, isSpace c = true) :
    ∀ b ∈ encode cs, Place.isBlank b = true := by
  induction cs with
  | nil => exact List.forall_mem_nil _
  | cons c cs ih =>
    obtain ⟨hc, hcs⟩ := List.forall_mem_cons.mp h
    have hcases : c = ' ' ∨ c = '\n' ∨ c = '\r' ∨ c = '\t' := by
      simpa [isSpace, or_assoc] using hc
    rcases hcases with rfl | rfl | rfl | rfl
    all_goals exact List.forall_mem_cons.mpr ⟨rfl, ih hcs⟩

/-! ### Strings -/

/-- The first octet of a character that stands for itself is no sign of its own in a string. -/
theorem exists_lead {c : Char} (hquote : c ≠ '"') (hslash : c ≠ '\\') (h : 0x20 ≤ c.toNat) :
    ∃ b bs, encode [c] = b :: bs ∧ b ≠ 0x22 ∧ b ≠ 0x5C ∧ ¬ b < 0x20 := by
  have hlead : ∀ n, n < 0x100 → n ≠ 0x22 → n ≠ 0x5C → 0x20 ≤ n →
      UInt8.ofNat n ≠ 0x22 ∧ UInt8.ofNat n ≠ 0x5C ∧ ¬ UInt8.ofNat n < 0x20 := by
    intro n hn hquote hslash h
    have hvalue : (UInt8.ofNat n).toNat = n := UInt8.toNat_ofNat_of_lt' hn
    simp only [ne_eq, ← UInt8.toNat_inj, UInt8.lt_iff_toNat_lt, hvalue, UInt8.reduceToNat]
    omega
  have hne : ∀ d : Char, c ≠ d → c.toNat ≠ d.toNat := fun d hcd hn => hcd (Char.toNat_inj.mp hn)
  rcases Text.utf8EncodeChar_cases c with ⟨hc, -⟩ | ⟨-, lead, bs, hge, hlt, hc⟩
  · exact ⟨_, _, Text.encode_cons_of_lt hc [],
      hlead _ (Nat.lt_trans hc (by decide)) (hne '"' hquote) (hne '\\' hslash) h⟩
  · refine ⟨UInt8.ofNat lead, bs, ?_, hlead lead hlt (by omega) (by omega) (by omega)⟩
    rw [Text.encode_cons, hc, Text.encode_nil, List.append_nil]

/-- A short escape is read as the character it stands for. -/
theorem readEscape_short {c d : Char} (h : (c, d) ∈ shortEscapes) {p : Place}
    {rest : List UInt8} (hp : p.rest = encode [d] ++ rest) :
    readEscape p = .ok (.ok (c, p.advance 1), p.advance 1) ∧ (p.advance 1).rest = rest := by
  unfold readEscape
  rw [hp]
  simp only [shortEscapes, List.mem_cons, Prod.mk.injEq, List.not_mem_nil, or_false] at h
  rcases h with ⟨rfl, rfl⟩ | ⟨rfl, rfl⟩ | ⟨rfl, rfl⟩ | ⟨rfl, rfl⟩ | ⟨rfl, rfl⟩ | ⟨rfl, rfl⟩ |
    ⟨rfl, rfl⟩
  all_goals exact ⟨rfl, rest_advance hp⟩

/-- The digits of a code are octets with their values. -/
theorem hexValue?_digitChar : ∀ n < 16, (Nat.digitChar n).toNat < 0x80 ∧
    hexValue? (UInt8.ofNat (Nat.digitChar n).toNat) = some n := by
  decide

/-- The code of a control character is read as this character. -/
theorem readEscape_code {c : Char} (h : c.toNat < 0x20) {p : Place} {rest : List UInt8}
    (hp : p.rest = encode ['u', '0', '0', Nat.digitChar (c.toNat / 16),
      Nat.digitChar (c.toNat % 16)] ++ rest) :
    readEscape p = .ok (.ok (c, (p.advance 1).advance 4), (p.advance 1).advance 4) ∧
      ((p.advance 1).advance 4).rest = rest := by
  obtain ⟨hhigh, hhighValue⟩ := hexValue?_digitChar (c.toNat / 16) (by omega)
  obtain ⟨hlow, hlowValue⟩ := hexValue?_digitChar (c.toNat % 16) (by omega)
  have hdigits : encode [Nat.digitChar (c.toNat / 16), Nat.digitChar (c.toNat % 16)] =
      [UInt8.ofNat (Nat.digitChar (c.toNat / 16)).toNat,
        UInt8.ofNat (Nat.digitChar (c.toNat % 16)).toNat] := by
    rw [Text.encode_cons_of_lt hhigh, Text.encode_cons_of_lt hlow, Text.encode_nil]
  have hcons : p.rest = 0x75 :: 0x30 :: 0x30 :: UInt8.ofNat (Nat.digitChar (c.toNat / 16)).toNat ::
      UInt8.ofNat (Nat.digitChar (c.toNat % 16)).toNat :: rest := by
    rw [hp]
    exact congrArg ([0x75, 0x30, 0x30] ++ · ++ rest) hdigits
  have hhex : readHex (p.advance 1) = .ok (c.toNat, (p.advance 1).advance 4) := by
    have hzero : hexValue? 0x30 = some 0 := rfl
    have hvalue : ((0 * 16 + 0) * 16 + c.toNat / 16) * 16 + c.toNat % 16 = c.toNat := by omega
    rw [readHex, rest_advance hcons]
    dsimp only
    rw [hzero, hhighValue, hlowValue]
    dsimp only
    rw [hvalue]
  constructor
  case right =>
    rw [Place.advance, rest_advance hcons]
    rfl
  rw [readEscape, hcons]
  dsimp only
  rw [if_pos rfl, hhex]
  dsimp only [bind, Except.bind]
  rw [if_neg (by omega), if_neg (by omega), Char.ofNat_toNat]

theorem readChars_of_readEscape {c : Char} {p q q' : Place} {bs : List UInt8}
    (hp : p.rest = 0x5C :: bs) (h : readEscape (p.advance 1) = .ok (.ok (c, q), q'))
    (acc : List Char) (fuel : Nat) :
    readChars p acc none (fuel + 1) = readChars q (c :: acc) none fuel := by
  rw [readChars, hp]
  dsimp only
  rw [if_neg (by decide), if_pos rfl, h]

/-- **What stands for a character is read as this character.** -/
theorem exists_readChars_of_stands {c : Char} {ds : List Char} (h : Stands c ds) {p : Place}
    {rest : List UInt8} (hp : p.rest = encode ds ++ rest) :
    ∃ q : Place, q.rest = rest ∧ ∀ acc fuel,
      readChars p acc none (fuel + 1) = readChars q (c :: acc) none fuel := by
  cases h with
  | plain hquote hslash h =>
    obtain ⟨b, bs, hb, hnquote, hnslash, hncontrol⟩ := exists_lead hquote hslash h
    obtain ⟨size, hstep⟩ := Text.Utf8.exists_step?_eq_char c rest
    have hp' : p.rest = String.utf8EncodeChar c ++ rest := by
      rw [hp, Text.encode_cons, Text.encode_nil, List.append_nil]
    have hcons : p.rest = b :: (bs ++ rest) := by rw [hp, hb, List.cons_append]
    refine ⟨⟨p.offset + size, rest⟩, rfl, fun acc fuel => ?_⟩
    rw [readChars, hcons]
    dsimp only
    rw [if_neg hnquote, if_neg hnslash, if_neg hncontrol, ← hcons, hp', hstep]
  | @short d h =>
    obtain ⟨hescape, hrest⟩ := readEscape_short h (rest_advance hp)
    exact ⟨_, hrest, readChars_of_readEscape hp hescape⟩
  | coded h =>
    obtain ⟨hescape, hrest⟩ := readEscape_code h (rest_advance hp)
    exact ⟨_, hrest, readChars_of_readEscape hp hescape⟩

theorem length_encode_pos_of_stands {c : Char} {ds : List Char} (h : Stands c ds) :
    0 < (encode ds).length := by
  have hne : ∃ d es, ds = d :: es := by
    cases h with
    | plain => exact ⟨_, _, rfl⟩
    | short => exact ⟨_, _, rfl⟩
    | coded => exact ⟨_, _, rfl⟩
  obtain ⟨d, es, rfl⟩ := hne
  rw [Text.encode_cons, List.length_append, String.length_utf8EncodeChar]
  exact Nat.lt_add_right _ d.utf8Size_pos

/-- The characters of a string are read up to the closing quote. -/
theorem exists_readChars_flatMap (cs : List Char) {p : Place} {acc : List Char} {fuel : Nat}
    {rest : List UInt8} (hp : p.rest = encode (cs.flatMap escapedChar) ++ 0x22 :: rest)
    (hfuel : p.rest.length ≤ fuel) :
    ∃ q : Place, q.rest = rest ∧
      readChars p acc none fuel = .ok (.ok (String.ofList (acc.reverse ++ cs)), q) := by
  induction cs generalizing p acc fuel with
  | nil =>
    have hcons : p.rest = 0x22 :: rest := hp
    obtain ⟨n, rfl⟩ : ∃ n, fuel = n + 1 := by
      refine Nat.exists_eq_add_one.mpr (Nat.lt_of_lt_of_le ?_ hfuel)
      rw [hcons]
      exact Nat.zero_lt_succ _
    refine ⟨p.advance 1, rest_advance hcons, ?_⟩
    rw [readChars, hcons]
    dsimp only
    rw [if_pos rfl, List.append_nil]
    rfl
  | cons c cs ih =>
    have hstands := stands_escapedChar c
    rw [List.flatMap_cons, Text.encode_append, List.append_assoc] at hp
    obtain ⟨q, hq, hread⟩ := exists_readChars_of_stands hstands hp
    have hlonger := length_encode_pos_of_stands hstands
    have hlength := congrArg List.length hp
    rw [List.length_append, ← hq] at hlength
    obtain ⟨n, rfl⟩ : ∃ n, fuel = n + 1 := Nat.exists_eq_add_one.mpr (by omega)
    obtain ⟨r, hr, hrest⟩ := @ih q (c :: acc) n hq (by omega)
    refine ⟨r, hr, ?_⟩
    rw [hread, hrest, List.reverse_cons, List.append_assoc, List.singleton_append]

theorem encode_quoted (text : String) : encode (quoted text).toList =
    0x22 :: (encode (text.toList.flatMap escapedChar) ++ [0x22]) := by
  rw [toList_quoted]
  exact congrArg (0x22 :: ·) (Text.encode_append _ ['"'])

/-- **A string reads back.** -/
theorem exists_readString_quoted {text : String} {p : Place} {rest : List UInt8}
    (hp : p.rest = encode (quoted text).toList ++ rest) :
    ∃ q : Place, q.rest = rest ∧ readString p = .ok (.ok text, q) := by
  have hcons : p.rest = 0x22 :: (encode (text.toList.flatMap escapedChar) ++ 0x22 :: rest) := by
    rw [hp, encode_quoted, List.cons_append, List.append_assoc]
    rfl
  have hinside := rest_advance hcons
  have hfuel : (p.advance 1).rest.length ≤ p.rest.length + 1 := by
    rw [hinside, hcons, List.length_cons]
    omega
  obtain ⟨q, hq, hread⟩ := @exists_readChars_flatMap text.toList _ [] _ _ hinside hfuel
  refine ⟨q, hq, ?_⟩
  rw [readString, hread, List.reverse_nil, List.nil_append, String.ofList_toList]
  rfl

/-! ### Numbers -/

/-- **What may stand behind a number**: nothing with which it could go on. -/
def EndsNumber (rest : List UInt8) : Prop :=
  ∀ b ∈ rest.head?, isDigit b = false ∧ b ≠ 0x2E ∧ b ≠ 0x65 ∧ b ≠ 0x45

theorem toNat_of_isDigit {c : Char} (h : c.isDigit = true) : 0x30 ≤ c.toNat ∧ c.toNat ≤ 0x39 := by
  simpa [Char.isDigit, UInt32.le_iff_toNat_le] using h

theorem toNat_octet_of_isDigit {c : Char} (h : c.isDigit = true) :
    (UInt8.ofNat c.toNat).toNat = c.toNat :=
  UInt8.toNat_ofNat_of_lt' (Nat.lt_of_le_of_lt (toNat_of_isDigit h).2 (by decide))

/-- Digits are octets that are digits. -/
theorem encode_of_isDigit {cs : List Char} (h : ∀ c ∈ cs, c.isDigit = true) :
    encode cs = cs.map fun c => UInt8.ofNat c.toNat := by
  induction cs with
  | nil => rfl
  | cons c cs ih =>
    obtain ⟨hc, hcs⟩ := List.forall_mem_cons.mp h
    have hrange := toNat_of_isDigit hc
    rw [Text.encode_cons_of_lt (by omega), ih hcs, List.map_cons]

theorem isDigit_of_mem_encode {cs : List Char} (h : ∀ c ∈ cs, c.isDigit = true) :
    ∀ b ∈ encode cs, isDigit b = true := by
  rw [encode_of_isDigit h, List.forall_mem_map]
  intro c hc
  simpa [isDigit, UInt8.le_iff_toNat_le, toNat_octet_of_isDigit (h c hc)] using
    toNat_of_isDigit (h c hc)

/-- The octets of a number have it as their value. -/
theorem digitsValue_encode_toDigits (n : Nat) : digitsValue (encode (Nat.toDigits 10 n)) = n := by
  have hdigits := isDigit_of_mem_toDigits n
  have hfold : ∀ (cs : List Char) (acc : Nat), (∀ c ∈ cs, c.isDigit = true) →
      cs.foldl (fun n c => n * 10 + ((UInt8.ofNat c.toNat).toNat - 0x30)) acc =
        cs.foldl (fun n c => 10 * n + (c.toNat - '0'.toNat)) acc := by
    intro cs
    induction cs with
    | nil => exact fun _ _ => rfl
    | cons c cs ih =>
      intro acc h
      obtain ⟨hc, hcs⟩ := List.forall_mem_cons.mp h
      rw [List.foldl_cons, List.foldl_cons, toNat_octet_of_isDigit hc, Nat.mul_comm, ih _ hcs]
      rfl
  rw [digitsValue, encode_of_isDigit hdigits, List.foldl_map, hfold _ 0 hdigits,
    ← Nat.ofDigitChars_eq_foldl, Nat.ofDigitChars_ten_toDigits]

/-- No number but zero begins with the digit zero. -/
theorem toDigits_eq_of_zero {n : Nat} {cs : List Char} (h : Nat.toDigits 10 n = '0' :: cs) :
    cs = [] := by
  induction n using Nat.strongRecOn generalizing cs with
  | ind n ih =>
    by_cases hn : n < 10
    · rw [Nat.toDigits_of_lt_base hn] at h
      exact (List.cons.inj h).2.symm
    · rw [Nat.toDigits_of_base_le (by decide) (by omega)] at h
      obtain ⟨c, before, hbefore⟩ := List.exists_cons_of_ne_nil (Nat.toDigits_ne_nil (b := 10)
        (n := n / 10))
      rw [hbefore, List.cons_append] at h
      obtain ⟨rfl, -⟩ := List.cons.inj h
      -- what stands before the last digit is then zero, so that it is the only digit
      have hzero := Nat.ofDigitChars_ten_toDigits (n := n / 10)
      rw [hbefore, ih (n / 10) (by omega) hbefore] at hzero
      have hquotient : 0 = n / 10 := hzero
      omega

/-- Nothing that belongs to a number follows its digits. -/
theorem readFraction_of_endsNumber {p : Place} (h : EndsNumber p.rest) :
    readFraction p = .ok (none, none, p) := by
  unfold readFraction
  split
  · next tail hpoint =>
    rw [hpoint] at h
    exact absurd rfl (h _ rfl).2.1
  · dsimp only [bind, Except.bind]
    split
    · next b tail hnext =>
      rw [hnext] at h
      obtain ⟨-, -, he, hE⟩ := h b rfl
      rw [if_neg (not_or.mpr ⟨he, hE⟩)]
    · rfl

/-- **The digits of a number are read**, sign apart. -/
theorem exists_readNumber_toDigits {n : Nat} {negative : Bool} {value : Number} {p : Place}
    {rest : List UInt8} (hp : p.rest = encode (Nat.toDigits 10 n) ++ rest) (hrest : EndsNumber rest)
    (hvalue : numberValue negative (encode (Nat.toDigits 10 n)) none none = some value) :
    ∃ q : Place, q.rest = rest ∧ readNumber negative p = .ok (.ok value, q) := by
  have hall := isDigit_of_mem_toDigits n
  have hdigits := isDigit_of_mem_encode hall
  have hwhole : p.rest.takeWhile isDigit = encode (Nat.toDigits 10 n) := by
    rw [hp, takeWhile_append_of_head hdigits fun b hb => (hrest b hb).1]
  have hafter : (p.advance (encode (Nat.toDigits 10 n)).length).rest = rest := by
    rw [Place.advance, hp]
    exact List.drop_left
  have hfraction := readFraction_of_endsNumber (hafter.symm ▸ hrest :
    EndsNumber (p.advance (encode (Nat.toDigits 10 n)).length).rest)
  refine ⟨_, hafter, ?_⟩
  obtain ⟨c, cs, hcs⟩ := List.exists_cons_of_ne_nil (Nat.toDigits_ne_nil (b := 10) (n := n))
  obtain ⟨hc, -⟩ := List.forall_mem_cons.mp (hcs ▸ hall)
  have hcons : p.rest = UInt8.ofNat c.toNat :: (encode cs ++ rest) := by
    have hlt : c.toNat < 0x80 := Nat.lt_of_le_of_lt (toNat_of_isDigit hc).2 (by decide)
    rw [hp, hcs, Text.encode_cons_of_lt hlt, List.cons_append]
  unfold readNumber
  split
  · next hnil =>
    rw [hcons] at hnil
    cases hnil
  · next next tail hzero =>
    rw [hcons] at hzero
    obtain ⟨hlead, hbehind⟩ := List.cons.inj hzero
    -- a leading zero is the only digit
    have hczero : c = '0' := by
      refine Char.toNat_inj.mp ?_
      rw [← toNat_octet_of_isDigit hc, hlead]
      rfl
    subst hczero
    obtain rfl := toDigits_eq_of_zero hcs
    have hnext : isDigit next = false := by
      refine (hrest next ?_).1
      rw [← List.nil_append rest, ← Text.encode_nil, hbehind]
      exact rfl
    have hencode : encode (Nat.toDigits 10 n) = [0x30] := by
      rw [hcs]
      rfl
    rw [hencode] at hfraction hvalue ⊢
    have hfraction : readFraction (p.advance 1) = .ok (none, none, p.advance 1) := hfraction
    rw [hnext]
    dsimp only [bind, Except.bind, Bool.false_eq_true, if_false]
    rw [hfraction]
    dsimp only
    rw [hvalue]
    rfl
  · next b tail _ hb =>
    have hdigit : isDigit b = true := by
      rw [hcons] at hb
      obtain ⟨rfl, -⟩ := List.cons.inj hb
      refine hdigits _ ?_
      rw [hcs, encode_of_isDigit (hcs ▸ hall)]
      exact List.mem_cons_self
    rw [if_pos hdigit, hwhole]
    dsimp only [bind, Except.bind]
    rw [hfraction]
    dsimp only
    rw [hvalue]
    rfl

/-- A whole number of 64 bits, with or without a sign. -/
def Fits (i : Int) : Prop := -(UInt64.size : Int) ≤ 2 * i ∧ i < UInt64.size

theorem numberValue_digits {n : Nat} {negative : Bool} {ds : List UInt8} (hds : digitsValue ds = n)
    (h : if negative then 0 < n ∧ 2 * n ≤ UInt64.size else n < UInt64.size) :
    numberValue negative ds none none =
      some (.whole (if negative then -(n : Int) else (n : Int))) := by
  rw [numberValue, hds]
  cases negative with
  | false =>
    have hn : n < UInt64.size := h
    simp [hn]
  | true =>
    have hn : 0 < n ∧ 2 * n ≤ UInt64.size := h
    simp [hn]

/-- The text of a whole number begins with a minus sign or a digit. -/
theorem exists_lead_toString (i : Int) :
    ∃ b bs, encode (toString i).toList = b :: bs ∧ (b = 0x2D ∨ isDigit b = true) := by
  cases i with
  | ofNat n =>
    have hall := isDigit_of_mem_toDigits n
    obtain ⟨c, cs, hcs⟩ := List.exists_cons_of_ne_nil (Nat.toDigits_ne_nil (b := 10) (n := n))
    have hencode : encode (Nat.toDigits 10 n) = UInt8.ofNat c.toNat :: encode cs := by
      rw [encode_of_isDigit hall, hcs, List.map_cons, ← encode_of_isDigit]
      exact (List.forall_mem_cons.mp (hcs ▸ hall)).2
    refine ⟨_, _, by rw [toList_toString_ofNat, hencode], .inr ?_⟩
    refine isDigit_of_mem_encode hall _ ?_
    rw [hencode]
    exact List.mem_cons_self
  | negSucc n =>
    rw [toList_toString_negSucc]
    exact ⟨0x2D, _, rfl, .inl rfl⟩

/-- **A whole number reads back.** -/
theorem exists_readNumber_toString {i : Int} (hi : Fits i) {p : Place} {rest : List UInt8}
    {b : UInt8} {bs : List UInt8} (hb : encode (toString i).toList = b :: bs)
    (hp : p.rest = encode (toString i).toList ++ rest) (hrest : EndsNumber rest) :
    ∃ q : Place, q.rest = rest ∧
      readNumber (b = 0x2D) (if b = 0x2D then p.advance 1 else p) = .ok (.ok (.whole i), q) := by
  obtain ⟨hlow, hhigh⟩ := hi
  cases i with
  | ofNat n =>
    rw [toList_toString_ofNat] at hb hp
    have hall := isDigit_of_mem_toDigits n
    have hne : b ≠ 0x2D := by
      rintro rfl
      have hdigit : isDigit 0x2D = true := by
        refine isDigit_of_mem_encode hall _ ?_
        rw [hb]
        exact List.mem_cons_self
      exact absurd hdigit (by decide)
    have hvalue : numberValue false (encode (Nat.toDigits 10 n)) none none =
        some (.whole (Int.ofNat n)) :=
      numberValue_digits (digitsValue_encode_toDigits n) (Int.ofNat_lt.mp hhigh)
    rw [decide_eq_false hne, if_neg hne]
    exact exists_readNumber_toDigits hp hrest hvalue
  | negSucc n =>
    rw [toList_toString_negSucc] at hb hp
    have hcons : encode ('-' :: Nat.toDigits 10 (n + 1)) =
        0x2D :: encode (Nat.toDigits 10 (n + 1)) := rfl
    rw [hcons] at hb hp
    obtain ⟨rfl, -⟩ := List.cons.inj hb
    have hrange : 0 < n + 1 ∧ 2 * (n + 1) ≤ UInt64.size := by omega
    have hvalue : numberValue true (encode (Nat.toDigits 10 (n + 1))) none none =
        some (.whole (Int.negSucc n)) :=
      numberValue_digits (digitsValue_encode_toDigits (n + 1)) hrange
    exact exists_readNumber_toDigits (rest_advance hp) hrest hvalue

end RouteFlow.Json
