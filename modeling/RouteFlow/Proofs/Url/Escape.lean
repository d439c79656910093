import RouteFlow.Proofs.Text.Octets
import RouteFlow.Url.Escape

/-!
# Escapes and what they stand for

Escaping goes character by character: a character is written as it is if its only octet may stand
for itself, and otherwise each of its octets is written `%XX`. Whichever octets are escaped, as long
as the percent sign and all octets beyond ASCII are among them, what is written has the text as its
meaning (`unescape_escape`), and it is the text itself exactly if nothing had to be escaped.
-/

namespace RouteFlow.Url

/-! ### Escaping -/

variable {set : UInt8 → Bool}

/-- An octet as it is written. -/
def written (set : UInt8 → Bool) (b : UInt8) : List Char :=
  if set b then escapeOctet b else [Char.ofNat b.toNat]

theorem escape_eq_flatMap (set : UInt8 → Bool) (cs : List Char) :
    escape set cs = cs.flatMap fun c => (String.utf8EncodeChar c).flatMap (written set) := by
  rw [escape, Text.octets_ofList, List.flatMap_assoc]
  rfl

theorem escape_nil (set : UInt8 → Bool) : escape set [] = [] := by
  rw [escape_eq_flatMap, List.flatMap_nil]

theorem escape_cons (set : UInt8 → Bool) (c : Char) (cs : List Char) :
    escape set (c :: cs) = (String.utf8EncodeChar c).flatMap (written set) ++ escape set cs := by
  rw [escape_eq_flatMap, List.flatMap_cons, escape_eq_flatMap]

theorem escape_append (set : UInt8 → Bool) (cs ds : List Char) :
    escape set (cs ++ ds) = escape set cs ++ escape set ds := by
  rw [escape_eq_flatMap, List.flatMap_append, ← escape_eq_flatMap, ← escape_eq_flatMap]

/-- **A set of octets that can be escaped and read again**: it has the percent sign, and all octets
beyond ASCII. -/
structure IsEscapeSet (set : UInt8 → Bool) : Prop where
  percent : set 0x25 = true
  beyond : ∀ b, 0x80 ≤ b → set b = true

theorem IsEscapeSet.lt (h : IsEscapeSet set) {b : UInt8} (hb : set b = false) : b < 0x80 := by
  by_contra hge
  have hset := h.beyond b (UInt8.not_lt.mp hge)
  rw [hb] at hset
  exact Bool.false_ne_true hset

/-- A character is written as it is, or there is an escape in what is written for it. -/
theorem written_char_cases (h : IsEscapeSet set) (c : Char) :
    ((∀ b ∈ String.utf8EncodeChar c, set b = false) ∧
        (String.utf8EncodeChar c).flatMap (written set) = [c]) ∨
      ∃ b ∈ String.utf8EncodeChar c, set b = true ∧
        ∃ before after, (String.utf8EncodeChar c).flatMap (written set) =
          before ++ escapeOctet b ++ after := by
  have hescape : ∀ b ∈ String.utf8EncodeChar c, set b = true →
      ∃ before after, (String.utf8EncodeChar c).flatMap (written set) =
        before ++ escapeOctet b ++ after := by
    intro b hb hset
    obtain ⟨l, r, hlr⟩ := List.append_of_mem hb
    refine ⟨l.flatMap (written set), r.flatMap (written set), ?_⟩
    rw [hlr, List.flatMap_append, List.flatMap_cons, written, if_pos hset, List.append_assoc]
  rcases Text.utf8EncodeChar_cases c with ⟨hc, hencode⟩ | ⟨-, lead, bs, hge, hlt, hencode⟩
  · have hmem : UInt8.ofNat c.toNat ∈ String.utf8EncodeChar c := by
      rw [hencode]
      exact List.mem_singleton_self _
    cases hset : set (UInt8.ofNat c.toNat) with
    | true => exact .inr ⟨_, hmem, hset, hescape _ hmem hset⟩
    | false =>
      left
      have hchar : Char.ofNat (UInt8.ofNat c.toNat).toNat = c := by
        rw [UInt8.toNat_ofNat_of_lt' (Nat.lt_trans hc (by decide))]
        exact Char.ofNat_toNat c
      rw [hencode, List.flatMap_cons, List.flatMap_nil, List.append_nil, written, hset, hchar]
      exact ⟨fun b hb => List.mem_singleton.mp hb ▸ hset, rfl⟩
  · have hmem : UInt8.ofNat lead ∈ String.utf8EncodeChar c := by
      rw [hencode]
      exact List.mem_cons_self
    have hset : set (UInt8.ofNat lead) = true := by
      refine h.beyond _ ?_
      rw [UInt8.le_iff_toNat_le, UInt8.toNat_ofNat_of_lt' hlt]
      exact Nat.le_trans (by decide) hge
    exact .inr ⟨_, hmem, hset, hescape _ hmem hset⟩

/-! ### Reading escapes -/

theorem toNat_ofNat_of_lt : ∀ n < 0x80, (Char.ofNat n).toNat = n := by
  decide

theorem hexValue?_hexDigit : ∀ n < 16, (hexDigit n).toNat < 0x80 ∧
    hexValue? (UInt8.ofNat (hexDigit n).toNat) = some n := by
  decide

theorem unescape_cons_of_ne {b : UInt8} (h : b ≠ 0x25) (rest : List UInt8) :
    unescape (b :: rest) = b :: unescape rest := by
  match rest with
  | [] => rfl
  | [c] => rfl
  | c :: d :: rest => rw [unescape, if_neg h]

/-- What is written for an octet is read as this octet. -/
theorem unescape_written (h : IsEscapeSet set) (b : UInt8) (rest : List UInt8) :
    unescape ((written set b).flatMap String.utf8EncodeChar ++ rest) = b :: unescape rest := by
  have hascii : ∀ {c : Char}, c.toNat < 0x80 → String.utf8EncodeChar c = [UInt8.ofNat c.toNat] := by
    intro c hc
    unfold String.utf8EncodeChar
    exact if_pos (Nat.le_of_lt_succ hc)
  unfold written
  by_cases hset : set b = true
  · have hhigh := hexValue?_hexDigit (b.toNat / 16) (by have := b.toNat_lt; omega)
    have hlow := hexValue?_hexDigit (b.toNat % 16) (by omega)
    have hoctets : (escapeOctet b).flatMap String.utf8EncodeChar =
        [0x25, UInt8.ofNat (hexDigit (b.toNat / 16)).toNat,
          UInt8.ofNat (hexDigit (b.toNat % 16)).toNat] := by
      rw [escapeOctet, List.flatMap_cons, List.flatMap_cons, List.flatMap_cons, List.flatMap_nil,
        hascii hhigh.1, hascii hlow.1, hascii (by decide)]
      rfl
    have hvalue : UInt8.ofNat (b.toNat / 16 * 16 + b.toNat % 16) = b := by
      rw [Nat.div_add_mod']
      exact UInt8.ofNat_toNat
    rw [if_pos hset, hoctets, List.cons_append, List.cons_append, List.cons_append, List.nil_append,
      unescape, if_pos rfl, hhigh.2, hlow.2]
    dsimp only
    rw [hvalue]
  · have hb : set b = false := Bool.eq_false_iff.mpr hset
    have hlt : b.toNat < 0x80 := h.lt hb
    have hne : b ≠ 0x25 := by
      rintro rfl
      exact hset h.percent
    have hoctets : String.utf8EncodeChar (Char.ofNat b.toNat) = [b] := by
      have hnat : (Char.ofNat b.toNat).toNat = b.toNat := toNat_ofNat_of_lt _ hlt
      rw [hascii (by rw [hnat]; exact hlt), hnat]
      exact congrArg (fun x => [x]) UInt8.ofNat_toNat
    rw [if_neg hset, List.flatMap_cons, List.flatMap_nil, List.append_nil, hoctets,
      List.singleton_append, unescape_cons_of_ne hne]

/-- **What is written is read as the text.** -/
theorem unescape_escape (h : IsEscapeSet set) (cs : List Char) :
    unescape (Text.octets (String.ofList (escape set cs))) = Text.octets (String.ofList cs) := by
  have hread : ∀ bs : List UInt8,
      unescape ((bs.flatMap (written set)).flatMap String.utf8EncodeChar) = bs := by
    intro bs
    induction bs with
    | nil => rfl
    | cons b bs ih => rw [List.flatMap_cons, List.flatMap_append, unescape_written h, ih]
  rw [Text.octets_ofList]
  exact hread _

end RouteFlow.Url
