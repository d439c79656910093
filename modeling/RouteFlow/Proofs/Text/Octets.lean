import Mathlib.Data.List.Basic
import RouteFlow.Text.Utf8

/-!
# The octets of a text

A text is encoded character by character: an ASCII character is one octet, any other one several, of
which the first tells their number (`utf8EncodeChar_cases`). The decoder takes off the front what
the encoder has put there (`Utf8.exists_step?_eq_char`).
-/

namespace RouteFlow.Text

/-! ### Encoding -/

/-- The loop of `ByteArray.toList` collects the octets from a place on. -/
theorem toList_loop (bytes : ByteArray) (i : Nat) (r : List UInt8) :
    ByteArray.toList.loop bytes i r = r.reverse ++ bytes.data.toList.drop i := by
  fun_induction ByteArray.toList.loop bytes i r with
  | case1 i r h ih =>
    have hi : i < bytes.data.toList.length := by simpa using h
    rw [ih, List.drop_eq_getElem_cons hi]
    simp [ByteArray.get!, h]
  | case2 i r h =>
    have hi : bytes.data.toList.length ≤ i := by simpa using h
    rw [List.drop_eq_nil_of_le hi, List.append_nil]

theorem octets_ofList (cs : List Char) :
    octets (String.ofList cs) = cs.flatMap String.utf8EncodeChar := by
  rw [octets, String.toUTF8, String.toByteArray_ofList, ByteArray.toList, toList_loop,
    List.utf8Encode]
  simp

/-- The octets of characters, one after the other. -/
def encode (cs : List Char) : List UInt8 := cs.flatMap String.utf8EncodeChar

theorem octets_eq_encode (s : String) : octets s = encode s.toList := by
  rw [encode, ← octets_ofList, String.ofList_toList]

@[simp] theorem encode_nil : encode [] = [] := rfl

theorem encode_cons (c : Char) (cs : List Char) :
    encode (c :: cs) = String.utf8EncodeChar c ++ encode cs := List.flatMap_cons

@[simp] theorem encode_append (cs ds : List Char) : encode (cs ++ ds) = encode cs ++ encode ds :=
  List.flatMap_append

/-- **The octets of a character**: itself if it is ASCII, otherwise several, the first of them
beyond those that follow another one. -/
theorem utf8EncodeChar_cases (c : Char) :
    (c.toNat < 0x80 ∧ String.utf8EncodeChar c = [UInt8.ofNat c.toNat]) ∨
      0x80 ≤ c.toNat ∧ ∃ lead bs, 0xC2 ≤ lead ∧ lead < 0x100 ∧
        String.utf8EncodeChar c = UInt8.ofNat lead :: bs := by
  have hc : c.val.toNat < 0xD800 ∨ 0xDFFF < c.val.toNat ∧ c.val.toNat < 0x110000 := c.valid
  unfold String.utf8EncodeChar
  dsimp only
  split
  case isTrue h => exact .inl ⟨Nat.lt_succ_of_le h, rfl⟩
  case isFalse h =>
    refine .inr ⟨Nat.lt_of_not_le h, ?_⟩
    split
    case isTrue => exact ⟨_, _, by omega, by omega, rfl⟩
    case isFalse =>
      split
      case isTrue => exact ⟨_, _, by omega, by omega, rfl⟩
      case isFalse => exact ⟨_, _, by omega, by omega, rfl⟩

/-- A text with a character has an octet. -/
theorem octets_ne_nil {s : String} (h : s ≠ "") : octets s ≠ [] := by
  obtain ⟨c, cs, hcs⟩ := List.exists_cons_of_ne_nil (mt String.toList_eq_nil_iff.mp h)
  rw [octets_eq_encode, hcs, encode_cons]
  rcases utf8EncodeChar_cases c with ⟨-, hc⟩ | ⟨-, lead, bs, -, -, hc⟩
  · rw [hc]
    exact List.cons_ne_nil _ _
  · rw [hc]
    exact List.cons_ne_nil _ _

/-- An ASCII character is an octet. -/
theorem encode_cons_of_lt {c : Char} (h : c.toNat < 0x80) (cs : List Char) :
    encode (c :: cs) = UInt8.ofNat c.toNat :: encode cs := by
  rcases utf8EncodeChar_cases c with ⟨-, hc⟩ | ⟨hge, -⟩
  · rw [encode_cons, hc, List.singleton_append]
  · exact absurd h (Nat.not_lt.mpr hge)

/-! ### Decoding -/

namespace Utf8

/-- The octets that begin a character, by their value. -/
theorem step?_ofNat {lead : Nat} (h : lead < 0x100) (bs : List UInt8) :
    step? (UInt8.ofNat lead :: bs) =
      if lead < 0x80 then .char (Char.ofNat lead) 1 bs
      else if 0xC2 ≤ lead ∧ lead ≤ 0xDF then continuation 0x80 0xBF (lead - 0xC0) 1 1 bs
      else if lead = 0xE0 then continuation 0xA0 0xBF 0 1 2 bs
      else if lead = 0xED then continuation 0x80 0x9F 0xD 1 2 bs
      else if 0xE1 ≤ lead ∧ lead ≤ 0xEF then continuation 0x80 0xBF (lead - 0xE0) 1 2 bs
      else if lead = 0xF0 then continuation 0x90 0xBF 0 1 3 bs
      else if 0xF1 ≤ lead ∧ lead ≤ 0xF3 then continuation 0x80 0xBF (lead - 0xF0) 1 3 bs
      else if lead = 0xF4 then continuation 0x80 0x8F 4 1 3 bs
      else .malformed 1 bs := by
  have hlead : (UInt8.ofNat lead).toNat = lead := UInt8.toNat_ofNat_of_lt' h
  have heq : ∀ b : UInt8, UInt8.ofNat lead = b ↔ lead = b.toNat := by
    intro b
    rw [← UInt8.toNat_inj, hlead]
  simp only [step?, UInt8.lt_iff_toNat_lt, UInt8.le_iff_toNat_le, heq, hlead, UInt8.reduceToNat]

/-- One of the octets that follow the first one. -/
theorem continuation_cons {lo hi : UInt8} {m : Nat} (hm : m < 64)
    (hrange : lo.toNat ≤ m + 128 ∧ m + 128 ≤ hi.toNat) (code size n : Nat) (bs : List UInt8) :
    continuation lo hi code size (n + 1) (UInt8.ofNat (m + 128) :: bs) =
      continuation 0x80 0xBF (code * 64 + m) (size + 1) n bs := by
  have hsize : m + 128 < 256 := by omega
  have hb : (UInt8.ofNat (m + 128)).toNat = m + 128 := UInt8.toNat_ofNat_of_lt' hsize
  have hbetween : lo ≤ UInt8.ofNat (m + 128) ∧ UInt8.ofNat (m + 128) ≤ hi := by
    rw [UInt8.le_iff_toNat_le, UInt8.le_iff_toNat_le, hb]
    exact hrange
  rw [continuation, if_pos hbetween, hb, Nat.add_sub_cancel]

/-- The last octets, which may have any value that follows another octet. -/
theorem continuation_one {m : Nat} (hm : m < 64) (code size : Nat) (bs : List UInt8) :
    continuation 0x80 0xBF code size 1 (UInt8.ofNat (m + 128) :: bs) =
      .char (Char.ofNat (code * 64 + m)) (size + 1) bs := by
  rw [continuation_cons hm (by simp only [UInt8.reduceToNat]; omega)]
  rfl

theorem continuation_two {m m' : Nat} (hm : m < 64) (hm' : m' < 64) (code size : Nat)
    (bs : List UInt8) :
    continuation 0x80 0xBF code size 2 (UInt8.ofNat (m + 128) :: UInt8.ofNat (m' + 128) :: bs) =
      .char (Char.ofNat ((code * 64 + m) * 64 + m')) (size + 2) bs := by
  rw [continuation_cons hm (by simp only [UInt8.reduceToNat]; omega), continuation_one hm']

/-- **A character is taken off the front of its octets.** -/
theorem exists_step?_eq_char (c : Char) (bs : List UInt8) :
    ∃ size, step? (String.utf8EncodeChar c ++ bs) = .char c size bs := by
  have hvalid : c.val.toNat < 0xD800 ∨ 0xDFFF < c.val.toNat ∧ c.val.toNat < 0x110000 := c.valid
  have hc : ∀ n, n = c.val.toNat → Char.ofNat n = c := by
    rintro n rfl
    exact Char.ofNat_toNat c
  unfold String.utf8EncodeChar
  dsimp only
  generalize c.val.toNat = v at hvalid hc ⊢
  split
  case isTrue h =>
    refine ⟨1, ?_⟩
    rw [List.singleton_append, step?_ofNat (by omega), if_pos (by omega), hc v rfl]
  case isFalse h1 =>
    split
    case isTrue h2 =>
      refine ⟨2, ?_⟩
      rw [List.cons_append, List.singleton_append, step?_ofNat (by omega), if_neg (by omega),
        if_pos (by omega), continuation_one (by omega), hc _ (by omega)]
    case isFalse h2 =>
      split
      case isTrue h3 =>
        refine ⟨3, ?_⟩
        have hfirst : v / 64 % 64 < 64 := by omega
        have hlast : v % 64 < 64 := by omega
        have hlead : v / 4096 % 16 + 224 < 0x100 := by omega
        -- behind the least and the surrogate leading octet not every second octet may stand
        rw [List.cons_append, List.cons_append, List.singleton_append, step?_ofNat hlead,
          if_neg (by omega), if_neg (by omega)]
        split
        case isTrue =>
          rw [continuation_cons hfirst (by simp only [UInt8.reduceToNat]; omega),
            continuation_one hlast, hc _ (by omega)]
        split
        case isTrue =>
          rw [continuation_cons hfirst (by simp only [UInt8.reduceToNat]; omega),
            continuation_one hlast, hc _ (by omega)]
        rw [if_pos (by omega), continuation_two hfirst hlast, hc _ (by omega)]
      case isFalse h3 =>
        refine ⟨4, ?_⟩
        have hfirst : v / 4096 % 64 < 64 := by omega
        have hsecond : v / 64 % 64 < 64 := by omega
        have hlast : v % 64 < 64 := by omega
        have hlead : v / 262144 % 8 + 240 < 0x100 := by omega
        rw [List.cons_append, List.cons_append, List.cons_append, List.singleton_append,
          step?_ofNat hlead, if_neg (by omega), if_neg (by omega), if_neg (by omega),
          if_neg (by omega), if_neg (by omega)]
        split
        case isTrue =>
          rw [continuation_cons hfirst (by simp only [UInt8.reduceToNat]; omega),
            continuation_two hsecond hlast, hc _ (by omega)]
        split
        case isTrue =>
          rw [continuation_cons hfirst (by simp only [UInt8.reduceToNat]; omega),
            continuation_two hsecond hlast, hc _ (by omega)]
        rw [if_pos (by omega), continuation_cons hfirst (by simp only [UInt8.reduceToNat]; omega),
          continuation_two hsecond hlast, hc _ (by omega)]

end Utf8

end RouteFlow.Text
