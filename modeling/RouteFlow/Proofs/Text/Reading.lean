import Mathlib.Data.List.DropRight
import Mathlib.Data.List.TakeWhile
import RouteFlow.Text.Blank
import RouteFlow.Text.Numeral

/-!
# What trimming leaves and what a numeral is

Trimming is said here without running through the text: what is left is the part between the blanks
on either side, and it is `Unpadded`, so that no other part could have been meant (`trim_eq_iff`).
Taking one character away from the end is said in the same manner (`withoutTrailing_eq_iff`).
A numeral is one or more digits after an optional plus sign; leading zeros do not count, and a
number of a word is one that a word can hold (`word64?_eq_some_iff`).
-/

namespace RouteFlow.Text

/-! ### Blanks on either side -/

/-- A text consists of blanks. -/
def Blanks (cs : List Char) : Prop := ∀ c ∈ cs, isBlank c = true

/-- A text neither begins nor ends with a blank. -/
structure Unpadded (cs : List Char) : Prop where
  head : ∀ c ∈ cs.head?, isBlank c = false
  last : ∀ c ∈ cs.getLast?, isBlank c = false

theorem blanks_nil : Blanks [] := by simp [Blanks]

/-- What is not blank from beginning to end has no blanks on either side. -/
theorem unpadded_of_forall {cs : List Char} (h : ∀ c ∈ cs, isBlank c = false) : Unpadded cs :=
  ⟨fun c hc => h c (List.mem_of_head? hc), fun c hc => h c (List.mem_of_getLast? hc)⟩

theorem trimEnd_eq_rdropWhile (cs : List Char) : trimEnd cs = cs.rdropWhile isBlank := rfl

/-- Blanks in front go, up to a text that does not begin with one. -/
theorem trimStart_append {before cs : List Char} (hb : Blanks before)
    (hcs : ∀ c ∈ cs.head?, isBlank c = false) : trimStart (before ++ cs) = cs := by
  unfold trimStart
  rw [List.dropWhile_append_of_pos hb]
  cases cs with
  | nil => rfl
  | cons c cs => exact List.dropWhile_cons_of_neg (by simpa using hcs c rfl)

/-- What is dropped from the end goes, up to a text that does not end with more of it. -/
theorem rdropWhile_append {p : Char → Bool} {cs after : List Char} (ha : ∀ c ∈ after, p c = true)
    (hcs : ∀ c ∈ cs.getLast?, p c = false) : (cs ++ after).rdropWhile p = cs := by
  have hkeep : cs.reverse.dropWhile p = cs.reverse := by
    cases hrev : cs.reverse with
    | nil => rfl
    | cons c rest =>
      have hc : p c = false := hcs c (by rw [← List.head?_reverse, hrev]; rfl)
      exact List.dropWhile_cons_of_neg (by simp [hc])
  rw [List.rdropWhile, List.reverse_append,
    List.dropWhile_append_of_pos fun c hc => ha c (List.mem_reverse.mp hc), hkeep,
    List.reverse_reverse]

/-- Blanks at the end go, up to a text that does not end with one. -/
theorem trimEnd_append {cs after : List Char} (ha : Blanks after)
    (hcs : ∀ c ∈ cs.getLast?, isBlank c = false) : trimEnd (cs ++ after) = cs := by
  rw [trimEnd_eq_rdropWhile, rdropWhile_append ha hcs]

/-- **What stands between blanks is what trimming leaves.** -/
theorem trim_append {before cs after : List Char} (hb : Blanks before) (ha : Blanks after)
    (hcs : Unpadded cs) : trim (before ++ cs ++ after) = cs := by
  unfold trim
  rw [List.append_assoc]
  cases cs with
  | nil =>
    -- all of the text is blank
    have hall : ∀ c ∈ before ++ after, isBlank c = true :=
      List.forall_mem_append.mpr ⟨hb, ha⟩
    rw [List.nil_append, trimStart, List.dropWhile_eq_nil_iff.mpr hall]
    rfl
  | cons c cs =>
    rw [trimStart_append hb fun d hd => hcs.head d (by simpa using hd)]
    exact trimEnd_append ha hcs.last

theorem unpadded_trim (cs : List Char) : Unpadded (trim cs) := by
  have hlast : ∀ c ∈ (trim cs).getLast?, isBlank c = false := by
    intro c hc
    have hne : trim cs ≠ [] := by rintro h; simp [h] at hc
    rw [List.getLast?_eq_getLast_of_ne_nil hne] at hc
    rw [← Option.some.inj hc]
    exact Bool.eq_false_iff.mpr (List.rdropWhile_last_not isBlank (trimStart cs) hne)
  refine ⟨fun c hc => ?_, hlast⟩
  -- trimming the end leaves a beginning of what trimming the front has left
  obtain ⟨rest, hrest⟩ : trim cs <+: trimStart cs := List.rdropWhile_prefix isBlank (trimStart cs)
  have hhead : (cs.dropWhile isBlank).head? = some c := by
    rw [← trimStart, ← hrest, List.head?_append, Option.mem_def.mp hc]
    rfl
  have hnot := List.head?_dropWhile_not isBlank cs
  rwa [hhead] at hnot

/-- **What trimming takes away is blanks** on either side. -/
theorem exists_blanks_trim (cs : List Char) :
    ∃ before after, Blanks before ∧ Blanks after ∧ cs = before ++ trim cs ++ after := by
  refine ⟨cs.takeWhile isBlank, (trimStart cs).rtakeWhile isBlank, fun c => List.mem_takeWhile_imp,
    fun c => List.mem_rtakeWhile_imp, ?_⟩
  rw [List.append_assoc, trim, trimEnd_eq_rdropWhile, List.rdropWhile_append_rtakeWhile, trimStart,
    List.takeWhile_append_dropWhile]

/-- **The trimmed text** is the unpadded one that the text is, apart from blanks on either side. -/
theorem trim_eq_iff {cs mid : List Char} :
    trim cs = mid ↔
      Unpadded mid ∧
        ∃ before after, Blanks before ∧ Blanks after ∧ cs = before ++ mid ++ after := by
  constructor
  · rintro rfl
    exact ⟨unpadded_trim cs, exists_blanks_trim cs⟩
  · rintro ⟨hmid, before, after, hb, ha, rfl⟩
    exact trim_append hb ha hmid

/-! ### One character at the end -/

/-- **A text without a character at its end** is what is left once all of them are taken away. -/
theorem withoutTrailing_eq_iff {c : Char} {s t : String} :
    withoutTrailing c s = t ↔
      t.toList.getLast? ≠ some c ∧ ∃ n, s.toList = t.toList ++ List.replicate n c := by
  have hdrop : withoutTrailing c s = String.ofList (s.toList.rdropWhile (· == c)) := rfl
  rw [hdrop]
  constructor
  · rintro rfl
    rw [String.toList_ofList]
    constructor
    · intro hlast
      have hne : s.toList.rdropWhile (· == c) ≠ [] := by
        intro hnil
        simp [hnil] at hlast
      rw [List.getLast?_eq_getLast_of_ne_nil hne] at hlast
      have hnot := List.rdropWhile_last_not (· == c) s.toList hne
      exact hnot (by simpa using hlast)
    · have hall : ∀ d ∈ s.toList.rtakeWhile (· == c), d = c := by
        intro d hd
        simpa using List.mem_rtakeWhile_imp hd
      refine ⟨(s.toList.rtakeWhile (· == c)).length, ?_⟩
      rw [← List.eq_replicate_of_mem hall, List.rdropWhile_append_rtakeWhile]
  · rintro ⟨hlast, n, hs⟩
    rw [hs, rdropWhile_append, String.ofList_toList]
    · intro d hd
      simpa using List.eq_of_mem_replicate hd
    · intro d hd
      have hne : d ≠ c := by
        rintro rfl
        exact hlast hd
      simpa using hne

/-! ### Numerals -/

/-- **A numeral for a number**: one or more decimal digits after an optional plus sign. -/
def Numeral (cs : List Char) (n : Nat) : Prop :=
  ∃ digits, digits ≠ [] ∧ (∀ c ∈ digits, '0' ≤ c ∧ c ≤ '9') ∧
    (cs = digits ∨ cs = '+' :: digits) ∧ Nat.ofDigitChars 10 digits 0 = n

theorem isDecimal_iff {c : Char} : isDecimal c = true ↔ '0' ≤ c ∧ c ≤ '9' := by
  simp [isDecimal]

theorem digitsValue_eq (cs : List Char) : digitsValue cs = Nat.ofDigitChars 10 cs 0 := by
  rw [digitsValue, Nat.ofDigitChars_eq_foldl]
  congr 1
  funext n c
  rw [Nat.mul_comm]
  rfl

theorem digits?_eq_some_iff {cs : List Char} {n : Nat} :
    digits? cs = some n ↔
      cs ≠ [] ∧ (∀ c ∈ cs, '0' ≤ c ∧ c ≤ '9') ∧ Nat.ofDigitChars 10 cs 0 = n := by
  have hall : cs.all isDecimal = true ↔ ∀ c ∈ cs, '0' ≤ c ∧ c ≤ '9' := by
    simp only [List.all_eq_true, isDecimal_iff]
  have hne : (!cs.isEmpty) = true ↔ cs ≠ [] := by simp
  unfold digits?
  rw [digitsValue_eq, Option.ite_none_right_eq_some, Bool.and_eq_true, hall, hne, and_assoc,
    Option.some_inj]

theorem natural?_eq_some_iff {cs : List Char} {n : Nat} : natural? cs = some n ↔ Numeral cs n := by
  unfold natural? Numeral
  split
  · next rest =>
    rw [digits?_eq_some_iff]
    constructor
    · rintro ⟨hne, hd, hn⟩
      exact ⟨rest, hne, hd, .inr rfl, hn⟩
    · rintro ⟨digits, hne, hd, rfl | h, hn⟩
      · -- the plus sign is no digit
        exact absurd (hd '+' List.mem_cons_self) (by decide)
      · obtain rfl := (List.cons.inj h).2
        exact ⟨hne, hd, hn⟩
  · next hplus =>
    rw [digits?_eq_some_iff]
    constructor
    · rintro ⟨hne, hd, hn⟩
      exact ⟨cs, hne, hd, .inl rfl, hn⟩
    · rintro ⟨digits, hne, hd, rfl | h, hn⟩
      · exact ⟨hne, hd, hn⟩
      · exact absurd h (hplus digits)

/-- **A number of a word** is a numeral for a number that a word can hold. -/
theorem word64?_eq_some_iff {cs : List Char} {n : Nat} :
    word64? cs = some n ↔ Numeral cs n ∧ n < UInt64.size := by
  rw [word64?, naturalBelow?, Option.filter_eq_some_iff, natural?_eq_some_iff, decide_eq_true_iff]

/-- A numeral has no blank in it and none of the marks of a path. -/
theorem Numeral.forall_mem {cs : List Char} {n : Nat} (h : Numeral cs n) :
    ∀ c ∈ cs, c = '+' ∨ ('0' ≤ c ∧ c ≤ '9') := by
  obtain ⟨digits, -, hd, rfl | rfl, -⟩ := h
  · exact fun c hc => .inr (hd c hc)
  · exact List.forall_mem_cons.mpr ⟨.inl rfl, fun c hc => .inr (hd c hc)⟩

/-- The decimal digits of a number are a numeral for it. -/
theorem numeral_toDigits (n : Nat) : Numeral (Nat.toDigits 10 n) n := by
  refine ⟨_, Nat.toDigits_ne_nil, fun c hc => ?_, .inl rfl, Nat.ofDigitChars_ten_toDigits⟩
  have h := Nat.isDigit_of_mem_toDigits (b := 10) (by decide) (by decide) hc
  simpa [Char.isDigit, Char.le_def] using h

end RouteFlow.Text
