import Mathlib.Algebra.Order.Floor.Semiring
import Mathlib.Data.Rat.Floor
import RouteFlow.Proofs.Retry.Decision

/-!
# Growing waits stay in bounds

A wait is drawn up to a ceiling, and the draw needs one number more than the ceiling. So a ceiling
that is the greatest word leaves no room for it, and nothing else does.

With the product of the base delay and the power of the factor taken exactly (`Policy.exactCeiling`)
it comes to that only if both the product and the longest wait are that great. With doubles it also
comes to that for a longest wait within 1024 milliseconds of it, which rounds up to 2⁶⁴. The drawn
wait stays within the longest one, in doubles as far as these tell whole numbers apart.

* `ceiling_eq_exactCeiling` — where the doubles lose nothing, the ceiling is the exact one;
* `backoff_safe_iff` — when there is no decision, and how long a wait may be.
-/

namespace RouteFlow.Retry

variable {p : Policy} {factor : ℚ} {n : Nat} {o : Outcome} {now : Nanos} {word : Nat}

/-! ### Exact ceilings -/

/-- The ceiling of the wait after attempt number `n`, with the product taken exactly for a factor
that is `factor`, and brought into a word. -/
def Policy.exactCeiling (p : Policy) (factor : ℚ) (n : Nat) : Nat :=
  min ⌊min (p.baseDelay.millis * factor ^ (n - 1)) (p.maxDelay.millis : ℚ)⌋₊ (UInt64.size - 1)

theorem exactCeiling_le : p.exactCeiling factor n ≤ p.maxDelay.millis := by
  refine (Nat.min_le_left _ _).trans (Nat.floor_le_of_le ?_)
  exact min_le_right _ _

/-- **The exact ceiling leaves no room for a draw** if both the product and the longest wait reach
the greatest word. -/
theorem size_le_exactCeiling_iff :
    UInt64.size ≤ p.exactCeiling factor n + 1 ↔
      (2 ^ 64 - 1 : ℚ) ≤ p.baseDelay.millis * factor ^ (n - 1) ∧
        2 ^ 64 - 1 ≤ p.maxDelay.millis := by
  have hfull : UInt64.size ≤ p.exactCeiling factor n + 1 ↔
      2 ^ 64 - 1 ≤ ⌊min (p.baseDelay.millis * factor ^ (n - 1)) (p.maxDelay.millis : ℚ)⌋₊ := by
    unfold Policy.exactCeiling UInt64.size
    omega
  rw [hfull, Nat.le_floor_iff' (by decide), le_min_iff]
  refine and_congr (by norm_num) ?_
  exact Nat.cast_le

/-! ### Doubles -/

theorem roundToDouble_of_le {m : Nat} (h : m ≤ 2 ^ 53) : roundToDouble m = m := by
  rcases h.lt_or_eq with h | rfl
  · exact if_pos h
  · decide

/-- **A number that doubles cannot tell from all others** is rounded to a multiple of the unit in
which they count there, and by half a unit at most. -/
theorem roundToDouble_spec {m : Nat} (h : 2 ^ 53 ≤ m) :
    2 ^ (m.log2 - 52) ∣ roundToDouble m ∧ 2 * roundToDouble m ≤ 2 * m + 2 ^ (m.log2 - 52) := by
  have hbig : ¬ m < 2 * Decimal.Binary.leadingUnit := Nat.not_lt.mpr h
  unfold roundToDouble
  rw [if_neg hbig, Nat.one_shiftLeft]
  generalize 2 ^ (m.log2 - 52) = unit
  have hm : m / unit * unit + m % unit = m := Nat.div_add_mod' m unit
  dsimp only
  split
  · exact ⟨Nat.dvd_mul_left _ _, by omega⟩
  · have hup : (m / unit + 1) * unit = m / unit * unit + unit := Nat.add_one_mul _ _
    exact ⟨Nat.dvd_mul_left _ _, by omega⟩

/-- **Below the last 1024 numbers of a word** no number is rounded up to more than a word. It is
even, hence not the greatest word either. -/
theorem roundToDouble_lt {m : Nat} (h : m < UInt64.size - 1024) :
    roundToDouble m + 1 < UInt64.size := by
  have hsize : UInt64.size = 2 ^ 64 := rfl
  rcases Nat.lt_or_ge m (2 ^ 53) with hm | hm
  · rw [roundToDouble_of_le hm.le]
    omega
  · obtain ⟨hdvd, hle⟩ := roundToDouble_spec hm
    have hlow : 53 ≤ m.log2 := (Nat.le_log2 (by omega)).mpr hm
    have hhigh : m.log2 < 64 := (Nat.log2_lt (by omega)).mpr (by omega)
    have heven : 2 ∣ roundToDouble m := (dvd_pow_self 2 (by omega)).trans hdvd
    have hunit : 2 ^ (m.log2 - 52) ≤ 2 ^ 11 := Nat.pow_le_pow_right (by decide) (by omega)
    omega

/-- **Where the doubles lose nothing**, the ceiling is the exact one: the product has the whole part
of the exact product, and the longest wait is small enough. -/
theorem ceiling_eq_exactCeiling
    (hproduct : wholePart? (Float.ofNat p.baseDelay.millis * power p.factor (n - 1)) =
      some ⌊p.baseDelay.millis * factor ^ (n - 1)⌋₊) (hmax : p.maxDelay.millis ≤ 2 ^ 53) :
    p.ceiling n = p.exactCeiling factor n := by
  have hfloor : ⌊min (p.baseDelay.millis * factor ^ (n - 1)) (p.maxDelay.millis : ℚ)⌋₊ =
      min ⌊p.baseDelay.millis * factor ^ (n - 1)⌋₊ p.maxDelay.millis := by
    rw [Nat.floor_mono.map_min, Nat.floor_natCast]
  unfold Policy.ceiling Retry.ceiling Policy.exactCeiling
  dsimp only
  rw [hproduct, roundToDouble_of_le hmax, hfloor]

/-! ### Decisions -/

/-- A wait that is drawn up to the longest one is within the longest one. -/
theorem le_maxDelay_of_decideUpTo? {most : Nat} (hmost : most ≤ p.maxDelay.millis) {delay : Nanos}
    {reason : Reason} (h : decideUpTo? most p n o now word = some (.retry delay reason)) :
    delay ≤ p.maxDelay := by
  obtain ⟨-, -, ⟨time, -, rfl, -⟩ | ⟨-, ms, hms, rfl, -⟩⟩ := decideUpTo?_eq_retry_iff.mp h
  · exact Nat.min_le_right _ _
  · calc Nanos.ofMillis ms
      _ ≤ Nanos.ofMillis p.maxDelay.millis :=
        Nat.mul_le_mul_right _ ((draw?_le hms).trans hmost)
      _ ≤ p.maxDelay := Nat.div_mul_le_self _ _

/-- **Backoff is safe within bounds.** Take an outcome for which the server asks for no wait. With
the product taken exactly there is a decision unless another attempt is due and both the product and
the longest wait reach the greatest word, and no retry waits longer than the longest wait. With the
product in doubles, whatever the factor, there is a decision if the longest wait is below the last
1024 words, and no retry waits longer than the longest wait if that is at most 2⁵³ milliseconds. -/
theorem backoff_safe_iff (p : Policy) (factor : ℚ) (n : Nat) (o : Outcome) (now : Nanos)
    (word : Nat) (hasked : o.requested p now = .nothing) :
    (decideUpTo? (p.exactCeiling factor n) p n o now word = none ↔
      o.isRetryable p = true ∧ n < p.maxAttempts ∧
        (2 ^ 64 - 1 : ℚ) ≤ p.baseDelay.millis * factor ^ (n - 1) ∧
          2 ^ 64 - 1 ≤ p.maxDelay.millis) ∧
    (∀ delay reason, decideUpTo? (p.exactCeiling factor n) p n o now word =
      some (.retry delay reason) → delay ≤ p.maxDelay) ∧
    (p.maxDelay.millis < UInt64.size - 1024 → decide? p n o now word ≠ none) ∧
    (p.maxDelay.millis ≤ 2 ^ 53 → ∀ delay reason,
      decide? p n o now word = some (.retry delay reason) → delay ≤ p.maxDelay) := by
  refine ⟨?_, fun delay reason h => ?_, fun hmax h => ?_, fun hmax delay reason h => ?_⟩
  · rw [decideUpTo?_eq_none_iff, size_le_exactCeiling_iff]
    simp only [hasked, reduceCtorEq, false_or, true_and]
  · exact le_maxDelay_of_decideUpTo? exactCeiling_le h
  · obtain ⟨-, -, hbeyond | ⟨-, hfull⟩⟩ := decide?_eq_none_iff.mp h
    · exact absurd (hasked.symm.trans hbeyond) nofun
    · exact absurd (ceiling_lt_of_roundToDouble (roundToDouble_lt hmax)) (Nat.not_lt.mpr hfull)
  · rw [decide?_eq_decideUpTo?] at h
    refine le_maxDelay_of_decideUpTo? ?_ h
    exact ceiling_le_roundToDouble.trans_eq (roundToDouble_of_le hmax)

theorem backoff_safe_iff_standard :
    decideUpTo? (Policy.standard.exactCeiling 2 1) .standard 1 .networkFailure 0 7 ≠ none ∧
      decide? .standard 1 .networkFailure 0 7 ≠ none := by
  have hasked : Outcome.networkFailure.requested .standard 0 = .nothing := rfl
  obtain ⟨hexact, -, hdoubles, -⟩ := backoff_safe_iff .standard 2 1 .networkFailure 0 7 hasked
  refine ⟨fun hnone => ?_, hdoubles (by decide)⟩
  obtain ⟨-, -, -, hmax⟩ := hexact.mp hnone
  exact absurd hmax (by decide)

/-- **Waits as long as a word can tell leave no room for a draw**: after a first attempt that
failed, there is no decision. -/
theorem no_decision_at_greatest_word :
    let longest := Nanos.ofMillis (UInt64.size - 1)
    let p : Policy := { Policy.standard with baseDelay := longest, maxDelay := longest }
    decideUpTo? (p.exactCeiling 2 1) p 1 .networkFailure 0 0 = none := by
  intro longest p
  have hfull : UInt64.size ≤ p.exactCeiling 2 1 + 1 := by
    have hlongest : longest.millis = 2 ^ 64 - 1 := by decide +kernel
    have hproduct : (2 ^ 64 - 1 : ℚ) ≤ longest.millis * 2 ^ (1 - 1) := by
      rw [hlongest]
      norm_num
    exact size_le_exactCeiling_iff.mpr ⟨hproduct, hlongest.ge⟩
  exact decideUpTo?_eq_none_iff.mpr ⟨rfl, by decide, .inr ⟨rfl, hfull⟩⟩

end RouteFlow.Retry
