import RouteFlow.Retry.Decision

/-!
# When a call is sent again

A decision falls into one of four cases, and each of them is told apart by what was brought, by the
number of the attempt and by what the policy allows, never by chance. Chance has its say in the
length of a wait alone, and only where the server asks for none (`Wait`).

* `decide?_eq_retry_iff`, `decide?_eq_stop_iff` — when another attempt follows, and when none does;
* `decide?_eq_none_iff` — there is no decision exactly if another attempt is due and the server asks
  for a moment after the end of the clock, or a wait has to be drawn and its ceiling leaves no room
  for a draw.

What is said of a retry and of no decision holds whatever the ceiling is (`decideUpTo?`).
-/

namespace RouteFlow.Retry

variable {p : Policy} {n : Nat} {o : Outcome} {now : Nanos} {word : Nat}

/-- The ceiling of the wait after attempt number `n`. -/
def Policy.ceiling (p : Policy) (n : Nat) : Nat :=
  Retry.ceiling p.baseDelay.millis p.factor p.maxDelay.millis n

/-- The decision where a growing wait is drawn from the milliseconds up to `most`. -/
def decideUpTo? (most : Nat) (p : Policy) (n : Nat) (o : Outcome) (now : Nanos) (word : Nat) :
    Option Decision :=
  if !o.isRetryable p then some (.stop o.reason)
  else if p.maxAttempts ≤ n then some (.stop .attemptsExhausted)
  else
    match o.requested p now with
    | .wait delay => some (.retry (min delay p.maxDelay) .requested)
    | .beyondClock => none
    | .nothing => (draw? most word).map fun ms => .retry (Nanos.ofMillis ms) o.reason

theorem decide?_eq_decideUpTo? :
    decide? p n o now word = decideUpTo? (p.ceiling n) p n o now word := rfl

theorem draw?_eq_none_iff {ceiling word : Nat} :
    draw? ceiling word = none ↔ UInt64.size ≤ ceiling + 1 := by
  unfold draw?
  split
  · next h => subst h; exact ⟨nofun, fun h => absurd h (by decide)⟩
  · split
    · next h => simp [h]
    · next h => simpa using h

/-- **The wait after an attempt**: the one that the server asks for, but not beyond the longest
wait, or else one that is drawn. -/
inductive Wait (p : Policy) (n : Nat) (o : Outcome) (now : Nanos) (word : Nat) :
    Nanos → Reason → Prop
  | requested {time : Nanos} (h : o.requested p now = .wait time) :
      Wait p n o now word (min time p.maxDelay) .requested
  | drawn {ms : Nat} (h : o.requested p now = .nothing) (hd : draw? (p.ceiling n) word = some ms) :
      Wait p n o now word (Nanos.ofMillis ms) o.reason

/-- Where the server asks for a wait, it is as long as asked for, but no longer than the longest
one. -/
theorem Wait.eq_min {delay time : Nanos} {reason : Reason} (h : Wait p n o now word delay reason)
    (ht : o.requested p now = .wait time) : delay = min time p.maxDelay := by
  cases h with
  | requested h => rw [Wish.wait.inj (h.symm.trans ht)]
  | drawn h _ => exact absurd (h.symm.trans ht) nofun

/-- **Another attempt follows** what is worth it while there are attempts left, after the wait that
the server asks for or after one that is drawn. -/
theorem decideUpTo?_eq_retry_iff {most : Nat} {delay : Nanos} {reason : Reason} :
    decideUpTo? most p n o now word = some (.retry delay reason) ↔
      o.isRetryable p = true ∧ n < p.maxAttempts ∧
        ((∃ time, o.requested p now = .wait time ∧ delay = min time p.maxDelay ∧
            reason = .requested) ∨
          (o.requested p now = .nothing ∧ ∃ ms, draw? most word = some ms ∧
            delay = Nanos.ofMillis ms ∧ reason = o.reason)) := by
  unfold decideUpTo?
  split
  · next h =>
    have hr : o.isRetryable p = false := by simpa using h
    simp [hr]
  · next hr =>
    have hr : o.isRetryable p = true := by simpa using hr
    split
    · next hn => simp [Nat.not_lt.mpr hn]
    · next hn =>
      have hn := Nat.lt_of_not_le hn
      simp only [hr, hn, true_and]
      split
      · next time ht => simp [ht, eq_comm]
      · next ht => simp [ht]
      · next ht => simp [ht, Option.map_eq_some_iff, @eq_comm _ delay, @eq_comm _ reason]

theorem decide?_eq_retry_iff {delay : Nanos} {reason : Reason} :
    decide? p n o now word = some (.retry delay reason) ↔
      o.isRetryable p = true ∧ n < p.maxAttempts ∧ Wait p n o now word delay reason := by
  rw [decide?_eq_decideUpTo?, decideUpTo?_eq_retry_iff]
  refine and_congr_right fun _ => and_congr_right fun _ => ⟨?_, ?_⟩
  · rintro (⟨time, ht, rfl, rfl⟩ | ⟨ht, ms, hd, rfl, rfl⟩)
    · exact .requested ht
    · exact .drawn ht hd
  · rintro (ht | ⟨ht, hd⟩)
    · exact .inl ⟨_, ht, rfl, rfl⟩
    · exact .inr ⟨ht, _, hd, rfl, rfl⟩

/-- **No other attempt follows** what is not worth it, and none follows the last one. -/
theorem decide?_eq_stop_iff {reason : Reason} :
    decide? p n o now word = some (.stop reason) ↔
      (o.isRetryable p = false ∧ reason = o.reason) ∨
        (o.isRetryable p = true ∧ p.maxAttempts ≤ n ∧ reason = .attemptsExhausted) := by
  unfold decide?
  split
  · next h =>
    have hr : o.isRetryable p = false := by simpa using h
    simp [hr, eq_comm]
  · next hr =>
    have hr : o.isRetryable p = true := by simpa using hr
    split
    · next hn => simp [hr, hn, eq_comm]
    · next hn => split <;> simp [hr, hn]

/-- **There is no decision** exactly if another attempt is due, and the server asks for a moment
after the end of the clock, or for nothing while no wait can be drawn. -/
theorem decideUpTo?_eq_none_iff {most : Nat} :
    decideUpTo? most p n o now word = none ↔
      o.isRetryable p = true ∧ n < p.maxAttempts ∧
        (o.requested p now = .beyondClock ∨
          (o.requested p now = .nothing ∧ UInt64.size ≤ most + 1)) := by
  unfold decideUpTo?
  split
  · next h =>
    have hr : o.isRetryable p = false := by simpa using h
    simp [hr]
  · next hr =>
    have hr : o.isRetryable p = true := by simpa using hr
    split
    · next hn => simp [Nat.not_lt.mpr hn]
    · next hn =>
      have hn := Nat.lt_of_not_le hn
      split
      · next ht => simp [ht]
      · next ht => simp [hr, hn, ht]
      · next ht => simp [hr, hn, ht, draw?_eq_none_iff]

theorem decide?_eq_none_iff :
    decide? p n o now word = none ↔
      o.isRetryable p = true ∧ n < p.maxAttempts ∧
        (o.requested p now = .beyondClock ∨
          (o.requested p now = .nothing ∧ UInt64.size ≤ p.ceiling n + 1)) :=
  decideUpTo?_eq_none_iff

/-- The ceiling is at most the longest wait, as doubles have it. -/
theorem ceiling_le_roundToDouble : p.ceiling n ≤ roundToDouble p.maxDelay.millis := by
  unfold Policy.ceiling Retry.ceiling
  dsimp only
  refine Nat.le_trans (Nat.min_le_left _ _) ?_
  split
  · exact Nat.min_le_right _ _
  · exact Nat.le_refl _

/-- A longest wait that doubles can tell from more than a word leaves room for every draw. -/
theorem ceiling_lt_of_roundToDouble (h : roundToDouble p.maxDelay.millis + 1 < UInt64.size) :
    p.ceiling n + 1 < UInt64.size :=
  Nat.lt_of_le_of_lt (Nat.succ_le_succ ceiling_le_roundToDouble) h

end RouteFlow.Retry
