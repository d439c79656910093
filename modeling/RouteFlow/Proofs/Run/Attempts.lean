import Mathlib.Order.Bounds.Basic
import RouteFlow.Proofs.Fallible
import RouteFlow.Proofs.Retry.Decision
import RouteFlow.Proofs.Run.Exchange
import RouteFlow.Proofs.Run.Waits

/-!
# How often a call is sent

A call that may be repeated is sent until an attempt settles it: its reply is not worth another one,
or no attempt is left (`Settled`). What a program does on its way is its `Action.deeds`: what it
sends and what comes back, its looks at the clock, and its pauses. For a call they are its
`Attempts`, one for each reply up to the first one that settles it.

The replies are any sequence at all, of which each attempt takes the next one
(`Collaborators.Plays`). The one thing that can come in between is a wait that cannot be counted: it
would have to be drawn under a ceiling that leaves no room for it, or to last until a moment after
the end of the clock (`NoWait`). There the task crashes.

What bounds the attempts is the decision that is taken after each of them, the last one included.
Its four cases come down to three for the call (`sendAgain_cases`): an attempt settles the call, or
it does not and the next one follows after a pause, or it does not and nothing can follow. From
there on the attempts that the policy has left carry the induction, with the invariant that none so
far has settled the call. It makes the attempt at which a call stops the first one that does.

* `attempts_of_sendAgain` — the attempts from one number on;
* `sends_until_settled` — the calls of a task, its waits, and its end.
-/

namespace RouteFlow

/-- What comes back from a call. -/
abbrev Http.Reply := Except Http.CallError Http.Response

namespace Run

open Fallible
open Retry (Policy)

variable {σ α β : Type} {c : Collaborators σ} {w : World σ}

/-! ### What a program does -/

/-- Something that a program does on the way to its result. -/
inductive Deed where
  | call (call : Http.Call) (reply : Http.Reply)
  | script (source : String) (input : Json) (reply : Except ScriptError Json)
  | look (now : Nanos) (word : Nat)
  | pause (time : Nanos)

/-- What a deed exchanges with others, if it does. -/
def Deed.exchange? : Deed → Option Exchange
  | .call sent reply => some (.call sent reply)
  | .script source input reply => some (.script source input reply)
  | .look .. => none
  | .pause .. => none

/-- The world when a call has been sent and answered. -/
def World.answered (c : Collaborators σ) (call : Http.Call) (w : World σ) : World σ :=
  (w.record (.http call w.clock) (c.send w.state call).2.2).pass (c.send w.state call).2.1

/-- The world after a look at the clock. -/
def World.consulted (c : Collaborators σ) (w : World σ) : World σ :=
  { w with state := (c.consult w.state w.clock).2.2 }

/-- **What a program does** on the way to its result, in order, if no deadline cuts it. -/
def Action.deeds (c : Collaborators σ) : Action α → World σ → List Deed
  | .done _, _ | .crash, _ => []
  | .send call k, w =>
    let reply := (c.send w.state call).1
    .call call reply :: deeds c (k reply) (w.answered c call)
  | .evaluate source input k, w =>
    let (reply, time, state) := c.evaluate w.state source input
    .script source input reply ::
      deeds c (k reply) ((w.record (.script source input w.clock) state).pass time)
  | .sleep time k, w => .pause time :: deeds c k (w.pass time)
  | .consult k, w =>
    let (now, word, _) := c.consult w.state w.clock
    .look now word :: deeds c (k now word) (w.consulted c)

/-- What a program exchanges is part of what it does. -/
theorem exchanges_eq_deeds (a : Action α) (w : World σ) :
    a.exchanges c none w = (a.deeds c w).filterMap Deed.exchange? := by
  induction a generalizing w with
  | done x => rfl
  | crash => rfl
  | send call k ih => exact congrArg _ (ih _ _)
  | evaluate source input k ih => exact congrArg _ (ih _ _)
  | sleep time k ih => exact ih _
  | consult k ih => exact ih _ _ _

theorem run_send_none {call : Http.Call} {k : Http.Reply → Action α} :
    (Action.send call k).run c none w =
      (k (c.send w.state call).1).run c none (w.answered c call) := rfl

theorem run_consult_none {k : Nanos → Nat → Action α} :
    (Action.consult k).run c none w =
      (k (c.consult w.state w.clock).1 (c.consult w.state w.clock).2.1).run c none
        (w.consulted c) := rfl

/-- A program that only makes something of a result does no more than is done for it. -/
theorem deeds_bind_done (a : Action α) (f : α → β) (w : World σ) :
    (a.bind fun x => .done (f x)).deeds c w = a.deeds c w := by
  induction a generalizing w with
  | done x => rfl
  | crash => rfl
  | send call k ih => exact congrArg _ (ih _ _)
  | evaluate source input k ih => exact congrArg _ (ih _ _)
  | sleep time k ih => exact congrArg _ (ih _)
  | consult k ih => exact congrArg _ (ih _ _ _)

/-! ### Replies -/

/-- **A collaborator plays a sequence of replies**: whatever is sent, the next reply is the one
whose turn it is, counted from one, and looking at the clock takes no turn. -/
structure Collaborators.Plays (c : Collaborators σ) (turn : σ → Nat) (replies : Nat → Http.Reply) :
    Prop where
  reply : ∀ s call, (c.send s call).1 = replies (turn s + 1)
  turn_send : ∀ s call, turn (c.send s call).2.2 = turn s + 1
  turn_consult : ∀ s now, turn (c.consult s now).2.2 = turn s

namespace Collaborators.Plays

variable {turn : σ → Nat} {r : Nat → Http.Reply} {n : Nat} {call : Http.Call}

theorem send_eq (hc : c.Plays turn r) (hw : turn w.state + 1 = n) :
    (c.send w.state call).1 = r n := by
  rw [hc.reply, hw]

theorem turn_consulted (hc : c.Plays turn r) :
    turn ((w.answered c call).consulted c).state = turn w.state + 1 :=
  (hc.turn_consult _ _).trans (hc.turn_send _ _)

end Collaborators.Plays

/-- **A reply is worth another attempt**: no answer within the time or for want of a connection, or
an answer with one of the statuses of the policy. -/
def Retryable (p : Policy) : Http.Reply → Prop
  | .error .timeout | .error (.network _) => True
  | .error _ => False
  | .ok response => response.status ∈ p.statuses

/-- **An attempt settles a call** if its reply is not worth another one, or if none is left. -/
def Settled (p : Policy) (replies : Nat → Http.Reply) (n : Nat) : Prop :=
  ¬ Retryable p (replies n) ∨ p.maxAttempts ≤ n

/-- What a reply asks for. -/
def asked (p : Policy) (now : Nanos) : Http.Reply → Retry.Wish
  | .ok response => Retry.requestedWait response.headers p.vendorHeaders now
  | .error _ => .nothing

/-- **No wait can be counted** after attempt number `n`, at the moment `now`: its reply asks for a
moment after the end of the clock, or it asks for nothing, and the ceiling is all that a word can
count. -/
inductive NoWait (p : Policy) (replies : Nat → Http.Reply) (n : Nat) (now : Nanos) : Prop
  | beyondClock (h : asked p now (replies n) = .beyondClock)
  | full (h : asked p now (replies n) = .nothing) (hf : UInt64.size ≤ p.ceiling n + 1)

theorem noWait_iff {p : Policy} {replies : Nat → Http.Reply} {n : Nat} {now : Nanos} :
    NoWait p replies n now ↔ asked p now (replies n) = .beyondClock ∨
      asked p now (replies n) = .nothing ∧ UInt64.size ≤ p.ceiling n + 1 := by
  constructor
  · rintro (h | ⟨h, hf⟩)
    · exact .inl h
    · exact .inr ⟨h, hf⟩
  · rintro (h | ⟨h, hf⟩)
    · exact .beyondClock h
    · exact .full h hf

section Outcome

variable {p : Policy} {reply : Http.Reply} {o : Retry.Outcome}

theorem retryable_iff (ho : outcome? reply = some o) :
    Retryable p reply ↔ o.isRetryable p = true := by
  rcases reply with e | response
  · cases e <;> simp [outcome?] at ho <;> subst ho <;> simp [Retryable, Retry.Outcome.isRetryable]
  · obtain rfl := Option.some.inj ho
    simp [Retryable, Retry.Outcome.isRetryable]

theorem not_retryable (ho : outcome? reply = none) : ¬ Retryable p reply := by
  rcases reply with e | response
  · cases e <;> simp_all [Retryable, outcome?]
  · exact absurd ho nofun

theorem requested_of_outcome? (ho : outcome? reply = some o) (now : Nanos) :
    o.requested p now = asked p now reply := by
  rcases reply with e | response
  · cases e <;> simp [outcome?] at ho <;> subst ho <;> rfl
  · obtain rfl := Option.some.inj ho
    rfl

end Outcome

/-! ### Attempts -/

/-- **The attempts of a call**, from number `n` to number `k`, as what is done for them: each sends
the same call and takes the next reply; all but the last end with a look at the clock, at which a
wait can be counted, and with a pause, which is as long as the reply asks for, if it does, but no
longer than the longest wait. -/
inductive Attempts (p : Policy) (call : Http.Call) (replies : Nat → Http.Reply) :
    Nat → Nat → List Deed → Prop
  | last {k : Nat} {looks : List Deed} (hl : ∀ d ∈ looks, ∃ now word, d = .look now word) :
      Attempts p call replies k k (.call call (replies k) :: looks)
  | again {n k : Nat} {now : Nanos} {word : Nat} {delay : Nanos} {deeds : List Deed}
      (hno : ¬ NoWait p replies n now)
      (hw : ∀ time, asked p now (replies n) = .wait time → delay = min time p.maxDelay)
      (h : Attempts p call replies (n + 1) k deeds) :
      Attempts p call replies n k
        (.call call (replies n) :: .look now word :: .pause delay :: deeds)

variable {p : Policy} {call : Http.Call} {r : Nat → Http.Reply} {turn : σ → Nat} {n k : Nat}

theorem Attempts.le {deeds : List Deed} (h : Attempts p call r n k deeds) : n ≤ k := by
  induction h with
  | last _ => exact Nat.le_refl _
  | again _ _ _ ih => exact Nat.le_of_succ_le ih

/-- There is a pause after every attempt but the last. -/
theorem Attempts.exists_pause {deeds : List Deed} (h : Attempts p call r n k deeds) (hlt : n < k) :
    ∃ now word delay rest,
      (∀ time, asked p now (r n) = .wait time → delay = min time p.maxDelay) ∧
        deeds = .call call (r n) :: .look now word :: .pause delay :: rest := by
  cases h with
  | last _ => exact absurd hlt (Nat.lt_irrefl _)
  | again _ hw _ => exact ⟨_, _, _, _, hw, rfl⟩

/-- The calls of the attempts, each with its reply. -/
theorem Attempts.exchanges {deeds : List Deed} (h : Attempts p call r n k deeds) :
    deeds.filterMap Deed.exchange? =
      (List.range' n (k + 1 - n)).map fun i => .call call (r i) := by
  induction h with
  | @last k looks hl =>
    have hlooks : looks.filterMap Deed.exchange? = [] := by
      refine List.filterMap_eq_nil_iff.mpr fun d hd => ?_
      obtain ⟨now, word, rfl⟩ := hl d hd
      rfl
    have hone : k + 1 - k = 1 := by omega
    rw [hone, List.range'_one, List.map_singleton]
    exact congrArg _ hlooks
  | @again n k now word delay deeds _ _ h ih =>
    have hmore : k + 1 - n = (k + 1 - (n + 1)) + 1 := by have := h.le; omega
    rw [hmore, List.range'_succ, List.map_cons, ← ih]
    rfl

/-- **One attempt.** Attempt number `n` settles the call, and its reply is the result; or it does
not, and the next one follows after a pause, which is the one that the reply asks for, if it does
ask; or it does not, and no wait can be counted. -/
theorem sendAgain_cases (p : Policy) (call : Http.Call) (hc : c.Plays turn r)
    (hw : turn w.state + 1 = n) :
    (Settled p r n ∧ ((sendAgain p call n).run c none w).1 = .ok (r n) ∧
        Attempts p call r n n ((sendAgain p call n).deeds c w)) ∨
      (¬ Settled p r n ∧ ∃ now word delay, ∃ w' : World σ, turn w'.state = n ∧
        ¬ NoWait p r n now ∧
        (∀ time, asked p now (r n) = .wait time → delay = min time p.maxDelay) ∧
        (sendAgain p call n).run c none w = (sendAgain p call (n + 1)).run c none w' ∧
        (sendAgain p call n).deeds c w =
          .call call (r n) :: .look now word :: .pause delay ::
            (sendAgain p call (n + 1)).deeds c w') ∨
      (¬ Settled p r n ∧ ∃ now word, NoWait p r n now ∧
        ((sendAgain p call n).run c none w).1 = .crash ∧
        (sendAgain p call n).deeds c w = [.call call (r n), .look now word]) := by
  have hturn : turn ((w.answered c call).consulted c).state = n := hc.turn_consulted.trans hw
  rw [sendAgain_eq]
  simp only [run_send_none, Action.deeds, hc.send_eq hw]
  cases ho : outcome? (r n) with
  | none => exact .inl ⟨.inl (not_retryable ho), rfl, .last (by simp [Action.deeds])⟩
  | some o =>
    have hr : Retryable p (r n) ↔ o.isRetryable p = true := retryable_iff ho
    have hdue (hre : o.isRetryable p = true) (hn : n < p.maxAttempts) : ¬ Settled p r n :=
      not_or.mpr ⟨not_not.mpr (hr.mpr hre), Nat.not_le.mpr hn⟩
    simp only [run_consult_none, Action.deeds]
    generalize (c.consult (w.answered c call).state (w.answered c call).clock).1 = now
    generalize (c.consult (w.answered c call).state (w.answered c call).clock).2.1 = word
    have hreq : o.requested p now = asked p now (r n) := requested_of_outcome? ho now
    -- the four cases of a decision are those of the statement
    cases hdec : Retry.decide? p n o now word with
    | none =>
      obtain ⟨hre, hn, hwait⟩ := Retry.decide?_eq_none_iff.mp hdec
      rw [hreq, ← noWait_iff] at hwait
      exact .inr (.inr ⟨hdue hre hn, now, word, hwait, rfl, rfl⟩)
    | some decision =>
      cases decision with
      | stop reason =>
        have hsettled : Settled p r n :=
          (Retry.decide?_eq_stop_iff.mp hdec).imp
            (fun h => by rw [hr, h.1]; exact Bool.false_ne_true) fun h => h.2.1
        exact .inl ⟨hsettled, rfl, .last (by simp [Action.deeds])⟩
      | retry delay reason =>
        obtain ⟨hre, hn, hwait⟩ := Retry.decide?_eq_retry_iff.mp hdec
        have hno : ¬ NoWait p r n now := by
          intro hno
          rw [noWait_iff, ← hreq] at hno
          rw [Retry.decide?_eq_none_iff.mpr ⟨hre, hn, hno⟩] at hdec
          cases hdec
        exact .inr (.inl ⟨hdue hre hn, now, word, delay,
          ((w.answered c call).consulted c).pass delay, hturn, hno,
          fun time ht => hwait.eq_min (hreq.trans ht), rfl, rfl⟩)

/-- **How a call ends** at attempt number `k`, the one before which none has settled it: with its
reply, if it settles the call, or with a crash, at a look at the clock after which no wait can be
counted. -/
inductive EndsAt (p : Policy) (replies : Nat → Http.Reply) (k : Nat) (deeds : List Deed) :
    Ending Cut Http.Reply → Prop
  | settled (h : Settled p replies k) : EndsAt p replies k deeds (.ok (replies k))
  | stuck {now : Nanos} {word : Nat} (h : ¬ Settled p replies k) (hn : NoWait p replies k now)
      (hd : deeds.getLast? = some (.look now word)) : EndsAt p replies k deeds .crash

theorem EndsAt.append {deeds : List Deed} {ending : Ending Cut Http.Reply} (before : List Deed)
    (h : EndsAt p r k deeds ending) : EndsAt p r k (before ++ deeds) ending := by
  cases h with
  | settled h => exact .settled h
  | stuck h hn hd => exact .stuck h hn (by rw [List.getLast?_append, hd, Option.some_or])

/-- **A call is sent until an attempt settles it.** If no attempt before number `n` has, which takes
the `n`-th reply, there are attempts up to the first one that does, and its reply is the result, or
up to one before it after which no wait can be counted. The induction is on the attempts that the
policy has left. -/
theorem attempts_of_sendAgain (p : Policy) (call : Http.Call) (hc : c.Plays turn r)
    (hw : turn w.state + 1 = n)
    (hn : ∀ i, 1 ≤ i → i < n → ¬ Settled p r i) :
    ∃ k, (∀ i, 1 ≤ i → i < k → ¬ Settled p r i) ∧
      Attempts p call r n k ((sendAgain p call n).deeds c w) ∧
      EndsAt p r k ((sendAgain p call n).deeds c w) ((sendAgain p call n).run c none w).1 := by
  induction hm : p.maxAttempts - n generalizing n w with
  | zero =>
    -- no attempt is left, so that this one settles the call
    have hlast : Settled p r n := .inr (Nat.le_of_sub_eq_zero hm)
    rcases sendAgain_cases p call hc hw with ⟨h, hrun, hat⟩ | ⟨h, -⟩ | ⟨h, -⟩
    · exact ⟨n, hn, hat, hrun ▸ .settled h⟩
    · exact absurd hlast h
    · exact absurd hlast h
  | succ left ih =>
    rcases sendAgain_cases p call hc hw with ⟨h, hrun, hat⟩ |
      ⟨h, now, word, delay, w', hw', hno, hdelay, hrun, hdeeds⟩ | ⟨h, now, word, hno, hrun, hdeeds⟩
    · exact ⟨n, hn, hat, hrun ▸ .settled h⟩
    · have hn' (i : Nat) (h₁ : 1 ≤ i) (hi : i < n + 1) : ¬ Settled p r i := by
        rcases Nat.lt_or_eq_of_le (Nat.le_of_lt_succ hi) with hi | rfl
        · exact hn i h₁ hi
        · exact h
      obtain ⟨k, hk, hat, hend⟩ := ih (congrArg (· + 1) hw') hn' (by omega)
      rw [hrun, hdeeds]
      exact ⟨k, hk, .again hno hdelay hat, hend.append [_, _, _]⟩
    · rw [hdeeds, hrun]
      exact ⟨n, hn, .last (by simp), .stuck h hno rfl⟩

theorem mayRepeat_eq_false_iff {m : Http.Method} :
    p.mayRepeat m = false ↔ (m = .post ∨ m = .patch) ∧ p.retryNonIdempotent = false := by
  cases m <;> simp [Policy.mayRepeat]

/-- A call that may not be repeated has one attempt, whatever comes of it, and any other one as many
as it takes. -/
theorem attempts_of_sendCall (p : Policy) (call : Http.Call) (hc : c.Plays turn r)
    (hw : turn w.state = 0) :
    ∃ k, Attempts p call r 1 k ((sendCall p call).deeds c w) ∧
      if p.mayRepeat call.request.method = false then
        k = 1 ∧ ((sendCall p call).run c none w).1 = .ok (r k)
      else (∀ i, 1 ≤ i → i < k → ¬ Settled p r i) ∧
        EndsAt p r k ((sendCall p call).deeds c w) ((sendCall p call).run c none w).1 := by
  have hturn : turn w.state + 1 = 1 := congrArg (· + 1) hw
  cases hm : p.mayRepeat call.request.method with
  | false =>
    have hcall : sendCall p call = .send call .done := by rw [sendCall, hm]; rfl
    have hreply : (c.send w.state call).1 = r 1 := hc.send_eq hturn
    have hdeeds : (sendCall p call).deeds c w = [.call call (r 1)] := by rw [hcall, ← hreply]; rfl
    refine ⟨1, hdeeds ▸ .last (by simp), rfl, ?_⟩
    rw [hcall, ← hreply]
    rfl
  | true =>
    have hcall : sendCall p call = sendAgain p call 1 := by rw [sendCall, hm]; rfl
    rw [hcall]
    obtain ⟨k, hk, hat, hend⟩ := attempts_of_sendAgain p call hc hturn (by omega)
    exact ⟨k, hat, hk, hend⟩

/-! ### Calls of tasks -/

theorem method_of_callRequest {m : Http.Method} {args : Json} {request : Http.Request}
    (h : callRequest m args = .ok request) : request.method = m := by
  obtain ⟨url, -, h⟩ := bind_eq_ok_iff.mp h
  dsimp only at h
  split at h <;> exact (Except.ok.inj h) ▸ rfl

/-- A program that only makes something of a result crashes where the other one does. -/
theorem run_bind_done (a : Action α) (f : α → β) {ending : Ending Cut α}
    (h : (a.run c none w).1 = ending) :
    ((a.bind fun x => .done (f x)).run c none w).1 = ending.map f := by
  rw [run_bind, ← h]
  cases a.run c none w with
  | mk ending w' => cases ending <;> rfl

/-- **A task sends its call until a reply settles it.** The replies are any sequence `r`, counted
from one. What is sent is always the same call, with the same time and the same limit, and no more
often than there are attempts. Before any other attempt there is a pause, which is as long as a
reply asks for, if it does, but no longer than the longest wait; at the look at the clock before it
a wait could be counted. In the end one of two things has happened:

* The call was settled. One that may not be repeated was sent once. Any other one was sent as often
  as it takes to the first number that settles it: its reply is not worth another attempt, or there
  are no more attempts. The last reply is the result, whatever it is.
* The task has crashed. The call may be repeated, and no reply has settled it. But after its last
  look at the clock no wait can be counted: the last reply asks for a moment after the end of the
  clock, or for nothing, and the policy has waits grow to all that a word can count. -/
theorem sends_until_settled (hc : c.Plays turn r) (spec : CallTask) {vars : Entries Json}
    {args : Json} {request : Http.Request} (ha : evaluate vars spec.args = .ok args)
    (hq : callRequest spec.method args = .ok request) (hw : turn w.state = 0) :
    let p := spec.settings.retry
    let call : Http.Call := ⟨request, spec.settings.timeout, spec.settings.limit⟩
    ∃ k, k ≤ max 1 p.maxAttempts ∧
      (spec.perform vars).exchanges c none w =
        (List.range' 1 k).map (fun n => .call call (r n)) ∧
      Attempts p call r 1 k ((spec.perform vars).deeds c w) ∧
      (((if (spec.method = .post ∨ spec.method = .patch) ∧ p.retryNonIdempotent = false then k = 1
          else IsLeast {n | 1 ≤ n ∧ Settled p r n} k) ∧
          ((sendCall p call).run c none w).1 = .ok (r k) ∧
          ((spec.perform vars).run c none w).1 = .ok (spec.finish vars (r k))) ∨
        (¬ ((spec.method = .post ∨ spec.method = .patch) ∧ p.retryNonIdempotent = false) ∧
          (∀ i, 1 ≤ i → i ≤ k → ¬ Settled p r i) ∧
          (∃ now word, ((spec.perform vars).deeds c w).getLast? = some (.look now word) ∧
            NoWait p r k now) ∧
          ((spec.perform vars).run c none w).1 = .crash)) := by
  intro p call
  have hmethod : call.request.method = spec.method := method_of_callRequest hq
  have hperform : spec.perform vars =
      (sendCall p call).bind fun reply => .done (spec.finish vars reply) := by
    simp only [CallTask.perform, ha, hq, Action.ofExcept]
    rfl
  obtain ⟨k, hat, hend⟩ := attempts_of_sendCall p call hc hw
  simp only [hmethod, mayRepeat_eq_false_iff] at hend
  -- what is made of the last reply is no deed
  rw [exchanges_eq_deeds, hperform, deeds_bind_done, hat.exchanges, Nat.add_sub_cancel]
  by_cases honce : (spec.method = .post ∨ spec.method = .patch) ∧ p.retryNonIdempotent = false
  · simp only [if_pos honce] at hend ⊢
    obtain ⟨rfl, hrun⟩ := hend
    exact ⟨1, Nat.le_max_left _ _, rfl, hat, .inl ⟨rfl, hrun, run_bind_done _ _ hrun⟩⟩
  · simp only [if_neg honce] at hend ⊢
    obtain ⟨hk, hend⟩ := hend
    have h₁ : 1 ≤ k := hat.le
    generalize hrun : ((sendCall p call).run c none w).1 = ending at hend
    cases hend with
    | settled h =>
      have hleast : IsLeast {n | 1 ≤ n ∧ Settled p r n} k :=
        ⟨⟨h₁, h⟩, fun i hi => Nat.le_of_not_lt fun hlt => hk i hi.1 hlt hi.2⟩
      exact ⟨k, hleast.2 ⟨Nat.le_max_left _ _, .inr (Nat.le_max_right _ _)⟩, rfl, hat,
        .inl ⟨hleast, rfl, run_bind_done _ _ hrun⟩⟩
    | stuck h hn hd =>
      have hle : ∀ i, 1 ≤ i → i ≤ k → ¬ Settled p r i := by
        intro i hi hik
        rcases Nat.lt_or_eq_of_le hik with hik | rfl
        · exact hk i hi hik
        · exact h
      have hleft : k ≤ max 1 p.maxAttempts :=
        Nat.le_trans (Nat.le_of_not_le fun hm => h (.inr hm)) (Nat.le_max_right _ _)
      exact ⟨k, hleft, rfl, hat, .inr ⟨honce, hle, ⟨_, _, hd, hn⟩, run_bind_done _ _ hrun⟩⟩

/-- The replies of a server that is busy for an hour, then away, and then there. -/
def comeback : Nat → Http.Reply
  | 0 | 1 => .ok ⟨503, [("Retry-After", "3600")], []⟩
  | 2 => .error .timeout
  | _ => .ok ⟨200, [], []⟩

/-- Those who play the replies of a sequence, of which some have been played. -/
def Collaborators.playing (replies : Nat → Http.Reply) : Collaborators Nat where
  identify s := ("run", s)
  send s _ := (replies (s + 1), 0, s + 1)
  evaluate s _ input := (.ok input, 0, s)
  consult s now := (now, 0, s)

/-- Asks for a page, in the standard way. -/
def visit : CallTask := ⟨.get, .object [("url", .string "http://[::1]/x")], none, .standard⟩

/-- None of these replies leaves the standard policy without a wait. -/
theorem not_noWait_comeback (n : Nat) (now : Nanos) : ¬ NoWait .standard comeback n now := by
  have hasked : asked .standard now (comeback n) ≠ .beyondClock := by
    match n with
    | 0 | 1 | 2 | n + 3 => exact nofun
  intro h
  cases h with
  | beyondClock h => exact hasked h
  | full _ hf =>
    exact absurd (Retry.ceiling_lt_of_roundToDouble (by decide)) (Nat.not_lt.mpr hf)

/-- The page is there at the third attempt. The first pause is ten seconds of the hour that the
server asked for. -/
theorem sends_until_settled_visit :
    ∃ call : Http.Call,
      ((visit.perform []).run (.playing comeback) none ⟨0, 0, []⟩).1 =
        .ok (visit.finish [] (comeback 3)) ∧
      (visit.perform []).exchanges (.playing comeback) none ⟨0, 0, []⟩ =
        [.call call (comeback 1), .call call (comeback 2), .call call (comeback 3)] ∧
      ∃ now word rest, (visit.perform []).deeds (.playing comeback) ⟨0, 0, []⟩ =
        .call call (comeback 1) :: .look now word :: .pause (Nanos.ofSeconds 10) :: rest := by
  have hplays : (Collaborators.playing comeback).Plays id comeback :=
    ⟨fun _ _ => rfl, fun _ _ => rfl, fun _ _ => rfl⟩
  have hargs : evaluate [] visit.args = .ok visit.args := rfl
  obtain ⟨request, hrequest⟩ : ∃ request, callRequest .get visit.args = .ok request := ⟨_, rfl⟩
  obtain ⟨k, -, hexchanges, hattempts, ⟨hk, -, hrun⟩ | ⟨-, -, ⟨now, -, -, hno⟩, -⟩⟩ :=
    sends_until_settled hplays visit (w := ⟨0, 0, []⟩) hargs hrequest rfl
  rotate_left
  · exact absurd hno (not_noWait_comeback k now)
  have hthree : IsLeast {n | 1 ≤ n ∧ Settled .standard comeback n} 3 := by
    refine ⟨⟨by decide, .inr (by decide)⟩, ?_⟩
    rintro n ⟨h₁, hn⟩
    by_contra hlt
    obtain rfl | rfl : n = 1 ∨ n = 2 := by omega
    · exact hn.elim (fun h => h (by decide : 503 ∈ Policy.standard.statuses)) (by decide)
    · exact hn.elim (fun h => h trivial) (by decide)
  rw [if_neg (by decide)] at hk
  obtain rfl : k = 3 := hk.unique hthree
  refine ⟨_, hrun, hexchanges, ?_⟩
  have hasked (now : Nanos) :
      asked .standard now (comeback 1) = .wait (Nanos.ofSeconds 3600) := rfl
  have hcapped : min (Nanos.ofSeconds 3600) Policy.standard.maxDelay = Nanos.ofSeconds 10 := by
    decide
  obtain ⟨now, word, delay, rest, hdelay, hdeeds⟩ := hattempts.exists_pause (by decide)
  have hten : delay = Nanos.ofSeconds 10 := (hdelay _ (hasked now)).trans hcapped
  exact ⟨now, word, rest, hten ▸ hdeeds⟩

/-- The replies of a server that is busy until a moment after the end of the clock, and then
there. -/
def longAway : Nat → Http.Reply
  | 0 | 1 => .ok ⟨503, [("x-reset", "9223372036854775808")], []⟩
  | _ => .ok ⟨200, [], []⟩

/-- **A moment after the end of the clock is not waited for**: where the policy listens to the
header, the task crashes after the first of these replies, though the second one would settle the
call. -/
theorem crash_beyond_clock :
    let p : Policy := { Policy.standard with vendorHeaders := [⟨"x-reset", .unixSeconds⟩] }
    let spec : CallTask := { visit with settings := { CallSettings.standard with retry := p } }
    IsLeast {n | 1 ≤ n ∧ Settled p longAway n} 2 ∧
      ((spec.perform []).run (.playing longAway) none ⟨0, 0, []⟩).1 = .crash := by
  intro p spec
  refine ⟨⟨⟨by decide, .inl (by decide : 200 ∉ p.statuses)⟩, ?_⟩, ?_⟩
  · rintro n ⟨h₁, hn⟩
    by_contra hlt
    obtain rfl : n = 1 := by omega
    exact hn.elim (fun h => h (by decide : 503 ∈ p.statuses)) (by decide)
  · obtain ⟨request, hrequest⟩ : ∃ request, callRequest .get spec.args = .ok request := ⟨_, rfl⟩
    have hperform : spec.perform [] = (sendAgain p ⟨request, spec.settings.timeout,
        spec.settings.limit⟩ 1).bind fun reply => .done (spec.finish [] reply) := by
      have hargs : evaluate [] spec.args = .ok spec.args := rfl
      have hmay : p.mayRepeat request.method = true := by
        rw [method_of_callRequest hrequest]
        rfl
      have hmethod : spec.method = .get := rfl
      simp only [CallTask.perform, hargs, hmethod, hrequest, Action.ofExcept, sendCall]
      rw [if_pos hmay]
    have hcrash : ((sendAgain p ⟨request, spec.settings.timeout, spec.settings.limit⟩ 1).run
        (.playing longAway) none ⟨0, 0, []⟩).1 = .crash := by
      rw [sendAgain_eq]
      rfl
    rw [hperform]
    exact run_bind_done _ _ hcrash

end Run
end RouteFlow
