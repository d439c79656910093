import Mathlib.Data.List.Forall2
import RouteFlow.Run.Task

/-!
# What a program exchanges with the world

`Action.exchanges` lists what a program sent to its collaborators together with what came back, in
order, as far as the deadline let it get. It is read off the same run as `Action.run`: both split
at a `bind` (`run_bind`, `exchanges_bind`), so a statement about the last reply of a task follows
its program.

* `exists_sent_of_run` — what was exchanged is what left the run meanwhile;
* `exists_deadline_of_run_cut` — a program is cut only if the deadline has passed;
* `getLast?_exchanges_sendCall` — what a repeated call brings is what its last attempt brought.
-/

namespace RouteFlow.Run

variable {σ α β : Type}

/-- Something that was sent, and what came back. -/
inductive Exchange where
  | call (call : Http.Call) (reply : Except Http.CallError Http.Response)
  | script (source : String) (input : Json) (reply : Except ScriptError Json)

/-- What a program exchanges when it is carried out. A reply that would come only after the
deadline does not come. -/
def Action.exchanges (c : Collaborators σ) (deadline? : Option Nanos) :
    Action α → World σ → List Exchange
  | .done _, _ | .crash, _ => []
  | .send call k, w =>
    let (reply, time, state) := c.send w.state call
    match (w.record (.http call w.clock) state).wait deadline? time with
    | (true, w) => .call call reply :: exchanges c deadline? (k reply) w
    | (false, _) => []
  | .evaluate source input k, w =>
    let (reply, time, state) := c.evaluate w.state source input
    match (w.record (.script source input w.clock) state).wait deadline? time with
    | (true, w) => .script source input reply :: exchanges c deadline? (k reply) w
    | (false, _) => []
  | .sleep time k, w =>
    match w.wait deadline? time with
    | (true, w) => exchanges c deadline? k w
    | (false, _) => []
  | .consult k, w =>
    let (now, word, state) := c.consult w.state w.clock
    exchanges c deadline? (k now word) { w with state }

variable {c : Collaborators σ} {deadline? : Option Nanos} {w w' : World σ}

/-! ### One action after another -/

/-- **A `bind` runs the second program where the first one ended**, and not at all if the deadline
cut the first one or the first one crashed. -/
theorem run_bind (a : Action α) (f : α → Action β) (w : World σ) :
    (a.bind f).run c deadline? w =
      match a.run c deadline? w with
      | (.ok x, w') => (f x).run c deadline? w'
      | (.error cut, w') => (.error cut, w')
      | (.crash, w') => (.crash, w') := by
  -- a program is a tree: what follows a reply is covered by the induction hypothesis for it
  induction a generalizing w with
  | done x => rfl
  | crash => rfl
  | send call k ih =>
    simp only [Action.bind, Action.run]
    split
    · exact ih _ _
    · rfl
  | evaluate source input k ih =>
    simp only [Action.bind, Action.run]
    split
    · exact ih _ _
    · rfl
  | sleep time k ih =>
    simp only [Action.bind, Action.run]
    split
    · exact ih _
    · rfl
  | consult k ih =>
    simp only [Action.bind, Action.run]
    exact ih _ _ _

/-- A `bind` exchanges what the first program does and then what the second one does. -/
theorem exchanges_bind (a : Action α) (f : α → Action β) (w : World σ) :
    (a.bind f).exchanges c deadline? w =
      a.exchanges c deadline? w ++
        match a.run c deadline? w with
        | (.ok x, w') => (f x).exchanges c deadline? w'
        | (.error _, _) | (.crash, _) => [] := by
  induction a generalizing w with
  | done x => rfl
  | crash => rfl
  | send call k ih =>
    simp only [Action.bind, Action.run, Action.exchanges]
    -- if the wait is cut, neither side exchanges anything
    cases (w.record (.http call w.clock) (c.send w.state call).2.2).wait deadline?
      (c.send w.state call).2.1 with
    | mk inTime w₁ =>
      cases inTime with
      | true => exact congrArg _ (ih _ w₁)
      | false => rfl
  | evaluate source input k ih =>
    simp only [Action.bind, Action.run, Action.exchanges]
    cases (w.record (.script source input w.clock) (c.evaluate w.state source input).2.2).wait
      deadline? (c.evaluate w.state source input).2.1 with
    | mk inTime w₁ =>
      cases inTime with
      | true => exact congrArg _ (ih _ w₁)
      | false => rfl
  | sleep time k ih =>
    simp only [Action.bind, Action.run, Action.exchanges]
    cases w.wait deadline? time with
    | mk inTime w₁ =>
      cases inTime with
      | true => exact ih w₁
      | false => rfl
  | consult k ih =>
    simp only [Action.bind, Action.run, Action.exchanges]
    exact ih _ _ _

/-! ### What leaves -/

/-- Something that was sent left at some time. -/
inductive Exchange.Leaves : Exchange → Outbound → Prop
  | call {call : Http.Call} {reply : Except Http.CallError Http.Response} {time : Nanos} :
      Leaves (.call call reply) (.http call time)
  | script {source : String} {input : Json} {reply : Except ScriptError Json} {time : Nanos} :
      Leaves (.script source input reply) (.script source input time)

theorem sent_of_wait {time : Nanos} {inTime : Bool} (h : w.wait deadline? time = (inTime, w')) :
    w'.sent = w.sent := by
  unfold World.wait at h
  split at h
  · rw [← (Prod.mk.inj h).2]
  · split at h <;> rw [← (Prod.mk.inj h).2]

/-- **What a program exchanged is what left while it ran**, one for one and in order, if it came to
its end. -/
theorem exists_sent_of_run {a : Action α} {x : α} (h : a.run c deadline? w = (.ok x, w')) :
    ∃ left, w'.sent = w.sent ++ left ∧
      List.Forall₂ Exchange.Leaves (a.exchanges c deadline? w) left := by
  induction a generalizing w with
  | done y =>
    obtain ⟨-, rfl⟩ := Prod.mk.inj h
    exact ⟨[], (List.append_nil _).symm, .nil⟩
  | crash => simp [Action.run] at h
  | send call k ih =>
    simp only [Action.run] at h
    split at h
    · next w₁ hw =>
      -- the call left first, and the rest follows from the reply to it
      obtain ⟨left, hsent, hleaves⟩ := ih _ h
      refine ⟨.http call w.clock :: left, ?_, ?_⟩
      · rw [hsent, sent_of_wait hw]
        simp [World.record]
      · simp only [Action.exchanges, hw]
        exact .cons .call hleaves
    · simp at h
  | evaluate source input k ih =>
    simp only [Action.run] at h
    split at h
    · next w₁ hw =>
      obtain ⟨left, hsent, hleaves⟩ := ih _ h
      refine ⟨.script source input w.clock :: left, ?_, ?_⟩
      · rw [hsent, sent_of_wait hw]
        simp [World.record]
      · simp only [Action.exchanges, hw]
        exact .cons .script hleaves
    · simp at h
  | sleep time k ih =>
    simp only [Action.run] at h
    split at h
    · next w₁ hw =>
      obtain ⟨left, hsent, hleaves⟩ := ih h
      refine ⟨left, ?_, ?_⟩
      · rw [hsent, sent_of_wait hw]
      · simp only [Action.exchanges, hw]
        exact hleaves
    · simp at h
  | consult k ih =>
    simp only [Action.run] at h
    obtain ⟨left, hsent, hleaves⟩ := ih _ _ h
    exact ⟨left, hsent, hleaves⟩

/-! ### The deadline -/

/-- A wait is cut only by a deadline, and then the clock shows it. -/
theorem exists_deadline_of_wait_false {time : Nanos}
    (h : w.wait deadline? time = (false, w')) : ∃ t, deadline? = some t ∧ t ≤ w'.clock := by
  cases deadline? with
  | none => simp at h
  | some t =>
    simp only [World.wait] at h
    split at h
    · obtain ⟨-, rfl⟩ := Prod.mk.inj h
      exact ⟨t, rfl, Nat.le_max_right _ _⟩
    · simp at h

/-- **A program is cut only if the deadline has passed.** -/
theorem exists_deadline_of_run_cut {a : Action α} {cut : Cut}
    (h : a.run c deadline? w = (.error cut, w')) : ∃ t, deadline? = some t ∧ t ≤ w'.clock := by
  -- one wait of the program was cut, and it is the last thing that happened
  induction a generalizing w with
  | done x => simp [Action.run] at h
  | crash => simp [Action.run] at h
  | send call k ih =>
    simp only [Action.run] at h
    split at h
    · exact ih _ h
    · next hw =>
      obtain ⟨-, rfl⟩ := Prod.mk.inj h
      exact exists_deadline_of_wait_false hw
  | evaluate source input k ih =>
    simp only [Action.run] at h
    split at h
    · exact ih _ h
    · next hw =>
      obtain ⟨-, rfl⟩ := Prod.mk.inj h
      exact exists_deadline_of_wait_false hw
  | sleep time k ih =>
    simp only [Action.run] at h
    split at h
    · exact ih h
    · next hw =>
      obtain ⟨-, rfl⟩ := Prod.mk.inj h
      exact exists_deadline_of_wait_false hw
  | consult k ih =>
    simp only [Action.run] at h
    exact ih _ _ h

/-! ### Calls that are repeated -/

/-- **The last reply is the result**, of a program that begins with a call, if it goes on with the
reply in one of two ways: it exchanges nothing more and ends with that reply, or the result is the
reply to its own last exchange. -/
theorem getLast?_exchanges_send {call : Http.Call}
    {k : Except Http.CallError Http.Response → Action (Except Http.CallError Http.Response)}
    {result : Except Http.CallError Http.Response}
    (hk : ∀ reply w₁, (k reply).run c deadline? w₁ = (.ok result, w') →
      ((k reply).exchanges c deadline? w₁ = [] ∧ result = reply) ∨
        ((k reply).exchanges c deadline? w₁).getLast? = some (.call call result))
    (h : (Action.send call k).run c deadline? w = (.ok result, w')) :
    ((Action.send call k).exchanges c deadline? w).getLast? = some (.call call result) := by
  simp only [Action.run] at h
  simp only [Action.exchanges]
  cases hw : (w.record (.http call w.clock) (c.send w.state call).2.2).wait deadline?
    (c.send w.state call).2.1 with
  | mk inTime w₁ =>
    rw [hw] at h
    cases inTime with
    | false => simp at h
    | true =>
      dsimp only at h ⊢
      -- the reply to this call is the last one only if nothing is exchanged after it
      rcases hk _ _ h with ⟨hnil, hr⟩ | hlast
      · rw [hnil, hr]
        rfl
      · rw [List.getLast?_cons, hlast]
        rfl

/-- A program that is done has its value for its result. -/
theorem eq_of_run_done {x y : α} {w₁ : World σ}
    (h : (Action.done x).run c deadline? w₁ = (.ok y, w')) : y = x :=
  (Ending.ok.inj (Prod.mk.inj h).1).symm

/-- What a repeated call brings is what its last attempt brought. The induction is along the
attempts. -/
theorem getLast?_exchanges_sendAgain {policy : Retry.Policy} {call : Http.Call} {attempt : Nat}
    {result : Except Http.CallError Http.Response}
    (h : (sendAgain policy call attempt).run c deadline? w = (.ok result, w')) :
    ((sendAgain policy call attempt).exchanges c deadline? w).getLast? =
      some (.call call result) := by
  induction attempt using sendAgain.induct policy generalizing w with
  | case1 attempt ih =>
    rw [sendAgain_eq] at h ⊢
    refine getLast?_exchanges_send (fun reply w₁ hk => ?_) h
    cases ho : outcome? reply with
    | none =>
      -- such a reply is not worth another attempt
      rw [ho] at hk
      exact .inl ⟨rfl, eq_of_run_done hk⟩
    | some outcome =>
      -- another attempt follows only if the policy decides for it
      simp only [ho, Action.run] at hk
      simp only [Action.exchanges]
      rcases hd : Retry.decide? policy attempt outcome (c.consult w₁.state w₁.clock).1
        (c.consult w₁.state w₁.clock).2.1 with _ | ⟨delay, reason⟩ | reason
      · simp [hd, Action.run] at hk
      · simp only [hd, Action.run] at hk
        simp only [Action.exchanges]
        cases hw : World.wait deadline? delay _ with
        | mk inTime w₂ =>
          rw [hw] at hk
          cases inTime with
          | false => simp at hk
          | true => exact .inr (ih _ _ _ _ _ hd hk)
      · rw [hd] at hk
        exact .inl ⟨rfl, eq_of_run_done hk⟩

/-- The same for a call that is repeated as its policy has it. -/
theorem getLast?_exchanges_sendCall {policy : Retry.Policy} {call : Http.Call}
    {result : Except Http.CallError Http.Response}
    (h : (sendCall policy call).run c deadline? w = (.ok result, w')) :
    ((sendCall policy call).exchanges c deadline? w).getLast? = some (.call call result) := by
  unfold sendCall at h ⊢
  split at h
  · next hr =>
    rw [if_pos hr]
    exact getLast?_exchanges_sendAgain h
  · next hr =>
    rw [if_neg hr]
    exact getLast?_exchanges_send (fun _ _ hk => .inl ⟨rfl, eq_of_run_done hk⟩) h

end RouteFlow.Run
