import RouteFlow.Run.Engine

/-!
# How time passes

Time passes only while a program waits: for a reply, before another attempt, or because it sleeps.
`Action.waits` lists the moments at which the waits of a program end if no deadline cuts them. They
decide what a deadline does: if none of them lies after it, the program runs as it would without
one (`InTime`), and otherwise it is cut exactly at the deadline, whatever it would have done
afterwards (`Late`).

* `later_of_run` — the clock never goes back, and what has left stays;
* `Action.inTime_or_late` — with a deadline a program runs as without one or is cut at it.
-/

namespace RouteFlow.Run

variable {σ α : Type}

/-! ### What comes later -/

/-- The time at which something left. -/
def Outbound.time : Outbound → Nanos
  | .http _ time => time
  | .script _ _ time => time

/-- **A world comes later than another one**: its clock shows no less, and what has left in
addition has left in the meantime. -/
structure World.Later (w w' : World σ) : Prop where
  clock : w.clock ≤ w'.clock
  sent : ∃ left, w'.sent = w.sent ++ left ∧ ∀ o ∈ left, w.clock ≤ o.time ∧ o.time ≤ w'.clock

namespace World.Later

variable {w w' w'' : World σ}

theorem of_sent_eq (hc : w.clock ≤ w'.clock) (hs : w'.sent = w.sent) : Later w w' :=
  ⟨hc, [], by rw [hs, List.append_nil], by simp⟩

theorem refl (w : World σ) : Later w w := of_sent_eq (Nat.le_refl _) rfl

theorem trans (h : Later w w') (h' : Later w' w'') : Later w w'' := by
  obtain ⟨left, hl, ht⟩ := h.sent
  obtain ⟨left', hl', ht'⟩ := h'.sent
  refine ⟨Nat.le_trans h.clock h'.clock, left ++ left', ?_, ?_⟩
  · rw [hl', hl, List.append_assoc]
  · intro o ho
    rcases List.mem_append.mp ho with ho | ho
    · exact ⟨(ht o ho).1, Nat.le_trans (ht o ho).2 h'.clock⟩
    · exact ⟨Nat.le_trans h.clock (ht' o ho).1, (ht' o ho).2⟩

theorem record (w : World σ) (o : Outbound) (state : σ) (ho : o.time = w.clock) :
    Later w (w.record o state) := by
  refine ⟨Nat.le_refl _, [o], rfl, fun o' ho' => ?_⟩
  rw [List.mem_singleton.mp ho', ho]
  exact ⟨Nat.le_refl _, Nat.le_refl _⟩

end World.Later

open World (Later)

variable {c : Collaborators σ} {deadline? : Option Nanos} {w w' : World σ}

theorem later_of_wait (deadline? : Option Nanos) (time : Nanos) (w : World σ) :
    Later w (w.wait deadline? time).2 := by
  cases deadline? with
  | none => exact .of_sent_eq (Nat.le_add_right _ _) rfl
  | some d =>
    simp only [World.wait]
    split
    · exact .of_sent_eq (Nat.le_max_left _ _) rfl
    · exact .of_sent_eq (Nat.le_add_right _ _) rfl

/-- What follows a wait, if it is not cut, comes later than the wait. -/
theorem later_of_run_sleep {time : Nanos} {k : Action α}
    (ih : ∀ w, Later w (k.run c deadline? w).2) (w : World σ) :
    Later w ((Action.sleep time k).run c deadline? w).2 := by
  have hwait := later_of_wait deadline? time w
  simp only [Action.run]
  split
  · next w₁ hw =>
    rw [hw] at hwait
    exact hwait.trans (ih w₁)
  · next w₁ hw =>
    rw [hw] at hwait
    exact hwait

/-- **Nothing that a program does goes back in time**, with or without a deadline. -/
theorem later_of_run (a : Action α) (w : World σ) : Later w (a.run c deadline? w).2 := by
  induction a generalizing w with
  | done x => exact .refl w
  | crash => exact .refl w
  | send call k ih =>
    -- the call leaves at once, and the rest is a wait for the reply
    have hrecord := Later.record w (.http call w.clock) (c.send w.state call).2.2 rfl
    exact hrecord.trans (later_of_run_sleep (ih _) _)
  | evaluate source input k ih =>
    have hrecord :=
      Later.record w (.script source input w.clock) (c.evaluate w.state source input).2.2 rfl
    exact hrecord.trans (later_of_run_sleep (ih _) _)
  | sleep time k ih => exact later_of_run_sleep ih w
  | consult k ih =>
    have hstate : Later w { w with state := (c.consult w.state w.clock).2.2 } :=
      .of_sent_eq (Nat.le_refl _) rfl
    exact hstate.trans (ih _ _ _)

/-! ### Waits -/

/-- The world when a wait that is not cut is over. -/
def World.pass (time : Nanos) (w : World σ) : World σ := { w with clock := w.clock + time }

/-- **The moments at which the waits of a program end**, in order, if no deadline cuts them. -/
def Action.waits (c : Collaborators σ) : Action α → World σ → List Nanos
  | .done _, _ | .crash, _ => []
  | .send call k, w =>
    let (reply, time, state) := c.send w.state call
    let w := (w.record (.http call w.clock) state).pass time
    w.clock :: waits c (k reply) w
  | .evaluate source input k, w =>
    let (reply, time, state) := c.evaluate w.state source input
    let w := (w.record (.script source input w.clock) state).pass time
    w.clock :: waits c (k reply) w
  | .sleep time k, w =>
    let w := w.pass time
    w.clock :: waits c k w
  | .consult k, w =>
    let (now, word, state) := c.consult w.state w.clock
    waits c (k now word) { w with state }

/-! ### Deadlines -/

/-- **A world is cut from another one** at a deadline: its clock stands there, the other one is
past it, and what has left there in addition has left after the deadline. -/
structure World.CutAt (d : Nanos) (free cut : World σ) : Prop where
  clock : cut.clock = d
  late : d < free.clock
  sent : ∃ dropped, free.sent = cut.sent ++ dropped ∧ ∀ o ∈ dropped, d < o.time

theorem World.CutAt.trans_later {d : Nanos} {free free' cut : World σ} (h : CutAt d free cut)
    (hl : Later free free') : CutAt d free' cut := by
  obtain ⟨dropped, hs, ht⟩ := h.sent
  obtain ⟨left, hl', ht'⟩ := hl.sent
  refine ⟨h.clock, Nat.lt_of_lt_of_le h.late hl.clock, dropped ++ left, ?_, ?_⟩
  · rw [hl', hs, List.append_assoc]
  · intro o ho
    rcases List.mem_append.mp ho with ho | ho
    · exact ht o ho
    · exact Nat.lt_of_lt_of_le h.late (ht' o ho).1

/-- A program that no wait takes past a deadline does with it what it does without it. -/
structure Action.InTime (c : Collaborators σ) (d : Nanos) (a : Action α) (w : World σ) : Prop where
  waits : ∀ t ∈ a.waits c w, t ≤ d
  run : a.run c (some d) w = a.run c none w
  clock : (a.run c none w).2.clock ≤ d

/-- A program that some wait takes past a deadline is cut there. -/
structure Action.Late (c : Collaborators σ) (d : Nanos) (a : Action α) (w : World σ) : Prop where
  waits : ∃ t ∈ a.waits c w, d < t
  cut : ∃ w', a.run c (some d) w = (.error .deadline, w') ∧ (a.run c none w).2.CutAt d w'

open RouteFlow.Run.Action (InTime Late)

/-- A wait ends in time, and what follows it decides, or it is cut. -/
theorem Action.inTime_or_late_sleep {d time : Nanos} {k : Action α}
    (ih : ∀ w, w.clock ≤ d → InTime c d k w ∨ Late c d k w) {w : World σ} (hw : w.clock ≤ d) :
    InTime c d (.sleep time k) w ∨ Late c d (.sleep time k) w := by
  have hfree : (Action.sleep time k).run c none w = k.run c none (w.pass time) := rfl
  have hwaits : (Action.sleep time k).waits c w = (w.pass time).clock :: k.waits c (w.pass time) :=
    rfl
  by_cases ht : w.clock + time ≤ d
  · -- this wait ends in time, so the deadline does not show yet
    have hcut : (Action.sleep time k).run c (some d) w = k.run c (some d) (w.pass time) := by
      simp only [Action.run, World.wait, Nat.not_lt.mpr ht, if_false]
      rfl
    rcases ih (w.pass time) ht with h | h
    · refine .inl ⟨?_, ?_, ?_⟩
      · rw [hwaits]
        exact List.forall_mem_cons.mpr ⟨ht, h.waits⟩
      · rw [hcut, hfree, h.run]
      · rw [hfree]
        exact h.clock
    · obtain ⟨t, hm, hd⟩ := h.waits
      refine .inr ⟨⟨t, ?_, hd⟩, ?_⟩
      · rw [hwaits]
        exact List.mem_cons_of_mem _ hm
      · rw [hcut, hfree]
        exact h.cut
  · have hlt : d < w.clock + time := Nat.lt_of_not_le ht
    have hcut : (Action.sleep time k).run c (some d) w =
        (.error .deadline, { w with clock := d }) := by
      simp only [Action.run, World.wait, hlt, if_true, Nat.max_eq_right hw]
    have hpass : (w.pass time).CutAt d { w with clock := d } :=
      ⟨rfl, hlt, [], (List.append_nil _).symm, by simp⟩
    refine .inr ⟨⟨w.clock + time, ?_, hlt⟩, _, hcut, ?_⟩
    · rw [hwaits]
      exact List.mem_cons_self
    · rw [hfree]
      exact hpass.trans_later (later_of_run k _)

/-- **A deadline lets a program be or cuts it**, if it has not passed at the beginning. The
induction is on the program; sending and evaluating are waits for what comes back. -/
theorem Action.inTime_or_late {d : Nanos} (a : Action α) {w : World σ} (hw : w.clock ≤ d) :
    InTime c d a w ∨ Late c d a w := by
  induction a generalizing w with
  | done x => exact .inl ⟨by simp [Action.waits], rfl, hw⟩
  | crash => exact .inl ⟨by simp [Action.waits], rfl, hw⟩
  | send call k ih =>
    let reply := c.send w.state call
    let w₁ := w.record (.http call w.clock) reply.2.2
    have h : InTime c d (.sleep reply.2.1 (k reply.1)) w₁ ∨
        Late c d (.sleep reply.2.1 (k reply.1)) w₁ :=
      Action.inTime_or_late_sleep (fun _ => ih reply.1) hw
    exact h.imp (fun h => ⟨h.waits, h.run, h.clock⟩) fun h => ⟨h.waits, h.cut⟩
  | evaluate source input k ih =>
    let reply := c.evaluate w.state source input
    let w₁ := w.record (.script source input w.clock) reply.2.2
    have h : InTime c d (.sleep reply.2.1 (k reply.1)) w₁ ∨
        Late c d (.sleep reply.2.1 (k reply.1)) w₁ :=
      Action.inTime_or_late_sleep (fun _ => ih reply.1) hw
    exact h.imp (fun h => ⟨h.waits, h.run, h.clock⟩) fun h => ⟨h.waits, h.cut⟩
  | sleep time k ih => exact Action.inTime_or_late_sleep (fun _ => ih) hw
  | consult k ih =>
    -- looking at the clock takes no time
    let reply := c.consult w.state w.clock
    have h := ih reply.1 reply.2.1 (w := { w with state := reply.2.2 }) hw
    exact h.imp (fun h => ⟨h.waits, h.run, h.clock⟩) fun h => ⟨h.waits, h.cut⟩

end RouteFlow.Run
