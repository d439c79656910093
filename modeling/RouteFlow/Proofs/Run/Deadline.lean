import RouteFlow.Proofs.Pipeline.StandardTasks
import RouteFlow.Proofs.Run.Course
import RouteFlow.Proofs.Run.Faults
import RouteFlow.Proofs.Run.Waits

/-!
# Runs with a deadline

A deadline is one moment for a whole run, and all that it can do is to cut a wait. So the run with
a deadline is compared with the run without one, wait by wait. If every wait ends in time the two
are the same. Otherwise one invocation holds the first wait that ends too late. Up to it nothing is
different; there the step fails at the deadline, though it might have called again, and what the
run without a deadline still does is not done.

* `Course.inTime_or_cut` — a course stays as it is or is cut in the invocation that holds the first
  late wait;
* `deadline_only_cuts` — the two for whole runs.
-/

namespace RouteFlow.Run

open Pipeline (BoundStep)
open World (Later CutAt)

variable {σ : Type} {u : Setup σ}

/-! ### Invocations -/

/-- The setup with a deadline. -/
def Setup.withDeadline (u : Setup σ) (d : Nanos) : Setup σ := { u with deadline? := some d }

/-- The moments at which the waits of an invocation end if no deadline cuts them. -/
def Invocation.waits (c : Collaborators σ) (i : Invocation σ) : List Nanos :=
  (i.step.task.perform i.stage.vars).waits c i.stage.world

/-- What an invocation becomes when a deadline cuts it. -/
def Invocation.cutTo (i : Invocation σ) (w : World σ) : Invocation σ :=
  { i with result := .error (.deadline i.step.task.isNetworkBound), world := w }

/-- What a step does leads to a later world. -/
theorem Invokes.later {q : Stage σ} {s : BoundStep} {result : Ending Failure Signal} {w : World σ}
    (h : Invokes u q s result w) : Later q.world w := by
  rw [h.result.world_eq]
  exact later_of_run _ _

/-- **An invocation whose waits end in time** is the same with the deadline, and any other is cut
at it. -/
theorem Invokes.inTime_or_late (hu : u.deadline? = none) {d : Nanos} {q : Stage σ} {s : BoundStep}
    {result : Ending Failure Signal} {w : World σ} (h : Invokes u q s result w)
    (hd : q.world.clock ≤ d) :
    let i : Invocation σ := ⟨q, s, result, w⟩
    ((∀ t ∈ i.waits u.collaborators, t ≤ d) ∧ Invokes (u.withDeadline d) q s result w ∧
        w.clock ≤ d) ∨
      ((∃ t ∈ i.waits u.collaborators, d < t) ∧ ∃ w', CutAt d w w' ∧
        Invokes (u.withDeadline d) q s (i.cutTo w').result w') := by
  intro i
  have hresult := h.result
  rw [hu] at hresult
  have hworld := hresult.world_eq
  rcases Action.inTime_or_late (c := u.collaborators) (s.task.perform q.vars) hd with ht | hl
  · have hperforms : Performs u.collaborators (some d) s q.vars q.world result w :=
      performs_of_uncut (ht.run.trans (performs_none_iff.mp hresult))
    refine .inl ⟨ht.waits, ⟨h.step, h.budget, hperforms⟩, ?_⟩
    rw [hworld]
    exact ht.clock
  · obtain ⟨w', hrun, hcut⟩ := hl.cut
    rw [← hworld] at hcut
    exact .inr ⟨hl.waits, w', hcut, h.step, h.budget, .isCut hrun⟩

/-! ### Courses -/

/-- Without an invocation no time passes. -/
theorem Course.later {q : Stage σ} {invoked : List (Invocation σ)} {report : Report} {w : World σ}
    (h : Course u q invoked report w) : Later q.world w := by
  induction h with
  | onward hi ha _ ih =>
    rw [(ha.stage_eq hi).2.1] at ih
    exact hi.later.trans ih
  | last hi hs =>
    rw [(hs.visited_eq hi).2]
    exact hi.later
  | idle hn hs =>
    rw [(hs.idle_cases hn).1]
    exact .refl _

/-- A stage where no step is invoked is one with a deadline, too. -/
theorem course_idle_withDeadline (d : Nanos) {q : Stage σ} {report : Report} {w : World σ}
    (hn : ∀ s result w', ¬ Invokes u q s result w') (hs : Stops u q report w) :
    Course (u.withDeadline d) q [] report w := by
  have hn' : ∀ s result w', ¬ Invokes (u.withDeadline d) q s result w' :=
    fun s result w' h => hn s _ _ ⟨h.step, h.budget, performs_iff.mpr rfl⟩
  obtain ⟨rfl, ⟨hstep, rfl⟩ | ⟨s, hstep, hb, rfl⟩⟩ := hs.idle_cases hn
  · exact .idle hn' (.pastLast hstep)
  · exact .idle hn' (.exhausted (u := u.withDeadline d) hstep hb)

/-- **A deadline leaves a course as it is or cuts it** in the invocation that holds the first wait
that ends too late. -/
theorem Course.inTime_or_cut (hu : u.deadline? = none) {d : Nanos} {q : Stage σ}
    {invoked : List (Invocation σ)} {report : Report} {w : World σ}
    (h : Course u q invoked report w) (hd : q.world.clock ≤ d) :
    ((∀ i ∈ invoked, ∀ t ∈ i.waits u.collaborators, t ≤ d) ∧
        Course (u.withDeadline d) q invoked report w ∧ w.clock ≤ d) ∨
      ∃ before i after w', invoked = before ++ i :: after ∧
        (∀ j ∈ before, ∀ t ∈ j.waits u.collaborators, t ≤ d) ∧
        (∃ t ∈ i.waits u.collaborators, d < t) ∧ CutAt d w w' ∧
        Course (u.withDeadline d) q (before ++ [i.cutTo w'])
          ⟨q.visited ++ (before ++ [i]).map (·.name),
            .error ⟨u.pipeline.name, i.name, .deadline i.step.task.isNetworkBound⟩⟩ w' := by
  induction h with
  | @onward q q' s result w w' invoked report hi ha hc ih =>
    obtain ⟨hv, hworld, -⟩ := ha.stage_eq hi
    rcases hi.inTime_or_late hu hd with ⟨ht, hi', hw⟩ | ⟨hl, w₁, hcut, hi'⟩
    · have ha' : Advances (u.withDeadline d) q q' := ha.transfer hi hi' rfl
      rw [← hworld] at hw
      rcases ih hw with ⟨hts, hc', hend⟩ | ⟨before, i, after, w₁, rfl, hts, hl, hcut, hc'⟩
      · exact .inl ⟨List.forall_mem_cons.mpr ⟨ht, hts⟩, .onward hi' ha' hc', hend⟩
      · refine .inr ⟨⟨q, s, result, w⟩ :: before, i, after, w₁, rfl,
          List.forall_mem_cons.mpr ⟨ht, hts⟩, hl, hcut, ?_⟩
        rw [hv, List.append_assoc] at hc'
        exact .onward hi' ha' hc'
    · -- what the run without the deadline does after this invocation comes later still
      have hlater : Later w w' := hworld ▸ hc.later
      exact .inr ⟨[], _, invoked, w₁, rfl, by simp, hl, hcut.trans_later hlater,
        .last hi' (.failed hi')⟩
  | @last q s result w w' report hi hs =>
    obtain rfl := (hs.visited_eq hi).2
    rcases hi.inTime_or_late hu hd with ⟨ht, hi', hw⟩ | ⟨hl, w₁, hcut, hi'⟩
    · have hs' := hs.transfer hi hi' rfl
      exact .inl ⟨by simpa using ht, .last hi' hs', hw⟩
    · exact .inr ⟨[], _, [], w₁, rfl, by simp, hl, hcut, .last hi' (.failed hi')⟩
  | @idle q w report hn hs =>
    obtain ⟨rfl, -⟩ := hs.idle_cases hn
    exact .inl ⟨by simp, course_idle_withDeadline d hn hs, hd⟩

/-! ### Runs -/

/-- **A run is cut short** by a deadline in the invocation `i`, after the invocations `before`. The
run `free` is the one without the deadline, the run `cut` the one with it, and both begin at the
stage `q`. -/
structure CutShort (u : Setup σ) (d : Nanos) (q : Stage σ) (before : List (Invocation σ))
    (i : Invocation σ) (free cut : Trace σ) : Prop where
  /-- Both runs have the same identity. -/
  identity : cut.runId = free.runId
  /-- Until the invocation every wait ends in time. -/
  inTime : ∀ j ∈ before, ∀ t ∈ j.waits u.collaborators, t ≤ d
  /-- The invocation holds a wait that does not. -/
  late : ∃ t ∈ i.waits u.collaborators, d < t
  /-- Up to the invocation the runs agree, and it is the last one of the run that is cut. -/
  course : Course (u.withDeadline d) q (before ++ [i.cutTo cut.world]) cut.report cut.world
  /-- Its step fails. -/
  report : cut.report = ⟨(before ++ [i]).map (·.name),
    .error ⟨u.pipeline.name, i.name, .deadline i.step.task.isNetworkBound⟩⟩
  /-- It fails at the deadline, and of what leaves the free run that which leaves it later does not
  leave this one. -/
  world : free.world.CutAt d cut.world
  /-- What is told is the same up to the start of the step, and then that it has failed. -/
  events : cut.events = .runStarted u.pipeline.name :: before.flatMap (·.events) ++
    [.stepStarted i.name,
      .stepFailed i.name (if i.step.task.isNetworkBound then .network else .unknown),
      .runFinished .failed (before.length + 1)]
  agree : .runStarted u.pipeline.name :: before.flatMap (·.events) ++ [.stepStarted i.name] <+:
    free.events

theorem Failure.cause_deadline (inCall : Bool) :
    (Failure.deadline inCall).kind.cause = if inCall then .network else .unknown := by
  cases inCall <;> rfl

theorem Invocation.exists_events (i : Invocation σ) :
    ∃ rest, i.events = .stepStarted i.name :: rest := by
  unfold Invocation.events
  split <;> exact ⟨_, rfl⟩

/-- A course that is cut makes a run that is cut short. -/
theorem cutShort_of_course (hp : u.pipeline.Indexed) {d : Nanos} {r : Request}
    {w w' w'' : World σ} {before after : List (Invocation σ)} {i : Invocation σ} {report : Report}
    (hfree : Course u (u.start r w) (before ++ i :: after) report w')
    (hin : ∀ j ∈ before, ∀ t ∈ j.waits u.collaborators, t ≤ d)
    (hl : ∃ t ∈ i.waits u.collaborators, d < t) (hcut : CutAt d w' w'')
    (hc : Course (u.withDeadline d) (u.start r w) (before ++ [i.cutTo w''])
      ⟨(before ++ [i]).map (·.name),
        .error ⟨u.pipeline.name, i.name, .deadline i.step.task.isNetworkBound⟩⟩ w'') :
    CutShort u d (u.start r w) before i (u.run r w) ((u.withDeadline d).run r w) := by
  have hevents := events_of_course hp hfree
  have hevents' := events_of_course (u := u.withDeadline d) hp hc
  rw [run_eq_of_course hp hfree, run_eq_of_course (u := u.withDeadline d) hp hc] at *
  refine ⟨rfl, hin, hl, hc, rfl, hcut, ?_, ?_⟩
  · rw [hevents']
    simp [Report.failures, Report.farewell, RunError.cause, Failure.cause_deadline, Report.state,
      Invocation.events, Invocation.cutTo, Invocation.name, Setup.withDeadline]
  · rw [hevents]
    obtain ⟨rest, hrest⟩ := i.exists_events
    simp [hrest]

/-- **A deadline only cuts.** For every bound pipeline, every request and all limits, and whatever
the collaborators answer, let the run begin no later than the deadline, and look at the waits of
the run without the deadline. If none of them ends after the deadline, the two runs are the same:
their reports, their events, and what left them. Otherwise the run with the deadline is cut short
in the invocation that holds the first wait that does. In both cases it ends no later than the
deadline, and all that left it left before. -/
theorem deadline_only_cuts {registry : Pipeline.Registry} {doc : Document} {p : Pipeline}
    (hb : Pipeline.bind registry doc = .ok p) (c : Collaborators σ) (limits : Settings)
    (r : Request) {w : World σ} {d : Nanos} (hd : w.clock ≤ d) :
    let u : Setup σ := ⟨c, p, limits, none⟩
    let free := runUntil c limits none p r w
    let cut := runUntil c limits (some d) p r w
    cut.world.clock ≤ d ∧
      (∃ left, cut.world.sent = w.sent ++ left ∧ ∀ o ∈ left, o.time ≤ d) ∧
      ∃ invoked, Course u (u.start r w) invoked free.report free.world ∧
        ((∀ i ∈ invoked, ∀ t ∈ i.waits c, t ≤ d) → cut = free) ∧
        ((∃ i ∈ invoked, ∃ t ∈ i.waits c, d < t) → ∃ before i after,
          invoked = before ++ i :: after ∧ CutShort u d (u.start r w) before i free cut) := by
  intro u free cut
  have hindex : u.pipeline.Indexed := Pipeline.indexed_of_bind hb
  obtain ⟨invoked, hc⟩ := course_of_run (u := u) hindex r w
  obtain ⟨invoked', hc'⟩ := course_of_run (u := u.withDeadline d) hindex r w
  -- getting an identity takes no time
  have hstart : Later w (w.identified c) := .of_sent_eq (Nat.le_refl _) rfl
  have hlater : Later w cut.world := hstart.trans hc'.later
  suffices hends : cut.world.clock ≤ d ∧
      ((∀ i ∈ invoked, ∀ t ∈ i.waits c, t ≤ d) → cut = free) ∧
      ((∃ i ∈ invoked, ∃ t ∈ i.waits c, d < t) → ∃ before i after,
        invoked = before ++ i :: after ∧ CutShort u d (u.start r w) before i free cut) by
    obtain ⟨left, hsent, htimes⟩ := hlater.sent
    refine ⟨hends.1, ⟨left, hsent, fun o ho => ?_⟩, invoked, hc, hends.2⟩
    exact Nat.le_trans (htimes o ho).2 hends.1
  rcases hc.inTime_or_cut rfl hd with ⟨hin, hsame, hend⟩ | ⟨before, i, after, w', rfl, hin, hl,
    hcut, hcourse⟩
  · have heq : cut = free :=
      (run_eq_of_course (u := u.withDeadline d) hindex hsame).trans
        (run_eq_of_course hindex hc).symm
    refine ⟨by rw [heq]; exact hend, fun _ => heq, ?_⟩
    rintro ⟨i, hi, t, ht, hlt⟩
    exact absurd (hin i hi t ht) (Nat.not_le_of_lt hlt)
  · have hshort : CutShort u d (u.start r w) before i free cut :=
      cutShort_of_course hindex hc hin hl hcut hcourse
    refine ⟨Nat.le_of_eq hshort.world.clock, fun h => ?_, fun _ => ⟨before, i, after, rfl, hshort⟩⟩
    obtain ⟨t, ht, hlt⟩ := hl
    have hi : i ∈ before ++ i :: after := List.mem_append_right before List.mem_cons_self
    exact absurd (h i hi t ht) (Nat.not_le_of_lt hlt)

/-- Those who answer each call and each script after ten units of time. -/
def Collaborators.slow : Collaborators Unit where
  identify _ := ("run", ())
  send _ _ := (.error .timeout, 10, ())
  evaluate _ _ input := (.ok input, 10, ())
  consult _ now := (now, 0, ())

/-- Has a paper signed and then sealed. -/
def notary : Document where
  name := "notary"
  declaration? := some bareDeclaration
  steps := [
    ⟨"sign", some "script", none, [("script", .object [("source", .string "sign")])]⟩,
    ⟨"seal", some "script", none, [("script", .object [("source", .string "seal")])]⟩]

/-- The paper is signed at 10 and would be sealed at 20. With a deadline at 15 the second script is
where the run is cut short. -/
theorem deadline_only_cuts_notary :
    ∃ p, Pipeline.bind (.full .standard) notary = .ok p ∧ World.initial.clock ≤ 15 ∧
      let u : Setup Unit := ⟨.slow, p, .standard, none⟩
      ∃ before i, (before ++ [i]).map (·.name) = ["sign", "seal"] ∧
        CutShort u 15 (u.start bareRequest .initial) before i (u.run bareRequest .initial)
          ((u.withDeadline 15).run bareRequest .initial) := by
  refine ⟨_, rfl, Nat.zero_le 15, ?_⟩
  intro u
  obtain ⟨-, -, invoked, -, hin, hlate⟩ := deadline_only_cuts
    (rfl : Pipeline.bind (.full .standard) notary = .ok _) .slow .standard bareRequest
    (w := .initial) (d := 15) (Nat.zero_le 15)
  have hfree : (u.run bareRequest .initial).world.clock = 20 := rfl
  have hcut : ((u.withDeadline 15).run bareRequest .initial).world.clock = 15 := rfl
  have hsome : ∃ i ∈ invoked, ∃ t ∈ i.waits Collaborators.slow, 15 < t := by
    by_contra hno
    -- otherwise the two runs would end at the same time
    have hall := hin fun i hi t ht => Nat.le_of_not_lt fun hlt => hno ⟨i, hi, t, ht, hlt⟩
    have hsame := congrArg (fun t : Trace Unit => t.world.clock) hall
    exact absurd (hcut.symm.trans (hsame.trans hfree)) (by decide)
  obtain ⟨before, i, after, -, hshort⟩ := hlate hsome
  exact ⟨before, i, congrArg Report.visited hshort.report.symm, hshort⟩

end RouteFlow.Run
