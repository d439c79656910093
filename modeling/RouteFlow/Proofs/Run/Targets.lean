import RouteFlow.Proofs.Document.Validity
import RouteFlow.Proofs.Pipeline.StandardTasks
import RouteFlow.Proofs.Run.Course
import RouteFlow.Proofs.Run.Signals

/-!
# Where the moves of a run lead

In a pipeline that was bound, the `next` of a step resolves: it is `end` or the name of a step
(`resolves_next`). A switch is bound without a look at its targets, and only validation sees to
them (`resolves_case`). Together they leave no way for a run of a valid pipeline to get lost, so a
run is broken off as a broken pipeline only when it runs out of steps.

* `moves_resolve` — every named move of a run resolves;
* `run_never_lost` — a run of a valid pipeline is never lost, and it ends with the cause of a
  broken pipeline exactly if its steps are used up where another one is due.
-/

namespace RouteFlow.Run

open Pipeline (BoundStep)

variable {σ : Type} {settings : CallSettings} {doc : Document} {p : Pipeline}

/-! ### Targets that resolve -/

/-- **A target resolves**: it is the end, or the look-up by name finds a step that has the name. -/
def Resolves (p : Pipeline) (target : String) : Prop :=
  target = Document.endTarget ∨
    ∃ i s, p.position? target = some i ∧ p.stepAt? i = some s ∧ s.name = target

theorem resolves_of_mem {registry : Pipeline.Registry}
    (hb : Pipeline.bind registry doc = .ok p) {target : String} (h : target ∈ doc.stepNames) :
    Resolves p target := by
  have hn : target ∈ p.steps.map (·.name) := by
    rw [Pipeline.names_of_bind hb]
    exact h
  obtain ⟨s, hs, rfl⟩ := List.mem_map.mp hn
  obtain ⟨i, hi⟩ := List.mem_iff_getElem?.mp hs
  -- the look-up by name finds this place, for the index is the inverse of the steps
  have hpos : p.position? s.name = some i :=
    (Pipeline.indexed_of_bind hb).position?_eq_some_iff.mpr ⟨s, hi, rfl⟩
  exact .inr ⟨i, s, hpos, hi, rfl⟩

/-- The `next` of a bound step resolves, whether or not the document is valid. -/
theorem resolves_next {registry : Pipeline.Registry}
    (hb : Pipeline.bind registry doc = .ok p) {s : BoundStep} (hs : s ∈ p.steps)
    {target : String} (hn : s.next? = some target) : Resolves p target := by
  obtain ⟨step, -, hbinds⟩ := Pipeline.exists_binds_of_bind hb hs
  have hnext : step.next? = some target := by
    rw [← hbinds.next]
    exact hn
  rcases hbinds.target target hnext with he | hm
  · exact .inl he
  · exact resolves_of_mem hb hm

/-- The target of a case of a switch resolves if the document is valid. -/
theorem resolves_case (hv : doc.isValid = true)
    (hb : Pipeline.bind (.full settings) doc = .ok p) {s : BoundStep} (hs : s ∈ p.steps)
    {cases : List Case} (ht : s.task = .choose cases) {case : Case} (hc : case ∈ cases) :
    Resolves p case.next := by
  obtain ⟨step, hstep, -, hm⟩ := Pipeline.exists_makes_of_bind hb hs
  rw [ht] at hm
  cases hm with
  | choose hk hp hcases =>
    -- the case was read from a member of the list that validation went through
    obtain ⟨raw, hraw, hreads⟩ := Fallible.exists_mem_of_forall₂ hcases hc
    have hkind : step.kind = "switch" := by rw [Document.Step.kind, hk]; rfl
    rcases Document.isTarget_of_isValid hv hstep hkind hp hraw hreads.next with he | hmem
    · exact .inl he
    · exact resolves_of_mem hb hmem

/-- **Every named move of a run resolves**, in a pipeline of a valid document. -/
theorem moves_resolve (hv : doc.isValid = true) {u : Setup σ}
    (hb : Pipeline.bind (.full settings) doc = .ok u.pipeline) {q : Stage σ} {s : BoundStep}
    {signal : Signal} {target : String} {vars : Entries Json} {w : World σ}
    (h : Invokes u q s (.ok signal) w) (hm : Names s signal target vars) :
    Resolves u.pipeline target := by
  have hs := Pipeline.mem_of_stepAt? h.step
  cases hm with
  | next hn => exact resolves_next hb hs hn
  | branch =>
    obtain ⟨cases, ht, case, hc, rfl⟩ :=
      exists_case_of_branch (Pipeline.task_ne_custom_of_bind hb hs) h.result
    exact resolves_case hv hb hs ht hc

/-! ### Runs of valid pipelines -/

/-- A run of a valid pipeline that stops with the cause of a broken pipeline has used its steps
up. -/
theorem exhausted_of_stops (hv : doc.isValid = true) {u : Setup σ}
    (hb : Pipeline.bind (.full settings) doc = .ok u.pipeline) {q : Stage σ} {report : Report}
    {w : World σ} (hs : Stops u q report w) {e : RunError} (he : report.outcome = .error e)
    (hc : e.cause = .pipelineIntegrity) :
    e.failure = .budgetSpent u.settings.maxSteps ∧ q.visited.length = u.settings.maxSteps ∧
      report.visited = q.visited ∧ ∃ s, u.pipeline.stepAt? q.cursor = some s := by
  obtain ⟨-, s, hstep, -, hcase⟩ := hs.error_cases he
  rcases hcase with ⟨hl, hvis, hf⟩ | ⟨-, hi⟩ | ⟨-, signal, target, vars, hi, hm, hne, hno, -⟩
  · exact ⟨hf, hl, hvis, s, hstep⟩
  · -- no failure of a standard task has this cause
    have hmem := Pipeline.mem_of_stepAt? hstep
    exact absurd hc (fails_of_performs (Pipeline.task_ne_custom_of_bind hb hmem) hi.result).cause_ne
  · -- a move that resolves does not get lost
    rcases moves_resolve hv hb hi hm with hend | ⟨i, s', -, hs', hname⟩
    · exact absurd hend hne
    · exact absurd hname (hno s' (Pipeline.mem_of_stepAt? hs'))

/-- **A run of a valid pipeline is never lost.** For every request, all limits, every deadline and
whatever the collaborators answer: each `next` and each target that the run takes resolves, no
failure is for want of a step, and the run ends with the cause of a broken pipeline exactly if as
many steps were invoked as may be and the run stands at another one. -/
theorem run_never_lost (hv : doc.isValid = true)
    (hb : Pipeline.bind (.full settings) doc = .ok p) (c : Collaborators σ) (limits : Settings)
    (deadline? : Option Nanos) (r : Request) (w : World σ) :
    let u : Setup σ := ⟨c, p, limits, deadline?⟩
    let report := (runUntil c limits deadline? p r w).report
    (∀ s ∈ p.steps, ∀ target, s.next? = some target → Resolves p target) ∧
      (∀ q s signal target vars w', Reaches u (u.start r w) q → Invokes u q s (.ok signal) w' →
        Names s signal target vars → Resolves p target) ∧
      (∀ e target, report.outcome = .error e → e.failure ≠ .unknownStep target) ∧
      ((∃ e, report.outcome = .error e ∧ e.cause = .pipelineIntegrity) ↔
        ∃ q s, Reaches u (u.start r w) q ∧ p.stepAt? q.cursor = some s ∧
          q.visited.length = limits.maxSteps ∧ report.visited = q.visited) := by
  intro u report
  have hindex := Pipeline.indexed_of_bind hb
  obtain ⟨q, hq, hs⟩ := stops_of_run (u := u) hindex r w
  refine ⟨fun s hs' target hn => resolves_next hb hs' hn, ?_, ?_, ?_⟩
  · intro q s signal target vars w' _ hi hm
    exact moves_resolve (u := u) hv hb hi hm
  · intro e target he hf
    -- such a failure would have the cause of a broken pipeline
    have hc : e.cause = .pipelineIntegrity := by rw [RunError.cause, hf]; rfl
    obtain ⟨hspent, -⟩ := exhausted_of_stops hv hb hs he hc
    exact absurd (hf.symm.trans hspent) nofun
  · constructor
    · rintro ⟨e, he, hc⟩
      obtain ⟨-, hl, hvis, s, hstep⟩ := exhausted_of_stops hv hb hs he hc
      exact ⟨q, s, hq, hstep, hl, hvis⟩
    · -- a stage that is reached with the budget spent is where the run stops
      rintro ⟨q', s, hq', hstep, hl, -⟩
      obtain ⟨hrep, -⟩ := run_eq_of_stops (u := u) hindex hq' (.exhausted hstep hl)
      exact ⟨⟨p.name, s.name, .budgetSpent limits.maxSteps⟩, congrArg Report.outcome hrep.symm, rfl⟩

/-- A switch that always branches to a step which goes back to the switch. -/
def turnstile : Document where
  name := "turnstile"
  declaration? := some bareDeclaration
  steps := [
    ⟨"gate", some "switch", some "end", [("switch", .array [
      .object [("condition", .bool true), ("next", .string "count")]])]⟩,
    ⟨"count", some "assign", some "gate", [("assign", .object [("n", .string "one")])]⟩]

/-- The run that ends with the cause of a broken pipeline stands at a step. -/
theorem run_never_lost_turnstile :
    turnstile.isValid = true ∧ ∃ p, Pipeline.bind (.full .standard) turnstile = .ok p ∧
      ∃ q s, Reaches ⟨.mute, p, ⟨3, none⟩, none⟩
          (Setup.start ⟨.mute, p, ⟨3, none⟩, none⟩ bareRequest .initial) q ∧
        p.stepAt? q.cursor = some s ∧ q.visited.length = 3 ∧
        ["gate", "count", "gate"] = q.visited :=
  ⟨rfl, _, rfl, (run_never_lost (rfl : turnstile.isValid = true)
    (rfl : Pipeline.bind (.full .standard) turnstile = .ok _) .mute ⟨3, none⟩ none bareRequest
    .initial).2.2.2.mp ⟨_, rfl, rfl⟩⟩

end RouteFlow.Run
