import RouteFlow.Proofs.Run.Course

/-!
# Runs with different budgets

The number of steps that may be invoked has no say in what a run does, only in how far it gets. The
budget is looked at when a step is reached and before it is invoked, so a run that stops with its
last permitted step stops as it would with more of them, whether it runs past the last step, goes
to `end`, is stopped, fails, or gets lost. With one step fewer it fails where the next step is due,
and up to there nothing is different.

* `Course.withBudget` — a budget that a course keeps to leaves it as it is;
* `Course.cutByBudget` — a budget that it exceeds cuts it at the first step too many;
* `budget_only_truncates` — the two for whole runs.
-/

namespace RouteFlow.Run

open Pipeline (BoundStep)

variable {σ : Type} {u : Setup σ}

/-- The setup with another number of steps that may be invoked. -/
def Setup.withBudget (u : Setup σ) (n : Nat) : Setup σ :=
  { u with settings := { u.settings with maxSteps := n } }

/-- An invocation does not depend on the budget, as long as there is some left. -/
theorem Invokes.withBudget {q : Stage σ} {s : BoundStep} {result : Ending Failure Signal}
    {w : World σ} {n : Nat} (h : Invokes u q s result w) (hn : q.visited.length < n) :
    Invokes (u.withBudget n) q s result w :=
  ⟨h.step, hn, h.result⟩

/-- **A budget that a course keeps to** leaves it as it is, if the course did not spend its own. -/
theorem Course.withBudget {q : Stage σ} {invoked : List (Invocation σ)} {report : Report}
    {w : World σ} {n : Nat} (h : Course u q invoked report w)
    (hl : q.visited.length + invoked.length ≤ n) (hn : n < u.settings.maxSteps) :
    Course (u.withBudget n) q invoked report w := by
  induction h with
  | @onward q q' s result w w' invoked report hi ha _ ih =>
    rw [List.length_cons] at hl
    have hi' : Invokes (u.withBudget n) q s result w := hi.withBudget (by omega)
    -- one invocation more was made, and one fewer is left
    have hq' : q'.visited.length = q.visited.length + 1 := by
      obtain ⟨s, signal, -, hv⟩ := ha.exists_invokes
      rw [hv, List.length_append, List.length_singleton]
    have hl' : q'.visited.length + invoked.length ≤ n := by omega
    exact .onward hi' (ha.transfer hi hi' rfl) (ih hl')
  | @last q s result w w' report hi hs =>
    rw [List.length_singleton] at hl
    have hi' : Invokes (u.withBudget n) q s result w := hi.withBudget (by omega)
    exact .last hi' (hs.transfer hi hi' rfl)
  | @idle q w report hn' hs =>
    obtain ⟨rfl, ⟨hstep, rfl⟩ | ⟨s, -, hb, -⟩⟩ := hs.idle_cases hn'
    · refine .idle (fun s result w' h => ?_) (.pastLast hstep)
      exact absurd (hstep.symm.trans h.step) nofun
    · -- the course would have spent its own budget, which is larger
      rw [List.length_nil] at hl
      omega

/-- With the budget spent, a step that is due is not invoked. -/
theorem course_of_spent {q : Stage σ} {s : BoundStep} {n : Nat}
    (hs : u.pipeline.stepAt? q.cursor = some s) (hn : q.visited.length = n) :
    Course (u.withBudget n) q []
      ⟨q.visited, .error ⟨u.pipeline.name, s.name, .budgetSpent n⟩⟩ q.world := by
  refine .idle (fun s' result w' h => ?_) (.exhausted (u := u.withBudget n) hs hn)
  have hlt : q.visited.length < n := h.budget
  omega

/-- **A budget that a course exceeds** cuts it: the invocations before the first one too many are
the same, and the run fails where that one was due. -/
theorem Course.cutByBudget {q : Stage σ} {before after : List (Invocation σ)} {i : Invocation σ}
    {report : Report} {w : World σ} {n : Nat} (h : Course u q (before ++ i :: after) report w)
    (hn : q.visited.length + before.length = n) :
    Course (u.withBudget n) q before
      ⟨q.visited ++ before.map (·.name), .error ⟨u.pipeline.name, i.name, .budgetSpent n⟩⟩
      i.stage.world := by
  generalize hall : before ++ i :: after = invoked at h
  induction h generalizing before with
  | @onward q q' s result w w' invoked report hi ha _ ih =>
    cases before with
    | nil =>
      obtain ⟨rfl, -⟩ := List.cons.inj hall
      rw [List.map_nil, List.append_nil]
      exact course_of_spent hi.step hn
    | cons j before =>
      obtain ⟨rfl, rfl⟩ := List.cons.inj hall
      rw [List.length_cons] at hn
      have hi' : Invokes (u.withBudget n) q s result w := hi.withBudget (by omega)
      have hv := (ha.stage_eq hi).1
      have hn' : q'.visited.length + before.length = n := by
        rw [hv, List.length_append, List.length_singleton]
        omega
      have hrest := ih hn' rfl
      rw [hv, List.append_assoc] at hrest
      exact .onward hi' (ha.transfer hi hi' rfl) hrest
  | last hi _ =>
    cases before with
    | nil =>
      obtain ⟨rfl, -⟩ := List.cons.inj hall
      rw [List.map_nil, List.append_nil]
      exact course_of_spent hi.step hn
    | cons j before => exact absurd (List.cons.inj hall).2 (by simp)
  | idle _ _ => exact absurd hall (by simp)

/-- **The budget only truncates.** For every bound pipeline and every request, with or without a
deadline and whatever the collaborators answer: a run that invokes at most `n` steps and has a
larger budget is the run with budget `n`, with its report, its events and everything that left it.
So `n` steps are enough for a run that needs exactly `n`. Of a run that invokes more than `n` steps
the run with budget `n` has exactly the first `n` invocations, each at the same stage and with the
same result, and then it fails as a broken pipeline at the step of the next one, with nothing sent
that had not been sent before that step. -/
theorem budget_only_truncates {registry : Pipeline.Registry} {doc : Document} {p : Pipeline}
    (hb : Pipeline.bind registry doc = .ok p) (c : Collaborators σ)
    (timeout? deadline? : Option Nanos) (r : Request) (w : World σ) (n m : Nat) :
    let u : Setup σ := ⟨c, p, ⟨m, timeout?⟩, deadline?⟩
    let long := runUntil c ⟨m, timeout?⟩ deadline? p r w
    let short := runUntil c ⟨n, timeout?⟩ deadline? p r w
    (long.report.visited.length ≤ n → n < m → short = long) ∧
      (n < long.report.visited.length →
        ∃ before i after, before.length = n ∧
          Course u (u.start r w) (before ++ i :: after) long.report long.world ∧
          Course (u.withBudget n) (u.start r w) before short.report short.world ∧
          short.report = ⟨before.map (·.name), .error ⟨p.name, i.name, .budgetSpent n⟩⟩ ∧
          (RunError.mk p.name i.name (.budgetSpent n)).cause = .pipelineIntegrity ∧
          short.world = i.stage.world) := by
  intro u long short
  have hindex : u.pipeline.Indexed := Pipeline.indexed_of_bind hb
  obtain ⟨invoked, hc⟩ := course_of_run (u := u) hindex r w
  have hlen : long.report.visited.length = invoked.length := by
    have hv : long.report.visited = invoked.map (·.name) := hc.visited_eq
    rw [hv, List.length_map]
  constructor
  · intro hl hnm
    have hl' : (u.start r w).visited.length + invoked.length ≤ n := by
      rw [hlen] at hl
      exact (Nat.zero_add _).symm ▸ hl
    have hshort := run_eq_of_course (u := u.withBudget n) hindex (hc.withBudget hl' hnm)
    exact hshort.trans (run_eq_of_course (u := u) hindex hc).symm
  · intro hl
    rw [hlen] at hl
    -- the invocations before the one at place `n`, that one, and those after it
    obtain ⟨before, i, after, rfl, hbefore⟩ :
        ∃ before i after, invoked = before ++ i :: after ∧ before.length = n := by
      refine ⟨invoked.take n, invoked[n], invoked.drop (n + 1), ?_, ?_⟩
      · rw [List.getElem_cons_drop, List.take_append_drop]
      · exact List.length_take_of_le (Nat.le_of_lt hl)
    have hcut := hc.cutByBudget ((Nat.zero_add _).trans hbefore)
    have hshort := run_eq_of_course (u := u.withBudget n) hindex hcut
    have hreport : short.report = ⟨before.map (·.name),
        .error ⟨p.name, i.name, .budgetSpent n⟩⟩ := congrArg Trace.report hshort
    have hworld : short.world = i.stage.world := congrArg Trace.world hshort
    refine ⟨before, i, after, hbefore, hc, ?_, hreport, rfl, hworld⟩
    rw [hreport, hworld]
    exact hcut

/-- Two steps, one after the other. -/
def errand : Document where
  name := "errand"
  declaration? := some bareDeclaration
  steps := [
    ⟨"fetch", some "assign", none, [("assign", .object [("n", .string "one")])]⟩,
    ⟨"carry", some "assign", none, [("assign", .object [("n", .string "two")])]⟩]

/-- Two steps are enough for two steps, and with one the second step is where the run fails. -/
theorem budget_only_truncates_errand :
    ∃ p, Pipeline.bind (.standard .standard) errand = .ok p ∧
      let run (n : Nat) := runUntil .mute ⟨n, none⟩ none p bareRequest .initial
      (run 1000).report.visited.length = 2 ∧ run 2 = run 1000 ∧
        ∃ (before : List (Invocation Unit)) (i : Invocation Unit), before.length = 1 ∧
          (run 1).world = i.stage.world ∧ (run 1).report =
            ⟨before.map (·.name), .error ⟨"errand", i.name, .budgetSpent 1⟩⟩ := by
  refine ⟨_, rfl, rfl, ?_, ?_⟩
  · exact (budget_only_truncates (rfl : Pipeline.bind (.standard .standard) errand = .ok _) .mute
      none none bareRequest .initial 2 1000).1 (by decide) (by decide)
  · obtain ⟨before, i, -, hbefore, -, -, hreport, -, hworld⟩ := (budget_only_truncates
      (rfl : Pipeline.bind (.standard .standard) errand = .ok _) .mute none none bareRequest
      .initial 1 1000).2 (by decide)
    exact ⟨before, i, hbefore, hworld, hreport⟩

end RouteFlow.Run
