import RouteFlow.Proofs.Run.Rules

/-!
# The course of a run

The rules determine a run, and the run follows the rules. Between the two stands the record of a
run: which steps were invoked, each at the stage to which the one before it led, with what came of
it (`Course`). A record is a list, so what a run tells can be read off it, and two runs can be
compared invocation by invocation.

* `stops_of_run` — every run comes to a stage where it stops with its report and its world;
* `course_of_run` — so every run has a course;
* `run_eq_of_course` — and the course determines the run, its events included;
* `run_ends_iff` — for a bound pipeline without a deadline: the run ends exactly as the rules say,
  after at most `maxSteps` invocations, each of which brings what its task's own program brings.

Both directions go along the walk. `walk_induction` builds the stages, and each rule read backwards
is one of the equations of `walk`.
-/

namespace RouteFlow.Run

open Pipeline (BoundStep)

variable {σ : Type} {u : Setup σ}

/-! ### From the walk to the rules -/

/-- A report with names before its own. -/
def Report.after (visited : List String) (report : Report) : Report :=
  { report with visited := visited ++ report.visited }

theorem Report.after_visit (visited : List String) (name : String) (report : Report) :
    Report.after (visited ++ [name]) report =
      Report.after visited { report with visited := name :: report.visited } := by
  simp [Report.after]

/-- Where a walk has a step left, the step at its place is invoked. -/
theorem invokes_of_left {visited : List String} {left cursor : Nat} {vars : Entries Json}
    {w w' : World σ} {s : BoundStep} {result : Ending Failure Signal}
    (hl : visited.length + (left + 1) = u.settings.maxSteps)
    (hs : u.pipeline.stepAt? cursor = some s)
    (hi : Performs u.collaborators u.deadline? s vars w result w') :
    Invokes u ⟨visited, cursor, vars, w⟩ s result w' := by
  have hbudget : visited.length < u.settings.maxSteps := by omega
  exact ⟨hs, hbudget, hi⟩

/-- **Every walk comes to a stop by the rules**, from every stage with as many steps left as the
settings leave it. -/
theorem stops_of_walk (hp : u.pipeline.Indexed) (runId : String) (left cursor : Nat)
    (vars : Entries Json) (w : World σ) (visited : List String)
    (hl : visited.length + left = u.settings.maxSteps) :
    ∃ q, Reaches u ⟨visited, cursor, vars, w⟩ q ∧
      Stops u q
        ((walk u.collaborators u.pipeline u.settings u.deadline? runId left cursor vars
          w).report.after visited)
        (walk u.collaborators u.pipeline u.settings u.deadline? runId left cursor vars
          w).world := by
  -- the names that were visited grow along the walk, so they are part of the motive
  revert visited
  refine walk_induction u.collaborators u.pipeline u.settings u.deadline? runId
    (motive := fun left cursor vars w t => ∀ visited : List String,
      visited.length + left = u.settings.maxSteps →
        ∃ q, Reaches u ⟨visited, cursor, vars, w⟩ q ∧ Stops u q (t.report.after visited) t.world)
    ?pastLast ?exhausted ?failed ?crashed ?stopped ?following ?ended ?jump ?lost left cursor vars w
  case pastLast =>
    intro left cursor vars w hs visited _
    refine ⟨_, .refl, ?_⟩
    have hstop := Stops.pastLast (u := u) (q := ⟨visited, cursor, vars, w⟩) hs
    simpa [Report.after, Trace.ofOutput] using hstop
  case exhausted =>
    intro cursor vars w s hs visited hl
    refine ⟨_, .refl, ?_⟩
    have hstop := Stops.exhausted (u := u) (q := ⟨visited, cursor, vars, w⟩) hs hl
    simpa [Report.after, Trace.ofError] using hstop
  case failed =>
    intro left cursor vars w s f w' hs hi visited hl
    exact ⟨_, .refl, .failed (invokes_of_left hl hs hi)⟩
  case crashed =>
    intro left cursor vars w s w' hs hi visited hl
    exact ⟨_, .refl, .crashed (invokes_of_left hl hs hi)⟩
  case stopped =>
    intro left cursor vars w s value w' hs hi visited hl
    exact ⟨_, .refl, .stopped (invokes_of_left hl hs hi)⟩
  case following =>
    intro left cursor vars w s vars' w' t hs hi hn ih visited hl
    have hl' : (visited ++ [s.name]).length + left = u.settings.maxSteps := by
      rw [List.length_append, List.length_singleton]
      omega
    obtain ⟨q, hq, hstop⟩ := ih (visited ++ [s.name]) hl'
    rw [Report.after_visit] at hstop
    exact ⟨q, .head (.following (invokes_of_left hl hs hi) hn) hq, hstop⟩
  case ended =>
    intro left cursor vars w s signal vars' w' hs hi hm visited hl
    exact ⟨_, .refl, .ended (invokes_of_left hl hs hi) hm⟩
  case jump =>
    intro left cursor vars w s signal target vars' w' i t hs hi hm he hpos ih visited hl
    -- the walk looks the target up by name, the rules ask for a step that has the name
    obtain ⟨s', hs', hname⟩ := hp.position?_eq_some_iff.mp hpos
    have hl' : (visited ++ [s.name]).length + left = u.settings.maxSteps := by
      rw [List.length_append, List.length_singleton]
      omega
    obtain ⟨q, hq, hstop⟩ := ih (visited ++ [s.name]) hl'
    rw [Report.after_visit] at hstop
    exact ⟨q, .head (.jump (invokes_of_left hl hs hi) hm he hs' hname) hq, hstop⟩
  case lost =>
    intro left cursor vars w s signal target vars' w' hs hi hm he hpos visited hl
    have hno := hp.position?_eq_none_iff.mp hpos
    exact ⟨_, .refl, .lost (invokes_of_left hl hs hi) hm he hno⟩

/-- **Every run stops by the rules**, with its own report and world. -/
theorem stops_of_run (hp : u.pipeline.Indexed) (r : Request) (w : World σ) :
    ∃ q, Reaches u (u.start r w) q ∧ Stops u q (u.run r w).report (u.run r w).world :=
  stops_of_walk hp _ u.settings.maxSteps 0 _ _ [] (by simp)

/-! ### Courses -/

/-- An invocation of a step: the stage at which it was invoked, what it brought, and the world
after it. -/
structure Invocation (σ : Type) where
  stage : Stage σ
  step : BoundStep
  result : Ending Failure Signal
  world : World σ

namespace Invocation

/-- The name of the step that was invoked. -/
def name (i : Invocation σ) : String := i.step.name

/-- What an invocation tells: that the step started, that it succeeded if it gave a signal, and
where it branches if it does. -/
def events (i : Invocation σ) : List Event :=
  match i.result with
  | .error _ | .crash => [.stepStarted i.name]
  | .ok (.branch target _) =>
    [.stepStarted i.name, .stepSucceeded i.name, .branched i.name target]
  | .ok _ => [.stepStarted i.name, .stepSucceeded i.name]

end Invocation

variable (u) in
/-- **The course of a run** from a stage on: the invocations that follow one after the other, and
the report and the world in which they end. -/
inductive Course : Stage σ → List (Invocation σ) → Report → World σ → Prop
  /-- An invocation leads to a stage, and the course goes on from there. -/
  | onward {q q' : Stage σ} {s : BoundStep} {result : Ending Failure Signal} {w w' : World σ}
      {invoked : List (Invocation σ)} {report : Report} (hi : Invokes u q s result w)
      (ha : Advances u q q') (hc : Course q' invoked report w') :
      Course q (⟨q, s, result, w⟩ :: invoked) report w'
  /-- The run stops with an invocation. -/
  | last {q : Stage σ} {s : BoundStep} {result : Ending Failure Signal} {w w' : World σ}
      {report : Report} (hi : Invokes u q s result w) (hs : Stops u q report w') :
      Course q [⟨q, s, result, w⟩] report w'
  /-- The run stops where no step can be invoked. -/
  | idle {q : Stage σ} {w : World σ} {report : Report}
      (hn : ∀ s result w', ¬ Invokes u q s result w') (hs : Stops u q report w) :
      Course q [] report w

/-- A way to a stage where the run stops has a course. -/
theorem course_of_reaches {q q' : Stage σ} {report : Report} {w : World σ}
    (hq : Reaches u q q') (hs : Stops u q' report w) :
    ∃ invoked, Course u q invoked report w := by
  induction hq using Relation.ReflTransGen.head_induction_on with
  | refl =>
    by_cases hi : ∃ s result w', Invokes u q' s result w'
    · obtain ⟨s, result, w', hi⟩ := hi
      exact ⟨_, .last hi hs⟩
    · push Not at hi
      exact ⟨_, .idle hi hs⟩
  | head ha _ ih =>
    obtain ⟨invoked, hc⟩ := ih
    obtain ⟨s, signal, hi, -⟩ := ha.exists_invokes
    exact ⟨_, .onward hi ha hc⟩

/-- A run that stops with an invocation counts it last. -/
theorem Stops.visited_eq {q : Stage σ} {s : BoundStep} {result : Ending Failure Signal}
    {w w' : World σ} {report : Report} (hi : Invokes u q s result w) (h : Stops u q report w') :
    report.visited = q.visited ++ [s.name] ∧ w' = w := by
  cases h with
  | pastLast hs => exact absurd (hs.symm.trans hi.step) nofun
  | exhausted _ hb => exact absurd hi.budget (by omega)
  | failed h => obtain ⟨rfl, -, rfl⟩ := hi.unique h; exact ⟨rfl, rfl⟩
  | stopped h => obtain ⟨rfl, -, rfl⟩ := hi.unique h; exact ⟨rfl, rfl⟩
  | ended h _ => obtain ⟨rfl, -, rfl⟩ := hi.unique h; exact ⟨rfl, rfl⟩
  | lost h _ _ _ => obtain ⟨rfl, -, rfl⟩ := hi.unique h; exact ⟨rfl, rfl⟩
  | crashed h => obtain ⟨rfl, -, rfl⟩ := hi.unique h; exact ⟨rfl, rfl⟩

/-- The steps of a report are those that were invoked. -/
theorem Course.visited_eq {q : Stage σ} {invoked : List (Invocation σ)} {report : Report}
    {w : World σ} (h : Course u q invoked report w) :
    report.visited = q.visited ++ invoked.map (·.name) := by
  induction h with
  | onward hi ha _ ih =>
    rw [ih, (ha.stage_eq hi).1, List.append_assoc]
    rfl
  | last hi hs => exact (hs.visited_eq hi).1
  | idle hn hs =>
    obtain ⟨-, ⟨-, rfl⟩ | ⟨s, -, -, rfl⟩⟩ := hs.idle_cases hn <;> exact (List.append_nil _).symm

/-! ### From the rules to the walk -/

/-- What a run tells of its failure, if it fails. -/
def Report.failures (report : Report) : List Event :=
  match report.outcome with
  | .ok _ | .crash => []
  | .error e => [.stepFailed e.step e.cause]

/-- The walk from a stage on. -/
def Stage.rest (u : Setup σ) (runId : String) (q : Stage σ) : Trace σ :=
  walk u.collaborators u.pipeline u.settings u.deadline? runId
    (u.settings.maxSteps - q.visited.length) q.cursor q.vars q.world

/-- The walk that a course records. -/
def Trace.ofCourse (runId : String) (invoked : List (Invocation σ)) (report : Report)
    (w : World σ) : Trace σ :=
  ⟨runId, ⟨invoked.map (·.name), report.outcome⟩,
    (invoked.flatMap (·.events) ++ report.failures).map (⟨runId, ·⟩), w⟩

/-- A walk that begins with an invocation that succeeds. -/
theorem visit_after_eq (runId : String) (q : Stage σ) (s : BoundStep) (signal : Signal)
    (w w' : World σ) (invoked : List (Invocation σ)) (report : Report) :
    Trace.visit runId s.name
        (.after runId (signal.events s.name) (.ofCourse runId invoked report w')) =
      .ofCourse runId (⟨q, s, .ok signal, w⟩ :: invoked) report w' := by
  cases signal <;> rfl

/-- Where a step may be invoked, the walk has one step more left than after it. -/
theorem Invokes.left {q : Stage σ} {s : BoundStep} {result : Ending Failure Signal}
    {w : World σ} (h : Invokes u q s result w) :
    u.settings.maxSteps - q.visited.length =
      u.settings.maxSteps - (q.visited ++ [s.name]).length + 1 := by
  have hlt := h.budget
  rw [List.length_append, List.length_singleton]
  omega

/-- **A course records the walk** from its stage on. -/
theorem rest_eq_ofCourse (hp : u.pipeline.Indexed) (runId : String) {q : Stage σ}
    {invoked : List (Invocation σ)} {report : Report} {w : World σ}
    (h : Course u q invoked report w) : q.rest u runId = .ofCourse runId invoked report w := by
  induction h with
  | @onward q q' s result w w' invoked report hi ha _ ih =>
    cases ha with
    | following h hn =>
      obtain ⟨rfl, rfl, rfl⟩ := h.unique hi
      unfold Stage.rest
      rw [h.left, walk_following h.step h.result hn, ← visit_after_eq, ← ih]
      rfl
    | jump h hm he hs' hname =>
      obtain ⟨rfl, rfl, rfl⟩ := h.unique hi
      have hpos := hp.position?_eq_some_iff.mpr ⟨_, hs', hname⟩
      unfold Stage.rest
      rw [h.left, walk_jump h.step h.result hm he hpos, ← visit_after_eq, ← ih]
      rfl
  | @last q s result w w' report hi hs =>
    cases hs with
    | pastLast hs => exact absurd (hs.symm.trans hi.step) nofun
    | exhausted _ hb => exact absurd hi.budget (by omega)
    | failed h =>
      obtain ⟨rfl, rfl, rfl⟩ := h.unique hi
      unfold Stage.rest
      rw [h.left, walk_failed h.step h.result]
      rfl
    | stopped h =>
      obtain ⟨rfl, rfl, rfl⟩ := h.unique hi
      unfold Stage.rest
      rw [h.left, walk_stopped h.step h.result]
      rfl
    | @ended s signal vars w h hm =>
      obtain ⟨rfl, rfl, rfl⟩ := h.unique hi
      unfold Stage.rest
      rw [h.left, walk_ended h.step h.result hm, ← visit_after_eq]
      rfl
    | lost h hm he hn =>
      obtain ⟨rfl, rfl, rfl⟩ := h.unique hi
      have hpos := hp.position?_eq_none_iff.mpr hn
      unfold Stage.rest
      rw [h.left, walk_lost h.step h.result hm he hpos, ← visit_after_eq]
      rfl
    | crashed h =>
      obtain ⟨rfl, rfl, rfl⟩ := h.unique hi
      unfold Stage.rest
      rw [h.left, walk_crashed h.step h.result]
      rfl
  | @idle q w report hn hs =>
    unfold Stage.rest
    obtain ⟨rfl, ⟨hstep, rfl⟩ | ⟨s, hstep, hb, rfl⟩⟩ := hs.idle_cases hn
    · rw [walk_pastLast hstep]
      rfl
    · -- with the budget spent the walk has no step left
      rw [hb, Nat.sub_self, walk_exhausted hstep]
      rfl

/-- The identity of a run that starts in a world. -/
def Setup.identity (u : Setup σ) (w : World σ) : String := (u.collaborators.identify w.state).1

/-- **The rules determine the run**: a course is that of the run, which tells of the invocations one
after the other, under its identity. -/
theorem run_eq_of_course (hp : u.pipeline.Indexed) {r : Request}
    {w w' : World σ} {invoked : List (Invocation σ)} {report : Report}
    (h : Course u (u.start r w) invoked report w') :
    u.run r w = ⟨u.identity w, report,
      (.runStarted u.pipeline.name :: invoked.flatMap (·.events) ++ report.failures ++
        report.farewell).map (⟨u.identity w, ·⟩), w'⟩ := by
  have hrest : (u.start r w).rest u (u.identity w) = .ofCourse (u.identity w) invoked report w' :=
    rest_eq_ofCourse hp _ h
  have hv : report.visited = invoked.map (·.name) := h.visited_eq
  calc u.run r w = ((u.start r w).rest u (u.identity w)).framed (u.identity w) u.pipeline := rfl
    _ = (Trace.ofCourse (u.identity w) invoked report w').framed (u.identity w) u.pipeline := by
      rw [hrest]
    _ = _ := by
      simp only [Trace.ofCourse, Trace.framed, ← hv, List.map_append, List.map_cons,
        List.cons_append]

/-- What a run tells, read off its course. -/
theorem events_of_course (hp : u.pipeline.Indexed) {r : Request} {w w' : World σ}
    {invoked : List (Invocation σ)} {report : Report}
    (h : Course u (u.start r w) invoked report w') :
    (u.run r w).events =
      .runStarted u.pipeline.name :: invoked.flatMap (·.events) ++ report.failures ++
        report.farewell := by
  rw [run_eq_of_course hp h]
  exact (List.map_map ..).trans (List.map_id _)

/-- Where the rules come to a stop, that is the report and the world of the run. -/
theorem run_eq_of_stops (hp : u.pipeline.Indexed) {r : Request} {w w' : World σ}
    {q : Stage σ} {report : Report} (hq : Reaches u (u.start r w) q)
    (hs : Stops u q report w') : report = (u.run r w).report ∧ w' = (u.run r w).world := by
  obtain ⟨invoked, hc⟩ := course_of_reaches hq hs
  rw [run_eq_of_course hp hc]
  exact ⟨rfl, rfl⟩

/-- **Every stage of a run leads to its end.** -/
theorem exists_stops_of_reaches (hp : u.pipeline.Indexed) {r : Request}
    {w : World σ} {q : Stage σ} (hq : Reaches u (u.start r w) q) :
    ∃ q', Reaches u q q' ∧ Stops u q' (u.run r w).report (u.run r w).world := by
  have hl : q.visited.length ≤ u.settings.maxSteps := hq.length_le (Nat.zero_le _)
  obtain ⟨q', hq', hs⟩ := stops_of_walk hp (u.identity w) (u.settings.maxSteps - q.visited.length)
    q.cursor q.vars q.world q.visited (by omega)
  -- the walk from this stage on and the run come to the same stop
  obtain ⟨hreport, hworld⟩ := run_eq_of_stops hp (hq.trans hq') hs
  rw [← hreport, ← hworld]
  exact ⟨q', hq', hs⟩

/-- **Every run has a course**, with its own report and world. -/
theorem course_of_run (hp : u.pipeline.Indexed) (r : Request) (w : World σ) :
    ∃ invoked, Course u (u.start r w) invoked (u.run r w).report (u.run r w).world := by
  obtain ⟨q, hq, hs⟩ := stops_of_run hp r w
  exact course_of_reaches hq hs

/-! ### Runs without a deadline -/

/-- The setup of a run that has all the time there is. -/
def Setup.unhurried (c : Collaborators σ) (p : Pipeline) (maxSteps : Nat) : Setup σ :=
  ⟨c, p, ⟨maxSteps, none⟩, none⟩

/-- By the rules a run for a request ends with this report and this world. -/
def Ends (u : Setup σ) (r : Request) (w : World σ) (report : Report) (w' : World σ) : Prop :=
  ∃ q, Reaches u (u.start r w) q ∧ Stops u q report w'

/-- **A run is the walk by the rules.** A bound pipeline has the steps of its document, one for one
and in order. Whatever they do, a run without a deadline ends by the rules in exactly one way,
which is its report and its world, and it invokes at most `maxSteps` steps. At each stage the step
that is invoked brings what the program of its task brings there, which nothing cuts. Where no step
may be invoked any more and where a move leads to no step the cause code is that of a broken
pipeline. -/
theorem run_ends_iff {registry : Pipeline.Registry} {doc : Document} {p : Pipeline}
    (hp : Pipeline.bind registry doc = .ok p) (c : Collaborators σ) (maxSteps : Nat) (r : Request)
    (w : World σ) :
    List.Forall₂ (Pipeline.Binds registry (doc.steps.map (·.name))) doc.steps p.steps ∧
      (∀ report w', Ends (.unhurried c p maxSteps) r w report w' ↔
        report = (run c ⟨maxSteps, none⟩ p r w).report ∧
          w' = (run c ⟨maxSteps, none⟩ p r w).world) ∧
      (∀ q s result w', Invokes (.unhurried c p maxSteps) q s result w' ↔
        p.stepAt? q.cursor = some s ∧ q.visited.length < maxSteps ∧
          (s.task.perform q.vars).run c none q.world = (result.uncut, w')) ∧
      (run c ⟨maxSteps, none⟩ p r w).report.visited.length ≤ maxSteps ∧
      ∀ step target, (RunError.mk p.name step (.budgetSpent maxSteps)).cause = .pipelineIntegrity ∧
        (RunError.mk p.name step (.unknownStep target)).cause = .pipelineIntegrity := by
  have hindex := Pipeline.indexed_of_bind hp
  have hbinds := (Pipeline.bind_eq_ok_iff.mp hp).steps
  obtain ⟨q, hq, hs⟩ := stops_of_run (u := .unhurried c p maxSteps) hindex r w
  refine ⟨hbinds, fun report w' => ⟨?_, ?_⟩, fun q s result w' => ?_, ?_, fun _ _ => ⟨rfl, rfl⟩⟩
  · -- any end by the rules is the end of the walk
    rintro ⟨q', hq', hs'⟩
    exact run_eq_of_stops (u := .unhurried c p maxSteps) hindex hq' hs'
  · -- and the end of the walk is one by the rules
    rintro ⟨rfl, rfl⟩
    exact ⟨q, hq, hs⟩
  · constructor
    · rintro ⟨hstep, hbudget, hresult⟩
      exact ⟨hstep, hbudget, performs_none_iff.mp hresult⟩
    · rintro ⟨hstep, hbudget, hresult⟩
      exact ⟨hstep, hbudget, performs_none_iff.mpr hresult⟩
  · exact hs.length_le (hq.length_le (Nat.zero_le _))

/-- Those who answer no call and no script, at once. -/
def Collaborators.mute : Collaborators Unit where
  identify _ := ("run", ())
  send _ _ := (.error .timeout, 0, ())
  evaluate _ _ _ := (.error (.unavailable ""), 0, ())
  consult _ now := (now, 0, ())

/-- The world at the start of all. -/
def World.initial : World Unit := ⟨0, (), []⟩

/-- A declaration that accepts nothing. -/
def bareDeclaration : Document.Declaration :=
  ⟨none, none, none, .post, none, none, "ns", none⟩

/-- A request with nothing in it. -/
def bareRequest : Request := ⟨.post, .null, []⟩

/-- Two steps that go on to each other. -/
def cycle : Document where
  name := "cycle"
  declaration? := some bareDeclaration
  steps := [
    ⟨"ping", some "assign", some "pong", [("assign", .object [("n", .string "one")])]⟩,
    ⟨"pong", some "assign", some "ping", [("assign", .object [("n", .string "two")])]⟩]

/-- A cycle is cut at the step that would be the fourth of three. Until then the second step,
wherever it is reached, goes on with what it assigns over what it was given. -/
theorem run_ends_iff_cycle :
    ∃ p pong, Pipeline.bind (.standard .standard) cycle = .ok p ∧ p.stepAt? 1 = some pong ∧
      pong.name = "pong" ∧
      (∃ w, Ends (.unhurried .mute p 3) bareRequest .initial
        ⟨["ping", "pong", "ping"], .error ⟨"cycle", "pong", .budgetSpent 3⟩⟩ w) ∧
      ∀ visited vars w, visited.length < 3 →
        Invokes (.unhurried .mute p 3) ⟨visited, 1, vars, w⟩ pong
          (.ok (.proceed (vars.insert "n" (.string "two")))) w := by
  have h := run_ends_iff (rfl : Pipeline.bind (.standard .standard) cycle = .ok _) .mute 3
    bareRequest .initial
  exact ⟨_, _, rfl, rfl, rfl, ⟨_, (h.2.1 _ _).mpr ⟨rfl, rfl⟩⟩,
    fun visited vars w hlt => (h.2.2.1 ⟨visited, 1, vars, w⟩ _ _ _).mpr ⟨rfl, hlt, rfl⟩⟩

end RouteFlow.Run
