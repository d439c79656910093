import RouteFlow.Proofs.Pipeline.StandardTasks
import RouteFlow.Proofs.Run.Course
import RouteFlow.Proofs.Run.Faults

/-!
# What an error tells about its run

A run that fails names a pipeline, a step and a cause code. This module proves that the three can
be believed. The step is the last one that was invoked, or the one that was due when no more could
be; and the code tells what happened there (`Origin`), though on the way a failure passes through
the evaluation of templates, the making of calls, the deadline and the engine.

* `Fails.origin` — the code of a failed task;
* `run_error_origin` — the pipeline, the step and the code of a failed run.
-/

namespace RouteFlow.Run

open Pipeline (BoundStep)

variable {σ : Type}

/-! ### Tasks -/

/-- **What the cause code of a failed task means**, for a task that was given `vars` in the world
`w`. The code of a broken pipeline is not among them: no task fails with it. -/
inductive Origin (c : Collaborators σ) (deadline? : Option Nanos) (vars : Entries Json)
    (w : World σ) : Task → CauseCode → Prop
  /-- A reference in a value that the task evaluates leads nowhere among the variables that the
  task holds at that point. -/
  | missing {task : Task} {ctx : Entries Json} {value : Json} {path : Template.Path}
      (hv : Evaluates vars task ctx value) (hm : Template.Mentions value path)
      (hl : path.lookupIn ctx = none) : Origin c deadline? vars w task .null
  /-- The evaluator returned an error for a script. -/
  | script {spec : ScriptTask} {input : Json} {e : ScriptError}
      (h : Task.exchanges c deadline? vars w (.script spec) =
        [.script spec.source input (.error e)]) :
      Origin c deadline? vars w (.script spec) .script
  /-- The last attempt of a call brought no answer. -/
  | call {spec : CallTask} {call : Http.Call} {e : Http.CallError}
      (h : (Task.exchanges c deadline? vars w (.call spec)).getLast? =
        some (.call call (.error e))) : Origin c deadline? vars w (.call spec) .network
  /-- The answer to the last attempt of a call claims to be JSON, is not empty, and is no JSON. -/
  | badAnswer {spec : CallTask} {call : Http.Call} {r : Http.Response} {fault : Json.TextError}
      (h : (Task.exchanges c deadline? vars w (.call spec)).getLast? = some (.call call (.ok r)))
      (hr : BadAnswer r fault) : Origin c deadline? vars w (.call spec) .network
  /-- The deadline passed while a call was pending. -/
  | callTimesOut {spec : CallTask} (h : TimesOut c deadline? vars w (.call spec)) :
      Origin c deadline? vars w (.call spec) .network
  /-- A string that the task evaluates is no template. -/
  | malformed {task : Task} {ctx : Entries Json} {value : Json} {text : String}
      {fault : Template.TemplateError} (hv : Evaluates vars task ctx value)
      (ht : text ∈ Template.strings value) (hp : Template.parse text = .error fault) :
      Origin c deadline? vars w task .unknown
  /-- The arguments of a call have a value, but it does not hold an address. -/
  | noAddress {spec : CallTask} {args : Json} (ha : evaluate vars spec.args = .ok args)
      (hu : ∀ text url, (args.get? "url").bind Json.text? = some text →
        Url.parse text ≠ .ok url) : Origin c deadline? vars w (.call spec) .unknown
  /-- The deadline passed during a task that makes no calls. -/
  | timesOut {task : Task} (hn : task.isNetworkBound = false)
      (h : TimesOut c deadline? vars w task) : Origin c deadline? vars w task .unknown

variable {c : Collaborators σ} {deadline? : Option Nanos} {vars : Entries Json} {w : World σ}

/-- **The code of a failed task** tells its origin. -/
theorem Fails.origin {task : Task} {f : Failure} (h : Fails c deadline? vars w task f)
    (hs : ∀ inCall program, task ≠ .custom inCall program) :
    Origin c deadline? vars w task f.kind.cause := by
  cases h with
  | @evaluation _ ctx value e hv he =>
    cases e with
    | missing path =>
      obtain ⟨hm, hl⟩ := Template.mentions_of_evaluate_missing he
      exact .missing hv hm hl
    | malformed fault =>
      obtain ⟨text, ht, hp⟩ := Template.exists_of_evaluate_malformed he
      exact .malformed hv ht hp
  | addressNotString ha hu =>
    refine .noAddress ha fun text url ht => ?_
    exact absurd (hu.symm.trans ht) nofun
  | badAddress ha hu hp =>
    refine .noAddress ha fun text url ht hok => ?_
    obtain rfl := Option.some.inj (hu.symm.trans ht)
    exact absurd (hp.symm.trans hok) nofun
  | call h => exact .call h
  | badBody h hr => exact .badAnswer h hr
  | script h => exact .script h
  | deadline h =>
    -- of the standard tasks only a call is bound to the network
    cases task with
    | call spec => exact .callTimesOut h
    | custom inCall program => exact absurd rfl (hs inCall program)
    | assign _ => exact .timesOut rfl h
    | reply _ => exact .timesOut rfl h
    | choose _ => exact .timesOut rfl h
    | script _ => exact .timesOut rfl h

/-! ### Runs -/

/-- **An error can be believed.** When a run of a bound pipeline fails, valid or not, for every
request, all limits, every deadline and whatever the collaborators answer, the error names the
pipeline and a step `s` at which the run stood, and one of three things happened there:

* as many steps were invoked as may be, so `s` was due but not invoked;
* `s` was the last step that was invoked, and its move leads to no step;
* `s` was the last step that was invoked, it failed, and the code tells the origin.

In the first two cases the code is that of a broken pipeline, in the third it never is. -/
theorem run_error_origin {settings : CallSettings} {doc : Document} {p : Pipeline}
    (hb : Pipeline.bind (.full settings) doc = .ok p) (c : Collaborators σ) (limits : Settings)
    (deadline? : Option Nanos) (r : Request) (w : World σ) {e : RunError}
    (he : (runUntil c limits deadline? p r w).report.outcome = .error e) :
    let u : Setup σ := ⟨c, p, limits, deadline?⟩
    let trace := runUntil c limits deadline? p r w
    e.pipeline = p.name ∧ ∃ q s, Reaches u (u.start r w) q ∧ p.stepAt? q.cursor = some s ∧
      e.step = s.name ∧
      ((q.visited.length = limits.maxSteps ∧ trace.report.visited = q.visited ∧
          e.cause = .pipelineIntegrity) ∨
        (trace.report.visited = q.visited ++ [e.step] ∧ e.cause = .pipelineIntegrity ∧
          ∃ signal target vars, Invokes u q s (.ok signal) trace.world ∧
            Names s signal target vars ∧ target ≠ Document.endTarget ∧
            ∀ s' ∈ p.steps, s'.name ≠ target) ∨
        (trace.report.visited = q.visited ++ [e.step] ∧ e.cause ≠ .pipelineIntegrity ∧
          Invokes u q s (.error e.failure) trace.world ∧
          Origin c deadline? q.vars q.world s.task e.cause)) := by
  intro u trace
  obtain ⟨q, hq, hs⟩ := stops_of_run (u := u) (Pipeline.indexed_of_bind hb) r w
  obtain ⟨hname, s, hstep, hes, hcase⟩ := hs.error_cases he
  refine ⟨hname, q, s, hq, hstep, hes, ?_⟩
  rw [hes]
  rcases hcase with ⟨hl, hvis, hf⟩ | ⟨hvis, hi⟩ | ⟨hvis, signal, target, vars, hi, hm, hne, hno, hf⟩
  · exact .inl ⟨hl, hvis, by rw [RunError.cause, hf]; rfl⟩
  · have htask := Pipeline.task_ne_custom_of_bind hb (Pipeline.mem_of_stepAt? hstep)
    have hfails := fails_of_performs htask hi.result
    exact .inr (.inr ⟨hvis, hfails.cause_ne, hi, hfails.origin htask⟩)
  · exact .inr (.inl ⟨hvis, by rw [RunError.cause, hf]; rfl, signal, target, vars, hi, hm, hne,
      hno⟩)

/-- Writes a note and has it sealed by a script. -/
def clerk : Document where
  name := "clerk"
  declaration? := some bareDeclaration
  steps := [
    ⟨"note", some "assign", none, [("assign", .object [("n", .string "one")])]⟩,
    ⟨"seal", some "script", none, [("script", .object [
      ("source", .string "sign"), ("input", .string "$\x7bn\x7d")])]⟩]

/-- Where no evaluator answers, the error names the script and its origin is there. -/
theorem run_error_origin_clerk :
    ∃ p, Pipeline.bind (.full .standard) clerk = .ok p ∧
      ∃ e, (runUntil .mute .standard none p bareRequest .initial).report.outcome = .error e ∧
        e.step = "seal" ∧ ∃ (q : Stage Unit) (s : BoundStep),
          p.stepAt? q.cursor = some s ∧ e.step = s.name ∧
            Origin .mute none q.vars q.world s.task .script := by
  refine ⟨_, rfl, ⟨"clerk", "seal", .script (.unavailable "")⟩, rfl, rfl, ?_⟩
  obtain ⟨-, q, s, -, hstep, hes, hcase⟩ := run_error_origin
    (rfl : Pipeline.bind (.full .standard) clerk = .ok _) .mute .standard none bareRequest
    .initial rfl
  rcases hcase with ⟨-, -, hc⟩ | ⟨-, hc, -⟩ | ⟨-, -, -, ho⟩
  · exact absurd hc nofun
  · exact absurd hc nofun
  · exact ⟨q, s, hstep, hes, ho⟩

end RouteFlow.Run
