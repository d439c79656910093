import Mathlib.Logic.Relation
import RouteFlow.Proofs.Pipeline.Binding
import RouteFlow.Proofs.Run.Walk

/-!
# The rules of a run

A run as a machine with explicit stages. A stage says which steps were invoked so far, where the
run stands, and what it holds there (`Stage`). From a stage the run either advances, by invoking
the step at its place and moving on (`Advances`), or stops: in one of six ways by which it is
completed or fails, or because a step crashes (`Stops`). What a step brings is what the program of
its task brings (`Performs`). The rules do not mention `walk`; they are the reading of a pipeline
that its author has.

* `Reaches.length_le` — no more steps are invoked than may be;
* `Advances.transfer`, `Stops.transfer` — where a step brings the same in two setups, the rules go
  on from it in the same way;
* `Stops.error_cases` — the three ways to fail.
-/

namespace RouteFlow.Run

open Pipeline (BoundStep)

variable {σ : Type}

/-! ### Stages -/

/-- What does not change along a run. -/
structure Setup (σ : Type) where
  collaborators : Collaborators σ
  pipeline : Pipeline
  settings : Settings
  deadline? : Option Nanos

/-- A stage of a run. -/
structure Stage (σ : Type) where
  /-- The names of the steps that were invoked, in order. -/
  visited : List String
  /-- The place in the pipeline where the run stands. -/
  cursor : Nat
  /-- The variables that a step at this place is given. -/
  vars : Entries Json
  world : World σ

/-- The world after a run got its identity. -/
def World.identified (c : Collaborators σ) (w : World σ) : World σ :=
  { w with state := (c.identify w.state).2 }

@[simp] theorem World.identified_clock (c : Collaborators σ) (w : World σ) :
    (w.identified c).clock = w.clock := rfl

@[simp] theorem World.identified_sent (c : Collaborators σ) (w : World σ) :
    (w.identified c).sent = w.sent := rfl

/-- The first stage: nothing was invoked, and the variables are made of the request. -/
def Setup.start (u : Setup σ) (r : Request) (w : World σ) : Stage σ :=
  ⟨[], 0, initialVariables u.pipeline.declaration r, w.identified u.collaborators⟩

/-- The run that a setup stands for. -/
def Setup.run (u : Setup σ) (r : Request) (w : World σ) : Trace σ :=
  runUntil u.collaborators u.settings u.deadline? u.pipeline r w

variable (u : Setup σ)

/-- **Step `s` is invoked at stage `q`**, with the result `result` and the world `w` after it. -/
structure Invokes (q : Stage σ) (s : BoundStep) (result : Ending Failure Signal) (w : World σ) :
    Prop where
  /-- The run stands at the step. -/
  step : u.pipeline.stepAt? q.cursor = some s
  /-- One more step may be invoked. -/
  budget : q.visited.length < u.settings.maxSteps
  /-- What performing the step brings. -/
  result : Performs u.collaborators u.deadline? s q.vars q.world result w

/-- **From one stage to the next.** -/
inductive Advances (q : Stage σ) : Stage σ → Prop
  /-- A step that proceeds and has no `next` leads to the step after it in order. -/
  | following {s : BoundStep} {vars : Entries Json} {w : World σ}
      (h : Invokes u q s (.ok (.proceed vars)) w) (hn : s.next? = none) :
      Advances q ⟨q.visited ++ [s.name], q.cursor + 1, vars, w⟩
  /-- A named move leads to the step with the name. -/
  | jump {s s' : BoundStep} {signal : Signal} {target : String} {vars : Entries Json}
      {w : World σ} {i : Nat} (h : Invokes u q s (.ok signal) w) (hm : Names s signal target vars)
      (he : target ≠ Document.endTarget) (hs' : u.pipeline.stepAt? i = some s')
      (hn : s'.name = target) :
      Advances q ⟨q.visited ++ [s.name], i, vars, w⟩

/-- **The ways to stop.** -/
inductive Stops (q : Stage σ) : Report → World σ → Prop
  /-- Past the last step the variables are the answer. -/
  | pastLast (h : u.pipeline.stepAt? q.cursor = none) :
      Stops q ⟨q.visited, .ok ⟨.object q.vars, false⟩⟩ q.world
  /-- A step that is reached when no more may be invoked is not invoked, and the failure is
  attributed to it. -/
  | exhausted {s : BoundStep} (h : u.pipeline.stepAt? q.cursor = some s)
      (hb : q.visited.length = u.settings.maxSteps) :
      Stops q ⟨q.visited,
        .error ⟨u.pipeline.name, s.name, .budgetSpent u.settings.maxSteps⟩⟩ q.world
  /-- A step fails. -/
  | failed {s : BoundStep} {f : Failure} {w : World σ} (h : Invokes u q s (.error f) w) :
      Stops q ⟨q.visited ++ [s.name], .error ⟨u.pipeline.name, s.name, f⟩⟩ w
  /-- A step answers itself. -/
  | stopped {s : BoundStep} {value : Json} {w : World σ}
      (h : Invokes u q s (.ok (.stop value)) w) :
      Stops q ⟨q.visited ++ [s.name], .ok ⟨value, true⟩⟩ w
  /-- A named move to `end` makes the variables the answer. -/
  | ended {s : BoundStep} {signal : Signal} {vars : Entries Json} {w : World σ}
      (h : Invokes u q s (.ok signal) w) (hm : Names s signal Document.endTarget vars) :
      Stops q ⟨q.visited ++ [s.name], .ok ⟨.object vars, false⟩⟩ w
  /-- A named move leads to no step. -/
  | lost {s : BoundStep} {signal : Signal} {target : String} {vars : Entries Json}
      {w : World σ} (h : Invokes u q s (.ok signal) w) (hm : Names s signal target vars)
      (he : target ≠ Document.endTarget) (hn : ∀ s' ∈ u.pipeline.steps, s'.name ≠ target) :
      Stops q ⟨q.visited ++ [s.name],
        .error ⟨u.pipeline.name, s.name, .unknownStep target⟩⟩ w
  /-- A step crashes, and the run with it. -/
  | crashed {s : BoundStep} {w : World σ} (h : Invokes u q s .crash w) :
      Stops q ⟨q.visited ++ [s.name], .crash⟩ w

/-- Any number of advances. -/
abbrev Reaches : Stage σ → Stage σ → Prop := Relation.ReflTransGen (Advances u)

variable {u}

/-- A step that is invoked still counts among the steps that may be. -/
theorem Invokes.length_le {q : Stage σ} {s : BoundStep} {result : Ending Failure Signal}
    {w : World σ} (h : Invokes u q s result w) :
    (q.visited ++ [s.name]).length ≤ u.settings.maxSteps := by
  rw [List.length_append, List.length_singleton]
  exact h.budget

/-- No more steps are invoked than may be. -/
theorem Reaches.length_le {q q' : Stage σ} (h : Reaches u q q')
    (hq : q.visited.length ≤ u.settings.maxSteps) :
    q'.visited.length ≤ u.settings.maxSteps := by
  induction h with
  | refl => exact hq
  | tail _ ha _ =>
    cases ha with
    | following h _ => exact h.length_le
    | jump h _ _ _ _ => exact h.length_le

theorem Stops.length_le {q : Stage σ} {report : Report} {w : World σ}
    (h : Stops u q report w) (hq : q.visited.length ≤ u.settings.maxSteps) :
    report.visited.length ≤ u.settings.maxSteps := by
  cases h with
  | pastLast _ => exact hq
  | exhausted _ _ => exact hq
  | failed h => exact h.length_le
  | stopped h => exact h.length_le
  | ended h _ => exact h.length_le
  | lost h _ _ _ => exact h.length_le
  | crashed h => exact h.length_le

/-! ### Invocations -/

/-- What a step brings at a stage is determined. -/
theorem Invokes.unique {q : Stage σ} {s s' : BoundStep} {result result' : Ending Failure Signal}
    {w w' : World σ} (h : Invokes u q s result w) (h' : Invokes u q s' result' w') :
    s' = s ∧ result' = result ∧ w' = w := by
  obtain rfl : s' = s := Option.some.inj (h'.step.symm.trans h.step)
  obtain ⟨rfl, rfl⟩ := Prod.mk.inj
    ((performs_iff.mp h'.result).symm.trans (performs_iff.mp h.result))
  exact ⟨rfl, rfl, rfl⟩

/-- An advance is made by an invocation that gives a signal. -/
theorem Advances.exists_invokes {q q' : Stage σ} (h : Advances u q q') :
    ∃ s signal, Invokes u q s (.ok signal) q'.world ∧ q'.visited = q.visited ++ [s.name] := by
  cases h with
  | following h _ => exact ⟨_, _, h, rfl⟩
  | jump h _ _ _ _ => exact ⟨_, _, h, rfl⟩

/-- An advance leads to the world after its invocation and counts the step. -/
theorem Advances.stage_eq {q q' : Stage σ} {s : BoundStep} {result : Ending Failure Signal}
    {w : World σ} (hi : Invokes u q s result w) (h : Advances u q q') :
    q'.visited = q.visited ++ [s.name] ∧ q'.world = w ∧ ∃ signal, result = .ok signal := by
  obtain ⟨s', signal, hi', hv⟩ := h.exists_invokes
  obtain ⟨rfl, hr, hw⟩ := hi.unique hi'
  exact ⟨hv, hw, signal, hr.symm⟩

/-- Without an invocation there are two ways to stop. -/
theorem Stops.idle_cases {q : Stage σ} {report : Report} {w : World σ}
    (hn : ∀ s result w', ¬ Invokes u q s result w') (h : Stops u q report w) :
    w = q.world ∧ ((u.pipeline.stepAt? q.cursor = none ∧
        report = ⟨q.visited, .ok ⟨.object q.vars, false⟩⟩) ∨
      ∃ s, u.pipeline.stepAt? q.cursor = some s ∧ q.visited.length = u.settings.maxSteps ∧
        report = ⟨q.visited,
          .error ⟨u.pipeline.name, s.name, .budgetSpent u.settings.maxSteps⟩⟩) := by
  cases h with
  | pastLast hs => exact ⟨rfl, .inl ⟨hs, rfl⟩⟩
  | exhausted hs hb => exact ⟨rfl, .inr ⟨_, hs, hb, rfl⟩⟩
  | failed h => exact absurd h (hn _ _ _)
  | stopped h => exact absurd h (hn _ _ _)
  | ended h _ => exact absurd h (hn _ _ _)
  | lost h _ _ _ => exact absurd h (hn _ _ _)
  | crashed h => exact absurd h (hn _ _ _)

/-! ### Two setups -/

/-- What a step brings in two setups leads to the same stage in both. -/
theorem Advances.transfer {v : Setup σ} {q q' : Stage σ} {s : BoundStep}
    {result : Ending Failure Signal} {w : World σ} (h : Advances u q q')
    (hi : Invokes u q s result w) (hv : Invokes v q s result w) (hp : v.pipeline = u.pipeline) :
    Advances v q q' := by
  cases h with
  | following h hn =>
    obtain ⟨rfl, rfl, rfl⟩ := h.unique hi
    exact .following hv hn
  | jump h hm he hs' hn =>
    obtain ⟨rfl, rfl, rfl⟩ := h.unique hi
    exact .jump hv hm he (by rw [hp]; exact hs') hn

/-- What a step brings in two setups stops the run in the same way in both. -/
theorem Stops.transfer {v : Setup σ} {q : Stage σ} {s : BoundStep}
    {result : Ending Failure Signal} {w w' : World σ} {report : Report}
    (h : Stops u q report w') (hi : Invokes u q s result w) (hv : Invokes v q s result w)
    (hp : v.pipeline = u.pipeline) : Stops v q report w' := by
  cases h with
  | pastLast hs => exact absurd (hs.symm.trans hi.step) nofun
  | exhausted _ hb => exact absurd hi.budget (by omega)
  | failed h =>
    obtain ⟨rfl, rfl, rfl⟩ := h.unique hi
    rw [← hp]
    exact .failed hv
  | stopped h =>
    obtain ⟨rfl, rfl, rfl⟩ := h.unique hi
    exact .stopped hv
  | ended h hm =>
    obtain ⟨rfl, rfl, rfl⟩ := h.unique hi
    exact .ended hv hm
  | lost h hm he hn =>
    obtain ⟨rfl, rfl, rfl⟩ := h.unique hi
    rw [← hp] at hn ⊢
    exact .lost hv hm he hn
  | crashed h =>
    obtain ⟨rfl, rfl, rfl⟩ := h.unique hi
    exact .crashed hv

/-! ### Failures -/

/-- **Three ways to fail**: at a step that is not invoked since the budget is spent, at a step whose
invocation fails, and at a step whose move leads to no step. -/
theorem Stops.error_cases {q : Stage σ} {report : Report} {w : World σ} {e : RunError}
    (h : Stops u q report w) (he : report.outcome = .error e) :
    e.pipeline = u.pipeline.name ∧ ∃ s, u.pipeline.stepAt? q.cursor = some s ∧ e.step = s.name ∧
      ((q.visited.length = u.settings.maxSteps ∧ report.visited = q.visited ∧
          e.failure = .budgetSpent u.settings.maxSteps) ∨
        (report.visited = q.visited ++ [s.name] ∧ Invokes u q s (.error e.failure) w) ∨
        (report.visited = q.visited ++ [s.name] ∧ ∃ signal target vars,
          Invokes u q s (.ok signal) w ∧ Names s signal target vars ∧
            target ≠ Document.endTarget ∧ (∀ s' ∈ u.pipeline.steps, s'.name ≠ target) ∧
            e.failure = .unknownStep target)) := by
  cases h with
  | pastLast _ => simp at he
  | @exhausted s hs hb =>
    obtain rfl := Ending.error.inj he
    exact ⟨rfl, s, hs, rfl, .inl ⟨hb, rfl, rfl⟩⟩
  | @failed s f w h =>
    obtain rfl := Ending.error.inj he
    exact ⟨rfl, s, h.step, rfl, .inr (.inl ⟨rfl, h⟩)⟩
  | stopped _ => simp at he
  | ended _ _ => simp at he
  | @lost s signal target vars w h hm ht hn =>
    obtain rfl := Ending.error.inj he
    exact ⟨rfl, s, h.step, rfl, .inr (.inr ⟨rfl, signal, target, vars, h, hm, ht, hn, rfl⟩)⟩
  | crashed _ => simp at he

end RouteFlow.Run
