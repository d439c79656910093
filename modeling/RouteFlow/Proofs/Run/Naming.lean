import RouteFlow.Proofs.Run.Walk

/-!
# The name of a pipeline

A run mentions the name of its pipeline when it starts, and in the error that it ends with if it
fails. Nothing that happens in between depends on the name: the same steps are invoked with the same
results, and the world changes in the same way (`run_named`).
-/

namespace RouteFlow.Run

open Pipeline (BoundStep)

variable {σ : Type}

/-! ### Other names -/

/-- An error under another name of the pipeline. -/
def RunError.named (name : String) (e : RunError) : RunError := { e with pipeline := name }

/-- An event under another name of the pipeline. -/
def Event.named (name : String) : Event → Event
  | .runStarted _ => .runStarted name
  | e => e

def Notice.named (name : String) (n : Notice) : Notice := { n with event := n.event.named name }

def Report.named (name : String) (r : Report) : Report :=
  { r with outcome := r.outcome.mapError (RunError.named name) }

/-- **A run under another name of the pipeline.** Its identity, the steps, the causes and the world
stay as they are. -/
def Trace.named (name : String) (t : Trace σ) : Trace σ :=
  ⟨t.runId, t.report.named name, t.notices.map (Notice.named name), t.world⟩

@[simp] theorem Report.state_named (name : String) (r : Report) :
    (r.named name).state = r.state := by
  obtain ⟨visited, outcome⟩ := r
  cases outcome <;> rfl

@[simp] theorem Report.farewell_named (name : String) (r : Report) :
    (r.named name).farewell = r.farewell := by
  obtain ⟨visited, outcome⟩ := r
  cases outcome <;> rfl

/-- The last that a run tells does not mention the pipeline. -/
theorem Report.map_named_farewell (name runId : String) (r : Report) :
    (r.farewell.map (⟨runId, ·⟩)).map (Notice.named name) = r.farewell.map (⟨runId, ·⟩) := by
  obtain ⟨visited, outcome⟩ := r
  cases outcome <;> rfl

@[simp] theorem Trace.named_ofOutput (name runId : String) (output : Output) (w : World σ) :
    (Trace.ofOutput runId output w).named name = .ofOutput runId output w := rfl

@[simp] theorem Trace.named_ofError (name runId : String) (e : RunError) (w : World σ) :
    (Trace.ofError runId e w).named name = .ofError runId (e.named name) w := rfl

@[simp] theorem Trace.named_ofCrash (name runId : String) (w : World σ) :
    (Trace.ofCrash runId w).named name = .ofCrash runId w := rfl

@[simp] theorem Trace.named_visit (name runId step : String) (t : Trace σ) :
    (t.visit runId step).named name = (t.named name).visit runId step := rfl

/-- The events of a signal do not mention the pipeline either. -/
theorem Signal.map_named_events (name runId step : String) (signal : Signal) :
    ((signal.events step).map (⟨runId, ·⟩)).map (Notice.named name) =
      (signal.events step).map (⟨runId, ·⟩) := by
  cases signal <;> rfl

@[simp] theorem Trace.named_after (name runId step : String) (signal : Signal) (t : Trace σ) :
    (t.after runId (signal.events step)).named name =
      (t.named name).after runId (signal.events step) := by
  rw [Trace.after, Trace.named, List.map_append, Signal.map_named_events]
  rfl

@[simp] theorem Trace.named_framed (name runId : String) (p : Pipeline) (t : Trace σ) :
    (t.framed runId p).named name =
      (t.named name).framed runId { p with name := name } := by
  simp only [Trace.framed, Trace.named, Report.farewell_named, List.map_append, List.map_cons,
    Report.map_named_farewell]
  rfl

/-! ### Runs -/

/-- **A walk through a pipeline under another name** is the walk through the pipeline, told under
that name. -/
theorem walk_named (c : Collaborators σ) (p : Pipeline) (name : String) (settings : Settings)
    (deadline? : Option Nanos) (runId : String) (left cursor : Nat) (vars : Entries Json)
    (w : World σ) :
    walk c { p with name := name } settings deadline? runId left cursor vars w =
      (walk c p settings deadline? runId left cursor vars w).named name := by
  -- both pipelines have the same steps at the same places
  have hstep : ∀ {i s}, p.stepAt? i = some s →
      ({ p with name := name } : Pipeline).stepAt? i = some s := id
  have hplace : ∀ {target i?}, p.position? target = i? →
      ({ p with name := name } : Pipeline).position? target = i? := id
  induction left, cursor, vars, w using walk_induction c p settings deadline? runId with
  | pastLast left cursor vars w hs =>
    rw [walk_pastLast (p := { p with name := name }) hs, Trace.named_ofOutput]
  | exhausted cursor vars w s hs =>
    rw [walk_exhausted (hstep hs), Trace.named_ofError, RunError.named]
  | failed left cursor vars w s f w' hs hi =>
    rw [walk_failed (hstep hs) hi, Trace.named_visit, Trace.named_ofError, RunError.named]
  | crashed left cursor vars w s w' hs hi =>
    rw [walk_crashed (hstep hs) hi, Trace.named_visit, Trace.named_ofCrash]
  | stopped left cursor vars w s value w' hs hi =>
    rw [walk_stopped (hstep hs) hi, Trace.named_visit, Trace.named_after, Trace.named_ofOutput]
  | following left cursor vars w s vars' w' t hs hi hn ih =>
    rw [walk_following (hstep hs) hi hn, ih, Trace.named_visit, Trace.named_after]
  | ended left cursor vars w s signal vars' w' hs hi hm =>
    rw [walk_ended (hstep hs) hi hm, Trace.named_visit, Trace.named_after, Trace.named_ofOutput]
  | jump left cursor vars w s signal target vars' w' i t hs hi hm he hp ih =>
    rw [walk_jump (hstep hs) hi hm he (hplace hp), ih, Trace.named_visit, Trace.named_after]
  | lost left cursor vars w s signal target vars' w' hs hi hm he hp =>
    rw [walk_lost (hstep hs) hi hm he (hplace hp), Trace.named_visit, Trace.named_after,
      Trace.named_ofError, RunError.named]

/-- **Pipelines that differ in their name only have runs that differ in this name only.** -/
theorem runUntil_named {p p' : Pipeline} (hd : p'.declaration = p.declaration)
    (hs : p'.steps = p.steps) (hi : p'.index = p.index) (c : Collaborators σ) (settings : Settings)
    (deadline? : Option Nanos) (r : Request) (w : World σ) :
    runUntil c settings deadline? p' r w = (runUntil c settings deadline? p r w).named p'.name := by
  obtain ⟨name, declaration, steps, index⟩ := p'
  obtain rfl : declaration = p.declaration := hd
  obtain rfl : steps = p.steps := hs
  obtain rfl : index = p.index := hi
  -- the identity is drawn before the name is mentioned
  change (walk c { p with name := name } settings deadline? (c.identify w.state).1 _ _ _ _).framed
    _ { p with name := name } = _
  rw [walk_named, ← Trace.named_framed]
  rfl

theorem run_named {p p' : Pipeline} (hd : p'.declaration = p.declaration)
    (hs : p'.steps = p.steps) (hi : p'.index = p.index) (c : Collaborators σ) (settings : Settings)
    (r : Request) (w : World σ) :
    run c settings p' r w = (run c settings p r w).named p'.name :=
  runUntil_named hd hs hi c settings _ r w

end RouteFlow.Run
