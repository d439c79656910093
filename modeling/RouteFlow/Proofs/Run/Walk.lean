import RouteFlow.Proofs.Run.Exchange
import RouteFlow.Run.Engine

/-!
# The walk, step by step

What `walk` does where it stands: at a place without a step, with no step left to invoke, and after
a step was invoked with each of its results. What a step brings is said in terms of the program of
its task (`Performs`). `walk_induction` puts the cases together: what they keep holds of every walk,
and no later proof unfolds `walk`.

* `performs_none_iff` — without a deadline a step brings what its program brings;
* `Names` — the named moves: a step that proceeds moves to its `next`, a step that branches moves
  to its target whatever its `next` says;
* `walk_induction` — the cases of a walk, with the induction along the steps that are left.
-/

namespace RouteFlow.Run

open Pipeline (BoundStep)

variable {σ : Type}

/-! ### Performing a step -/

section Performance

variable {c : Collaborators σ} {deadline? : Option Nanos} {s : BoundStep} {vars : Entries Json}
variable {w w' : World σ}

/-- **What performing a step brings**, in terms of the program of its task alone: its result, the
failure that the deadline makes of it, or its crash. -/
inductive Performs (c : Collaborators σ) (deadline? : Option Nanos) (s : BoundStep)
    (vars : Entries Json) (w : World σ) : Ending Failure Signal → World σ → Prop
  | proceeds {signal : Signal} {w' : World σ}
      (h : (s.task.perform vars).run c deadline? w = (.ok (.ok signal), w')) :
      Performs c deadline? s vars w (.ok signal) w'
  | fails {f : Failure} {w' : World σ}
      (h : (s.task.perform vars).run c deadline? w = (.ok (.error f), w')) :
      Performs c deadline? s vars w (.error f) w'
  | isCut {w' : World σ}
      (h : (s.task.perform vars).run c deadline? w = (.error .deadline, w')) :
      Performs c deadline? s vars w (.error (.deadline s.task.isNetworkBound)) w'
  | crashes {w' : World σ} (h : (s.task.perform vars).run c deadline? w = (.crash, w')) :
      Performs c deadline? s vars w .crash w'

/-- **An invocation is the performance of its step.** -/
theorem performs_iff {result : Ending Failure Signal} :
    Performs c deadline? s vars w result w' ↔ invoke c deadline? s vars w = (result, w') := by
  constructor
  · intro h
    cases h <;> next hrun => simp only [invoke, hrun, Ending.ofExcept]
  · intro h
    unfold invoke at h
    split at h
    · next result _ hrun =>
      obtain ⟨rfl, rfl⟩ := Prod.mk.inj h
      cases result with
      | ok signal => exact .proceeds hrun
      | error f => exact .fails hrun
    · next hrun =>
      obtain ⟨rfl, rfl⟩ := Prod.mk.inj h
      exact .isCut hrun
    · next hrun =>
      obtain ⟨rfl, rfl⟩ := Prod.mk.inj h
      exact .crashes hrun

/-- How the program of a task ends that brings this, if nothing cuts it. -/
def Ending.uncut : Ending Failure Signal → Ending Cut Result
  | .ok signal => .ok (.ok signal)
  | .error f => .ok (.error f)
  | .crash => .crash

/-- What the program of a task brings is what the step brings, if nothing cuts it. -/
theorem performs_of_uncut {result : Ending Failure Signal}
    (h : (s.task.perform vars).run c deadline? w = (result.uncut, w')) :
    Performs c deadline? s vars w result w' := by
  cases result with
  | ok signal => exact .proceeds h
  | error f => exact .fails h
  | crash => exact .crashes h

/-- **Without a deadline a step brings what the program of its task brings.** -/
theorem performs_none_iff {result : Ending Failure Signal} :
    Performs c none s vars w result w' ↔
      (s.task.perform vars).run c none w = (result.uncut, w') := by
  refine ⟨fun h => ?_, performs_of_uncut⟩
  cases h with
  | proceeds h => exact h
  | fails h => exact h
  | isCut h =>
    obtain ⟨_, hd, -⟩ := exists_deadline_of_run_cut h
    exact absurd hd nofun
  | crashes h => exact h

/-- What a step leaves is what the program of its task leaves. -/
theorem Performs.world_eq {result : Ending Failure Signal}
    (h : Performs c deadline? s vars w result w') :
    w' = ((s.task.perform vars).run c deadline? w).2 := by
  cases h <;> next hrun => rw [hrun]

end Performance

/-! ### Moves -/

/-- **A named move** after step `s`: with this signal the run goes on, or ends, at the name
`target`, with the variables `vars`. -/
inductive Names (s : BoundStep) : Signal → String → Entries Json → Prop
  /-- A step that proceeds goes to its `next`. -/
  | next {target : String} {vars : Entries Json} (h : s.next? = some target) :
      Names s (.proceed vars) target vars
  /-- A step that branches goes to its target, not to its `next`. -/
  | branch {target : String} {vars : Entries Json} : Names s (.branch target vars) target vars

theorem move_of_names {s : BoundStep} {signal : Signal} {target : String}
    {vars : Entries Json} (h : Names s signal target vars) :
    signal.move s.next? = .named target vars := by
  cases h with
  | next hn => rw [hn]; rfl
  | branch => rfl

/-- **What a signal means**: the run stops, goes on to the step after `s`, or makes a named move. -/
theorem signal_cases (s : BoundStep) (signal : Signal) :
    (∃ value, signal = .stop value) ∨
      (∃ vars, signal = .proceed vars ∧ s.next? = none) ∨
      ∃ target vars, Names s signal target vars := by
  cases signal with
  | stop value => exact .inl ⟨value, rfl⟩
  | branch target vars => exact .inr (.inr ⟨target, vars, .branch⟩)
  | proceed vars =>
    cases hn : s.next? with
    | none => exact .inr (.inl ⟨vars, rfl, rfl⟩)
    | some target => exact .inr (.inr ⟨target, vars, .next hn⟩)

/-! ### The cases of a walk -/

section Cases

variable {c : Collaborators σ} {p : Pipeline} {settings : Settings} {deadline? : Option Nanos}
variable {runId : String} {left cursor : Nat} {vars vars' : Entries Json} {w w' : World σ}
variable {s : BoundStep} {signal : Signal} {target : String}

theorem walk_pastLast (hs : p.stepAt? cursor = none) :
    walk c p settings deadline? runId left cursor vars w =
      .ofOutput runId ⟨.object vars, false⟩ w := by
  cases left <;> rw [walk] <;> simp only [hs]

theorem walk_exhausted (hs : p.stepAt? cursor = some s) :
    walk c p settings deadline? runId 0 cursor vars w =
      .ofError runId ⟨p.name, s.name, .budgetSpent settings.maxSteps⟩ w := by
  rw [walk]
  simp only [hs]

theorem walk_failed {f : Failure} (hs : p.stepAt? cursor = some s)
    (hi : Performs c deadline? s vars w (.error f) w') :
    walk c p settings deadline? runId (left + 1) cursor vars w =
      .visit runId s.name (.ofError runId ⟨p.name, s.name, f⟩ w') := by
  rw [walk]
  simp only [hs, performs_iff.mp hi]

theorem walk_crashed (hs : p.stepAt? cursor = some s)
    (hi : Performs c deadline? s vars w .crash w') :
    walk c p settings deadline? runId (left + 1) cursor vars w =
      .visit runId s.name (.ofCrash runId w') := by
  rw [walk]
  simp only [hs, performs_iff.mp hi]

theorem walk_stopped {value : Json} (hs : p.stepAt? cursor = some s)
    (hi : Performs c deadline? s vars w (.ok (.stop value)) w') :
    walk c p settings deadline? runId (left + 1) cursor vars w =
      .visit runId s.name (.after runId (Signal.events s.name (.stop value))
        (.ofOutput runId ⟨value, true⟩ w')) := by
  rw [walk]
  simp only [hs, performs_iff.mp hi, Signal.move]

theorem walk_following (hs : p.stepAt? cursor = some s)
    (hi : Performs c deadline? s vars w (.ok (.proceed vars')) w') (hn : s.next? = none) :
    walk c p settings deadline? runId (left + 1) cursor vars w =
      .visit runId s.name (.after runId (Signal.events s.name (.proceed vars'))
        (walk c p settings deadline? runId left (cursor + 1) vars' w')) := by
  rw [walk]
  simp only [hs, performs_iff.mp hi, Signal.move, hn]

theorem walk_ended (hs : p.stepAt? cursor = some s)
    (hi : Performs c deadline? s vars w (.ok signal) w')
    (hm : Names s signal Document.endTarget vars') :
    walk c p settings deadline? runId (left + 1) cursor vars w =
      .visit runId s.name (.after runId (signal.events s.name)
        (.ofOutput runId ⟨.object vars', false⟩ w')) := by
  rw [walk]
  simp only [hs, performs_iff.mp hi, move_of_names hm, if_true]

theorem walk_jump {i : Nat} (hs : p.stepAt? cursor = some s)
    (hi : Performs c deadline? s vars w (.ok signal) w') (hm : Names s signal target vars')
    (he : target ≠ Document.endTarget) (hp : p.position? target = some i) :
    walk c p settings deadline? runId (left + 1) cursor vars w =
      .visit runId s.name (.after runId (signal.events s.name)
        (walk c p settings deadline? runId left i vars' w')) := by
  rw [walk]
  simp only [hs, performs_iff.mp hi, move_of_names hm, he, if_false, hp]

theorem walk_lost (hs : p.stepAt? cursor = some s)
    (hi : Performs c deadline? s vars w (.ok signal) w') (hm : Names s signal target vars')
    (he : target ≠ Document.endTarget) (hp : p.position? target = none) :
    walk c p settings deadline? runId (left + 1) cursor vars w =
      .visit runId s.name (.after runId (signal.events s.name)
        (.ofError runId ⟨p.name, s.name, .unknownStep target⟩ w')) := by
  rw [walk]
  simp only [hs, performs_iff.mp hi, move_of_names hm, he, if_false, hp]

end Cases

/-- **Induction along a walk.** A property of walks that holds of each way to stop, and that a step
which leads on hands back from the rest of the walk, holds of every walk. The induction is on the
number of steps that are left. -/
@[elab_as_elim]
theorem walk_induction (c : Collaborators σ) (p : Pipeline) (settings : Settings)
    (deadline? : Option Nanos) (runId : String)
    {motive : Nat → Nat → Entries Json → World σ → Trace σ → Prop}
    (pastLast : ∀ left cursor vars w, p.stepAt? cursor = none →
      motive left cursor vars w (.ofOutput runId ⟨.object vars, false⟩ w))
    (exhausted : ∀ cursor vars w s, p.stepAt? cursor = some s →
      motive 0 cursor vars w (.ofError runId ⟨p.name, s.name, .budgetSpent settings.maxSteps⟩ w))
    (failed : ∀ left cursor vars w s f w', p.stepAt? cursor = some s →
      Performs c deadline? s vars w (.error f) w' →
      motive (left + 1) cursor vars w
        (.visit runId s.name (.ofError runId ⟨p.name, s.name, f⟩ w')))
    (crashed : ∀ left cursor vars w s w', p.stepAt? cursor = some s →
      Performs c deadline? s vars w .crash w' →
      motive (left + 1) cursor vars w (.visit runId s.name (.ofCrash runId w')))
    (stopped : ∀ left cursor vars w s value w', p.stepAt? cursor = some s →
      Performs c deadline? s vars w (.ok (.stop value)) w' →
      motive (left + 1) cursor vars w (.visit runId s.name
        (.after runId (Signal.events s.name (.stop value)) (.ofOutput runId ⟨value, true⟩ w'))))
    (following : ∀ left cursor vars w s vars' w' t, p.stepAt? cursor = some s →
      Performs c deadline? s vars w (.ok (.proceed vars')) w' → s.next? = none →
      motive left (cursor + 1) vars' w' t →
      motive (left + 1) cursor vars w (.visit runId s.name
        (.after runId (Signal.events s.name (.proceed vars')) t)))
    (ended : ∀ left cursor vars w s signal vars' w', p.stepAt? cursor = some s →
      Performs c deadline? s vars w (.ok signal) w' →
      Names s signal Document.endTarget vars' →
      motive (left + 1) cursor vars w (.visit runId s.name
        (.after runId (signal.events s.name) (.ofOutput runId ⟨.object vars', false⟩ w'))))
    (jump : ∀ left cursor vars w s signal target vars' w' i t, p.stepAt? cursor = some s →
      Performs c deadline? s vars w (.ok signal) w' → Names s signal target vars' →
      target ≠ Document.endTarget → p.position? target = some i →
      motive left i vars' w' t →
      motive (left + 1) cursor vars w (.visit runId s.name (.after runId (signal.events s.name) t)))
    (lost : ∀ left cursor vars w s signal target vars' w', p.stepAt? cursor = some s →
      Performs c deadline? s vars w (.ok signal) w' → Names s signal target vars' →
      target ≠ Document.endTarget → p.position? target = none →
      motive (left + 1) cursor vars w (.visit runId s.name
        (.after runId (signal.events s.name)
          (.ofError runId ⟨p.name, s.name, .unknownStep target⟩ w'))))
    (left cursor : Nat) (vars : Entries Json) (w : World σ) :
    motive left cursor vars w (walk c p settings deadline? runId left cursor vars w) := by
  induction left generalizing cursor vars w with
  | zero =>
    cases hs : p.stepAt? cursor with
    | none => rw [walk_pastLast hs]; exact pastLast 0 cursor vars w hs
    | some s => rw [walk_exhausted hs]; exact exhausted cursor vars w s hs
  | succ left ih =>
    cases hs : p.stepAt? cursor with
    | none => rw [walk_pastLast hs]; exact pastLast _ cursor vars w hs
    | some s =>
      obtain ⟨result, w', hi⟩ : ∃ result w', Performs c deadline? s vars w result w' :=
        ⟨_, _, performs_iff.mpr rfl⟩
      cases result with
      | error f => rw [walk_failed hs hi]; exact failed left cursor vars w s f w' hs hi
      | crash => rw [walk_crashed hs hi]; exact crashed left cursor vars w s w' hs hi
      | ok signal =>
        rcases signal_cases s signal with ⟨value, rfl⟩ | ⟨vars', rfl, hn⟩ | ⟨target, vars', hm⟩
        · rw [walk_stopped hs hi]
          exact stopped left cursor vars w s value w' hs hi
        · rw [walk_following hs hi hn]
          exact following left cursor vars w s vars' w' _ hs hi hn (ih _ _ _)
        · by_cases he : target = Document.endTarget
          · subst he
            rw [walk_ended hs hi hm]
            exact ended left cursor vars w s signal vars' w' hs hi hm
          · cases hp : p.position? target with
            | none =>
              rw [walk_lost hs hi hm he hp]
              exact lost left cursor vars w s signal target vars' w' hs hi hm he hp
            | some i =>
              rw [walk_jump hs hi hm he hp]
              exact jump left cursor vars w s signal target vars' w' i _ hs hi hm he hp (ih _ _ _)

end RouteFlow.Run
