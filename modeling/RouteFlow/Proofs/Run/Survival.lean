import RouteFlow.Proofs.Pipeline.StandardTasks
import RouteFlow.Proofs.Retry.Decision
import RouteFlow.Proofs.Run.Course

/-!
# Runs that cannot crash

A program that has no crash in it, whatever comes back to it, does not crash (`Action.Sound`). Of
the standard kinds only calls may have one, and only under a policy that can be left without a wait.
A policy that listens to no header with a moment in it and whose longest wait leaves room for every
draw is none of these (`Policy.Patient`), so that runs of its pipelines end with a result or with an
error (`exists_outcome_of_patient`).
-/

namespace RouteFlow

/-! ### Policies that always have a wait -/

namespace Retry

/-- **A patient policy** always knows how long to wait. -/
structure Policy.Patient (p : Policy) : Prop where
  vendor : p.vendorHeaders = []
  room : roundToDouble p.maxDelay.millis + 1 < UInt64.size

theorem requestedWait_ne_beyondClock (headers : Entries String) (now : Nanos) :
    requestedWait headers [] now ≠ .beyondClock := by
  rw [requestedWait, requestedBy]
  split
  · exact nofun
  · exact nofun

theorem Policy.Patient.decide?_ne_none {p : Policy} (hp : p.Patient) (n : Nat) (o : Outcome)
    (now : Nanos) (word : Nat) : decide? p n o now word ≠ none := by
  intro hnone
  obtain ⟨-, -, hbeyond | ⟨-, hfull⟩⟩ := decide?_eq_none_iff.mp hnone
  · cases o with
    | status status headers =>
      have hasked : requestedWait headers p.vendorHeaders now = .beyondClock := hbeyond
      rw [hp.vendor] at hasked
      exact requestedWait_ne_beyondClock headers now hasked
    | networkFailure => exact absurd hbeyond nofun
  · exact absurd (ceiling_lt_of_roundToDouble hp.room) (Nat.not_lt.mpr hfull)

end Retry

namespace Run

variable {σ α β : Type}

/-! ### Programs without a crash -/

/-- **A sound program** has no crash in it, whatever comes back to it. -/
inductive Action.Sound : Action α → Prop
  | done {a : α} : Sound (.done a)
  | send {call : Http.Call} {k : Except Http.CallError Http.Response → Action α}
      (h : ∀ reply, Sound (k reply)) : Sound (.send call k)
  | evaluate {source : String} {input : Json} {k : Except ScriptError Json → Action α}
      (h : ∀ reply, Sound (k reply)) : Sound (.evaluate source input k)
  | sleep {time : Nanos} {k : Action α} (h : Sound k) : Sound (.sleep time k)
  | consult {k : Nanos → Nat → Action α} (h : ∀ now word, Sound (k now word)) :
      Sound (.consult k)

namespace Action

theorem Sound.run_ne_crash {a : Action α} (h : a.Sound) (c : Collaborators σ)
    (deadline? : Option Nanos) (w : World σ) : (a.run c deadline? w).1 ≠ .crash := by
  induction h generalizing w with
  | done => rintro ⟨⟩
  | send _ ih =>
    rw [run]
    split
    split
    · exact ih _ _
    · rintro ⟨⟩
  | evaluate _ ih =>
    rw [run]
    split
    split
    · exact ih _ _
    · rintro ⟨⟩
  | sleep _ ih =>
    rw [run]
    split
    · exact ih _
    · rintro ⟨⟩
  | consult _ ih => exact ih _ _ _

theorem Sound.bind {a : Action α} {f : α → Action β} (h : a.Sound) (hf : ∀ x, (f x).Sound) :
    (a.bind f).Sound := by
  induction h with
  | done => exact hf _
  | send _ ih => exact .send ih
  | evaluate _ ih => exact .evaluate ih
  | sleep _ ih => exact .sleep ih
  | consult _ ih => exact .consult ih

theorem sound_ofExcept {ε : Type} (e : Except ε α) {f : α → Action (Except ε β)}
    (hf : ∀ x, (f x).Sound) : (ofExcept e f).Sound := by
  cases e with
  | error e => exact .done
  | ok a => exact hf a

end Action

/-! ### Tasks without a crash -/

/-- **A call under a patient policy has no crash in it.** The induction is on the attempts that are
left. -/
theorem sound_sendAgain {p : Retry.Policy} (hp : p.Patient) (call : Http.Call) (n : Nat) :
    (sendAgain p call n).Sound := by
  induction hm : p.maxAttempts - n using Nat.strongRecOn generalizing n with
  | ind left ih =>
    rw [sendAgain_eq]
    refine .send fun reply => ?_
    cases outcome? reply with
    | none => exact .done
    | some o =>
      refine .consult fun now word => ?_
      cases hdec : Retry.decide? p n o now word with
      | none => exact absurd hdec (hp.decide?_ne_none n o now word)
      | some decision =>
        cases decision with
        | stop reason => exact .done
        | retry delay reason =>
          -- another attempt was left, and now there is one less
          have hlt := Retry.lt_maxAttempts_of_retry hdec
          exact .sleep (ih _ (by omega) (n + 1) rfl)

theorem sound_callTask {spec : CallTask} (hp : spec.settings.retry.Patient)
    (vars : Entries Json) : (spec.perform vars).Sound := by
  refine Action.sound_ofExcept _ fun args => Action.sound_ofExcept _ fun request => ?_
  refine Action.Sound.bind ?_ fun reply => .done
  rw [sendCall]
  split
  · exact sound_sendAgain hp _ 1
  · exact .send fun _ => .done

/-- **A task of a standard kind has no crash in it**, if its calls are made under a patient
policy. -/
theorem sound_of_makes {settings : CallSettings} (hp : settings.retry.Patient)
    {s : Document.Step} {task : Task} (h : Pipeline.Makes settings s task) (vars : Entries Json) :
    (task.perform vars).Sound := by
  cases h with
  | assign | reply | choose => exact .done
  | call => exact sound_callTask hp vars
  | script =>
    exact Action.sound_ofExcept _ fun _ => .evaluate fun _ => .done

/-! ### Runs without a crash -/

/-- A run does not stop with a crash where no step has one in it. -/
theorem Stops.outcome_ne_crash {u : Setup σ} {q : Stage σ} {report : Report} {w : World σ}
    (h : Stops u q report w) (hs : ∀ s ∈ u.pipeline.steps, ∀ vars, (s.task.perform vars).Sound) :
    report.outcome ≠ .crash := by
  cases h with
  | crashed h =>
    have hsound := hs _ (Pipeline.mem_of_stepAt? h.step) q.vars
    cases h.result with
    | crashes hrun =>
      refine absurd ?_ (hsound.run_ne_crash u.collaborators u.deadline? q.world)
      rw [hrun]
  | _ => exact nofun

/-- **A run of the standard kinds under a patient policy ends** with a result or with an error. -/
theorem exists_outcome_of_patient {calls : CallSettings} (hcalls : calls.retry.Patient)
    {doc : Document} {p : Pipeline} (hp : Pipeline.bind (.standard calls) doc = .ok p)
    (c : Collaborators σ) (settings : Settings) (r : Request) (w : World σ) :
    (∃ output, (run c settings p r w).report.outcome = .ok output) ∨
      ∃ e, (run c settings p r w).report.outcome = .error e := by
  let u : Setup σ := ⟨c, p, settings, settings.timeout?.map (w.clock + ·)⟩
  obtain ⟨q, -, hstop⟩ := stops_of_run (u := u) (Pipeline.indexed_of_bind hp) r w
  have hne : (run c settings p r w).report.outcome ≠ .crash := by
    refine hstop.outcome_ne_crash fun s hs vars => ?_
    obtain ⟨step, -, hmakes⟩ := Pipeline.exists_makes_of_bind_standard hp hs
    exact sound_of_makes hcalls hmakes vars
  cases houtcome : (run c settings p r w).report.outcome with
  | ok output => exact .inl ⟨output, rfl⟩
  | error e => exact .inr ⟨e, rfl⟩
  | crash => exact absurd houtcome hne

end Run
end RouteFlow
