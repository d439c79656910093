import RouteFlow.Proofs.Run.Faults

/-!
# How steps succeed

A step that is invoked and does not fail gives a signal, and the signal can be read off its task,
the variables it was given and what it exchanged with the world. `Succeeds` lists the ways, beside
the reasons of `Fails`; a task of a kind of its own is not among them.

* `succeeds_of_performs` — a step that gives a signal does so in one of the ways of `Succeeds`;
* `exists_case_of_branch` — only a switch branches, and only to the target of one of its cases.
-/

namespace RouteFlow.Run

open Pipeline (BoundStep)
open Fallible

variable {σ : Type}

/-! ### The ways to succeed -/

section Ways

variable (c : Collaborators σ) (deadline? : Option Nanos) (vars : Entries Json) (w : World σ)

/-- **How a task succeeds** that is given `vars` in the world `w`, and with which signal. -/
inductive Succeeds : Task → Signal → Prop
  /-- An assignment goes on with what it assigned. -/
  | assign {entries vars' : Entries Json} (h : assignAll vars entries = .ok vars') :
      Succeeds (.assign entries) (.proceed vars')
  | reply {value answer : Json} (h : evaluate vars value = .ok answer) :
      Succeeds (.reply value) (.stop answer)
  /-- A choice goes on where none of its cases applies. -/
  | pass {cases : List Case} : Succeeds (.choose cases) (.proceed vars)
  /-- A choice goes where one of its cases leads. -/
  | branch {cases : List Case} {case : Case} (hc : case ∈ cases) :
      Succeeds (.choose cases) (.branch case.next vars)
  /-- A call puts the answer to its last attempt under its result. -/
  | call {spec : CallTask} {call : Http.Call} {r : Http.Response} {value : Json}
      (h : (Task.exchanges c deadline? vars w (.call spec)).getLast? = some (.call call (.ok r)))
      (hv : responseValue r = .ok value) :
      Succeeds (.call spec)
        (.proceed (store vars spec.result? (.object [("response", value)])))
  /-- A script puts what the evaluator returned under its result. -/
  | script {spec : ScriptTask} {input value : Json}
      (h : Task.exchanges c deadline? vars w (.script spec) =
        [.script spec.source input (.ok value)]) :
      Succeeds (.script spec) (.proceed (store vars spec.result? value))

end Ways

variable {c : Collaborators σ} {deadline? : Option Nanos} {vars : Entries Json} {w w' : World σ}

/-! ### Single tasks -/

/-- A choice goes on without a branch or goes where one of its cases leads. -/
theorem chooseFrom_ok_cases {cases : List Case} {signal : Signal}
    (h : chooseFrom vars cases = .ok signal) :
    signal = .proceed vars ∨ ∃ case ∈ cases, signal = .branch case.next vars := by
  induction cases with
  | nil => exact .inl (Except.ok.inj h).symm
  | cons case rest ih =>
    rw [chooseFrom, bind_eq_ok_iff] at h
    obtain ⟨v, -, h⟩ := h
    split at h
    · exact .inr ⟨case, List.mem_cons_self, (Except.ok.inj h).symm⟩
    · rcases ih h with hp | ⟨case', hc, hb⟩
      · exact .inl hp
      · exact .inr ⟨case', List.mem_cons_of_mem _ hc, hb⟩

/-- A call that succeeds was answered, and the answer could be read. -/
theorem CallTask.succeeds_of_run {spec : CallTask} {signal : Signal}
    (h : (spec.perform vars).run c deadline? w = (.ok (.ok signal), w')) :
    Succeeds c deadline? vars w (.call spec) signal := by
  -- neither the arguments nor the request can have failed, so the call was sent
  rcases CallTask.run_cases h with ⟨_, -, hf⟩ | ⟨_, _, -, -, hf⟩ | ⟨_, reply, hl, hf⟩
  · exact absurd hf nofun
  · exact absurd hf nofun
  · obtain ⟨r, hr, hfinish⟩ := bind_eq_ok_iff.mp hf.symm
    obtain ⟨value, hv, hsignal⟩ := bind_eq_ok_iff.mp hfinish
    obtain rfl := mapError_eq_ok_iff.mp hr
    rw [← Except.ok.inj hsignal]
    exact .call hl hv

/-- A script that succeeds was evaluated. -/
theorem ScriptTask.succeeds_of_run {spec : ScriptTask} {signal : Signal}
    (h : (spec.perform vars).run c deadline? w = (.ok (.ok signal), w')) :
    Succeeds c deadline? vars w (.script spec) signal := by
  rcases ScriptTask.run_cases h with ⟨_, -, hf⟩ | ⟨_, reply, hx, hf⟩
  · exact absurd hf nofun
  · obtain ⟨value, hv, hsignal⟩ := bind_eq_ok_iff.mp hf.symm
    obtain rfl := mapError_eq_ok_iff.mp hv
    rw [← Except.ok.inj hsignal]
    exact .script hx

/-! ### All tasks -/

/-- **An invocation that gives a signal** has one of the ways of `Succeeds`, unless the task is of a
kind of its own. -/
theorem succeeds_of_performs {s : BoundStep} {signal : Signal}
    (hs : ∀ inCall program, s.task ≠ .custom inCall program)
    (h : Performs c deadline? s vars w (.ok signal) w') :
    Succeeds c deadline? vars w s.task signal := by
  -- only a task that ends by itself gives a signal
  cases h with
  | proceeds hrun =>
    cases ht : s.task with
    | assign entries =>
      rw [ht] at hrun
      obtain ⟨vars', ha, rfl⟩ := map_eq_ok_iff.mp (eq_of_run_done hrun).symm
      exact .assign ha
    | reply value =>
      rw [ht] at hrun
      obtain ⟨answer, ha, rfl⟩ := map_eq_ok_iff.mp (eq_of_run_done hrun).symm
      exact .reply ha
    | choose cases =>
      rw [ht] at hrun
      rcases chooseFrom_ok_cases (eq_of_run_done hrun).symm with rfl | ⟨case, hc, rfl⟩
      · exact .pass
      · exact .branch hc
    | call spec =>
      rw [ht] at hrun
      exact CallTask.succeeds_of_run hrun
    | script spec =>
      rw [ht] at hrun
      exact ScriptTask.succeeds_of_run hrun
    | custom inCall program => exact absurd ht (hs inCall program)

/-- **Only a switch branches**, and only to the target of one of its cases. -/
theorem exists_case_of_branch {s : BoundStep} {vars' : Entries Json} {target : String}
    (hs : ∀ inCall program, s.task ≠ .custom inCall program)
    (h : Performs c deadline? s vars w (.ok (.branch target vars')) w') :
    ∃ cases, s.task = .choose cases ∧ ∃ case ∈ cases, case.next = target := by
  have hsucceeds := succeeds_of_performs hs h
  generalize s.task = task at hsucceeds
  cases hsucceeds with
  | branch hc => exact ⟨_, rfl, _, hc, rfl⟩

end RouteFlow.Run
