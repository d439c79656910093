import RouteFlow.Proofs.Run.Walk
import RouteFlow.Proofs.Template.Faults

/-!
# How steps fail

A step that is invoked fails for a reason that can be read off its task, the variables it was given
and what it exchanged with the world. `Fails` lists the reasons; a task of a kind of its own is not
among them, since it may report whatever it likes.

* `Evaluates` — the values that a task evaluates, each with the variables that it is evaluated
  among;
* `fails_of_performs` — a failed invocation has one of the reasons of `Fails`.
-/

namespace RouteFlow.Run

open Pipeline (BoundStep)
open Fallible

variable {σ : Type}

/-! ### What a task evaluates -/

/-- **A task evaluates a value**, when it is given the variables `vars`, among the variables `ctx`
that it holds at that point. -/
inductive Evaluates (vars : Entries Json) : Task → Entries Json → Json → Prop
  /-- Each entry of an assignment sees what the entries before it assigned. -/
  | assign {before after : Entries Json} {name : String} {value : Json} {ctx : Entries Json}
      (h : assignAll vars before = .ok ctx) :
      Evaluates vars (.assign (before ++ (name, value) :: after)) ctx value
  | reply {value : Json} : Evaluates vars (.reply value) vars value
  /-- The condition of a case is evaluated if none of the cases before it applies. -/
  | choose {before after : List Case} {case : Case}
      (h : chooseFrom vars before = .ok (.proceed vars)) :
      Evaluates vars (.choose (before ++ case :: after)) vars case.condition
  | call {spec : CallTask} : Evaluates vars (.call spec) vars spec.args
  | script {spec : ScriptTask} : Evaluates vars (.script spec) vars spec.input

theorem evaluate_eq_error_iff {vars : Entries Json} {value : Json} {f : Failure} :
    evaluate vars value = .error f ↔
      ∃ e, Template.evaluate vars value = .error e ∧ f = .evaluation e :=
  mapError_eq_error_iff.trans (exists_congr fun _ => and_congr_right fun _ => eq_comm)

/-- An assignment that fails does so at an entry, with what was assigned before it. -/
theorem exists_of_assignAll_error {vars entries : Entries Json} {f : Failure}
    (h : assignAll vars entries = .error f) :
    ∃ ctx value, Evaluates vars (.assign entries) ctx value ∧ evaluate ctx value = .error f := by
  -- the entries before the one that fails are split off one by one
  suffices ∃ before name value after ctx, entries = before ++ (name, value) :: after ∧
      assignAll vars before = .ok ctx ∧ evaluate ctx value = .error f by
    obtain ⟨before, name, value, after, ctx, rfl, hctx, hf⟩ := this
    exact ⟨ctx, value, .assign hctx, hf⟩
  induction entries generalizing vars with
  | nil => simp [assignAll] at h
  | cons entry rest ih =>
    obtain ⟨name, value⟩ := entry
    rw [assignAll, bind_eq_error_iff] at h
    rcases h with h | ⟨v, hv, h⟩
    · exact ⟨[], name, value, rest, vars, rfl, rfl, h⟩
    · -- this entry has a value, so it joins the entries before the one that fails
      obtain ⟨before, name', value', after, ctx, rfl, hctx, hf⟩ := ih h
      have hbefore : assignAll vars ((name, value) :: before) = .ok ctx := by
        rw [assignAll, bind_eq_ok_iff]
        exact ⟨v, hv, hctx⟩
      exact ⟨(name, value) :: before, name', value', after, ctx, rfl, hbefore, hf⟩

/-- A choice that fails does so at a condition, and none of the cases before it applies. -/
theorem exists_of_chooseFrom_error {vars : Entries Json} {cases : List Case} {f : Failure}
    (h : chooseFrom vars cases = .error f) :
    ∃ value, Evaluates vars (.choose cases) vars value ∧ evaluate vars value = .error f := by
  suffices ∃ before case after, cases = before ++ case :: after ∧
      chooseFrom vars before = .ok (.proceed vars) ∧ evaluate vars case.condition = .error f by
    obtain ⟨before, case, after, rfl, hbefore, hf⟩ := this
    exact ⟨case.condition, .choose hbefore, hf⟩
  induction cases with
  | nil => simp [chooseFrom] at h
  | cons case rest ih =>
    rw [chooseFrom, bind_eq_error_iff] at h
    rcases h with h | ⟨v, hv, h⟩
    · exact ⟨[], case, rest, rfl, rfl, h⟩
    · split at h
      · simp at h
      · next hfalse =>
        -- this case does not apply, so it joins the cases before the one that fails
        obtain ⟨before, case', after, rfl, hbefore, hf⟩ := ih h
        have hbefore' : chooseFrom vars (case :: before) = .ok (.proceed vars) := by
          rw [chooseFrom, bind_eq_ok_iff]
          refine ⟨v, hv, ?_⟩
          rw [if_neg hfalse]
          exact hbefore
        exact ⟨case :: before, case', after, rfl, hbefore', hf⟩

/-! ### The reasons of a failure -/

section Reasons

variable (c : Collaborators σ) (deadline? : Option Nanos) (vars : Entries Json) (w : World σ)

/-- What a task that is given `vars` exchanges with the world. -/
def Task.exchanges (task : Task) : List Exchange :=
  (task.perform vars).exchanges c deadline? w

/-- **The deadline passes while a task is pending**: it is cut, and the clock is at the deadline. -/
def TimesOut (task : Task) : Prop :=
  ∃ t w', deadline? = some t ∧
    (task.perform vars).run c deadline? w = (.error .deadline, w') ∧ t ≤ w'.clock

/-- The answer to a call claims to be JSON, is not empty, and is no JSON. -/
structure BadAnswer (r : Http.Response) (fault : Json.TextError) : Prop where
  declared : declaresJson r.headers = true
  nonempty : r.body ≠ []
  fault : Json.ofOctets r.body = .error fault

/-- **Why a task fails** that is given `vars` in the world `w`. -/
inductive Fails : Task → Failure → Prop
  /-- A value that the task evaluates has no value. -/
  | evaluation {task : Task} {ctx : Entries Json} {value : Json} {e : Template.EvalError}
      (hv : Evaluates vars task ctx value) (he : Template.evaluate ctx value = .error e) :
      Fails task (.evaluation e)
  /-- The address of a call is not a string. -/
  | addressNotString {spec : CallTask} {args : Json} (ha : evaluate vars spec.args = .ok args)
      (hu : (args.get? "url").bind Json.text? = none) : Fails (.call spec) .addressNotString
  /-- The address of a call is a string but no address. -/
  | badAddress {spec : CallTask} {args : Json} {text : String} {fault : Url.Fault}
      (ha : evaluate vars spec.args = .ok args)
      (hu : (args.get? "url").bind Json.text? = some text)
      (hp : Url.parse text = .error fault) : Fails (.call spec) (.badAddress text fault)
  /-- The last attempt of a call brought no answer. -/
  | call {spec : CallTask} {call : Http.Call} {e : Http.CallError}
      (h : (Task.exchanges c deadline? vars w (.call spec)).getLast? =
        some (.call call (.error e))) : Fails (.call spec) (.call e)
  /-- The answer to the last attempt of a call is not the JSON that it claims to be. -/
  | badBody {spec : CallTask} {call : Http.Call} {r : Http.Response} {fault : Json.TextError}
      (h : (Task.exchanges c deadline? vars w (.call spec)).getLast? = some (.call call (.ok r)))
      (hr : BadAnswer r fault) : Fails (.call spec) (.badBody fault)
  /-- The evaluator returned an error for a script. -/
  | script {spec : ScriptTask} {input : Json} {e : ScriptError}
      (h : Task.exchanges c deadline? vars w (.script spec) =
        [.script spec.source input (.error e)]) : Fails (.script spec) (.script e)
  | deadline {task : Task} (h : TimesOut c deadline? vars w task) :
      Fails task (.deadline task.isNetworkBound)

end Reasons

variable {c : Collaborators σ} {deadline? : Option Nanos} {vars : Entries Json} {w w' : World σ}

/-! ### Calls -/

theorem callRequest_error_cases {method : Http.Method} {args : Json} {f : Failure}
    (h : callRequest method args = .error f) :
    (f = .addressNotString ∧ (args.get? "url").bind Json.text? = none) ∨
      ∃ text fault, f = .badAddress text fault ∧
        (args.get? "url").bind Json.text? = some text ∧ Url.parse text = .error fault := by
  rw [callRequest, bind_eq_error_iff] at h
  rcases h with h | ⟨url, -, h⟩
  · -- only the address can be at fault
    unfold callAddress at h
    split at h
    · next hu => exact .inl ⟨(Except.error.inj h).symm, hu⟩
    · next text hu =>
      rcases bind_eq_error_iff.mp h with h | ⟨url, -, h⟩
      · obtain ⟨fault, hp, hf⟩ := mapError_eq_error_iff.mp h
        exact .inr ⟨text, fault, hf.symm, hu, hp⟩
      · split at h <;> simp at h
  · split at h <;> simp at h

theorem bodyValue_eq_error_iff {r : Http.Response} {f : Failure} :
    bodyValue r = .error f ↔ ∃ fault, BadAnswer r fault ∧ f = .badBody fault := by
  unfold bodyValue
  constructor
  · intro h
    split at h
    · simp at h
    · next hne =>
      split at h
      · next hd =>
        obtain ⟨fault, hp, hf⟩ := mapError_eq_error_iff.mp h
        exact ⟨fault, ⟨hd, by simpa using hne, hp⟩, hf.symm⟩
      · simp at h
  · rintro ⟨fault, hr, rfl⟩
    rw [if_neg (by simpa using hr.nonempty), if_pos hr.declared, hr.fault]
    rfl

/-- A call that brought a reply fails if the reply is an error or an answer that cannot be read. -/
theorem CallTask.finish_error_cases {spec : CallTask}
    {reply : Except Http.CallError Http.Response} {f : Failure}
    (h : spec.finish vars reply = .error f) :
    (∃ e, reply = .error e ∧ f = .call e) ∨
      ∃ r fault, reply = .ok r ∧ BadAnswer r fault ∧ f = .badBody fault := by
  rcases bind_eq_error_iff.mp h with h | ⟨r, hr, h⟩
  · obtain ⟨e, he, hf⟩ := mapError_eq_error_iff.mp h
    exact .inl ⟨e, he, hf.symm⟩
  · -- an answer becomes a value unless its body cannot be read
    rcases bind_eq_error_iff.mp h with h | ⟨_, -, h⟩
    · rcases bind_eq_error_iff.mp h with h | ⟨_, -, h⟩
      · obtain ⟨fault, hbad, hf⟩ := bodyValue_eq_error_iff.mp h
        exact .inr ⟨r, fault, mapError_eq_ok_iff.mp hr, hbad, hf⟩
      · simp at h
    · simp at h

/-- **How a call ends**: before it is sent, for want of its arguments or an address, or with what
is made of the reply to its last attempt. -/
theorem CallTask.run_cases {spec : CallTask} {result : Result}
    (h : (spec.perform vars).run c deadline? w = (.ok result, w')) :
    (∃ f, evaluate vars spec.args = .error f ∧ result = .error f) ∨
      (∃ args f, evaluate vars spec.args = .ok args ∧ callRequest spec.method args = .error f ∧
        result = .error f) ∨
      ∃ call reply,
        (Task.exchanges c deadline? vars w (.call spec)).getLast? = some (.call call reply) ∧
          result = spec.finish vars reply := by
  have hx : Task.exchanges c deadline? vars w (.call spec) = (spec.perform vars).exchanges
    c deadline? w := rfl
  unfold CallTask.perform at h hx
  cases ha : evaluate vars spec.args with
  | error f =>
    rw [ha] at h
    exact .inl ⟨f, rfl, eq_of_run_done h⟩
  | ok args =>
    cases hq : callRequest spec.method args with
    | error f =>
      simp only [ha, hq, Action.ofExcept] at h
      exact .inr (.inl ⟨args, f, rfl, hq, eq_of_run_done h⟩)
    | ok request =>
      simp only [ha, hq, Action.ofExcept] at h hx
      rw [run_bind] at h
      split at h
      · next reply w₁ hsend =>
        -- nothing is exchanged after the last attempt
        rw [exchanges_bind, hsend] at hx
        simp only [Action.exchanges, List.append_nil] at hx
        rw [hx]
        exact .inr (.inr ⟨_, reply, getLast?_exchanges_sendCall hsend, eq_of_run_done h⟩)
      · simp at h
      · simp at h

/-- A call that fails has one of the reasons of `Fails`. -/
theorem CallTask.fails_of_run {spec : CallTask} {f : Failure}
    (h : (spec.perform vars).run c deadline? w = (.ok (.error f), w')) :
    Fails c deadline? vars w (.call spec) f := by
  rcases CallTask.run_cases h with ⟨f', ha, hf⟩ | ⟨args, f', ha, hq, hf⟩ | ⟨call, reply, hl, hf⟩
  · obtain ⟨e, he, rfl⟩ := evaluate_eq_error_iff.mp ha
    obtain rfl := Except.error.inj hf
    exact .evaluation .call he
  · obtain rfl := Except.error.inj hf
    rcases callRequest_error_cases hq with ⟨rfl, hu⟩ | ⟨text, fault, rfl, hu, hp⟩
    · exact .addressNotString ha hu
    · exact .badAddress ha hu hp
  · rcases CallTask.finish_error_cases hf.symm with ⟨e, rfl, rfl⟩ | ⟨r, fault, rfl, hbad, rfl⟩
    · exact .call hl
    · exact .badBody hl hbad

/-! ### Scripts -/

/-- **How a script ends**: before it is handed over, for want of its input, or with what is made of
the reply. -/
theorem ScriptTask.run_cases {spec : ScriptTask} {result : Result}
    (h : (spec.perform vars).run c deadline? w = (.ok result, w')) :
    (∃ f, evaluate vars spec.input = .error f ∧ result = .error f) ∨
      ∃ input reply,
        Task.exchanges c deadline? vars w (.script spec) = [.script spec.source input reply] ∧
          result = spec.finish vars reply := by
  have hx : Task.exchanges c deadline? vars w (.script spec) = (spec.perform vars).exchanges
    c deadline? w := rfl
  unfold ScriptTask.perform at h hx
  cases hi : evaluate vars spec.input with
  | error f =>
    rw [hi] at h
    exact .inl ⟨f, rfl, eq_of_run_done h⟩
  | ok input =>
    simp only [hi, Action.ofExcept, Action.run, Action.exchanges] at h hx
    split at h
    · next hw =>
      rw [hw] at hx
      exact .inr ⟨input, _, hx, (Ending.ok.inj (Prod.mk.inj h).1).symm⟩
    · simp at h

/-- A script that fails has one of the reasons of `Fails`. -/
theorem ScriptTask.fails_of_run {spec : ScriptTask} {f : Failure}
    (h : (spec.perform vars).run c deadline? w = (.ok (.error f), w')) :
    Fails c deadline? vars w (.script spec) f := by
  rcases ScriptTask.run_cases h with ⟨f', hi, hf⟩ | ⟨input, reply, hx, hf⟩
  · obtain ⟨e, he, rfl⟩ := evaluate_eq_error_iff.mp hi
    obtain rfl := Except.error.inj hf
    exact .evaluation .script he
  · rcases bind_eq_error_iff.mp hf.symm with hf | ⟨_, -, hf⟩
    · obtain ⟨e, rfl, rfl⟩ := mapError_eq_error_iff.mp hf
      exact .script hx
    · simp at hf

/-! ### All tasks -/

/-- **A failed invocation has a reason**, unless the task is of a kind of its own. -/
theorem fails_of_performs {s : BoundStep} {f : Failure}
    (hs : ∀ inCall program, s.task ≠ .custom inCall program)
    (h : Performs c deadline? s vars w (.error f) w') :
    Fails c deadline? vars w s.task f := by
  cases h with
  | fails hrun =>
    cases ht : s.task with
    | assign entries =>
      rw [ht] at hrun
      have hassign := map_eq_error_iff.mp (eq_of_run_done hrun).symm
      obtain ⟨ctx, value, hv, hf⟩ := exists_of_assignAll_error hassign
      obtain ⟨e, he, rfl⟩ := evaluate_eq_error_iff.mp hf
      exact .evaluation hv he
    | reply value =>
      rw [ht] at hrun
      have hreply := map_eq_error_iff.mp (eq_of_run_done hrun).symm
      obtain ⟨e, he, rfl⟩ := evaluate_eq_error_iff.mp hreply
      exact .evaluation .reply he
    | choose cases =>
      rw [ht] at hrun
      obtain ⟨value, hv, hf⟩ := exists_of_chooseFrom_error (eq_of_run_done hrun).symm
      obtain ⟨e, he, rfl⟩ := evaluate_eq_error_iff.mp hf
      exact .evaluation hv he
    | call spec =>
      rw [ht] at hrun
      exact CallTask.fails_of_run hrun
    | script spec =>
      rw [ht] at hrun
      exact ScriptTask.fails_of_run hrun
    | custom inCall program => exact absurd ht (hs inCall program)
  | isCut hrun =>
    obtain ⟨t, hd, hw⟩ := exists_deadline_of_run_cut hrun
    exact .deadline ⟨t, w', hd, hrun, hw⟩

/-! ### The kinds of failure -/

theorem Fails.exists_of_evaluation {task : Task} {e : Template.EvalError}
    (h : Fails c deadline? vars w task (.evaluation e)) :
    ∃ ctx value, Evaluates vars task ctx value ∧ Template.evaluate ctx value = .error e := by
  cases h with
  | evaluation hv he => exact ⟨_, _, hv, he⟩

/-- A task that is not of a kind of its own never fails for want of a step. -/
theorem Fails.cause_ne {task : Task} {f : Failure} (h : Fails c deadline? vars w task f) :
    f.kind.cause ≠ .pipelineIntegrity := by
  -- a look at each kind; evaluation and the deadline have two
  cases h with
  | @evaluation _ _ _ e _ _ => cases e <;> simp [Failure.kind, FailureKind.cause]
  | deadline _ => cases task.isNetworkBound <;> simp [Failure.kind, FailureKind.cause]
  | addressNotString _ _ => simp [Failure.kind, FailureKind.cause]
  | badAddress _ _ _ => simp [Failure.kind, FailureKind.cause]
  | call _ => simp [Failure.kind, FailureKind.cause]
  | badBody _ _ => simp [Failure.kind, FailureKind.cause]
  | script _ => simp [Failure.kind, FailureKind.cause]

end RouteFlow.Run
