import RouteFlow.Proofs.Entries
import RouteFlow.Proofs.Pipeline.StandardTasks
import RouteFlow.Proofs.Run.Course
import RouteFlow.Proofs.Run.Signals

/-!
# What a run does to its variables

A step writes the variables that it declares to write: an assignment those that its mapping names,
a call or a script the one under `result` (`Writes`). Every other variable keeps its value through
any number of steps, in whatever order a run takes them, and no variable is ever removed, since a
step that goes on hands on the variables that it was given with at most some values put in
(`Keeps`).

* `keeps_of_succeeds` — what one step keeps;
* `Reaches.keeps`, `Stops.keeps` — what the way from one stage to another, and to the answer, keeps;
* `only_writers_write` — the variables of a whole run.
-/

namespace RouteFlow.Run

open Pipeline (BoundStep Makes callKind callKind_ne)
open Document (Step)
open Fallible

variable {σ : Type} {settings : CallSettings} {doc : Document}

/-! ### What is declared -/

/-- **A step declares that it writes a variable.** -/
inductive Writes (s : Step) : String → Prop
  | assign {entries : Entries Json} {name : String} (hk : s.kind? = some "assign")
      (hp : s.param? "assign" = some (.object entries)) (hn : name ∈ entries.names) :
      Writes s name
  | call {m : Http.Method} {name : String} (hk : s.kind? = some (callKind m))
      (hr : s.param? "result" = some (.string name)) : Writes s name
  | script {name : String} (hk : s.kind? = some "script")
      (hr : s.param? "result" = some (.string name)) : Writes s name

/-- Some step of a document writes the variable. -/
def Written (doc : Document) (name : String) : Prop := ∃ s ∈ doc.steps, Writes s name

/-- **A step that writes nothing**: a switch, and a call or a script that names no result. -/
inductive WritesNothing (s : Step) : Prop
  | choose (hk : s.kind? = some "switch")
  | call {m : Http.Method} (hk : s.kind? = some (callKind m)) (hr : s.param? "result" = none)
  | script (hk : s.kind? = some "script") (hr : s.param? "result" = none)

/-! ### What is kept -/

/-- **From `before` to `after` only `written` variables changed**, and none was removed. -/
structure Keeps (written : String → Prop) (before after : Entries Json) : Prop where
  /-- Any other variable has the value that it had, and is absent if it was. -/
  value : ∀ name, ¬ written name → after.get? name = before.get? name
  /-- The variables that were there are there, in their order and before any new one. -/
  names : before.names <+: after.names

namespace Keeps

variable {written written' : String → Prop} {vars vars' vars'' : Entries Json}

theorem refl : Keeps written vars vars := ⟨fun _ _ => rfl, List.prefix_refl _⟩

theorem trans (h : Keeps written vars vars') (h' : Keeps written vars' vars'') :
    Keeps written vars vars'' :=
  ⟨fun name hn => (h'.value name hn).trans (h.value name hn), h.names.trans h'.names⟩

theorem mono (h : Keeps written vars vars') (hw : ∀ name, written name → written' name) :
    Keeps written' vars vars' :=
  ⟨fun name hn => h.value name (mt (hw name) hn), h.names⟩

theorem insert {name : String} (hw : written name) (v : Json) :
    Keeps written vars (vars.insert name v) := by
  refine ⟨fun other hn => ?_, Entries.names_prefix_insert vars name v⟩
  have hne : name ≠ other := by
    rintro rfl
    exact hn hw
  rw [Entries.get?_insert, if_neg hne]

/-- A result is put under its name, if it has one. -/
theorem store {result? : Option String} (hw : ∀ name, result? = some name → written name)
    (v : Json) : Keeps written vars (store vars result? v) := by
  cases result? with
  | none => exact refl
  | some name => exact insert (hw name rfl) v

/-- An assignment puts in its entries one after the other. -/
theorem assignAll {entries : Entries Json} (hw : ∀ name ∈ entries.names, written name)
    (h : assignAll vars entries = .ok vars') : Keeps written vars vars' := by
  induction entries generalizing vars with
  | nil =>
    obtain rfl := Except.ok.inj h
    exact refl
  | cons entry rest ih =>
    obtain ⟨name, value⟩ := entry
    obtain ⟨v, -, hrest⟩ := bind_eq_ok_iff.mp h
    have hfirst : written name := hw name List.mem_cons_self
    have hothers : ∀ n ∈ Entries.names rest, written n :=
      fun n hn => hw n (List.mem_cons_of_mem _ hn)
    exact (insert hfirst v).trans (ih hothers hrest)

end Keeps

/-! ### Steps -/

/-- The variables that a signal hands on. -/
def Signal.vars? : Signal → Option (Entries Json)
  | .proceed vars | .branch _ vars => some vars
  | .stop _ => none

section Tasks

variable {c : Collaborators σ} {deadline? : Option Nanos} {vars vars' : Entries Json} {w : World σ}
variable {s : Step} {task : Task} {signal : Signal}

/-- **What a step keeps**: all variables but those that it declares to write. -/
theorem keeps_of_succeeds (hm : Makes settings s task)
    (h : Succeeds c deadline? vars w task signal) (hv : signal.vars? = some vars') :
    Keeps (Writes s) vars vars' := by
  cases h with
  | assign ha =>
    obtain rfl := Option.some.inj hv
    cases hm with
    | assign hk hp => exact .assignAll (fun name hn => .assign hk hp hn) ha
  | reply _ => exact absurd hv nofun
  | pass =>
    obtain rfl := Option.some.inj hv
    exact .refl
  | branch _ =>
    obtain rfl := Option.some.inj hv
    exact .refl
  | call _ _ =>
    obtain rfl := Option.some.inj hv
    cases hm with
    | call hk _ hr =>
      refine .store (fun name hn => .call hk ?_) _
      rw [Pipeline.callResult?_eq_ok_iff.mp hr]
      exact congrArg (Option.map Json.string) hn
  | script _ =>
    obtain rfl := Option.some.inj hv
    cases hm with
    | script hk _ _ =>
      refine .store (fun name hn => .script hk ?_) _
      -- a `result` that is no text is none
      obtain ⟨value, hp, ht⟩ := Option.bind_eq_some_iff.mp hn
      cases value <;> simp_all [Json.text?]

/-- **A step that writes nothing** hands on the variables as they are. -/
theorem vars?_of_writesNothing (hm : Makes settings s task) (hs : WritesNothing s)
    (h : Succeeds c deadline? vars w task signal) : signal.vars? = some vars := by
  -- a kind that writes nothing is not that of an assignment or of an answer
  have hkind : s.kind? ≠ some "assign" ∧ s.kind? ≠ some "return" := by
    cases hs with
    | choose hk => rw [hk]; simp
    | @call m hk _ => rw [hk]; simpa using ⟨(callKind_ne m).1, (callKind_ne m).2.1⟩
    | script hk _ => rw [hk]; simp
  cases hm with
  | assign hk _ => exact absurd hk hkind.1
  | reply hk _ => exact absurd hk hkind.2
  | choose _ _ _ => cases h <;> rfl
  | @call m args result? hk _ hr =>
    have hnone : s.param? "result" = none := by
      cases hs with
      | choose hk' => exact absurd (Option.some.inj (hk.symm.trans hk')) (callKind_ne m).2.2.1
      | call _ hn => exact hn
      | script hk' _ => exact absurd (Option.some.inj (hk.symm.trans hk')) (callKind_ne m).2.2.2
    rw [Pipeline.callResult?_eq_ok_iff, hnone] at hr
    obtain rfl := Option.map_eq_none_iff.mp hr.symm
    cases h
    rfl
  | script hk _ _ =>
    have hnone : s.param? "result" = none := by
      cases hs with
      | choose hk' => exact absurd (Option.some.inj (hk.symm.trans hk')) (by decide)
      | @call m hk' _ => exact absurd (Option.some.inj (hk'.symm.trans hk)) (callKind_ne m).2.2.2
      | script _ hn => exact hn
    rw [hnone] at h
    cases h
    rfl

end Tasks

/-! ### Runs -/

section Runs

variable {u : Setup σ}

/-- What an invocation keeps of the variables that it hands on. -/
theorem Invokes.keeps (hb : Pipeline.bind (.full settings) doc = .ok u.pipeline) {q : Stage σ}
    {s : BoundStep} {signal : Signal} {w : World σ} {vars : Entries Json}
    (h : Invokes u q s (.ok signal) w) (hv : signal.vars? = some vars) :
    Keeps (Written doc) q.vars vars := by
  have hmem := Pipeline.mem_of_stepAt? h.step
  obtain ⟨step, hstep, -, hm⟩ := Pipeline.exists_makes_of_bind hb hmem
  have hs := succeeds_of_performs (Pipeline.task_ne_custom_of_bind hb hmem) h.result
  exact (keeps_of_succeeds hm hs hv).mono fun name hn => ⟨step, hstep, hn⟩

theorem Names.vars?_eq {s : BoundStep} {signal : Signal} {target : String} {vars : Entries Json}
    (h : Names s signal target vars) : signal.vars? = some vars := by
  cases h <;> rfl

/-- What the way from one stage to another keeps. The induction is along the advances. -/
theorem Reaches.keeps (hb : Pipeline.bind (.full settings) doc = .ok u.pipeline) {q q' : Stage σ}
    (h : Reaches u q q') : Keeps (Written doc) q.vars q'.vars := by
  induction h with
  | refl => exact .refl
  | tail _ ha ih =>
    cases ha with
    | following hi _ => exact ih.trans (hi.keeps hb rfl)
    | jump hi hm _ _ _ => exact ih.trans (hi.keeps hb hm.vars?_eq)

/-- **The answer of a run that no step stopped** is made of variables that are kept up to the
end. -/
theorem Stops.keeps (hb : Pipeline.bind (.full settings) doc = .ok u.pipeline) {q : Stage σ}
    {report : Report} {w : World σ} (h : Stops u q report w) {body : Json}
    (ho : report.outcome = .ok ⟨body, false⟩) :
    ∃ vars, body = .object vars ∧ Keeps (Written doc) q.vars vars := by
  cases h with
  | pastLast _ =>
    obtain rfl := (Output.mk.inj (Ending.ok.inj ho)).1
    exact ⟨_, rfl, .refl⟩
  | ended hi hm =>
    obtain rfl := (Output.mk.inj (Ending.ok.inj ho)).1
    exact ⟨_, rfl, hi.keeps hb hm.vars?_eq⟩
  | stopped _ => exact absurd (Output.mk.inj (Ending.ok.inj ho)).2 nofun
  | exhausted _ _ => exact absurd ho nofun
  | failed _ => exact absurd ho nofun
  | lost _ _ _ _ => exact absurd ho nofun
  | crashed _ => exact absurd ho nofun

/-- A run begins with one variable, what is kept of the request. -/
theorem get?_initialVariables (d : Document.Declaration) (r : Request) (name : String) :
    (initialVariables d r).get? name =
      if incoming = name then
        some (.object [("body", .object (keptBody d r.body)),
          ("params", .object (keptParams d r.params))])
      else none := rfl

end Runs

/-- **Only declared writers write.** For every request, all limits, every deadline and whatever the
collaborators answer, a run of a bound pipeline begins with the variable `incoming` alone. At every
stage that it reaches, so at every invocation of a step, each variable that no step of the document
writes has the value that it had at first, and is absent if it was; from one stage to a later one
no variable is removed; and the same is true of the answer of a run that no step stopped, which is
made of the variables at its end. A switch, and a call or a script without `result`, hand on what
they were given, in the same order. -/
theorem only_writers_write {p : Pipeline} (hb : Pipeline.bind (.full settings) doc = .ok p)
    (c : Collaborators σ) (limits : Settings) (deadline? : Option Nanos) (r : Request)
    (w : World σ) :
    let u : Setup σ := ⟨c, p, limits, deadline?⟩
    let first := initialVariables p.declaration r
    (∀ name, first.get? name =
      if incoming = name then
        some (.object [("body", .object (keptBody p.declaration r.body)),
          ("params", .object (keptParams p.declaration r.params))])
      else none) ∧
    ∀ q, Reaches u (u.start r w) q →
      Keeps (Written doc) first q.vars ∧
      (∀ q', Reaches u q q' → Keeps (Written doc) q.vars q'.vars) ∧
      (∀ body, (runUntil c limits deadline? p r w).report.outcome = .ok ⟨body, false⟩ →
        ∃ vars, body = .object vars ∧ Keeps (Written doc) first vars ∧
          Keeps (Written doc) q.vars vars) ∧
      ∀ b signal w', Invokes u q b (.ok signal) w' →
        ∀ s ∈ doc.steps, s.name = b.name → WritesNothing s → signal.vars? = some q.vars := by
  intro u first
  have hindex := Pipeline.indexed_of_bind hb
  refine ⟨get?_initialVariables _ _, fun q hq => ?_⟩
  have hfirst : Keeps (Written doc) first q.vars := hq.keeps (u := u) hb
  refine ⟨hfirst, fun q' hq' => hq'.keeps (u := u) hb, ?_, ?_⟩
  · intro body ho
    -- from this stage the run goes on to its end
    obtain ⟨q', hq', hs⟩ := exists_stops_of_reaches (u := u) hindex hq
    obtain ⟨vars, hbody, hlast⟩ := hs.keeps hb ho
    have hrest := (hq'.keeps (u := u) hb).trans hlast
    exact ⟨vars, hbody, hfirst.trans hrest, hrest⟩
  · intro b signal w' hi s hs hname hn
    have hmem := Pipeline.mem_of_stepAt? hi.step
    obtain ⟨s', hs', hbinds, hm⟩ := Pipeline.exists_makes_of_bind hb hmem
    -- the names of a bound document are distinct, so this is the step that was bound
    have hdoc := (Pipeline.bind_eq_ok_iff.mp hb).distinct
    obtain rfl := List.inj_on_of_nodup_map hdoc hs hs' (hname.trans hbinds.name)
    exact vars?_of_writesNothing hm hn
      (succeeds_of_performs (Pipeline.task_ne_custom_of_bind hb hmem) hi.result)

/-- Notes something and goes through a gate that leads to the end. -/
def ledger : Document where
  name := "ledger"
  declaration? := some bareDeclaration
  steps := [
    ⟨"note", some "assign", none, [("assign", .object [("n", .string "one")])]⟩,
    ⟨"gate", some "switch", some "note", [("switch", .array [
      .object [("condition", .string "$\x7bn\x7d"), ("next", .string "end")]])]⟩]

/-- The note is written, and what was kept of the request is as it was. -/
theorem only_writers_write_ledger :
    ∃ p, Pipeline.bind (.full .standard) ledger = .ok p ∧ ∃ vars : Entries Json,
      (runUntil .mute .standard none p bareRequest .initial).report.outcome.toOption =
        some ⟨.object vars, false⟩ ∧
      vars.get? "n" = some (.string "one") ∧
      Keeps (Written ledger) (initialVariables p.declaration bareRequest) vars := by
  refine ⟨_, rfl, _, rfl, rfl, ?_⟩
  obtain ⟨-, hall⟩ := only_writers_write
    (rfl : Pipeline.bind (.full .standard) ledger = .ok _) .mute .standard none bareRequest
    .initial
  obtain ⟨-, -, hend, -⟩ := hall _ .refl
  obtain ⟨vars, hbody, hkeeps, -⟩ := hend _ rfl
  obtain rfl := Json.object.inj hbody
  exact hkeeps

end RouteFlow.Run
