import RouteFlow.Proofs.Entries
import RouteFlow.Proofs.Pipeline.Binding

/-!
# The tasks that the standard kinds make

A step bound with the standard kinds and `script` has one of five tasks, made of its parameters
(`Makes`). The kind decides which, and no task is of a kind of its own.

* `makes_of_buildTask` — the task of a step that was bound;
* `exists_makes_of_bind` — every step of a bound pipeline, with the step of the document that it
  comes from.
-/

namespace RouteFlow.Pipeline

open Document (Step)
open Fallible

variable {settings : Run.CallSettings}

/-- The standard kinds with `script`. -/
def Registry.full (settings : Run.CallSettings) : Registry :=
  (Registry.standard settings).withScript

/-- The kind of a call is none of the other kinds. -/
theorem callKind_ne (m : Http.Method) :
    callKind m ≠ "assign" ∧ callKind m ≠ "return" ∧ callKind m ≠ "switch" ∧
      callKind m ≠ "script" := by
  cases m <;> decide +kernel

/-- A kind that is looked up in the full registry is a standard one or `script`. -/
theorem get?_full_cases {kind : String} {factory : Factory}
    (h : (Registry.full settings).get? kind = some factory) :
    (kind = "assign" ∧ factory = assignTask) ∨ (kind = "return" ∧ factory = returnTask) ∨
      (kind = "switch" ∧ factory = switchTask) ∨ (kind = "script" ∧ factory = scriptTask) ∨
      ∃ m ∈ callMethods, kind = callKind m ∧ factory = callTask settings m := by
  unfold Registry.full Registry.withScript at h
  rw [Entries.get?_insert] at h
  split at h
  · next hk => exact .inr (.inr (.inr (.inl ⟨hk.symm, (Option.some.inj h).symm⟩)))
  · -- any other kind is among the standard ones
    have hm := Entries.mem_of_get? h
    simp only [Registry.standard, List.mem_append, List.mem_cons, List.not_mem_nil, or_false,
      Prod.mk.injEq, List.mem_map] at hm
    rcases hm with (h | h | h) | ⟨m, hmem, hk, hf⟩
    · exact .inl h
    · exact .inr (.inl h)
    · exact .inr (.inr (.inl h))
    · exact .inr (.inr (.inr (.inr ⟨m, hmem, hk.symm, hf.symm⟩)))

/-- A case of a switch is read from a condition and the name of a step. -/
structure ReadsCase (raw : Json) (case : Run.Case) : Prop where
  condition : raw.get? "condition" = some case.condition
  next : (raw.get? "next").bind Json.text? = some case.next

theorem readCases_eq_ok_iff {i : Nat} {raw : List Json} {cases : List Run.Case} :
    readCases i raw = .ok cases ↔ List.Forall₂ ReadsCase raw cases := by
  induction raw generalizing i cases with
  | nil => cases cases <;> simp [readCases]
  | cons c rest ih =>
    rw [List.forall₂_cons_left_iff, readCases]
    split
    · next hc =>
      refine ⟨fun h => by simp at h, ?_⟩
      rintro ⟨case, _, hcase, -, -⟩
      exact absurd (hc.symm.trans hcase.condition) nofun
    · next hn _ =>
      refine ⟨fun h => by simp at h, ?_⟩
      rintro ⟨case, _, hcase, -, -⟩
      exact absurd (hn.symm.trans hcase.next) nofun
    · next condition next hc hn =>
      rw [Fallible.bind_eq_ok_iff]
      simp only [ih]
      constructor
      · rintro ⟨others, ho, h⟩
        exact ⟨_, others, ⟨hc, hn⟩, ho, (Except.ok.inj h).symm⟩
      · rintro ⟨⟨condition', next'⟩, others, hcase, ho, rfl⟩
        obtain rfl := Option.some.inj (hc.symm.trans hcase.condition)
        obtain rfl := Option.some.inj (hn.symm.trans hcase.next)
        exact ⟨others, ho, rfl⟩

/-- The result of a call is a name, if there is one at all. -/
theorem callResult?_eq_ok_iff {s : Step} {result? : Option String} :
    callResult? s = .ok result? ↔ s.param? "result" = result?.map .string := by
  unfold callResult?
  split
  · next h => cases result? <;> simp [h]
  · next name h => cases result? <;> simp [h]
  · next value hne h =>
    -- what is neither absent nor a name is refused
    have hvalue : ∀ name, value ≠ .string name := hne
    cases result? <;> simp [h, hvalue]

/-- **What the standard kinds make of a step.** -/
inductive Makes (settings : Run.CallSettings) (s : Step) : Run.Task → Prop
  | assign {entries : Entries Json} (hk : s.kind? = some "assign")
      (hp : s.param? "assign" = some (.object entries)) : Makes settings s (.assign entries)
  | reply {value : Json} (hk : s.kind? = some "return")
      (hp : s.param? "return" = some value) : Makes settings s (.reply value)
  | choose {raw : List Json} {cases : List Run.Case} (hk : s.kind? = some "switch")
      (hp : s.param? "switch" = some (.array raw)) (hc : List.Forall₂ ReadsCase raw cases) :
      Makes settings s (.choose cases)
  | call {m : Http.Method} {args : Entries Json} {result? : Option String}
      (hk : s.kind? = some (callKind m)) (hp : s.param? "args" = some (.object args))
      (hr : callResult? s = .ok result?) :
      Makes settings s (.call ⟨m, .object args, result?, settings⟩)
  | script {body : Json} {source : String} (hk : s.kind? = some "script")
      (hp : s.param? "script" = some body)
      (hs : (body.get? "source").bind Json.text? = some source) :
      Makes settings s (.script ⟨source, (body.get? "input").getD .null,
        (s.param? "result").bind Json.text?⟩)

/-- **The task of a step** that is built with the full registry is one that its kind makes. -/
theorem makes_of_buildTask {s : Step} {task : Run.Task}
    (h : buildTask (.full settings) s = .ok task) : Makes settings s task := by
  obtain ⟨kind, factory, hk, -, hf, ht⟩ := buildTask_eq_ok_iff.mp h
  -- each factory has one way to succeed, and its other branches are refuted
  rcases get?_full_cases hf with
    ⟨rfl, rfl⟩ | ⟨rfl, rfl⟩ | ⟨rfl, rfl⟩ | ⟨rfl, rfl⟩ | ⟨m, -, rfl, rfl⟩
  · unfold assignTask at ht
    split at ht
    · next hp => rw [← Except.ok.inj ht]; exact .assign hk hp
    · simp at ht
  · unfold returnTask at ht
    split at ht
    · next hp => rw [← Except.ok.inj ht]; exact .reply hk hp
    · simp at ht
  · unfold switchTask at ht
    split at ht
    · next hp =>
      obtain ⟨cases, hc, rfl⟩ := map_eq_ok_iff.mp ht
      exact .choose hk hp (readCases_eq_ok_iff.mp hc)
    · simp at ht
  · unfold scriptTask at ht
    split at ht
    · simp at ht
    · next body hp =>
      split at ht
      · simp at ht
      · next hs => rw [← Except.ok.inj ht]; exact .script hk hp hs
  · unfold callTask at ht
    split at ht
    · next hp =>
      split at ht
      · obtain ⟨result?, hr, ht⟩ := Fallible.bind_eq_ok_iff.mp ht
        rw [← Except.ok.inj ht]
        exact .call hk hp hr
      · simp at ht
    · simp at ht

/-- **Every step of a pipeline bound with the full registry** comes from a step of the document,
has its name and its `next`, and does what its kind makes of it. -/
theorem exists_makes_of_bind {doc : Document} {p : Pipeline}
    (h : bind (.full settings) doc = .ok p) {b : BoundStep} (hb : b ∈ p.steps) :
    ∃ s ∈ doc.steps, Binds (.full settings) (doc.steps.map (·.name)) s b ∧
      Makes settings s b.task := by
  obtain ⟨s, hs, hbinds⟩ := exists_binds_of_bind h hb
  exact ⟨s, hs, hbinds, makes_of_buildTask hbinds.task⟩

/-- No step of such a pipeline is of a kind of its own. -/
theorem task_ne_custom_of_bind {doc : Document} {p : Pipeline}
    (h : bind (.full settings) doc = .ok p) {b : BoundStep} (hb : b ∈ p.steps) (inCall : Bool)
    (program : Entries Json → Run.Action Run.Result) : b.task ≠ .custom inCall program := by
  obtain ⟨s, -, -, hm⟩ := exists_makes_of_bind h hb
  intro ht
  rw [ht] at hm
  cases hm

/-- A step that the standard kinds know is built by them as with `script` on top. -/
theorem buildTask_full_of_standard {s : Step} {task : Run.Task}
    (h : buildTask (.standard settings) s = .ok task) :
    buildTask (.full settings) s = .ok task := by
  obtain ⟨kind, factory, hk, hne, hf, ht⟩ := buildTask_eq_ok_iff.mp h
  have hscript : "script" ≠ kind := by
    rintro rfl
    have hm := Entries.mem_of_get? hf
    simp only [Registry.standard, List.mem_append, List.mem_cons, List.not_mem_nil, or_false,
      Prod.mk.injEq, List.mem_map] at hm
    rcases hm with (⟨hname, -⟩ | ⟨hname, -⟩ | ⟨hname, -⟩) | ⟨m, -, hname, -⟩
    · exact absurd hname (by decide)
    · exact absurd hname (by decide)
    · exact absurd hname (by decide)
    · exact (callKind_ne m).2.2.2 hname
  refine buildTask_eq_ok_iff.mpr ⟨kind, factory, hk, hne, ?_, ht⟩
  rw [Registry.full, Registry.withScript, Entries.get?_insert, if_neg hscript, hf]

/-- **Every step of a pipeline bound with the standard kinds alone** does what its kind makes of a
step of the document. -/
theorem exists_makes_of_bind_standard {doc : Document} {p : Pipeline}
    (h : bind (.standard settings) doc = .ok p) {b : BoundStep} (hb : b ∈ p.steps) :
    ∃ s ∈ doc.steps, Makes settings s b.task := by
  obtain ⟨s, hs, hbinds⟩ := exists_binds_of_bind h hb
  exact ⟨s, hs, makes_of_buildTask (buildTask_full_of_standard hbinds.task)⟩

end RouteFlow.Pipeline
