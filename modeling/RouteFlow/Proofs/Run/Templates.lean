import RouteFlow.Proofs.Document.Validity
import RouteFlow.Proofs.Pipeline.StandardTasks
import RouteFlow.Proofs.Run.Course
import RouteFlow.Proofs.Run.Faults

/-!
# Templates that a run evaluates

Validation checks the parameters of a step as a whole, and a task evaluates parts of them of its
own choice: the entries of an assignment, the conditions of a switch, the input of a script. Every
part that a task evaluates lies within what was checked (`strings_subset_of_evaluates`), also for a
script, whose source is taken out before the check and which evaluates its input alone. So the
templates of a valid pipeline parse whatever the variables hold, and a text that a request or an
answer brings along is never read as a template.

* `evaluated_templates_parse` — no template of a valid pipeline is malformed, in any run.
-/

namespace RouteFlow.Run

open Pipeline (BoundStep Makes callKind_ne)
open Document (Step)

variable {σ : Type} {settings : CallSettings} {doc : Document} {p : Pipeline}

/-! ### What is checked -/

/-- A parameter of a step that is not a script is checked as a whole. -/
theorem strings_subset_of_param {s : Step} {key : String} {value : Json}
    (hk : s.kind ≠ "script") (hp : s.param? key = some value) :
    Template.strings value ⊆ Template.strings s.evaluatedParameters := by
  unfold Step.evaluatedParameters
  rw [if_neg hk]
  exact Template.strings_subset_of_mem_members (Entries.mem_of_get? hp)

/-- The input of a script is checked: it stays when the source is taken out. -/
theorem strings_subset_of_input {s : Step} {ms : Entries Json} {input : Json}
    (hk : s.kind = "script") (hp : s.param? "script" = some (.object ms))
    (hi : Entries.get? ms "input" = some input) :
    Template.strings input ⊆ Template.strings s.evaluatedParameters := by
  unfold Step.evaluatedParameters
  rw [if_pos hk]
  have hmem := Entries.mem_remove_of_ne (Entries.mem_of_get? hi)
    (show "input" ≠ "source" by decide)
  -- the script without its source lies in the checked parameters, and the input in that
  refine List.Subset.trans (Template.strings_subset_of_mem_members hmem)
    (Template.strings_subset_of_mem_members (k := "script") (Entries.mem_of_get? ?_))
  unfold Step.param? at hp
  rw [Entries.get?_adjust, if_pos rfl, hp]
  rfl

/-- **What a task evaluates was checked**: its strings are among those of the checked parameters of
the step that the task was made of. -/
theorem strings_subset_of_evaluates {s : Step} {task : Task} {vars ctx : Entries Json}
    {value : Json} (hm : Makes settings s task) (h : Evaluates vars task ctx value) :
    Template.strings value ⊆ Template.strings s.evaluatedParameters := by
  cases h with
  | @assign before after name value ctx _ =>
    cases hm with
    | assign hk hp =>
      have hkind : s.kind ≠ "script" := by simp [Step.kind, hk]
      refine List.Subset.trans ?_ (strings_subset_of_param hkind hp)
      exact Template.strings_subset_of_mem_members (k := name)
        (List.mem_append_right _ List.mem_cons_self)
  | reply =>
    cases hm with
    | reply hk hp =>
      exact strings_subset_of_param (by simp [Step.kind, hk]) hp
  | @choose before after case _ =>
    cases hm with
    | choose hk hp hcases =>
      have hkind : s.kind ≠ "script" := by simp [Step.kind, hk]
      -- the condition is a member of an item of the list of cases
      obtain ⟨raw, hraw, hreads⟩ := Fallible.exists_mem_of_forall₂ hcases
        (List.mem_append_right before List.mem_cons_self)
      have hcond : Template.strings case.condition ⊆ Template.strings raw := by
        have hc := hreads.condition
        cases raw with
        | object ms => exact Template.strings_subset_of_mem_members (Entries.mem_of_get? hc)
        | _ => simp [Json.get?, Json.members?] at hc
      refine List.Subset.trans hcond (List.Subset.trans ?_ (strings_subset_of_param hkind hp))
      exact Template.strings_subset_of_mem_items hraw
  | call =>
    cases hm with
    | @call m _ _ hk hp _ =>
      exact strings_subset_of_param (by simp [Step.kind, hk, (callKind_ne m).2.2.2]) hp
  | script =>
    cases hm with
    | @script body source hk hp hs =>
      -- the source was found, so the script is an object
      cases body with
      | object ms =>
        simp only [Json.get?_object]
        cases hi : Entries.get? ms "input" with
        | none => simp [Template.strings]
        | some input => exact strings_subset_of_input (by simp [Step.kind, hk]) hp hi
      | _ => simp [Json.get?, Json.members?] at hs

/-! ### What is evaluated -/

/-- Every string that a step of a valid pipeline evaluates is a template, whatever the variables
hold. -/
theorem exists_parse_of_evaluates (hv : doc.isValid = true)
    (hb : Pipeline.bind (.full settings) doc = .ok p) {s : BoundStep} (hs : s ∈ p.steps)
    {vars ctx : Entries Json} {value : Json} (h : Evaluates vars s.task ctx value)
    {text : String} (ht : text ∈ Template.strings value) :
    ∃ t, Template.parse text = .ok t := by
  obtain ⟨step, hstep, -, hm⟩ := Pipeline.exists_makes_of_bind hb hs
  exact Document.exists_parse_of_isValid hv hstep (strings_subset_of_evaluates hm h ht)

/-- **No invocation of a step of a valid pipeline fails for a malformed template.** -/
theorem not_malformed_of_invokes (hv : doc.isValid = true) {u : Setup σ}
    (hb : Pipeline.bind (.full settings) doc = .ok u.pipeline) {q : Stage σ} {s : BoundStep}
    {f : Failure} {w : World σ} (h : Invokes u q s (.error f) w)
    (fault : Template.TemplateError) : f ≠ .evaluation (.malformed fault) := by
  rintro rfl
  have hs := Pipeline.mem_of_stepAt? h.step
  obtain ⟨ctx, value, he, hf⟩ :=
    (fails_of_performs (Pipeline.task_ne_custom_of_bind hb hs) h.result).exists_of_evaluation
  -- the string that fails was checked, so it does parse
  obtain ⟨text, htext, hbad⟩ := Template.exists_of_evaluate_malformed hf
  obtain ⟨t, hgood⟩ := exists_parse_of_evaluates hv hb hs he htext
  exact absurd (hgood.symm.trans hbad) nofun

/-- **The templates of a valid pipeline parse in every run.** For every request, all limits, every
deadline and whatever the collaborators answer: each string that a step evaluates is a template,
whatever the variables hold at that point; no invocation fails for a malformed template; and no
run ends with such a failure. -/
theorem evaluated_templates_parse (hv : doc.isValid = true)
    (hb : Pipeline.bind (.full settings) doc = .ok p) (c : Collaborators σ) (limits : Settings)
    (deadline? : Option Nanos) (r : Request) (w : World σ) :
    let u : Setup σ := ⟨c, p, limits, deadline?⟩
    (∀ s ∈ p.steps, ∀ vars ctx value, Evaluates vars s.task ctx value →
        ∀ text ∈ Template.strings value, ∃ t, Template.parse text = .ok t) ∧
      (∀ q s fault w', Reaches u (u.start r w) q →
        ¬ Invokes u q s (.error (.evaluation (.malformed fault))) w') ∧
      ∀ e fault, (runUntil c limits deadline? p r w).report.outcome = .error e →
        e.failure ≠ .evaluation (.malformed fault) := by
  intro u
  refine ⟨fun s hs vars ctx value h text ht => exists_parse_of_evaluates hv hb hs h ht, ?_, ?_⟩
  · intro q s fault w' _ h
    exact not_malformed_of_invokes (u := u) hv hb h fault rfl
  · intro e fault he
    obtain ⟨q, -, hs⟩ := stops_of_run (u := u) (Pipeline.indexed_of_bind hb) r w
    obtain ⟨-, s, -, -, hcase⟩ := hs.error_cases he
    rcases hcase with ⟨-, -, hf⟩ | ⟨-, hi⟩ | ⟨-, signal, target, vars, -, -, -, -, hf⟩
    · rw [hf]; nofun
    · exact not_malformed_of_invokes (u := u) hv hb hi fault
    · rw [hf]; nofun

/-- Repeats what the request says. -/
def parrot : Document where
  name := "parrot"
  declaration? := some { bareDeclaration with
    allowlist? := some ⟨some [⟨some "text", none, none⟩], none⟩ }
  steps := [
    ⟨"hear", some "assign", none,
      [("assign", .object [("heard", .string "$\x7bincoming.body.text\x7d")])]⟩,
    ⟨"say", some "return", none, [("return", .string "you said: $\x7bheard\x7d")]⟩]

/-- A text of the request that looks like the beginning of a reference is passed on as it is. -/
theorem evaluated_templates_parse_parrot :
    parrot.isValid = true ∧ ∃ p, Pipeline.bind (.full .standard) parrot = .ok p ∧
      let r : Request := ⟨.post, .object [("text", .string "$\x7b")], []⟩
      (runUntil .mute .standard none p r .initial).report.outcome.toOption =
          some ⟨.string "you said: $\x7b", true⟩ ∧
        ∀ e fault, (runUntil .mute .standard none p r .initial).report.outcome = .error e →
          e.failure ≠ .evaluation (.malformed fault) :=
  ⟨rfl, _, rfl, rfl, (evaluated_templates_parse (rfl : parrot.isValid = true)
    (rfl : Pipeline.bind (.full .standard) parrot = .ok _) .mute .standard none _ .initial).2.2⟩

end RouteFlow.Run
