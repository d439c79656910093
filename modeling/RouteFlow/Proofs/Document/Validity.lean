import RouteFlow.Document.Validation

/-!
# What a valid document promises

A document is valid if nothing is found wrong with it, so each check on its own found nothing. This
module turns the checks that later proofs rest on into statements about the document (`Passes`,
`isValid_iff`), and reads off what they say of a single step:

* `exists_parse_of_isValid` — every string that a step evaluates is a template;
* `exists_kind_of_isValid` — every step has a kind, and none declares;
* `isTarget_of_isValid` — every case of a switch leads to the end or to a step.
-/

namespace RouteFlow.Document

variable {doc : Document} {names : List String} {path : String}

/-! ### Checks that find nothing -/

@[simp] theorem violationIf_eq_nil_iff {fails : Bool} {defect : Defect} :
    violationIf fails path defect = [] ↔ fails = false := by
  cases fails <;> simp [violationIf]

theorem expressionViolations_eq_nil_iff {j : Json} :
    expressionViolations path j = [] ↔
      ∀ text ∈ Template.strings j, ∃ t, Template.parse text = .ok t := by
  rw [← Template.checkAll_eq_ok_iff]
  unfold expressionViolations Template.check
  cases Template.checkAll (Template.strings j) <;> simp

theorem kindViolations_eq_nil_iff {kind? : Option String} :
    kindViolations path kind? = [] ↔
      ∃ kind, kind? = some kind ∧ kind ≠ "" ∧ kind ≠ declareCall := by
  unfold kindViolations
  split
  · simp
  · simp
  · next kind hne =>
    have hne' : kind ≠ "" := hne
    simp [hne']

/-- The names that came before a step only matter for its own name. -/
theorem Step.violations_eq_nil_iff {seen : List String} {s : Step} :
    s.violations seen = [] ↔ s.name ∉ seen ∧ s.violations [] = [] := by
  unfold Step.violations
  simp only [List.append_eq_nil_iff, violationIf_eq_nil_iff, List.contains_eq_mem,
    decide_eq_false_iff_not, List.not_mem_nil, not_false_eq_true, and_true]
  constructor
  · rintro ⟨⟨⟨hname, hseen⟩, hkind⟩, htemplates⟩
    exact ⟨hseen, ⟨hname, hkind⟩, htemplates⟩
  · rintro ⟨hseen, ⟨hname, hkind⟩, htemplates⟩
    exact ⟨⟨⟨hname, hseen⟩, hkind⟩, htemplates⟩

/-- Steps are without a fault exactly if each is and their names are new and distinct. -/
theorem stepViolations_eq_nil_iff {steps : List Step} {seen : List String} :
    stepViolations seen steps = [] ↔
      (steps.map (·.name)).Nodup ∧ ∀ s ∈ steps, s.name ∉ seen ∧ s.violations [] = [] := by
  induction steps generalizing seen with
  | nil => simp [stepViolations]
  | cons s rest ih =>
    rw [stepViolations, List.append_eq_nil_iff, Step.violations_eq_nil_iff, ih,
      List.forall_mem_cons, List.map_cons, List.nodup_cons]
    -- the names seen by the rest are those seen by `s` and its own
    simp only [List.mem_cons, not_or, List.mem_map]
    constructor
    · rintro ⟨hs, hnd, hrest⟩
      refine ⟨⟨?_, hnd⟩, hs, fun s' hs' => ⟨(hrest s' hs').1.2, (hrest s' hs').2⟩⟩
      rintro ⟨s', hs', hname⟩
      exact (hrest s' hs').1.1 hname
    · rintro ⟨⟨hfresh, hnd⟩, hs, hrest⟩
      exact ⟨hs, hnd, fun s' hs' =>
        ⟨⟨fun hname => hfresh ⟨s', hs', hname⟩, (hrest s' hs').1⟩, (hrest s' hs').2⟩⟩

theorem nextViolations_eq_nil_iff {s : Step} :
    s.nextViolations names = [] ↔
      ∀ target, s.next? = some target → isTarget names target = true := by
  unfold Step.nextViolations
  cases s.next? <;> simp

/-- A case without a fault has a condition and leads to the end or to one of `names`. -/
theorem caseViolations_eq_nil_iff {c : Json} :
    caseViolations names path c = [] ↔
      (c.get? "condition").isSome ∧
        ∃ target, (c.get? "next").bind Json.text? = some target ∧
          isTarget names target = true := by
  unfold caseViolations
  cases (c.get? "next").bind Json.text? <;> simp [Option.isSome_iff_ne_none]

theorem casesViolations_eq_nil_iff {i : Nat} {cases : List Json} :
    casesViolations names path i cases = [] ↔
      ∀ c ∈ cases, (c.get? "condition").isSome ∧
        ∃ target, (c.get? "next").bind Json.text? = some target ∧
          isTarget names target = true := by
  induction cases generalizing i with
  | nil => simp [casesViolations]
  | cons c rest ih =>
    rw [casesViolations, List.append_eq_nil_iff, caseViolations_eq_nil_iff, ih,
      List.forall_mem_cons]

theorem isTarget_iff {target : String} :
    isTarget names target = true ↔ target = endTarget ∨ target ∈ names := by
  simp [isTarget]

/-- A target leads to the end or to a step. -/
def Leads (doc : Document) (target : String) : Prop := target = "end" ∨ target ∈ doc.stepNames

theorem switchViolations_eq_nil_iff {s : Step} :
    s.switchViolations names = [] ↔
      (s.kind = "switch" → ∃ cases, s.param? "switch" = some (.array cases) ∧
        ∀ c ∈ cases, (c.get? "condition").isSome ∧
          ∃ target, (c.get? "next").bind Json.text? = some target ∧
            isTarget names target = true) := by
  unfold Step.switchViolations
  split
  · next hk =>
    cases hp : s.param? "switch" with
    | none => simp [hk]
    | some value => cases value <;> simp [hk, Json.items?, casesViolations_eq_nil_iff]
  · next hk => simp [hk]

/-! ### Valid documents -/

/-- **What a valid document promises**, check by check. -/
structure Passes (doc : Document) : Prop where
  declaration : ∃ d, doc.declaration? = some d ∧ d.violations = []
  steps : doc.steps ≠ []
  names : doc.stepNames.Nodup
  each : ∀ s ∈ doc.steps, s.violations [] = []
  next : ∀ s ∈ doc.steps, ∀ target, s.next? = some target → isTarget doc.stepNames target = true
  switch : ∀ s ∈ doc.steps, s.kind = "switch" →
    ∃ cases, s.param? "switch" = some (.array cases) ∧
      ∀ c ∈ cases, (c.get? "condition").isSome ∧
        ∃ target, (c.get? "next").bind Json.text? = some target ∧
          isTarget doc.stepNames target = true

/-- **A document is valid exactly if it passes every check.** -/
theorem isValid_iff : doc.isValid = true ↔ Passes doc := by
  -- the violations of a document are five lists one after another, and all of them are empty
  unfold isValid violations
  simp only [List.isEmpty_iff, List.append_eq_nil_iff, List.flatMap_eq_nil_iff,
    violationIf_eq_nil_iff, List.isEmpty_eq_false_iff, stepViolations_eq_nil_iff,
    nextViolations_eq_nil_iff, switchViolations_eq_nil_iff]
  constructor
  · rintro ⟨⟨⟨⟨hd, hne⟩, hnd, heach⟩, hnext⟩, hswitch⟩
    refine ⟨?_, hne, hnd, fun s hs => (heach s hs).2, hnext, hswitch⟩
    cases hdoc : doc.declaration? with
    | none => simp [hdoc] at hd
    | some d => exact ⟨d, rfl, by simpa [hdoc] using hd⟩
  · intro h
    obtain ⟨d, hdoc, hd⟩ := h.declaration
    refine ⟨⟨⟨⟨?_, h.steps⟩, h.names, fun s hs => ⟨List.not_mem_nil, h.each s hs⟩⟩, h.next⟩,
      h.switch⟩
    rw [hdoc]
    exact hd

/-- **Every string that a step of a valid document evaluates is a template.** -/
theorem exists_parse_of_isValid (h : doc.isValid = true) {s : Step} (hs : s ∈ doc.steps)
    {text : String} (ht : text ∈ Template.strings s.evaluatedParameters) :
    ∃ t, Template.parse text = .ok t := by
  have heach := (isValid_iff.mp h).each s hs
  unfold Step.violations at heach
  -- the check of the templates is the last one of a step
  have hexpr := (List.append_eq_nil_iff.mp heach).2
  exact expressionViolations_eq_nil_iff.mp hexpr text ht

/-- **Every step of a valid document has a kind**, and none of them declares. -/
theorem exists_kind_of_isValid (h : doc.isValid = true) {s : Step} (hs : s ∈ doc.steps) :
    ∃ kind, s.kind? = some kind ∧ kind ≠ "" ∧ kind ≠ declareCall := by
  have heach := (isValid_iff.mp h).each s hs
  unfold Step.violations at heach
  -- the check of the kind comes just before that of the templates
  have hkind := (List.append_eq_nil_iff.mp (List.append_eq_nil_iff.mp heach).1).2
  exact kindViolations_eq_nil_iff.mp hkind

/-- **Every case of a switch of a valid document leads to the end or to a step.** -/
theorem isTarget_of_isValid (h : doc.isValid = true) {s : Step} (hs : s ∈ doc.steps)
    (hk : s.kind = "switch") {cases : List Json} (hp : s.param? "switch" = some (.array cases))
    {c : Json} (hc : c ∈ cases) {target : String}
    (hn : (c.get? "next").bind Json.text? = some target) :
    target = endTarget ∨ target ∈ doc.stepNames := by
  obtain ⟨cases', hp', hcases⟩ := (isValid_iff.mp h).switch s hs hk
  obtain rfl := Json.array.inj (Option.some.inj (hp.symm.trans hp'))
  obtain ⟨-, target', hn', ht⟩ := hcases c hc
  obtain rfl := Option.some.inj (hn.symm.trans hn')
  exact isTarget_iff.mp ht

end RouteFlow.Document
