import Mathlib.Data.List.Nodup
import RouteFlow.Proofs.Document.Expressions
import RouteFlow.Proofs.Document.Validity
import RouteFlow.Proofs.Template.Path
import RouteFlow.Proofs.Template.Substitution

/-!
# Everything that is wrong with a document

A `Check` is one rule applied to one place of a document, and `Fails` says, rule by rule, when a
check fails and which violation that is. Neither mentions how a document is gone through. Validation
goes through the steps three times and keeps the names it has seen on the way, so that what it
finds in one place depends on what came before. `Reports` is the invariant: the violations listed so
far are those of the failing checks among a set of checks, one for each. It is kept by putting lists
for disjoint sets one after the other (`Reports.append`), and by going through a list whose elements
are reported on one at a time (`Reports.each`).

* `reports_violations` — the violations of a document report on all checks;
* `valid_iff` — no check fails exactly if everything that is asked of a document holds;
* `finds_every_violation` — the two together.
-/

namespace RouteFlow.Document

open Template.Path (Name)

/-! ### Checks -/

/-- The two lists of an allowlist. -/
inductive FieldList where
  | body
  | params

/-- The fields in a list of the allowlist. -/
def FieldList.fields (d : Declaration) : FieldList → List AllowedField
  | .body => d.bodyFields
  | .params => d.paramFields

/-- Where a list of the allowlist stands. -/
def FieldList.path : FieldList → String
  | .body => "$.declaration.allowlist.body"
  | .params => "$.declaration.allowlist.params"

/-- The rules for a step that do not look at targets. -/
inductive StepRule where
  | name
  | reserved
  | repeated
  | kind
  | expressions

/-- **A rule applied to one place** of a document. Steps, fields and cases go by their number. -/
inductive Check where
  | declaration
  | call
  | namespacePath
  | field (list : FieldList) (i : Nat)
  | steps
  | step (i : Nat) (rule : StepRule)
  | next (i : Nat)
  | cases (i : Nat)
  | condition (i k : Nat)
  | caseNext (i k : Nat)

/-- The name of an allowed field without blanks around it, none if nothing is left. -/
def AllowedField.name? (f : AllowedField) : Option String :=
  (f.field?.map Text.trimmed).filter (· ≠ "")

/-- A text begins or ends with a slash. -/
def Slashed (s : String) : Prop := s.toList.head? = some '/' ∨ s.toList.getLast? = some '/'

/-- **A check fails** with a violation. -/
inductive Fails (doc : Document) : Check → Violation → Prop
  | noDeclaration (h : doc.declaration? = none) :
      Fails doc .declaration ⟨"$.declaration", .noDeclaration⟩
  | notDeclare {d : Declaration} {call : String} (hd : doc.declaration? = some d)
      (hc : d.call? = some call) (h : call ≠ "declare") :
      Fails doc .call ⟨"$.declaration.call", .notDeclare⟩
  | emptyNamespace {d : Declaration} (hd : doc.declaration? = some d)
      (h : Text.trimmed d.namespacePath = "") :
      Fails doc .namespacePath ⟨"$.declaration.namespace", .emptyNamespace⟩
  | slashedNamespace {d : Declaration} (hd : doc.declaration? = some d)
      (h : Slashed (Text.trimmed d.namespacePath)) :
      Fails doc .namespacePath ⟨"$.declaration.namespace", .slashedNamespace⟩
  | fieldMissing {d : Declaration} {list : FieldList} {i : Nat} {f : AllowedField}
      (hd : doc.declaration? = some d) (hf : (list.fields d)[i]? = some f) (h : f.name? = none) :
      Fails doc (.field list i) ⟨list.path ++ "[" ++ toString i ++ "].field", .fieldMissing⟩
  | fieldRepeated {d : Declaration} {list : FieldList} {i j : Nat} {f g : AllowedField}
      {name : String} (hd : doc.declaration? = some d) (hf : (list.fields d)[i]? = some f)
      (hn : f.name? = some name) (hj : j < i) (hg : (list.fields d)[j]? = some g)
      (h : g.name? = some name) :
      Fails doc (.field list i) ⟨list.path ++ "[" ++ toString i ++ "].field", .fieldRepeated⟩
  | noSteps (h : doc.steps = []) : Fails doc .steps ⟨"$", .noSteps⟩
  | badName {i : Nat} {s : Step} (hs : doc.steps[i]? = some s) (h : ¬ Name s.name.toList) :
      Fails doc (.step i .name) ⟨"$." ++ s.name, .badStepName⟩
  | reserved {i : Nat} {s : Step} (hs : doc.steps[i]? = some s) (h : s.name = "end") :
      Fails doc (.step i .reserved) ⟨"$." ++ s.name, .reservedStepName⟩
  | repeated {i j : Nat} {s s' : Step} (hs : doc.steps[i]? = some s) (hj : j < i)
      (hs' : doc.steps[j]? = some s') (h : s'.name = s.name) :
      Fails doc (.step i .repeated) ⟨"$." ++ s.name, .repeatedStepName⟩
  | noKind {i : Nat} {s : Step} (hs : doc.steps[i]? = some s) (h : s.kind = "") :
      Fails doc (.step i .kind) ⟨"$." ++ s.name, .noKind⟩
  | declares {i : Nat} {s : Step} (hs : doc.steps[i]? = some s) (h : s.kind = "declare") :
      Fails doc (.step i .kind) ⟨"$." ++ s.name, .secondDeclaration⟩
  /-- Some string that the step evaluates is no template. -/
  | expression {i : Nat} {s : Step} {text : String} {e : Template.TemplateError}
      (hs : doc.steps[i]? = some s) (ht : s.Evaluates text) (h : Template.parse text = .error e) :
      Fails doc (.step i .expressions) ⟨"$." ++ s.name, .badExpression e⟩
  | unknownNext {i : Nat} {s : Step} {target : String} (hs : doc.steps[i]? = some s)
      (hn : s.next? = some target) (h : ¬ doc.Leads target) :
      Fails doc (.next i) ⟨"$." ++ s.name ++ ".next", .unknownTarget target⟩
  | casesNotList {i : Nat} {s : Step} (hs : doc.steps[i]? = some s) (hk : s.kind = "switch")
      (h : ∀ cases, s.param? "switch" ≠ some (.array cases)) :
      Fails doc (.cases i) ⟨"$." ++ s.name ++ ".switch", .casesNotList⟩
  | noCondition {i k : Nat} {s : Step} {cases : List Json} {c : Json}
      (hs : doc.steps[i]? = some s) (hk : s.kind = "switch")
      (hp : s.param? "switch" = some (.array cases)) (hc : cases[k]? = some c)
      (h : c.get? "condition" = none) :
      Fails doc (.condition i k)
        ⟨"$." ++ s.name ++ ".switch" ++ "[" ++ toString k ++ "]" ++ ".condition",
          .casePartMissing⟩
  | noCaseNext {i k : Nat} {s : Step} {cases : List Json} {c : Json}
      (hs : doc.steps[i]? = some s) (hk : s.kind = "switch")
      (hp : s.param? "switch" = some (.array cases)) (hc : cases[k]? = some c)
      (h : ∀ target, c.get? "next" ≠ some (.string target)) :
      Fails doc (.caseNext i k)
        ⟨"$." ++ s.name ++ ".switch" ++ "[" ++ toString k ++ "]" ++ ".next", .casePartMissing⟩
  | unknownCaseNext {i k : Nat} {s : Step} {cases : List Json} {c : Json} {target : String}
      (hs : doc.steps[i]? = some s) (hk : s.kind = "switch")
      (hp : s.param? "switch" = some (.array cases)) (hc : cases[k]? = some c)
      (hn : c.get? "next" = some (.string target)) (h : ¬ doc.Leads target) :
      Fails doc (.caseNext i k)
        ⟨"$." ++ s.name ++ ".switch" ++ "[" ++ toString k ++ "]" ++ ".next",
          .unknownTarget target⟩

/-! ### Lists that report on checks -/

variable {doc : Document} {P Q : Check → Prop} {vs ws : List Violation}

/-- **Violations report on checks**: they are those of the checks in `P` that fail, one for
each. -/
def Reports (doc : Document) (P : Check → Prop) (vs : List Violation) : Prop :=
  ∃ checks : List Check, checks.Nodup ∧ (∀ c, c ∈ checks ↔ P c ∧ ∃ v, Fails doc c v) ∧
    List.Forall₂ (Fails doc) checks vs

theorem Reports.congr (h : Reports doc P vs) (hPQ : ∀ c v, Fails doc c v → (P c ↔ Q c)) :
    Reports doc Q vs := by
  obtain ⟨checks, hnd, hmem, hall⟩ := h
  refine ⟨checks, hnd, fun c => ?_, hall⟩
  rw [hmem]
  exact and_congr_left fun ⟨v, hv⟩ => hPQ c v hv

theorem reports_nil (h : ∀ c v, P c → ¬ Fails doc c v) : Reports doc P [] := by
  refine ⟨[], List.nodup_nil, fun c => ?_, .nil⟩
  refine iff_of_false List.not_mem_nil ?_
  rintro ⟨hc, v, hv⟩
  exact h c v hc hv

theorem reports_singleton {c : Check} {v : Violation} (h : Fails doc c v) :
    Reports doc (· = c) [v] := by
  refine ⟨[c], List.nodup_singleton c, fun c' => ?_, .cons h .nil⟩
  rw [List.mem_singleton, iff_self_and]
  rintro rfl
  exact ⟨v, h⟩

/-- What a check on its own finds. -/
theorem reports_violationIf {c : Check} {fails : Bool} {path : String} {defect : Defect}
    (h : fails = true → Fails doc c ⟨path, defect⟩)
    (hv : ∀ v, Fails doc c v → fails = true) :
    Reports doc (· = c) (violationIf fails path defect) := by
  unfold violationIf
  split
  · next hf => exact reports_singleton (h hf)
  · next hf =>
    refine reports_nil ?_
    rintro c v rfl hfails
    exact hf (hv v hfails)

/-- **Lists for checks that have nothing in common** are put one after the other. -/
theorem Reports.append (h : Reports doc P vs) (h' : Reports doc Q ws)
    (hdisj : ∀ c, P c → ¬ Q c) : Reports doc (fun c => P c ∨ Q c) (vs ++ ws) := by
  obtain ⟨checks, hnd, hmem, hall⟩ := h
  obtain ⟨checks', hnd', hmem', hall'⟩ := h'
  refine ⟨checks ++ checks', ?_, fun c => ?_, List.rel_append hall hall'⟩
  · refine List.nodup_append.mpr ⟨hnd, hnd', ?_⟩
    rintro c hc _ hc' rfl
    exact hdisj c ((hmem c).mp hc).1 ((hmem' c).mp hc').1
  · rw [List.mem_append, hmem, hmem', or_and_right]

/-- **A list is gone through element by element.** Each element is reported on with what came
before it, under checks of its own. -/
theorem Reports.each {α : Type} {xs : List α} {P : Nat → Check → Prop}
    (run : List α → List α → List Violation) (own : List α → α → List Violation)
    (hnil : ∀ before, run before [] = [])
    (hcons : ∀ before x rest, run before (x :: rest) = own before x ++ run (before ++ [x]) rest)
    (heach : ∀ before x rest, xs = before ++ x :: rest →
      Reports doc (P before.length) (own before x))
    (hdisj : ∀ i j c, P i c → P j c → i = j) :
    Reports doc (fun c => ∃ i < xs.length, P i c) (run [] xs) := by
  -- what is left is reported on with the numbers that are left
  suffices hrest : ∀ rest before, xs = before ++ rest →
      Reports doc (fun c => ∃ i, before.length ≤ i ∧ i < xs.length ∧ P i c) (run before rest) by
    refine (hrest xs [] rfl).congr fun c v _ => exists_congr fun i => ?_
    simp
  intro rest
  induction rest with
  | nil =>
    intro before hsplit
    rw [hnil]
    refine reports_nil ?_
    rintro c v ⟨i, hle, hlt, -⟩
    rw [hsplit, List.append_nil] at hlt
    omega
  | cons x rest ih =>
    intro before hsplit
    have hrest := ih (before ++ [x]) (by simpa using hsplit)
    rw [List.length_append, List.length_singleton] at hrest
    rw [hcons]
    refine ((heach before x rest hsplit).append hrest ?_).congr fun c v _ => ?_
    · rintro c hc ⟨i, hle, -, hi⟩
      have := hdisj _ _ _ hc hi
      omega
    · constructor
      · rintro (hc | ⟨i, hle, hlt, hi⟩)
        · exact ⟨before.length, le_rfl, by simp [hsplit], hc⟩
        · exact ⟨i, by omega, hlt, hi⟩
      · rintro ⟨i, hle, hlt, hi⟩
        rcases Nat.eq_or_lt_of_le hle with rfl | hle
        · exact .inl hi
        · exact .inr ⟨i, hle, hlt, hi⟩

/-! ### The declaration -/

theorem isTarget_eq_false_iff {target : String} :
    (!isTarget doc.stepNames target) = true ↔ ¬ doc.Leads target := by
  simp [isTarget, Leads, endTarget]

/-- What a field finds after fields with the names `seen`. -/
def fieldViolation (path : String) (seen : List String) (i : Nat) (f : AllowedField) :
    List Violation :=
  match f.name? with
  | none => [⟨path ++ "[" ++ toString i ++ "].field", .fieldMissing⟩]
  | some name =>
    violationIf (seen.contains name) (path ++ "[" ++ toString i ++ "].field") .fieldRepeated

theorem fieldViolations_cons (path : String) (seen : List String) (i : Nat) (f : AllowedField)
    (rest : List AllowedField) :
    fieldViolations path seen i (f :: rest) =
      fieldViolation path seen i f ++
        fieldViolations path (f.name?.toList ++ seen) (i + 1) rest := by
  rw [fieldViolations, fieldViolation]
  -- a field has no name if there is none, or if nothing is left of it
  split
  · next h => simp [AllowedField.name?, h]
  · next h =>
    have hnone : f.name? = none := by
      rw [AllowedField.name?, h]
      rfl
    simp [hnone]
  · next name hne h =>
    have hname : f.name? = some name := by
      rw [AllowedField.name?, h]
      exact Option.filter_some_pos (by simpa using hne)
    simp [hname]

theorem reports_fieldViolation {d : Declaration} (hd : doc.declaration? = some d)
    {list : FieldList} {before rest : List AllowedField} {f : AllowedField}
    (hsplit : list.fields d = before ++ f :: rest) :
    Reports doc (· = .field list before.length)
      (fieldViolation list.path (before.filterMap (·.name?)).reverse before.length f) := by
  have hf : (list.fields d)[before.length]? = some f := by simp [hsplit]
  unfold fieldViolation
  split
  · next hname => exact reports_singleton (.fieldMissing hd hf hname)
  · next name hname =>
    refine reports_violationIf (fun hseen => ?_) fun v hv => ?_
    · -- a name that was seen belongs to a field before this one
      simp only [List.contains_iff_mem, List.mem_reverse, List.mem_filterMap] at hseen
      obtain ⟨g, hg, hgname⟩ := hseen
      obtain ⟨j, hj, hgj⟩ := List.mem_iff_getElem.mp hg
      refine .fieldRepeated hd hf hname hj ?_ hgname
      rw [hsplit, List.getElem?_append_left hj, List.getElem?_eq_getElem hj, hgj]
    · cases hv with
      | fieldMissing hd' hf' h =>
        obtain rfl := Option.some.inj (hd.symm.trans hd')
        obtain rfl := Option.some.inj (hf.symm.trans hf')
        exact absurd (hname.symm.trans h) nofun
      | @fieldRepeated _ _ _ j _ g _ hd' hf' hn hj hg h =>
        obtain rfl := Option.some.inj (hd.symm.trans hd')
        obtain rfl := Option.some.inj (hf.symm.trans hf')
        obtain rfl := Option.some.inj (hname.symm.trans hn)
        rw [hsplit, List.getElem?_append_left hj] at hg
        simp only [List.contains_iff_mem, List.mem_reverse, List.mem_filterMap]
        exact ⟨g, List.mem_of_getElem? hg, h⟩

/-- **The fields of a list** are reported on one by one. -/
theorem reports_fieldViolations {d : Declaration} (hd : doc.declaration? = some d)
    (list : FieldList) :
    Reports doc (fun c => ∃ i < (list.fields d).length, c = .field list i)
      (fieldViolations list.path [] 0 (list.fields d)) := by
  refine Reports.each
    (fun before => fieldViolations list.path (before.filterMap (·.name?)).reverse before.length)
    (fun before => fieldViolation list.path (before.filterMap (·.name?)).reverse before.length)
    (fun _ => rfl) (fun before f rest => ?_)
    (fun before f rest hsplit => reports_fieldViolation hd hsplit) ?_
  · rw [fieldViolations_cons, List.filterMap_append, List.reverse_append, List.length_append]
    cases hname : f.name? <;> simp [hname]
  · rintro i j c rfl h
    exact (Check.field.inj h).2

theorem reports_namespaceViolations {d : Declaration} (hd : doc.declaration? = some d) :
    Reports doc (· = .namespacePath)
      (namespaceViolations "$.declaration.namespace" d.namespacePath) := by
  have htrim : (Text.trimmed d.namespacePath).toList = Text.trim d.namespacePath.toList :=
    String.toList_ofList
  have hempty : Text.trimmed d.namespacePath = "" ↔ Text.trim d.namespacePath.toList = [] := by
    rw [← htrim, String.toList_eq_nil_iff]
  have hslash : Slashed (Text.trimmed d.namespacePath) ↔
      ((Text.trim d.namespacePath.toList).head? == some '/' ||
        (Text.trim d.namespacePath.toList).getLast? == some '/') = true := by
    simp [Slashed, htrim]
  unfold namespaceViolations
  dsimp only
  split
  · next h => exact reports_singleton (.emptyNamespace hd (hempty.mpr (by simpa using h)))
  · next h =>
    refine reports_violationIf (fun hs => .slashedNamespace hd (hslash.mpr hs)) fun v hv => ?_
    cases hv with
    | emptyNamespace hd' h' =>
      obtain rfl := Option.some.inj (hd.symm.trans hd')
      exact absurd (hempty.mp h') (by simpa using h)
    | slashedNamespace hd' h' =>
      obtain rfl := Option.some.inj (hd.symm.trans hd')
      exact hslash.mp h'

theorem reports_call {d : Declaration} (hd : doc.declaration? = some d) :
    Reports doc (· = .call)
      (violationIf (d.call?.any (· != declareCall)) "$.declaration.call" .notDeclare) := by
  refine reports_violationIf (fun h => ?_) fun v hv => ?_
  · cases hc : d.call? with
    | none => simp [hc] at h
    | some call => exact .notDeclare hd hc (by simpa [hc, declareCall] using h)
  · cases hv with
    | notDeclare hd' hc h =>
      obtain rfl := Option.some.inj (hd.symm.trans hd')
      simpa [hc, declareCall] using h

/-- The checks of the declaration. -/
def OfDeclaration : Check → Prop
  | .declaration | .call | .namespacePath | .field _ _ => True
  | _ => False

/-- **The declaration** is reported on, or that there is none. -/
theorem reports_declaration :
    Reports doc OfDeclaration
      (match doc.declaration? with
        | none => [⟨"$.declaration", .noDeclaration⟩]
        | some d => d.violations) := by
  cases hd : doc.declaration? with
  | none =>
    refine (reports_singleton (.noDeclaration hd)).congr fun c v hv => ?_
    cases hv <;> simp_all [OfDeclaration]
  | some d =>
    have hdisj : ∀ (list : FieldList) (c : Check), c = .call ∨ c = .namespacePath →
        ¬ ∃ i < (list.fields d).length, c = .field list i := by
      rintro list c (rfl | rfl) ⟨i, -, h⟩ <;> simp at h
    have hreports := (((reports_call hd).append (reports_namespaceViolations hd) (by simp)).append
      (reports_fieldViolations hd .body) (hdisj .body)).append
      (reports_fieldViolations hd .params) (by
        rintro c (hc | ⟨i, -, rfl⟩)
        · exact hdisj .params c hc
        · rintro ⟨j, -, h⟩
          simp at h)
    refine hreports.congr fun c v hv => ?_
    have hfield : ∀ {list : FieldList} {i : Nat} {f : AllowedField},
        (list.fields d)[i]? = some f → i < (list.fields d).length := fun hf =>
      (List.getElem?_eq_some_iff.mp hf).1
    cases hv with
    | noDeclaration h => simp [hd] at h
    | @fieldMissing _ list _ _ hd' hf =>
      obtain rfl := Option.some.inj (hd.symm.trans hd')
      have := hfield hf
      cases list <;> simpa [OfDeclaration]
    | @fieldRepeated _ list _ _ _ _ _ hd' hf =>
      obtain rfl := Option.some.inj (hd.symm.trans hd')
      have := hfield hf
      cases list <;> simpa [OfDeclaration]
    | _ => simp [OfDeclaration]

/-! ### Steps -/

section Steps

variable {before rest : List Step} {s : Step}

theorem reports_badName (hs : doc.steps[before.length]? = some s) :
    Reports doc (· = .step before.length .name)
      (violationIf (!Template.isName s.name.toList) ("$." ++ s.name) .badStepName) := by
  have hname : (!Template.isName s.name.toList) = true ↔ ¬ Name s.name.toList := by
    rw [← Template.Path.isName_iff]
    simp
  refine reports_violationIf (fun h => .badName hs (hname.mp h)) fun v hv => ?_
  cases hv with
  | badName hs' h =>
    obtain rfl := Option.some.inj (hs.symm.trans hs')
    exact hname.mpr h

theorem reports_reserved (hs : doc.steps[before.length]? = some s) :
    Reports doc (· = .step before.length .reserved)
      (violationIf (s.name == endTarget) ("$." ++ s.name) .reservedStepName) := by
  refine reports_violationIf (fun h => .reserved hs (by simpa [endTarget] using h)) fun v hv => ?_
  cases hv with
  | reserved hs' h =>
    obtain rfl := Option.some.inj (hs.symm.trans hs')
    simpa [endTarget] using h

theorem reports_repeated (hsplit : doc.steps = before ++ s :: rest) :
    Reports doc (· = .step before.length .repeated)
      (violationIf ((before.map (·.name)).reverse.contains s.name) ("$." ++ s.name)
        .repeatedStepName) := by
  have hs : doc.steps[before.length]? = some s := by simp [hsplit]
  have hseen : (before.map (·.name)).reverse.contains s.name = true ↔
      ∃ s' ∈ before, s'.name = s.name := by
    simp
  refine reports_violationIf (fun h => ?_) fun v hv => ?_
  · obtain ⟨s', hs', hname⟩ := hseen.mp h
    obtain ⟨j, hj⟩ := List.mem_iff_getElem?.mp hs'
    obtain ⟨hlt, -⟩ := List.getElem?_eq_some_iff.mp hj
    refine .repeated hs hlt ?_ hname
    rw [hsplit, List.getElem?_append_left hlt, hj]
  · cases hv with
    | @repeated _ j _ s' hs' hj hs'' h =>
      obtain rfl := Option.some.inj (hs.symm.trans hs')
      rw [hsplit, List.getElem?_append_left hj] at hs''
      exact hseen.mpr ⟨s', List.mem_of_getElem? hs'', h⟩

theorem reports_kindViolations (hs : doc.steps[before.length]? = some s) :
    Reports doc (· = .step before.length .kind) (kindViolations ("$." ++ s.name) s.kind?) := by
  unfold kindViolations
  split
  · next h => exact reports_singleton (.noKind hs (by simp [Step.kind, h]))
  · next h => exact reports_singleton (.noKind hs (by simp [Step.kind, h]))
  · next kind hne h =>
    have hkind : s.kind = kind := by simp [Step.kind, h]
    refine reports_violationIf (fun hd => .declares hs ?_) fun v hv => ?_
    · rw [hkind]
      simpa [declareCall] using hd
    · cases hv with
      | noKind hs' h' =>
        obtain rfl := Option.some.inj (hs.symm.trans hs')
        exact absurd (hkind.symm.trans h') hne
      | declares hs' h' =>
        obtain rfl := Option.some.inj (hs.symm.trans hs')
        simpa [declareCall, hkind] using h'

/-- One string that is no template makes one violation, with the fault of the first such string. -/
theorem reports_expressionViolations (hs : doc.steps[before.length]? = some s)
    (hwell : (Json.object s.parameters).WellFormed) :
    Reports doc (· = .step before.length .expressions)
      (expressionViolations ("$." ++ s.name) s.evaluatedParameters) := by
  unfold expressionViolations
  split
  · next hcheck =>
    refine reports_nil ?_
    rintro _ v rfl hv
    cases hv with
    | expression hs' ht h =>
      obtain rfl := Option.some.inj (hs.symm.trans hs')
      obtain ⟨t, ht⟩ := (Template.checkAll_eq_ok_iff _).mp hcheck _
        ((mem_evaluatedParameters_iff hwell).mpr ht)
      exact absurd (h.symm.trans ht) nofun
  · next e hcheck =>
    obtain ⟨front, text, back, hstrings, -, htext⟩ := Template.check_eq_error_iff.mp hcheck
    have hmem : text ∈ Template.strings s.evaluatedParameters := by simp [hstrings]
    exact reports_singleton (.expression hs ((mem_evaluatedParameters_iff hwell).mp hmem) htext)

/-- **A step** is reported on with the names of the steps before it. -/
theorem reports_stepViolations_of_split (hsplit : doc.steps = before ++ s :: rest)
    (hwell : (Json.object s.parameters).WellFormed) :
    Reports doc (fun c => ∃ rule, c = .step before.length rule)
      (s.violations (before.map (·.name)).reverse) := by
  have hs : doc.steps[before.length]? = some s := by simp [hsplit]
  have hreports := ((((reports_badName hs).append (reports_reserved hs) (by simp)).append
    (reports_repeated hsplit) (by rintro _ (rfl | rfl) <;> simp)).append
    (reports_kindViolations hs) (by rintro _ ((rfl | rfl) | rfl) <;> simp)).append
    (reports_expressionViolations hs hwell) (by rintro _ (((rfl | rfl) | rfl) | rfl) <;> simp)
  refine hreports.congr fun c v _ => ?_
  constructor
  · rintro ((((h | h) | h) | h) | h) <;> exact ⟨_, h⟩
  · rintro ⟨rule, rfl⟩
    cases rule <;> simp

/-- **The steps** are reported on one by one. -/
theorem reports_stepViolations (hdoc : ∀ s ∈ doc.steps, (Json.object s.parameters).WellFormed) :
    Reports doc (fun c => ∃ i < doc.steps.length, ∃ rule, c = .step i rule)
      (stepViolations [] doc.steps) := by
  refine Reports.each (fun before => stepViolations (before.map (·.name)).reverse)
    (fun before => Step.violations (before.map (·.name)).reverse)
    (fun _ => rfl) (fun before s rest => ?_) (fun before s rest hsplit => ?_) ?_
  · rw [stepViolations, List.map_append, List.reverse_append]
    rfl
  · exact reports_stepViolations_of_split hsplit (hdoc s (by simp [hsplit]))
  · rintro i j c ⟨rule, rfl⟩ ⟨rule', h⟩
    exact (Check.step.inj h).1

/-! ### Targets -/

/-- **The static targets** are reported on step by step. -/
theorem reports_nextViolations :
    Reports doc (fun c => ∃ i < doc.steps.length, c = .next i)
      (doc.steps.flatMap (Step.nextViolations doc.stepNames)) := by
  refine Reports.each (fun _ rest => rest.flatMap (Step.nextViolations doc.stepNames))
    (fun _ => Step.nextViolations doc.stepNames) (fun _ => rfl) (fun _ _ _ => List.flatMap_cons)
    (fun before s rest hsplit => ?_) ?_
  · have hs : doc.steps[before.length]? = some s := by simp [hsplit]
    unfold Step.nextViolations
    split
    · next hn =>
      refine reports_nil ?_
      rintro _ v rfl hv
      cases hv with
      | unknownNext hs' hn' _ =>
        obtain rfl := Option.some.inj (hs.symm.trans hs')
        exact absurd (hn.symm.trans hn') nofun
    · next target hn =>
      refine reports_violationIf
        (fun h => .unknownNext hs hn (isTarget_eq_false_iff.mp h)) fun v hv => ?_
      cases hv with
      | unknownNext hs' hn' h =>
        obtain rfl := Option.some.inj (hs.symm.trans hs')
        obtain rfl := Option.some.inj (hn.symm.trans hn')
        exact isTarget_eq_false_iff.mpr h
  · rintro i j c rfl h
    exact Check.next.inj h

/-- The checks of case `k` of step `i`. -/
def OfCase (i k : Nat) (c : Check) : Prop := c = .condition i k ∨ c = .caseNext i k

theorem reports_caseViolations (hs : doc.steps[before.length]? = some s) (hk : s.kind = "switch")
    {cases front back : List Json} {c : Json} (hp : s.param? "switch" = some (.array cases))
    (hcase : cases = front ++ c :: back) :
    Reports doc (OfCase before.length front.length)
      (caseViolations doc.stepNames
        ("$." ++ s.name ++ ".switch" ++ "[" ++ toString front.length ++ "]") c) := by
  have hc : cases[front.length]? = some c := by simp [hcase]
  -- the step and the case of a failing check are those at hand
  have hcase_eq : ∀ {s' : Step} {cases' : List Json} {c' : Json},
      doc.steps[before.length]? = some s' → s'.param? "switch" = some (.array cases') →
        cases'[front.length]? = some c' → c' = c := by
    intro s' cases' c' hs' hp' hc'
    obtain rfl := Option.some.inj (hs.symm.trans hs')
    obtain rfl := Json.array.inj (Option.some.inj (hp.symm.trans hp'))
    exact Option.some.inj (hc'.symm.trans hc)
  refine Reports.append (P := (· = .condition before.length front.length))
    (Q := (· = .caseNext before.length front.length)) ?_ ?_ (by simp)
  · refine reports_violationIf
      (fun h => .noCondition hs hk hp hc (Option.isNone_iff_eq_none.mp h)) fun v hv => ?_
    cases hv with
    | noCondition hs' _ hp' hc' h =>
      obtain rfl := hcase_eq hs' hp' hc'
      exact Option.isNone_iff_eq_none.mpr h
  · split
    · next hn =>
      refine reports_singleton (.noCaseNext hs hk hp hc fun target h => ?_)
      simp [h, Json.text?] at hn
    · next target hn =>
      obtain ⟨j, hj, htext⟩ := Option.bind_eq_some_iff.mp hn
      have hnext : c.get? "next" = some (.string target) := by
        rw [hj]
        cases j <;> simp_all [Json.text?]
      refine reports_violationIf
        (fun h => .unknownCaseNext hs hk hp hc hnext (isTarget_eq_false_iff.mp h)) fun v hv => ?_
      cases hv with
      | noCaseNext hs' _ hp' hc' h =>
        obtain rfl := hcase_eq hs' hp' hc'
        exact absurd hnext (h target)
      | unknownCaseNext hs' _ hp' hc' hn' h =>
        obtain rfl := hcase_eq hs' hp' hc'
        obtain rfl := Json.string.inj (Option.some.inj (hnext.symm.trans hn'))
        exact isTarget_eq_false_iff.mpr h

/-- A check of a case only fails where there is the case. -/
theorem Fails.exists_case {i k : Nat} {c : Check} {v : Violation} (hv : Fails doc c v)
    (hc : OfCase i k c) :
    ∃ s cases j, doc.steps[i]? = some s ∧ s.kind = "switch" ∧
      s.param? "switch" = some (.array cases) ∧ cases[k]? = some j := by
  rcases hc with rfl | rfl
  · cases hv with
    | noCondition hs hk hp hc _ => exact ⟨_, _, _, hs, hk, hp, hc⟩
  · cases hv with
    | noCaseNext hs hk hp hc _ | unknownCaseNext hs hk hp hc _ _ => exact ⟨_, _, _, hs, hk, hp, hc⟩

/-- The checks of the cases of step `i`. -/
def OfSwitch (i : Nat) (c : Check) : Prop := c = .cases i ∨ ∃ k, OfCase i k c

/-- **The cases of a switch** are reported on one by one, or that there is no list of them. -/
theorem reports_switchViolations_of_split (hsplit : doc.steps = before ++ s :: rest) :
    Reports doc (OfSwitch before.length) (s.switchViolations doc.stepNames) := by
  have hs : doc.steps[before.length]? = some s := by simp [hsplit]
  unfold Step.switchViolations
  dsimp only
  split
  · next hk =>
    split
    · next hp =>
      have hlist : ∀ cases, s.param? "switch" ≠ some (.array cases) := by
        intro cases h
        simp [h, Json.items?] at hp
      refine (reports_singleton (.casesNotList hs hk hlist)).congr fun c v hv => ?_
      refine ⟨.inl, ?_⟩
      rintro (hc | ⟨k, hc⟩)
      · exact hc
      · -- without a list there are no cases to find fault with
        obtain ⟨s', cases, _, hs', _, hp', _⟩ := hv.exists_case hc
        obtain rfl := Option.some.inj (hs.symm.trans hs')
        exact absurd hp' (hlist cases)
    · next cases hitems =>
      have hp : s.param? "switch" = some (.array cases) := by
        obtain ⟨j, hj, hitems⟩ := Option.bind_eq_some_iff.mp hitems
        rw [hj]
        cases j <;> simp_all [Json.items?]
      have heach := Reports.each (P := OfCase before.length)
        (fun front => casesViolations doc.stepNames ("$." ++ s.name ++ ".switch") front.length)
        (fun front => caseViolations doc.stepNames
          ("$." ++ s.name ++ ".switch" ++ "[" ++ toString front.length ++ "]"))
        (fun _ => rfl) (fun _ _ _ => by rw [casesViolations, List.length_append]; rfl)
        (fun _ _ _ hcase => reports_caseViolations hs hk hp hcase)
        (by rintro i j c (rfl | rfl) (h | h) <;> simp_all)
      refine heach.congr fun c v hv => ?_
      constructor
      · rintro ⟨k, -, hc⟩
        exact .inr ⟨k, hc⟩
      · rintro (rfl | ⟨k, hc⟩)
        · cases hv with
          | casesNotList hs' _ h =>
            obtain rfl := Option.some.inj (hs.symm.trans hs')
            exact absurd hp (h cases)
        · obtain ⟨s', cases', _, hs', _, hp', hcase⟩ := hv.exists_case hc
          obtain rfl := Option.some.inj (hs.symm.trans hs')
          obtain rfl := Json.array.inj (Option.some.inj (hp.symm.trans hp'))
          exact ⟨k, (List.getElem?_eq_some_iff.mp hcase).1, hc⟩
  · next hk =>
    refine reports_nil ?_
    rintro c v (rfl | ⟨k, hc⟩) hv
    · cases hv with
      | casesNotList hs' hk' _ => exact hk (Option.some.inj (hs.symm.trans hs') ▸ hk')
    · obtain ⟨s', _, _, hs', hk', _, _⟩ := hv.exists_case hc
      exact hk (Option.some.inj (hs.symm.trans hs') ▸ hk')

/-- **The switch steps** are reported on step by step. -/
theorem reports_switchViolations :
    Reports doc (fun c => ∃ i < doc.steps.length, OfSwitch i c)
      (doc.steps.flatMap (Step.switchViolations doc.stepNames)) := by
  refine Reports.each (fun _ rest => rest.flatMap (Step.switchViolations doc.stepNames))
    (fun _ => Step.switchViolations doc.stepNames) (fun _ => rfl) (fun _ _ _ => List.flatMap_cons)
    (fun before s rest hsplit => reports_switchViolations_of_split hsplit) ?_
  rintro i j c (rfl | ⟨k, rfl | rfl⟩) (h | ⟨k', h | h⟩) <;> simp_all

end Steps

/-! ### Documents -/

/-- **The violations of a document report on all checks.** -/
theorem reports_violations (hdoc : ∀ s ∈ doc.steps, (Json.object s.parameters).WellFormed) :
    Reports doc (fun _ => True) doc.violations := by
  have hsteps : Reports doc (· = .steps) (violationIf doc.steps.isEmpty "$" .noSteps) := by
    refine reports_violationIf (fun h => .noSteps (List.isEmpty_iff.mp h)) fun v hv => ?_
    cases hv with
    | noSteps h => exact List.isEmpty_iff.mpr h
  have hreports := (((reports_declaration.append hsteps ?_).append
    (reports_stepViolations hdoc) ?_).append reports_nextViolations ?_).append
    reports_switchViolations ?_
  · refine hreports.congr fun c v hv => iff_of_true ?_ trivial
    -- a check of a step only fails where there is the step
    have hstep : ∀ {i : Nat} {s : Step}, doc.steps[i]? = some s → i < doc.steps.length :=
      fun hs => (List.getElem?_eq_some_iff.mp hs).1
    cases hv with
    | noSteps h => exact .inl (.inl (.inl (.inr rfl)))
    | badName hs _ | reserved hs _ | repeated hs _ _ _ | noKind hs _ | declares hs _
    | expression hs _ _ => exact .inl (.inl (.inr ⟨_, hstep hs, _, rfl⟩))
    | unknownNext hs _ _ => exact .inl (.inr ⟨_, hstep hs, rfl⟩)
    | casesNotList hs _ _ => exact .inr ⟨_, hstep hs, .inl rfl⟩
    | noCondition hs _ _ _ _ => exact .inr ⟨_, hstep hs, .inr ⟨_, .inl rfl⟩⟩
    | noCaseNext hs _ _ _ _ | unknownCaseNext hs _ _ _ _ _ =>
      exact .inr ⟨_, hstep hs, .inr ⟨_, .inr rfl⟩⟩
    | _ => exact .inl (.inl (.inl (.inl trivial)))
  · rintro _ hc rfl
    simp [OfDeclaration] at hc
  · rintro _ hc ⟨i, -, rule, rfl⟩
    simp [OfDeclaration] at hc
  · rintro _ hc ⟨i, -, rfl⟩
    simp [OfDeclaration] at hc
  · rintro _ hc ⟨i, -, rfl | ⟨k, rfl | rfl⟩⟩ <;> simp [OfDeclaration] at hc

/-- A violation that is reported belongs to a check that fails. -/
theorem Reports.exists_fails (h : Reports doc P vs) {v : Violation} (hv : v ∈ vs) :
    ∃ c, P c ∧ Fails doc c v := by
  obtain ⟨checks, -, hmem, hall⟩ := h
  obtain ⟨c, hc, hfails⟩ := Fallible.exists_mem_of_forall₂ hall hv
  exact ⟨c, ((hmem c).mp hc).1, hfails⟩

/-- A check that fails has a violation that is reported. -/
theorem Reports.exists_mem (h : Reports doc P vs) {c : Check} (hc : P c) {v : Violation}
    (hv : Fails doc c v) : ∃ w ∈ vs, Fails doc c w := by
  obtain ⟨checks, -, hmem, hall⟩ := h
  exact Fallible.exists_mem_of_forall₂ hall.flip ((hmem c).mpr ⟨hc, v, hv⟩)

/-! ### What is asked of a document -/

/-- **The fields of an allowlist** have names, and no name comes twice. -/
structure ValidFields (fields : List AllowedField) : Prop where
  named : ∀ f ∈ fields, ∃ name, f.name? = some name
  distinct : (fields.map (·.name?)).Nodup

/-- **What is asked of a declaration.** -/
structure ValidDeclaration (d : Declaration) : Prop where
  call : ∀ call, d.call? = some call → call = "declare"
  nonempty : Text.trimmed d.namespacePath ≠ ""
  unslashed : ¬ Slashed (Text.trimmed d.namespacePath)
  fields : ∀ list : FieldList, ValidFields (list.fields d)

/-- **What is asked of a case** of a switch. -/
structure ValidCase (doc : Document) (c : Json) : Prop where
  condition : ∃ condition, c.get? "condition" = some condition
  next : ∃ target, c.get? "next" = some (.string target) ∧ doc.Leads target

/-- **What is asked of a step.** -/
structure ValidStep (doc : Document) (s : Step) : Prop where
  name : Name s.name.toList
  unreserved : s.name ≠ "end"
  kind : s.kind ≠ "" ∧ s.kind ≠ "declare"
  templates : ∀ text, s.Evaluates text → ∃ t, Template.parse text = .ok t
  next : ∀ target, s.next? = some target → doc.Leads target
  switch : s.kind = "switch" →
    ∃ cases, s.param? "switch" = some (.array cases) ∧ ∀ c ∈ cases, ValidCase doc c

/-- **What is asked of a document.** -/
structure Valid (doc : Document) : Prop where
  declaration : ∃ d, doc.declaration? = some d ∧ ValidDeclaration d
  nonempty : doc.steps ≠ []
  distinct : doc.stepNames.Nodup
  steps : ∀ s ∈ doc.steps, ValidStep doc s

/-- Distinct values are found at each place but for the later of two places with one value. -/
theorem nodup_map_iff_getElem? {α β : Type} {xs : List α} {f : α → β} :
    (xs.map f).Nodup ↔
      ∀ (i j : Nat) (x y : α), j < i → xs[i]? = some x → xs[j]? = some y → f y ≠ f x := by
  rw [List.nodup_iff_pairwise_ne, List.pairwise_map, List.pairwise_iff_getElem]
  constructor
  · intro h i j x y hlt hx hy
    obtain ⟨hi, rfl⟩ := List.getElem?_eq_some_iff.mp hx
    obtain ⟨hj, rfl⟩ := List.getElem?_eq_some_iff.mp hy
    exact h j i hj hi hlt
  · intro h j i hj hi hlt
    exact h i j _ _ hlt (List.getElem?_eq_getElem hi) (List.getElem?_eq_getElem hj)

theorem Valid.of_declaration (h : Valid doc) {d : Declaration} (hd : doc.declaration? = some d) :
    ValidDeclaration d := by
  obtain ⟨d', hd', hvalid⟩ := h.declaration
  obtain rfl := Option.some.inj (hd.symm.trans hd')
  exact hvalid

theorem Valid.of_step (h : Valid doc) {i : Nat} {s : Step} (hs : doc.steps[i]? = some s) :
    ValidStep doc s :=
  h.steps s (List.mem_of_getElem? hs)

theorem Valid.of_case (h : Valid doc) {i k : Nat} {s : Step} {cases : List Json} {c : Json}
    (hs : doc.steps[i]? = some s) (hk : s.kind = "switch")
    (hp : s.param? "switch" = some (.array cases)) (hc : cases[k]? = some c) :
    ValidCase doc c := by
  obtain ⟨cases', hp', hcases⟩ := (h.of_step hs).switch hk
  obtain rfl := Json.array.inj (Option.some.inj (hp.symm.trans hp'))
  exact hcases c (List.mem_of_getElem? hc)

theorem validDeclaration_of_forall_not_fails (h : ∀ c v, ¬ Fails doc c v) {d : Declaration}
    (hd : doc.declaration? = some d) : ValidDeclaration d where
  call call hc := by
    by_contra hne
    exact h _ _ (.notDeclare hd hc hne)
  nonempty hempty := h _ _ (.emptyNamespace hd hempty)
  unslashed hs := h _ _ (.slashedNamespace hd hs)
  fields list := by
    have hnamed : ∀ (i : Nat) (f : AllowedField), (list.fields d)[i]? = some f →
        ∃ name, f.name? = some name := by
      intro i f hf
      refine Option.ne_none_iff_exists'.mp fun hnone => ?_
      exact h _ _ (.fieldMissing hd hf hnone)
    -- only names that are there count as repeated, and by now all are
    refine ⟨fun f hf => ?_, nodup_map_iff_getElem?.mpr fun i j f g hj hf hg heq => ?_⟩
    · obtain ⟨i, hi⟩ := List.mem_iff_getElem?.mp hf
      exact hnamed i f hi
    · obtain ⟨name, hname⟩ := hnamed i f hf
      exact h _ _ (.fieldRepeated hd hf hname hj hg (heq.trans hname))

theorem validStep_of_forall_not_fails (h : ∀ c v, ¬ Fails doc c v) {i : Nat} {s : Step}
    (hs : doc.steps[i]? = some s) : ValidStep doc s where
  name := by
    by_contra hname
    exact h _ _ (.badName hs hname)
  unreserved hend := h _ _ (.reserved hs hend)
  kind := ⟨fun hk => h _ _ (.noKind hs hk), fun hk => h _ _ (.declares hs hk)⟩
  templates text ht := by
    cases hparse : Template.parse text with
    | ok t => exact ⟨t, rfl⟩
    | error e => exact absurd (.expression hs ht hparse) (h _ _)
  next target hn := by
    by_contra hlost
    exact h _ _ (.unknownNext hs hn hlost)
  switch hk := by
    -- if there is a list, each of its cases passes two checks of its own
    by_contra hswitch
    refine h _ _ (.casesNotList hs hk fun cases hp => hswitch ⟨cases, hp, fun c hc => ?_⟩)
    obtain ⟨k, hk'⟩ := List.mem_iff_getElem?.mp hc
    refine ⟨Option.ne_none_iff_exists'.mp fun hnone => h _ _ (.noCondition hs hk hp hk' hnone), ?_⟩
    by_contra hnext
    refine h _ _ (.noCaseNext hs hk hp hk' fun target hn => hnext ⟨target, hn, ?_⟩)
    by_contra hlost
    exact h _ _ (.unknownCaseNext hs hk hp hk' hn hlost)

/-- **Everything that is asked of a document holds** exactly if no check fails. -/
theorem valid_iff : Valid doc ↔ ∀ c v, ¬ Fails doc c v := by
  constructor
  · intro h c v hv
    cases hv with
    | noDeclaration hnone =>
      obtain ⟨d, hd, -⟩ := h.declaration
      exact absurd (hd.symm.trans hnone) nofun
    | notDeclare hd hc hne => exact hne ((h.of_declaration hd).call _ hc)
    | emptyNamespace hd hempty => exact (h.of_declaration hd).nonempty hempty
    | slashedNamespace hd hs => exact (h.of_declaration hd).unslashed hs
    | @fieldMissing d list i f hd hf hnone =>
      obtain ⟨name, hname⟩ := ((h.of_declaration hd).fields list).named f (List.mem_of_getElem? hf)
      exact absurd (hname.symm.trans hnone) nofun
    | @fieldRepeated d list i j f g name hd hf hn hj hg hn' =>
      exact nodup_map_iff_getElem?.mp ((h.of_declaration hd).fields list).distinct i j f g hj hf hg
        (hn'.trans hn.symm)
    | noSteps hnone => exact h.nonempty hnone
    | badName hs hname => exact hname (h.of_step hs).name
    | reserved hs hend => exact (h.of_step hs).unreserved hend
    | @repeated i j s s' hs hj hs' hname =>
      exact nodup_map_iff_getElem?.mp h.distinct i j s s' hj hs hs' hname
    | noKind hs hk => exact (h.of_step hs).kind.1 hk
    | declares hs hk => exact (h.of_step hs).kind.2 hk
    | expression hs ht herr =>
      obtain ⟨t, hok⟩ := (h.of_step hs).templates _ ht
      exact absurd (hok.symm.trans herr) nofun
    | unknownNext hs hn hlost => exact hlost ((h.of_step hs).next _ hn)
    | casesNotList hs hk hlist =>
      obtain ⟨cases, hp, -⟩ := (h.of_step hs).switch hk
      exact hlist cases hp
    | noCondition hs hk hp hc hnone =>
      obtain ⟨condition, hsome⟩ := (h.of_case hs hk hp hc).condition
      exact absurd (hsome.symm.trans hnone) nofun
    | noCaseNext hs hk hp hc hnone =>
      obtain ⟨target, hn, -⟩ := (h.of_case hs hk hp hc).next
      exact hnone target hn
    | unknownCaseNext hs hk hp hc hn hlost =>
      obtain ⟨target, hn', hleads⟩ := (h.of_case hs hk hp hc).next
      obtain rfl := Json.string.inj (Option.some.inj (hn.symm.trans hn'))
      exact hlost hleads
  · intro h
    refine ⟨?_, fun hnone => h _ _ (.noSteps hnone), ?_, fun s hs => ?_⟩
    · cases hd : doc.declaration? with
      | none => exact absurd (.noDeclaration hd) (h _ _)
      | some d => exact ⟨d, rfl, validDeclaration_of_forall_not_fails h hd⟩
    · exact nodup_map_iff_getElem?.mpr fun i j s s' hj hs hs' hname =>
        h _ _ (.repeated hs hj hs' hname)
    · obtain ⟨i, hi⟩ := List.mem_iff_getElem?.mp hs
      exact validStep_of_forall_not_fails h hi

/-- **Validation finds everything that is wrong and nothing else.** A document is valid exactly if
everything that is asked of one holds, and the violations of a document are those of the checks that
fail, one for each. No value that can be read holds a name twice in one object. -/
theorem finds_every_violation (doc : Document)
    (hdoc : ∀ s ∈ doc.steps, (Json.object s.parameters).WellFormed) :
    (doc.isValid = true ↔ Valid doc) ∧
      ∃ checks : List Check, checks.Nodup ∧ (∀ c, c ∈ checks ↔ ∃ v, Fails doc c v) ∧
        List.Forall₂ (Fails doc) checks doc.violations := by
  obtain ⟨checks, hnd, hmem, hall⟩ := reports_violations hdoc
  simp only [true_and] at hmem
  refine ⟨?_, checks, hnd, hmem, hall⟩
  have hlength := hall.length_eq
  rw [isValid, List.isEmpty_iff, valid_iff]
  constructor
  · -- a check that fails would be among those with a violation
    intro hnil c v hv
    rw [hnil, List.length_nil, List.length_eq_zero_iff] at hlength
    exact absurd ((hmem c).mpr ⟨v, hv⟩) (by simp [hlength])
  · intro h
    have hnone : checks = [] := List.eq_nil_iff_forall_not_mem.mpr fun c hc => by
      obtain ⟨v, hv⟩ := (hmem c).mp hc
      exact h c v hv
    rw [hnone, List.length_nil, eq_comm, List.length_eq_zero_iff] at hlength
    exact hlength

/-- A document without a declaration. Its steps share a name, the first has an expression that is
left open and leads nowhere, and the second has no kind. -/
def astray : Document :=
  ⟨"astray", none,
    [⟨"a", some "return", some "b", [("return", .string "$\x7bx")]⟩, ⟨"a", none, none, []⟩]⟩

theorem finds_every_violation_astray :
    (∀ s ∈ astray.steps, (Json.object s.parameters).WellFormed) ∧ ¬ Valid astray ∧
      ∃ checks : List Check, checks.length = 5 ∧ checks.Nodup ∧
        List.Forall₂ (Fails astray) checks astray.violations := by
  have hwell : ∀ s ∈ astray.steps, (Json.object s.parameters).WellFormed := by
    simp [astray, Json.wellFormed_object_iff, Json.WellFormed.string, Entries.names]
  obtain ⟨hvalid, checks, hnd, -, hall⟩ := finds_every_violation astray hwell
  have hlength : astray.violations.length = 5 := by decide
  refine ⟨hwell, fun h => ?_, checks, hall.length_eq.trans hlength, hnd, hall⟩
  have hnil := List.isEmpty_iff.mp (hvalid.mpr h)
  simp [hnil] at hlength

end RouteFlow.Document
