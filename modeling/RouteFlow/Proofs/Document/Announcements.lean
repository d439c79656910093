import RouteFlow.Proofs.Document.Reading
import RouteFlow.Proofs.Document.Violations

/-!
# Entries that announce a declaration

The `call` of an entry is read twice. Which entry declares is settled on the text as it stands
(`Declares`), while the kind of a step is the text without the blanks around it. An entry that
`Announces` a declaration without being the one that declares is therefore a step of kind
`declare`, and this is how validation comes by a second declaration (`exists_step_iff`). Blanks
around the word are enough for that: then there may be a second declaration and no first one, and
`second_without_first_iff` says when.
-/

namespace RouteFlow.Document

variable {entries : Entries Json} {doc : Document}

/-- **A body announces a declaration**: that is what its `call` says, blanks apart. -/
def Announces (body : Json) : Prop :=
  ∃ text, body.get? "call" = some (.string text) ∧ Text.trimmed text = "declare"

/-! ### Steps -/

/-- A body stands for the kind `declare` exactly if it announces a declaration. -/
theorem KindOf.eq_declare_iff {body : Entries Json} {kind? : Option String}
    (h : KindOf body kind?) : kind? = some "declare" ↔ Announces (.object body) := by
  unfold Announces
  rw [Json.get?_object]
  cases h with
  | called h => simp [h]
  | calledOtherwise h hj =>
    refine iff_of_false nofun ?_
    rintro ⟨text, ht, -⟩
    exact hj text (Option.some.inj (h.symm.trans ht))
  | @told key before after h hsplit _ _ =>
    -- none of the names that tell a kind is `declare`
    have hmem : key ∈ ["assign", "switch", "return", "script"] := by simp [hsplit]
    have hkey : key ≠ "declare" := by
      rintro rfl
      revert hmem
      decide
    simp [h, hkey]
  | untold h _ => simp [h]

/-- **A step of kind `declare`** comes from an entry that announces a declaration. -/
theorem MakesStep.kind_eq_iff {e : String × Json} {s : Step} (h : MakesStep e s) :
    s.kind = "declare" ↔ Announces e.2 := by
  obtain ⟨body, hbody, hs⟩ := h
  rw [hbody, ← hs.kind.eq_declare_iff, Step.kind]
  cases s.kind? <;> simp

/-- **There is a step of kind `declare`** exactly if some entry announces a declaration and another
entry, or none, declares. -/
theorem ReadsDocument.exists_step_iff {name : String} {k? : Option String}
    (h : ReadsDocument name entries k? doc) :
    (∃ s ∈ doc.steps, s.kind = "declare") ↔ ∃ e ∈ entries, some e.1 ≠ k? ∧ Announces e.2 := by
  constructor
  · rintro ⟨s, hs, hkind⟩
    obtain ⟨e, he, hstep⟩ := Fallible.exists_mem_of_forall₂ h.steps hs
    obtain ⟨he, hne⟩ := List.mem_filter.mp he
    exact ⟨e, he, by simpa using hne, hstep.kind_eq_iff.mp hkind⟩
  · rintro ⟨e, he, hne, hannounces⟩
    have hmem : e ∈ entries.filter (some ·.1 ≠ k?) := List.mem_filter.mpr ⟨he, by simpa using hne⟩
    obtain ⟨s, hs, hstep : MakesStep e s⟩ := Fallible.exists_mem_of_forall₂ h.steps.flip hmem
    exact ⟨s, hs, hstep.kind_eq_iff.mpr hannounces⟩

/-- There is a declaration exactly if some entry declares. -/
theorem ReadsDocument.declaration?_eq_none_iff {name : String} {k? : Option String}
    (h : ReadsDocument name entries k? doc) : doc.declaration? = none ↔ k? = none := by
  refine ⟨fun hnone => ?_, h.undeclared⟩
  cases k? with
  | none => rfl
  | some key =>
    obtain ⟨_, d, -, -, hd⟩ := h.declared key rfl
    exact absurd (hd.symm.trans hnone) nofun

/-- **A second declaration without a first**: a step of kind `declare` stands in a document that has
no declaration exactly if entries announce one and none declares. -/
theorem ReadsDocument.exists_step_and_undeclared_iff {name : String} {k? : Option String}
    (h : ReadsDocument name entries k? doc) (hk : DeclaringKey entries k?) :
    (∃ s ∈ doc.steps, s.kind = "declare") ∧ doc.declaration? = none ↔
      "declaration" ∉ entries.names ∧ (∃ e ∈ entries, Announces e.2) ∧
        ∀ e ∈ entries, ¬ Declares e.2 := by
  rw [h.exists_step_iff, h.declaration?_eq_none_iff]
  constructor
  · rintro ⟨⟨e, he, -, hannounces⟩, rfl⟩
    cases hk with
    | absent hnamed hall => exact ⟨hnamed, ⟨e, he, hannounces⟩, hall⟩
  · rintro ⟨hnamed, ⟨e, he, hannounces⟩, hall⟩
    -- neither the name nor the text as it stands makes an entry the one that declares
    have hnone : k? = none := by
      cases hk with
      | named h' => exact absurd h' hnamed
      | @called _ _ key body _ hsplit _ hbody =>
        have hmem : (key, body) ∈ entries := by simp [hsplit]
        exact absurd hbody (hall _ hmem)
      | absent => rfl
    exact ⟨⟨e, he, by simp [hnone], hannounces⟩, hnone⟩

/-! ### Violations -/

theorem head?_append_of {s t : String} {c : Char} (h : s.toList.head? = some c) :
    (s ++ t).toList.head? = some c := by
  rw [String.toList_append, List.head?_append, h]
  rfl

theorem Defect.head?_badExpression (e : Template.TemplateError) :
    (badExpression e).message.toList.head? = some 'i' :=
  head?_append_of (by decide +kernel)

theorem Defect.head?_unknownTarget (target : String) :
    (unknownTarget target).message.toList.head? = some 'm' :=
  head?_append_of (head?_append_of (by decide +kernel))

/-- The two wordings that are about declarations belong to one defect each. -/
theorem Defect.eq_of_message_eq {x y : Defect} (hy : y = .noDeclaration ∨ y = .secondDeclaration)
    (h : x.message = y.message) : x = y := by
  -- the wordings that are not fixed differ from these two in their first letter
  have hhead : x.message.toList.head? ≠ some 'i' ∧ x.message.toList.head? ≠ some 'm' := by
    rw [h]
    rcases hy with rfl | rfl <;> decide +kernel
  cases x with
  | badExpression e => exact absurd (head?_badExpression e) hhead.1
  | unknownTarget target => exact absurd (head?_unknownTarget target) hhead.2
  | _ =>
    revert h
    rcases hy with rfl | rfl <;> decide +kernel

section Reported

variable (hdoc : ∀ s ∈ doc.steps, (Json.object s.parameters).WellFormed)

include hdoc

/-- **A second declaration is reported** exactly if a step is of kind `declare`. -/
theorem reports_second_iff :
    (∃ v ∈ doc.violations, v.defect.message = "only one declaration is allowed per pipeline") ↔
      ∃ s ∈ doc.steps, s.kind = "declare" := by
  have hreports := reports_violations hdoc
  constructor
  · rintro ⟨v, hv, hmessage⟩
    have hdefect : v.defect = .secondDeclaration := Defect.eq_of_message_eq (.inr rfl) hmessage
    obtain ⟨c, -, hfails⟩ := hreports.exists_fails hv
    cases hfails with
    | declares hs hkind => exact ⟨_, List.mem_of_getElem? hs, hkind⟩
    | _ => exact absurd hdefect nofun
  · rintro ⟨s, hs, hkind⟩
    obtain ⟨i, hi⟩ := List.mem_iff_getElem?.mp hs
    obtain ⟨v, hv, hfails⟩ := hreports.exists_mem trivial (.declares hi hkind)
    refine ⟨v, hv, ?_⟩
    cases hfails with
    | noKind hi' hnone =>
      -- the same step would have no kind
      obtain rfl := Option.some.inj (hi.symm.trans hi')
      exact absurd (hkind.symm.trans hnone) (by decide)
    | declares _ _ => rfl

/-- **A missing declaration is reported** exactly if there is none. -/
theorem reports_missing_iff :
    (∃ v ∈ doc.violations, v.defect.message = "pipeline must start with a declaration") ↔
      doc.declaration? = none := by
  have hreports := reports_violations hdoc
  constructor
  · rintro ⟨v, hv, hmessage⟩
    have hdefect : v.defect = .noDeclaration := Defect.eq_of_message_eq (.inl rfl) hmessage
    obtain ⟨c, -, hfails⟩ := hreports.exists_fails hv
    cases hfails with
    | noDeclaration hnone => exact hnone
    | _ => exact absurd hdefect nofun
  · intro hnone
    obtain ⟨v, hv, hfails⟩ := hreports.exists_mem trivial (.noDeclaration hnone)
    refine ⟨v, hv, ?_⟩
    cases hfails with
    | noDeclaration _ => rfl

end Reported

/-! ### Documents that were read -/

/-- **When a second declaration is reported.** In a document that was read from an object it is
reported exactly if an entry announces a declaration and is not the one that declares. It is
reported together with a missing declaration exactly if no entry has the name `declaration`, some
announce a declaration, and each of them has blanks around the word. -/
theorem second_without_first_iff (name : String) (hwell : (Json.object entries).WellFormed)
    (h : ofJson name (.object entries) = .ok doc) :
    (∃ k?, DeclaringKey entries k? ∧ (doc.declaration? = none ↔ k? = none) ∧
        ((∃ s ∈ doc.steps, s.kind = "declare") ↔ ∃ e ∈ entries, some e.1 ≠ k? ∧ Announces e.2)) ∧
      ((∃ s ∈ doc.steps, s.kind = "declare") ∧ doc.declaration? = none ↔
        "declaration" ∉ entries.names ∧ (∃ e ∈ entries, Announces e.2) ∧
          ∀ e ∈ entries, ¬ Declares e.2) ∧
      ((∃ v ∈ doc.violations, v.defect.message = "only one declaration is allowed per pipeline") ↔
        ∃ s ∈ doc.steps, s.kind = "declare") ∧
      ((∃ v ∈ doc.violations, v.defect.message = "pipeline must start with a declaration") ↔
        doc.declaration? = none) := by
  have hk : DeclaringKey entries (declaringKey? entries) := declaringKey?_eq_iff.mp rfl
  have hreads : ReadsDocument name entries (declaringKey? entries) doc :=
    readsDocument_of_ofJson hwell h
  have hdoc := wellFormed_of_ofJson hwell h
  exact ⟨⟨_, hk, hreads.declaration?_eq_none_iff, hreads.exists_step_iff⟩,
    hreads.exists_step_and_undeclared_iff hk, reports_second_iff hdoc, reports_missing_iff hdoc⟩

/-- Its one entry says `declare` with a blank on either side. -/
def stray : Entries Json := [("shift", .object [("call", .string " declare ")])]

theorem second_without_first_iff_stray :
    (Json.object stray).WellFormed ∧ ∃ doc, ofJson "stray" (.object stray) = .ok doc ∧
      (∃ v ∈ doc.violations, v.defect.message = "only one declaration is allowed per pipeline") ∧
      ∃ v ∈ doc.violations, v.defect.message = "pipeline must start with a declaration" := by
  have hwell : (Json.object stray).WellFormed := by
    simp [stray, Json.wellFormed_object_iff, Json.WellFormed.string, Entries.names]
  obtain ⟨doc, hdoc⟩ : ∃ doc, ofJson "stray" (.object stray) = .ok doc := ⟨_, rfl⟩
  obtain ⟨-, hsecond, hreported, hmissing⟩ := second_without_first_iff "stray" hwell hdoc
  have hstray : "declaration" ∉ stray.names ∧ (∃ e ∈ stray, Announces e.2) ∧
      ∀ e ∈ stray, ¬ Declares e.2 := by
    refine ⟨by decide, ⟨_, List.mem_cons_self, " declare ", rfl, by decide⟩, ?_⟩
    simp [stray, Declares, Entries.get?]
  obtain ⟨hstep, hnone⟩ := hsecond.mpr hstray
  exact ⟨hwell, doc, hdoc, hreported.mpr hstep, hmissing.mpr hnone⟩

/-- A step of kind `declare` in a document without a declaration. -/
theorem declare_step_without_declaration :
    ∃ doc, ofJson "stray" (.object stray) = .ok doc ∧ (∃ s ∈ doc.steps, s.kind = "declare") ∧
      doc.declaration? = none ∧
      doc.violations = [⟨"$.declaration", .noDeclaration⟩, ⟨"$.shift", .secondDeclaration⟩] := by
  refine ⟨_, rfl, ⟨_, List.mem_cons_self, by decide⟩, rfl, by decide +kernel⟩

end RouteFlow.Document
