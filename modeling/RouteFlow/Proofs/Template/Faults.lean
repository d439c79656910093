import RouteFlow.Proofs.Fallible
import RouteFlow.Template.Evaluation

/-!
# Why evaluation fails

Evaluating a value fails with the error of the first of its strings that fails (`error?_evaluate`),
and a string fails for one of two reasons: it is no template, which does not depend on the
variables, or one of its paths leads nowhere among them.

* `exists_of_evaluate_malformed` — some string of the value is no template;
* `mentions_of_evaluate_missing` — some path in a string of the value has no value;
* `strings_subset_of_mem_members`, `strings_subset_of_mem_items` — the strings of a part are
  strings of the whole, so what was checked of a value holds of its parts.
-/

namespace RouteFlow.Template

open Fallible

variable {vars : Entries Json}

/-! ### The strings of a value -/

theorem strings_subset_of_mem_items {items : List Json} {j : Json} (h : j ∈ items) :
    strings j ⊆ strings (.array items) := by
  change strings j ⊆ stringsOfItems items
  induction items with
  | nil => simp at h
  | cons j' rest ih =>
    rw [stringsOfItems]
    rcases List.mem_cons.mp h with rfl | h
    · exact List.subset_append_left _ _
    · exact List.subset_append_of_subset_right _ (ih h)

theorem strings_subset_of_mem_members {ms : List (String × Json)} {k : String} {j : Json}
    (h : (k, j) ∈ ms) : strings j ⊆ strings (.object ms) := by
  change strings j ⊆ stringsOfMembers ms
  induction ms with
  | nil => simp at h
  | cons m rest ih =>
    obtain ⟨k', j'⟩ := m
    rw [stringsOfMembers]
    rcases List.mem_cons.mp h with h | h
    · obtain ⟨rfl, rfl⟩ := Prod.mk.inj h
      exact List.subset_append_left _ _
    · exact List.subset_append_of_subset_right _ (ih h)

/-! ### The first string that fails -/

mutual

/-- **The error of a value is that of the first of its strings that fails.** -/
theorem error?_evaluate (vars : Entries Json) : ∀ j : Json,
    error? (evaluate vars j) = (strings j).findSome? fun s => error? (evaluateString vars s)
  | .null | .bool _ | .number _ => by simp [evaluate, strings]
  | .string s => by simp [evaluate, strings]
  | .array items => by
    rw [evaluate, strings, error?_map, error?_evaluateItems vars items]
  | .object ms => by
    rw [evaluate, strings, error?_map, error?_evaluateMembers vars ms]

theorem error?_evaluateItems (vars : Entries Json) : ∀ items : List Json,
    error? (evaluateItems vars items) =
      (stringsOfItems items).findSome? fun s => error? (evaluateString vars s)
  | [] => by simp [evaluateItems, stringsOfItems]
  | j :: rest => by
    rw [evaluateItems, stringsOfItems, error?_bind_bind, List.findSome?_append,
      error?_evaluate vars j, error?_evaluateItems vars rest]

theorem error?_evaluateMembers (vars : Entries Json) : ∀ ms : List (String × Json),
    error? (evaluateMembers vars ms) =
      (stringsOfMembers ms).findSome? fun s => error? (evaluateString vars s)
  | [] => by simp [evaluateMembers, stringsOfMembers]
  | (k, j) :: rest => by
    rw [evaluateMembers, stringsOfMembers, error?_bind_bind, List.findSome?_append,
      error?_evaluate vars j, error?_evaluateMembers vars rest]

end

/-- A value that fails has a string that fails in the same way. -/
theorem exists_of_evaluate_error {j : Json} {e : EvalError} (h : evaluate vars j = .error e) :
    ∃ s ∈ strings j, evaluateString vars s = .error e := by
  rw [← error?_eq_some_iff, error?_evaluate] at h
  obtain ⟨s, hs, he⟩ := List.exists_of_findSome?_eq_some h
  exact ⟨s, hs, error?_eq_some_iff.mp he⟩

/-! ### Why a string fails -/

theorem fetch_eq_error_iff {p : Path} {e : EvalError} :
    fetch vars p = .error e ↔ p.lookupIn vars = none ∧ e = .missing p := by
  unfold fetch
  cases p.lookupIn vars <;> simp [eq_comm]

/-- Filling in fails only at a reference whose path leads nowhere. -/
theorem exists_of_fill_error {pieces : List Piece} {e : EvalError}
    (h : fill vars pieces = .error e) :
    ∃ p, .reference p ∈ pieces ∧ p.lookupIn vars = none ∧ e = .missing p := by
  induction pieces with
  | nil => simp [fill] at h
  | cons piece rest ih =>
    have later : fill vars rest = .error e →
        ∃ p, .reference p ∈ piece :: rest ∧ p.lookupIn vars = none ∧ e = .missing p := by
      intro hr
      obtain ⟨p, hp, hl, he⟩ := ih hr
      exact ⟨p, List.mem_cons_of_mem _ hp, hl, he⟩
    cases piece with
    | literal text =>
      rw [fill, bind_eq_error_iff] at h
      rcases h with h | ⟨_, _, h⟩
      · exact later h
      · simp at h
    | reference p =>
      rw [fill, bind_eq_error_iff] at h
      rcases h with h | ⟨j, _, h⟩
      · obtain ⟨hl, he⟩ := fetch_eq_error_iff.mp h
        exact ⟨p, List.mem_cons_self, hl, he⟩
      · rcases bind_eq_error_iff.mp h with h | ⟨_, _, h⟩
        · exact later h
        · simp at h

theorem mem_paths_iff {t : Template} {p : Path} : p ∈ t.paths ↔ .reference p ∈ t.pieces := by
  simp only [paths, List.mem_filterMap]
  constructor
  · rintro ⟨piece, hm, hp⟩
    cases piece with
    | literal _ => simp at hp
    | reference p' => rw [← Option.some.inj hp]; exact hm
  · exact fun h => ⟨_, h, rfl⟩

/-- A template that was read fails only at one of its paths, which leads nowhere. -/
theorem exists_of_evaluateTemplate_error {s : String} {t : Template} {e : EvalError}
    (h : evaluateTemplate vars s t = .error e) :
    ∃ p ∈ t.paths, p.lookupIn vars = none ∧ e = .missing p := by
  unfold evaluateTemplate at h
  split at h
  · simp at h
  · -- a lone reference is fetched, all else is filled in
    split at h
    · next p hp =>
      obtain ⟨hl, he⟩ := fetch_eq_error_iff.mp h
      refine ⟨p, ?_, hl, he⟩
      rw [mem_paths_iff]
      -- the only piece of the template is the reference
      unfold single? at hp
      split at hp
      · next hpieces => rw [hpieces, ← Option.some.inj hp]; exact List.mem_singleton.mpr rfl
      · simp at hp
    · obtain ⟨p, hp, hl, he⟩ := exists_of_fill_error (map_eq_error_iff.mp h)
      exact ⟨p, mem_paths_iff.mpr hp, hl, he⟩

/-- **Two ways for a string to fail**: it is no template, or a path of the template that it is
leads nowhere. -/
theorem evaluateString_error_cases {s : String} {e : EvalError}
    (h : evaluateString vars s = .error e) :
    (∃ fault, parse s = .error fault ∧ e = .malformed fault) ∨
      ∃ t, parse s = .ok t ∧ ∃ p ∈ t.paths, p.lookupIn vars = none ∧ e = .missing p := by
  -- reading comes first, and a text that was read can only fail at its references
  rcases bind_eq_error_iff.mp h with h | ⟨t, ht, h⟩
  · obtain ⟨fault, hf, he⟩ := mapError_eq_error_iff.mp h
    exact .inl ⟨fault, hf, he.symm⟩
  · exact .inr ⟨t, mapError_eq_ok_iff.mp ht, exists_of_evaluateTemplate_error h⟩

/-! ### Why a value fails -/

theorem exists_of_evaluate_malformed {j : Json} {fault : TemplateError}
    (h : evaluate vars j = .error (.malformed fault)) :
    ∃ s ∈ strings j, parse s = .error fault := by
  obtain ⟨s, hs, he⟩ := exists_of_evaluate_error h
  rcases evaluateString_error_cases he with ⟨fault', hf, hm⟩ | ⟨t, _, p, _, _, hm⟩
  · obtain rfl := EvalError.malformed.inj hm
    exact ⟨s, hs, hf⟩
  · simp at hm

/-- Some string in a value refers to a path. -/
def Mentions (j : Json) (p : Path) : Prop :=
  ∃ s ∈ strings j, ∃ t, parse s = .ok t ∧ p ∈ t.paths

theorem mentions_of_evaluate_missing {j : Json} {p : Path}
    (h : evaluate vars j = .error (.missing p)) : Mentions j p ∧ p.lookupIn vars = none := by
  obtain ⟨s, hs, he⟩ := exists_of_evaluate_error h
  rcases evaluateString_error_cases he with ⟨fault', _, hm⟩ | ⟨t, ht, p', hp, hl, hm⟩
  · simp at hm
  · obtain rfl := EvalError.missing.inj hm
    exact ⟨⟨s, hs, t, ht, hp⟩, hl⟩

end RouteFlow.Template
