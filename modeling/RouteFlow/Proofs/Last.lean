import Mathlib.Data.List.Find
import Mathlib.Data.List.Induction

/-!
# The last element with a property

Where later entries replace earlier ones, what counts in the end is the last element of a list that
has some property. `IsLast` says so by splitting the list at that element, with no search in it. A
search from the end finds this element (`find?_reverse_eq_some_iff`), and one more element at the
end either is the new last one or changes nothing (`isLast_concat_iff`), which is the step of every
induction along a history.
-/

namespace RouteFlow

variable {α : Type} {P : α → Prop} {l : List α} {a : α}

/-- **The last element of a list with a property**: it has the property and none behind it does. -/
inductive IsLast (P : α → Prop) (l : List α) (a : α) : Prop
  | intro (before after : List α) (split : l = before ++ a :: after) (holds : P a)
      (last : ∀ b ∈ after, ¬ P b)

theorem IsLast.mem (h : IsLast P l a) : a ∈ l := by
  obtain ⟨before, after, rfl, -, -⟩ := h
  simp

theorem IsLast.holds (h : IsLast P l a) : P a := by
  obtain ⟨-, -, -, ha, -⟩ := h
  exact ha

theorem isLast_congr {Q : α → Prop} (h : ∀ b ∈ l, P b ↔ Q b) : IsLast P l a ↔ IsLast Q l a := by
  constructor
  · rintro ⟨before, after, rfl, ha, hlast⟩
    have hafter : ∀ b ∈ after, ¬ Q b := fun b hb => mt (h b (by simp [hb])).mpr (hlast b hb)
    exact ⟨before, after, rfl, (h a (by simp)).mp ha, hafter⟩
  · rintro ⟨before, after, rfl, ha, hlast⟩
    have hafter : ∀ b ∈ after, ¬ P b := fun b hb => mt (h b (by simp [hb])).mp (hlast b hb)
    exact ⟨before, after, rfl, (h a (by simp)).mpr ha, hafter⟩

/-- **One more element** is the last one with the property, or leaves the last one as it was. -/
theorem isLast_concat_iff {x : α} :
    IsLast P (l ++ [x]) a ↔ P x ∧ a = x ∨ ¬ P x ∧ IsLast P l a := by
  constructor
  · rintro ⟨before, after, hsplit, ha, hlast⟩
    rcases List.eq_nil_or_concat after with rfl | ⟨front, y, rfl⟩
    · obtain ⟨-, hx⟩ := List.append_inj' hsplit rfl
      obtain rfl := List.singleton_inj.mp hx
      exact .inl ⟨ha, rfl⟩
    · -- something stands behind `a`, and at its end the new element
      rw [List.concat_eq_append, ← List.cons_append, ← List.append_assoc] at hsplit
      obtain ⟨rfl, hx⟩ := List.append_inj' hsplit rfl
      obtain rfl := List.singleton_inj.mp hx
      exact .inr ⟨hlast x (by simp), before, front, rfl, ha, fun b hb => hlast b (by simp [hb])⟩
  · rintro (⟨hx, rfl⟩ | ⟨hx, before, after, rfl, ha, hlast⟩)
    · exact ⟨l, [], rfl, hx, List.forall_mem_nil _⟩
    · refine ⟨before, after ++ [x], by simp, ha, ?_⟩
      exact List.forall_mem_append.mpr ⟨hlast, List.forall_mem_singleton.mpr hx⟩

/-- **A search from the end** finds the last element with the property. -/
theorem find?_reverse_eq_some_iff [DecidablePred P] :
    l.reverse.find? (fun b => decide (P b)) = some a ↔ IsLast P l a := by
  induction l using List.reverseRecOn with
  | nil =>
    refine iff_of_false nofun fun h => ?_
    exact List.not_mem_nil h.mem
  | append_singleton l x ih =>
    rw [List.reverse_concat, isLast_concat_iff, ← ih]
    by_cases hx : P x
    · simp [hx, eq_comm]
    · simp [hx]

/-- It finds nothing exactly if no element has the property. -/
theorem find?_reverse_eq_none_iff [DecidablePred P] :
    l.reverse.find? (fun b => decide (P b)) = none ↔ ∀ b ∈ l, ¬ P b := by
  simp [List.find?_eq_none]

/-- There is a last element with the property exactly if there is one at all. -/
theorem exists_isLast_iff : (∃ a, IsLast P l a) ↔ ∃ a ∈ l, P a := by
  constructor
  · rintro ⟨a, h⟩
    exact ⟨a, h.mem, h.holds⟩
  · rintro ⟨a, ha, hP⟩
    classical
    cases h : l.reverse.find? (fun b => decide (P b)) with
    | none => exact absurd hP (find?_reverse_eq_none_iff.mp h a ha)
    | some b => exact ⟨b, find?_reverse_eq_some_iff.mp h⟩

end RouteFlow
