import RouteFlow.Document.Validation
import RouteFlow.Proofs.Json.WellFormed
import RouteFlow.Proofs.Template.Faults

/-!
# The strings that have to be templates

A string stands in a value at a place: segments of a path, walked from the value, lead to it
(`mem_strings_iff`). A step evaluates the strings in its parameters, wherever they stand, except
what stands under `source` in the `script` of a script step (`Evaluates`). Validation takes this
source out of a copy of the parameters and checks what is left. Taking it out moves another member
into its place, but the places of strings are spelled with names, so all other strings stay where
they are (`walk_evaluatedParameters`).

* `mem_evaluatedParameters_iff` — what is checked of a step is what it evaluates.
-/

namespace RouteFlow

open Template (Segment)
open Template.Path (walk)

/-! ### Places of strings -/

namespace Template

theorem mem_stringsOfItems_iff {items : List Json} {text : String} :
    text ∈ stringsOfItems items ↔ ∃ j ∈ items, text ∈ strings j := by
  induction items with
  | nil => simp [stringsOfItems]
  | cons j rest ih => simp [stringsOfItems, ih]

theorem mem_stringsOfMembers_iff {ms : List (String × Json)} {text : String} :
    text ∈ stringsOfMembers ms ↔ ∃ m ∈ ms, text ∈ strings m.2 := by
  induction ms with
  | nil => simp [stringsOfMembers]
  | cons m rest ih => simp [stringsOfMembers, ih]

@[simp] theorem walk_key (j : Json) (name : String) (place : List Segment) :
    walk j (.key name :: place) = (j.get? name).bind (walk · place) := rfl

@[simp] theorem walk_index (j : Json) (n : Nat) (place : List Segment) :
    walk j (.index n :: place) = (j.items?.bind (·[n]?)).bind (walk · place) := rfl

/-- One segment on, there are no strings that were not there before. -/
theorem strings_subset_of_step? {j j' : Json} {s : Segment} (h : Path.step? j s = some j') :
    strings j' ⊆ strings j := by
  cases s with
  | key name =>
    cases j with
    | object ms => exact strings_subset_of_mem_members (Entries.mem_of_get? h)
    | _ => simp [Path.step?, Json.get?, Json.members?] at h
  | index n =>
    cases j with
    | array items => exact strings_subset_of_mem_items (List.mem_of_getElem? h)
    | _ => simp [Path.step?, Json.items?] at h

/-- **The strings in a value** are those that stand at some place in it. -/
theorem mem_strings_iff {j : Json} (hj : j.WellFormed) {text : String} :
    text ∈ strings j ↔ ∃ place, walk j place = some (.string text) := by
  constructor
  · intro h
    induction hj with
    | null | bool | number => simp [strings] at h
    | string =>
      obtain rfl := List.mem_singleton.mp h
      exact ⟨[], rfl⟩
    | @array items _ ih =>
      obtain ⟨j, hj, h⟩ := mem_stringsOfItems_iff.mp h
      obtain ⟨place, hplace⟩ := ih j hj h
      obtain ⟨n, hn⟩ := List.mem_iff_getElem?.mp hj
      exact ⟨.index n :: place, by simp [Json.items?, hn, hplace]⟩
    | @object ms hn _ ih =>
      obtain ⟨⟨name, j⟩, hm, h⟩ := mem_stringsOfMembers_iff.mp h
      obtain ⟨place, hplace⟩ := ih _ hm h
      exact ⟨.key name :: place, by simp [Entries.get?_of_mem hn hm, hplace]⟩
  · rintro ⟨place, h⟩
    clear hj
    induction place generalizing j with
    | nil =>
      obtain rfl := Option.some.inj h
      exact List.mem_singleton.mpr rfl
    | cons s place ih =>
      obtain ⟨j', hs, h⟩ := Option.bind_eq_some_iff.mp h
      exact strings_subset_of_step? hs (ih h)

end Template

/-! ### Parameters of a step -/

namespace Document

/-- The place of the source in the parameters of a script step. -/
def sourcePlace : List Segment := [.key "script", .key "source"]

/-- **A step evaluates a string** that stands in its parameters, unless it stands in the source of
its script. -/
def Step.Evaluates (s : Step) (text : String) : Prop :=
  ∃ place, walk (.object s.parameters) place = some (.string text) ∧
    ¬ (s.kind = "script" ∧ sourcePlace <+: place)

/-- A script without its source; any other value is as it was. -/
def withoutSource : Json → Json
  | .object script => .object (Entries.remove script "source")
  | other => other

theorem Step.evaluatedParameters_eq (s : Step) :
    s.evaluatedParameters =
      if s.kind = "script" then .object (s.parameters.adjust "script" withoutSource)
      else .object s.parameters := by
  unfold Step.evaluatedParameters
  split <;> rfl

theorem wellFormed_withoutSource {j : Json} (h : j.WellFormed) : (withoutSource j).WellFormed := by
  cases j with
  | object ms => exact h.remove "source"
  | _ => exact h

theorem walk_withoutSource {j : Json} (h : j.WellFormed) {place : List Segment} {text : String} :
    walk (withoutSource j) place = some (.string text) ↔
      walk j place = some (.string text) ∧ ¬ [Segment.key "source"] <+: place := by
  cases place with
  | nil => cases j <;> simp [withoutSource]
  | cons segment place =>
    cases j with
    | object ms =>
      cases segment with
      | index n => simp [withoutSource, Json.items?]
      | key name =>
        have hn := (Json.wellFormed_object_iff.mp h).1
        by_cases hname : "source" = name <;> simp [withoutSource, Entries.get?_remove hn, hname]
    | _ =>
      -- nothing has been taken out, and there is no member to go to
      rw [withoutSource, iff_self_and]
      · intro hwalk hsource
        obtain ⟨rfl, -⟩ := List.cons_prefix_cons.mp hsource
        simp [Json.get?, Json.members?] at hwalk
      · simp

/-- **What is checked stays where it was**, and nothing else is checked. -/
theorem walk_evaluatedParameters {s : Step} (h : (Json.object s.parameters).WellFormed)
    {place : List Segment} {text : String} :
    walk s.evaluatedParameters place = some (.string text) ↔
      walk (.object s.parameters) place = some (.string text) ∧
        ¬ (s.kind = "script" ∧ sourcePlace <+: place) := by
  rw [s.evaluatedParameters_eq]
  split
  · next hkind =>
    simp only [hkind, true_and, sourcePlace]
    cases place with
    | nil => simp
    | cons segment place =>
      cases segment with
      | index n => simp [Json.items?]
      | key name =>
        rw [List.cons_prefix_cons, Template.walk_key, Template.walk_key]
        simp only [Json.get?_object, Entries.get?_adjust]
        by_cases hname : "script" = name
        · subst hname
          cases hj : Entries.get? s.parameters "script" with
          | none => simp
          | some j => simpa using walk_withoutSource (h.get? hj)
        · simp [hname]
  · next hkind => simp [hkind]

/-- **What is checked of a step is what it evaluates.** -/
theorem mem_evaluatedParameters_iff {s : Step} (h : (Json.object s.parameters).WellFormed)
    {text : String} :
    text ∈ Template.strings s.evaluatedParameters ↔ s.Evaluates text := by
  have hwell : s.evaluatedParameters.WellFormed := by
    rw [s.evaluatedParameters_eq]
    split
    · exact h.adjust (fun _ => wellFormed_withoutSource) "script"
    · exact h
  rw [Template.mem_strings_iff hwell]
  exact exists_congr fun _ => walk_evaluatedParameters h

end Document

end RouteFlow
