import Mathlib.Data.List.Forall2
import Mathlib.Data.List.Nodup
import RouteFlow.Pipeline.Basic
import RouteFlow.Proofs.Entries
import RouteFlow.Proofs.Fallible

/-!
# What binding keeps

A pipeline that comes out of `Pipeline.bind` has the steps of its document, one for one and in
order, with the same names and the same `next`, and its names are distinct (`bind_eq_ok_iff`).

The index is filled before any step is bound. As long as no name comes twice, each one is put behind
those before it, with the number of them for its place (`addNames_eq_ok_iff`). In the end the steps
have the names of the index in its order, so the look-up by name and the look-up by place are
inverse to each other (`Indexed`).

* `Binds` — what is asked of a step of the document and what its bound step is;
* `Bound` — what a document is bound to;
* `indexed_of_bind` — the index of a bound pipeline is the inverse of its list of steps.
-/

namespace RouteFlow.Pipeline

open Document (Step)
open Fallible

variable {registry : Registry} {doc : Document} {p : Pipeline}

/-! ### Names -/

section Names

variable {index index' : Entries Nat} {place : Nat} {n : String} {rest : List String}

theorem addNames_of_mem (h : n ∈ index.names) :
    addNames index place (n :: rest) = .error (.duplicateStep n) := by
  rw [addNames, if_pos (Entries.has_iff_mem.mpr h)]

/-- A name that is not there yet goes last, with its place. -/
theorem addNames_of_notMem (h : n ∉ index.names) :
    addNames index place (n :: rest) = addNames (index ++ [(n, place)]) (place + 1) rest := by
  rw [addNames, if_neg (mt Entries.has_iff_mem.mp h), Entries.insert_of_notMem place h]

theorem mem_names_append_singleton {m : String} :
    m ∈ Entries.names (index ++ [(n, place)]) ↔ m ∈ index.names ∨ m = n := by
  simp [Entries.names]

/-- **Names are put into an index** exactly if they are distinct and none of them is there yet, and
then the index goes on with them and their places. -/
theorem addNames_eq_ok_iff {names : List String} :
    addNames index place names = .ok index' ↔
      names.Nodup ∧ (∀ n ∈ names, n ∉ index.names) ∧ index ++ names.zipIdx place = index' := by
  induction names generalizing index place with
  | nil => simp [addNames]
  | cons n rest ih =>
    by_cases h : n ∈ index.names
    · rw [addNames_of_mem h]
      exact iff_of_false nofun fun hand => hand.2.1 n List.mem_cons_self h
    · -- what is left may not hold this name either
      have hfresh : (∀ m ∈ rest, m ∉ Entries.names (index ++ [(n, place)])) ↔
          n ∉ rest ∧ ∀ m ∈ rest, m ∉ index.names := by
        simp only [mem_names_append_singleton, not_or]
        refine ⟨fun hall => ⟨fun hn => (hall n hn).2 rfl, fun m hm => (hall m hm).1⟩, ?_⟩
        rintro ⟨hn, hall⟩ m hm
        exact ⟨hall m hm, fun he => hn (he ▸ hm)⟩
      rw [addNames_of_notMem h, ih, hfresh, List.nodup_cons, List.forall_mem_cons, List.zipIdx_cons,
        List.append_assoc, List.singleton_append]
      simp only [h, not_false_eq_true, true_and]
      tauto

end Names

/-- The names of an index that is filled in order. -/
theorem names_zipIdx (names : List String) (place : Nat) :
    Entries.names (names.zipIdx place) = names := List.zipIdx_map_fst place names

/-! ### Steps -/

/-- **A step is bound**: its `next` leads to the end or to one of `names`, and its kind is known
to the registry and makes the task. -/
structure Binds (registry : Registry) (names : List String) (s : Step) (b : BoundStep) :
    Prop where
  /-- The kind of the step makes the task of the bound step. -/
  task : buildTask registry s = .ok b.task
  /-- Where the step goes on to is a step of the document or the end. -/
  target : ∀ t, s.next? = some t → t = Document.endTarget ∨ t ∈ names
  name : b.name = s.name
  kind : b.kind = s.kind
  next : b.next? = s.next?

theorem buildTask_eq_ok_iff {s : Step} {task : Run.Task} :
    buildTask registry s = .ok task ↔
      ∃ kind factory, s.kind? = some kind ∧ kind ≠ "" ∧ registry.get? kind = some factory ∧
        factory s = .ok task := by
  unfold buildTask
  split
  · next h => simp [h]
  · next h => simp [h]
  · next kind hne h =>
    have hk : kind ≠ "" := hne
    cases hf : registry.get? kind with
    | none => simp [h, hf]
    | some factory => simp [h, hk, hf, mapError_eq_ok_iff]

theorem bindStep_eq_ok_iff {names : List String} {s : Step} {b : BoundStep} :
    bindStep registry names s = .ok b ↔ Binds registry names s b := by
  unfold bindStep
  cases hn : s.next?.filter fun t => !(t == Document.endTarget || names.contains t) with
  | some target =>
    -- the target refused here is one that `Binds.target` excludes
    obtain ⟨hnext, hbad⟩ := Option.filter_eq_some_iff.mp hn
    simp only [Bool.not_eq_true', Bool.or_eq_false_iff, beq_eq_false_iff_ne] at hbad
    refine ⟨fun h => by simp at h, fun h => ?_⟩
    rcases h.target target hnext with he | hm
    · exact absurd he hbad.1
    · exact absurd hm (by simpa using hbad.2)
  | none =>
    have ht : ∀ t, s.next? = some t → t = Document.endTarget ∨ t ∈ names := by
      intro t hs
      rw [hs] at hn
      simpa [or_iff_not_imp_left] using hn
    simp only [bind_eq_ok_iff, Except.ok.injEq]
    constructor
    · rintro ⟨task, htask, rfl⟩
      exact ⟨htask, ht, rfl, rfl, rfl⟩
    · intro h
      refine ⟨b.task, h.task, ?_⟩
      rw [← h.name, ← h.kind, ← h.next]

/-- Steps are bound one for one and in order. -/
theorem bindSteps_eq_ok_iff {names : List String} {steps : List Step} {bound : List BoundStep} :
    bindSteps registry names steps = .ok bound ↔
      List.Forall₂ (Binds registry names) steps bound := by
  have hstep : Binds registry names = fun s b => bindStep registry names s = .ok b := by
    funext s b
    exact propext bindStep_eq_ok_iff.symm
  rw [hstep]
  exact each_eq_ok_iff (g := bindSteps registry names) rfl fun _ _ => rfl

/-! ### Documents -/

/-- **What a document is bound to**: its steps one for one, and an index of their names. -/
structure Bound (registry : Registry) (doc : Document) (p : Pipeline) : Prop where
  declaration : doc.declaration? = some p.declaration
  name : doc.name = p.name
  nonempty : doc.steps ≠ []
  distinct : (doc.steps.map (·.name)).Nodup
  steps : List.Forall₂ (Binds registry (doc.steps.map (·.name))) doc.steps p.steps
  index : (doc.steps.map (·.name)).zipIdx = p.index

/-- **The pipeline of a document.** Binding succeeds exactly on a document with a declaration, at
least one step, distinct names and steps that can be bound. -/
theorem bind_eq_ok_iff : bind registry doc = .ok p ↔ Bound registry doc p := by
  obtain ⟨name, declaration, steps, index⟩ := p
  unfold bind
  cases hd : doc.declaration? with
  | none => exact iff_of_false nofun fun h => absurd (hd.symm.trans h.declaration) nofun
  | some d =>
    by_cases he : doc.steps = []
    · simp only [he, List.isEmpty_nil, if_true]
      exact iff_of_false nofun fun h => h.nonempty he
    · simp only [List.isEmpty_iff, he, if_false, Fallible.bind_eq_ok_iff, addNames_eq_ok_iff,
        bindSteps_eq_ok_iff, Except.ok.injEq, Pipeline.mk.injEq]
      constructor
      · rintro ⟨_, ⟨hnd, -, rfl⟩, bound, hb, rfl, rfl, rfl, rfl⟩
        rw [List.nil_append, names_zipIdx] at hb
        exact ⟨hd, rfl, he, hnd, hb, rfl⟩
      · intro h
        have hindex : (doc.steps.map (·.name)).zipIdx = index := h.index
        refine ⟨index, ⟨h.distinct, fun _ _ => List.not_mem_nil, hindex⟩, steps, ?_, h.name, ?_⟩
        · rw [← hindex, names_zipIdx]
          exact h.steps
        · exact ⟨Option.some.inj (hd.symm.trans h.declaration), rfl, rfl⟩

theorem names_of_binds {names : List String} {steps : List Step} {bound : List BoundStep}
    (h : List.Forall₂ (Binds registry names) steps bound) :
    bound.map (·.name) = steps.map (·.name) := by
  induction h with
  | nil => rfl
  | cons hb _ ih => simp [hb.name, ih]

/-- A bound pipeline has the names of its document, in order. -/
theorem names_of_bind (h : bind registry doc = .ok p) :
    p.steps.map (·.name) = doc.steps.map (·.name) :=
  names_of_binds (bind_eq_ok_iff.mp h).steps

/-- Every bound step comes from a step of the document. -/
theorem exists_binds_of_bind (h : bind registry doc = .ok p) {b : BoundStep}
    (hb : b ∈ p.steps) :
    ∃ s ∈ doc.steps, Binds registry (doc.steps.map (·.name)) s b :=
  exists_mem_of_forall₂ (bind_eq_ok_iff.mp h).steps hb

/-! ### Places -/

theorem mem_of_stepAt? {i : Nat} {s : BoundStep} (h : p.stepAt? i = some s) : s ∈ p.steps :=
  List.mem_of_getElem? h

/-- **The index is the inverse of the list of steps**: it has a name at a place exactly if the step
at this place has the name. -/
def Indexed (p : Pipeline) : Prop :=
  ∀ n i, p.index.get? n = some i ↔ ∃ s, p.stepAt? i = some s ∧ s.name = n

/-- In an index that is filled in order with distinct names each name has its place. -/
theorem get?_zipIdx_eq_some_iff {names : List String} (h : names.Nodup) {n : String} {i : Nat} :
    Entries.get? names.zipIdx n = some i ↔ names[i]? = some n := by
  have hnd : (Entries.names names.zipIdx).Nodup := by rwa [names_zipIdx]
  rw [← List.mk_mem_zipIdx_iff_getElem?]
  exact ⟨Entries.mem_of_get?, Entries.get?_of_mem hnd⟩

/-- **The index of a bound pipeline is the inverse of its list of steps.** -/
theorem indexed_of_bind (h : bind registry doc = .ok p) : p.Indexed := by
  intro n i
  have hb := bind_eq_ok_iff.mp h
  rw [← hb.index, get?_zipIdx_eq_some_iff hb.distinct, ← names_of_bind h, List.getElem?_map,
    Option.map_eq_some_iff]
  rfl

/-- The index of a bound pipeline has the names of its steps, in order. -/
theorem names_index_of_bind (h : bind registry doc = .ok p) :
    p.index.names = p.steps.map (·.name) := by
  rw [names_of_bind h, ← (bind_eq_ok_iff.mp h).index, names_zipIdx]

theorem Indexed.position?_eq_some_iff (h : p.Indexed) {n : String} {i : Nat} :
    p.position? n = some i ↔ ∃ s, p.stepAt? i = some s ∧ s.name = n := h n i

/-- A name has no place exactly if no step has it. -/
theorem Indexed.position?_eq_none_iff (h : p.Indexed) {n : String} :
    p.position? n = none ↔ ∀ s ∈ p.steps, s.name ≠ n := by
  rw [Option.eq_none_iff_forall_ne_some]
  constructor
  · rintro hnone s hs rfl
    obtain ⟨i, hi⟩ := List.mem_iff_getElem?.mp hs
    exact hnone i (h.position?_eq_some_iff.mpr ⟨s, hi, rfl⟩)
  · intro hall i hi
    obtain ⟨s, hs, hname⟩ := h.position?_eq_some_iff.mp hi
    exact hall s (mem_of_stepAt? hs) hname

end RouteFlow.Pipeline
