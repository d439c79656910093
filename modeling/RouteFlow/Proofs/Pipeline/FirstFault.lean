import RouteFlow.Proofs.Pipeline.Refusals

/-!
# The fault that a document is refused for

Binding looks at a document in a fixed order: its declaration, whether there are steps, whether a
name comes twice, and then the steps one by one. A repeated name is found before any step is bound,
so a step may go on to one that comes after it, and a step that cannot be bound is not reported
where a name further down comes a second time. `Rejects` says for each fault what has to hold of
everything that is looked at before it.

* `addNames_nil_eq_error_iff` — the name that is found repeated is the first that is;
* `bindStep_eq_error_iff` — a step is refused for its target before its kind;
* `binds_or_names_first_fault` — which documents are bound, what is made of them, and what the
  others are refused for.
-/

namespace RouteFlow.Pipeline

open Document (Step)
open Fallible

variable {registry : Registry} {doc : Document}

/-! ### Names -/

/-- **A name is refused** after names that were put into the index, because one of them or one that
was there before is the same. -/
theorem addNames_eq_error_iff {index : Entries Nat} {place : Nat} {names : List String}
    {e : BindError} :
    addNames index place names = .error e ↔
      ∃ before n after, names = before ++ n :: after ∧
        (∃ index', addNames index place before = .ok index' ∧ n ∈ index'.names) ∧
        e = .duplicateStep n := by
  induction names generalizing index place with
  | nil => simp [addNames]
  | cons m rest ih =>
    by_cases hm : m ∈ index.names
    · rw [addNames_of_mem hm]
      constructor
      · rintro ⟨⟩
        exact ⟨[], m, rest, rfl, ⟨index, rfl, hm⟩, rfl⟩
      · rintro ⟨_ | ⟨m', before⟩, n, after, hsplit, ⟨index', hadd, -⟩, rfl⟩
        · rw [(List.cons.inj hsplit).1]
        · obtain ⟨rfl, -⟩ := List.cons.inj hsplit
          cases (addNames_of_mem hm).symm.trans hadd
    · -- the first name is in the index for the rest
      have hstep : ∀ tail, addNames index place (m :: tail) =
          addNames (index ++ [(m, place)]) (place + 1) tail := fun _ => addNames_of_notMem hm
      rw [hstep, ih]
      constructor
      · rintro ⟨before, n, after, rfl, ⟨index', hadd, hn⟩, he⟩
        exact ⟨m :: before, n, after, rfl, ⟨index', (hstep before).trans hadd, hn⟩, he⟩
      · rintro ⟨_ | ⟨m', before⟩, n, after, hsplit, ⟨index', hadd, hn⟩, he⟩
        · obtain ⟨rfl, -⟩ := List.cons.inj hsplit
          obtain rfl := Except.ok.inj hadd
          exact absurd hn hm
        · obtain ⟨rfl, rfl⟩ := List.cons.inj hsplit
          exact ⟨before, n, after, rfl, ⟨index', (hstep before).symm.trans hadd, hn⟩, he⟩

/-- **The repeated name that is found** is the first that stands among those before it. -/
theorem addNames_nil_eq_error_iff {names : List String} {e : BindError} :
    addNames [] 0 names = .error e ↔
      ∃ before n after, names = before ++ n :: after ∧ before.Nodup ∧ n ∈ before ∧
        e = .duplicateStep n := by
  rw [addNames_eq_error_iff]
  refine exists_congr fun before => exists_congr fun n => exists_congr fun after =>
    and_congr_right fun _ => ?_
  rw [← and_assoc]
  refine and_congr_left fun _ => ?_
  -- the index of the names before has these names
  constructor
  · rintro ⟨index', hadd, hn⟩
    obtain ⟨hnd, -, rfl⟩ := addNames_eq_ok_iff.mp hadd
    rw [List.nil_append, names_zipIdx] at hn
    exact ⟨hnd, hn⟩
  · rintro ⟨hnd, hn⟩
    refine ⟨before.zipIdx, addNames_eq_ok_iff.mpr ⟨hnd, fun _ _ => List.not_mem_nil, rfl⟩, ?_⟩
    rwa [names_zipIdx]

theorem not_nodup_of_mem_before {names before after : List String} {n : String}
    (hsplit : names = before ++ n :: after) (hn : n ∈ before) : ¬ names.Nodup := by
  rw [hsplit, List.nodup_append]
  rintro ⟨-, -, hne⟩
  exact hne n hn n List.mem_cons_self rfl

/-! ### Steps -/

/-- **A step can be bound**: it goes on to the end or to a step, and its kind is known and accepts
it. -/
structure CanBind (registry : Registry) (doc : Document) (s : Step) : Prop where
  next : ∀ target, s.next? = some target → doc.Leads target
  kind : ∃ kind factory task, s.kind? = some kind ∧ kind ≠ "" ∧
    registry.get? kind = some factory ∧ factory s = .ok task

/-- **What a step is refused for**: where it goes on to comes before its kind. -/
inductive RejectsStep (registry : Registry) (doc : Document) (s : Step) : BindError → Prop
  | unknownNext {target : String} (hn : s.next? = some target) (h : ¬ doc.Leads target) :
      RejectsStep registry doc s (.unknownNext s.name target)
  | missingKind (hn : ∀ target, s.next? = some target → doc.Leads target) (hk : s.kind = "") :
      RejectsStep registry doc s (.missingKind s.name)
  | refused {e : BindError} (hn : ∀ target, s.next? = some target → doc.Leads target)
      (hk : s.kind ≠ "") (h : Refuses registry s e) : RejectsStep registry doc s e

theorem canBind_iff {s : Step} :
    CanBind registry doc s ↔ ∃ b, bindStep registry doc.stepNames s = .ok b := by
  constructor
  · rintro ⟨hnext, hkind⟩
    rw [bindStep_eq_map fun target ht => Document.isTarget_iff.mpr (hnext target ht)]
    have hbuild : ∃ task, buildTask registry s = .ok task := by
      obtain ⟨kind, factory, task, h⟩ := hkind
      exact ⟨task, buildTask_eq_ok_iff.mpr ⟨kind, factory, h⟩⟩
    obtain ⟨task, htask⟩ := hbuild
    exact ⟨_, map_eq_ok_iff.mpr ⟨task, htask, rfl⟩⟩
  · rintro ⟨b, hb⟩
    have hbinds := bindStep_eq_ok_iff.mp hb
    obtain ⟨kind, factory, h⟩ := buildTask_eq_ok_iff.mp hbinds.task
    exact ⟨hbinds.target, kind, factory, b.task, h⟩

/-- **A step is refused for its target before its kind.** -/
theorem bindStep_eq_error_iff {s : Step} {e : BindError} :
    bindStep registry doc.stepNames s = .error e ↔ RejectsStep registry doc s e := by
  by_cases hn : ∀ target, s.next? = some target → doc.Leads target
  · -- only the kind is left to fail
    rw [bindStep_eq_map fun target ht => Document.isTarget_iff.mpr (hn target ht),
      map_eq_error_iff, buildTask_eq_error_iff]
    constructor
    · rintro (⟨hk, rfl⟩ | ⟨hk, h⟩)
      · exact .missingKind hn hk
      · exact .refused hn hk h
    · rintro (⟨ht, hlost⟩ | ⟨-, hk⟩ | ⟨-, hk, h⟩)
      · exact absurd (hn _ ht) hlost
      · exact .inl ⟨hk, rfl⟩
      · exact .inr ⟨hk, h⟩
  · obtain ⟨target, ht, hlost⟩ : ∃ target, s.next? = some target ∧ ¬ doc.Leads target := by
      simpa using hn
    have hbind : bindStep registry doc.stepNames s = .error (.unknownNext s.name target) := by
      -- the kind is not looked at
      have hfilter : (s.next?.filter fun t =>
          !(t == Document.endTarget || doc.stepNames.contains t)) = some target := by
        rw [ht]
        refine Option.filter_some_pos ?_
        simpa [Document.Leads, Document.endTarget] using hlost
      rw [bindStep, hfilter]
    rw [hbind]
    constructor
    · rintro ⟨⟩
      exact .unknownNext ht hlost
    · rintro (⟨ht', -⟩ | ⟨hn', -⟩ | ⟨hn', -, -⟩)
      · rw [Option.some.inj (ht.symm.trans ht')]
      · exact absurd hn' hn
      · exact absurd hn' hn

/-! ### Documents -/

/-- **A document can be bound.** -/
structure Bindable (registry : Registry) (doc : Document) : Prop where
  declaration : ∃ d, doc.declaration? = some d
  nonempty : doc.steps ≠ []
  distinct : doc.stepNames.Nodup
  steps : ∀ s ∈ doc.steps, CanBind registry doc s

/-- **What a document is refused for**, each with what was looked at before. -/
inductive Rejects (registry : Registry) (doc : Document) : BindError → Prop
  | missingDeclaration (hd : doc.declaration? = none) :
      Rejects registry doc (.missingDeclaration doc.name)
  | empty {d : Document.Declaration} (hd : doc.declaration? = some d) (hs : doc.steps = []) :
      Rejects registry doc (.empty doc.name)
  /-- The first name that stands among those before it. -/
  | duplicateStep {d : Document.Declaration} {before after : List String} {n : String}
      (hd : doc.declaration? = some d) (hsplit : doc.stepNames = before ++ n :: after)
      (hnd : before.Nodup) (hn : n ∈ before) : Rejects registry doc (.duplicateStep n)
  /-- The first step that cannot be bound. -/
  | step {d : Document.Declaration} {before after : List Step} {s : Step} {e : BindError}
      (hd : doc.declaration? = some d) (hnd : doc.stepNames.Nodup)
      (hsplit : doc.steps = before ++ s :: after)
      (hbefore : ∀ s' ∈ before, CanBind registry doc s') (h : RejectsStep registry doc s e) :
      Rejects registry doc e

/-- **A bound step comes from a step** of the document: it has its name, its kind and its `next`,
and the task that its kind makes of it. -/
structure ComesFrom (registry : Registry) (s : Step) (b : BoundStep) : Prop where
  name : b.name = s.name
  kind : s.kind? = some b.kind
  next : b.next? = s.next?
  task : ∃ factory, registry.get? b.kind = some factory ∧ factory s = .ok b.task

theorem Binds.comesFrom {names : List String} {s : Step} {b : BoundStep}
    (h : Binds registry names s b) : ComesFrom registry s b := by
  obtain ⟨kind, factory, hk, -, hf, htask⟩ := buildTask_eq_ok_iff.mp h.task
  have hkind : b.kind = kind := h.kind.trans (by simp [Step.kind, hk])
  exact ⟨h.name, hkind ▸ hk, h.next, factory, hkind ▸ hf, htask⟩

theorem bind_eq_error_of_rejects {e : BindError} (h : Rejects registry doc e) :
    bind registry doc = .error e := by
  cases h with
  | missingDeclaration hd => simp [bind, hd]
  | empty hd hs => simp [bind, hd, hs]
  | duplicateStep hd hsplit hnd hn =>
    have hrep := addNames_nil_eq_error_iff.mpr ⟨_, _, _, hsplit, hnd, hn, rfl⟩
    have hs : doc.steps ≠ [] := by
      rintro hs
      simp [Document.stepNames, hs] at hsplit
    rw [Document.stepNames] at hrep
    simp only [bind, hd, List.isEmpty_iff, hs, if_false, hrep]
    rfl
  | step hd hnd hsplit hbefore h =>
    rw [bind_eq_map hd (by simp [hsplit]) hnd, map_eq_error_iff, bindSteps_eq_error_iff]
    exact ⟨_, _, _, hsplit, fun s' hs' => canBind_iff.mp (hbefore s' hs'),
      bindStep_eq_error_iff.mpr h⟩

/-- **A document is refused for the first fault that is found.** -/
theorem bind_eq_error_iff {e : BindError} :
    bind registry doc = .error e ↔ Rejects registry doc e := by
  refine ⟨fun h => ?_, bind_eq_error_of_rejects⟩
  -- a document is refused for one fault only, so it is enough to find one that rejects it
  have only : ∀ {e' : BindError}, Rejects registry doc e' → Rejects registry doc e := by
    intro e' h'
    obtain rfl := Except.error.inj (h.symm.trans (bind_eq_error_of_rejects h'))
    exact h'
  cases hd : doc.declaration? with
  | none => exact only (.missingDeclaration hd)
  | some d =>
    by_cases hs : doc.steps = []
    · exact only (.empty hd hs)
    · by_cases hnd : doc.stepNames.Nodup
      · rw [bind_eq_map hd hs hnd, map_eq_error_iff, bindSteps_eq_error_iff] at h
        obtain ⟨before, s, after, hsplit, hbefore, h⟩ := h
        exact .step hd hnd hsplit (fun s' hs' => canBind_iff.mpr (hbefore s' hs'))
          (bindStep_eq_error_iff.mp h)
      · cases hadd : addNames [] 0 doc.stepNames with
        | ok index => exact absurd (addNames_eq_ok_iff.mp hadd).1 hnd
        | error e' =>
          obtain ⟨before, n, after, hsplit, hnd', hn, -⟩ := addNames_nil_eq_error_iff.mp hadd
          exact only (.duplicateStep hd hsplit hnd' hn)

/-- **A document is bound exactly if it can be.** -/
theorem exists_bind_iff : (∃ p, bind registry doc = .ok p) ↔ Bindable registry doc := by
  constructor
  · rintro ⟨p, hp⟩
    have hbound := bind_eq_ok_iff.mp hp
    refine ⟨⟨_, hbound.declaration⟩, hbound.nonempty, hbound.distinct,
      fun s hs => canBind_iff.mpr ?_⟩
    obtain ⟨b, -, hb⟩ := exists_mem_of_forall₂ hbound.steps.flip hs
    exact ⟨b, bindStep_eq_ok_iff.mpr hb⟩
  · intro h
    cases hp : bind registry doc with
    | ok p => exact ⟨p, rfl⟩
    | error e =>
      -- each fault denies something that is asked of the document
      exfalso
      cases bind_eq_error_iff.mp hp with
      | missingDeclaration hd =>
        obtain ⟨d, hd'⟩ := h.declaration
        exact absurd (hd'.symm.trans hd) nofun
      | empty _ hs => exact h.nonempty hs
      | duplicateStep _ hsplit _ hn => exact not_nodup_of_mem_before hsplit hn h.distinct
      | @step _ before after s _ _ _ hsplit _ hstep =>
        obtain ⟨b, hb⟩ := canBind_iff.mp (h.steps s (by simp [hsplit]))
        exact absurd (hb.symm.trans (bindStep_eq_error_iff.mpr hstep)) nofun

/-- **What binding makes of a document.** It succeeds exactly if the document can be bound. The
pipeline then has the steps of the document one for one, and its index, which is filled before any
step is bound, is the inverse of its list of steps: it holds their names in order, and has a name at
a place exactly if the step at this place has the name. Otherwise the document is refused for the
first fault that is found. -/
theorem binds_or_names_first_fault (registry : Registry) (doc : Document) :
    ((∃ p, bind registry doc = .ok p) ↔ Bindable registry doc) ∧
      (∀ p, bind registry doc = .ok p →
        p.name = doc.name ∧ doc.declaration? = some p.declaration ∧
          List.Forall₂ (ComesFrom registry) doc.steps p.steps ∧
          p.index.names = p.steps.map (·.name) ∧
          ∀ n i, p.position? n = some i ↔ ∃ b, p.stepAt? i = some b ∧ b.name = n) ∧
      ∀ e, bind registry doc = .error e ↔ Rejects registry doc e := by
  refine ⟨exists_bind_iff, fun p hp => ?_, fun e => bind_eq_error_iff⟩
  have hbound := bind_eq_ok_iff.mp hp
  exact ⟨hbound.name.symm, hbound.declaration, hbound.steps.imp fun _ _ hb => hb.comesFrom,
    names_index_of_bind hp, fun n i => (indexed_of_bind hp).position?_eq_some_iff⟩

/-- A name that comes again is found before a kind that nobody knows. -/
example : bind [] ⟨"echo", some ⟨none, none, none, .get, none, none, "ways", none⟩,
    [⟨"call", some "shout", none, []⟩, ⟨"call", none, some "nowhere", []⟩]⟩ =
      .error (.duplicateStep "call") := rfl

end RouteFlow.Pipeline
