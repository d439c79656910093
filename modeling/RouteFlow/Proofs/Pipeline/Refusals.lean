import Mathlib.Tactic.MkIffOfInductiveProp
import RouteFlow.Proofs.Document.Validity
import RouteFlow.Proofs.Pipeline.StandardTasks

/-!
# What a valid document may still be refused for

Validation and binding check a document each on its own. Binding refuses a document at its first
fault, and steps are bound in order, so what it refuses the steps for is what it refuses the first
step for that cannot be bound (`bindSteps_eq_error_iff`).

Of a valid document little is left to refuse. It has a declaration, steps, distinct names, kinds and
targets that are there, and its switch steps can be read. What validation does not look at is which
kinds there are, and what the other kinds ask of their parameters (`Refuses`): these are the faults
of `bind_of_isValid`.
-/

namespace RouteFlow.Pipeline

open Document (Step)
open Fallible

variable {registry : Registry} {settings : Run.CallSettings} {doc : Document}

/-! ### Steps that cannot be bound -/

/-- **A step with a kind is refused**: the registry does not know the kind, or the kind makes no
task of the step. -/
@[mk_iff]
inductive Refuses (registry : Registry) (s : Step) : BindError → Prop
  | unknownKind {kind : String} (hk : s.kind? = some kind) (hf : registry.get? kind = none) :
      Refuses registry s (.unknownKind s.name kind)
  | build {kind : String} {factory : Factory} {fault : BuildFault} (hk : s.kind? = some kind)
      (hf : registry.get? kind = some factory) (ht : factory s = .error fault) :
      Refuses registry s (.build s.name kind fault)

/-- No task is made of a step without a kind, nor of one that is refused. -/
theorem buildTask_eq_error_iff {s : Step} {e : BindError} :
    buildTask registry s = .error e ↔
      (s.kind = "" ∧ e = .missingKind s.name) ∨ (s.kind ≠ "" ∧ Refuses registry s e) := by
  unfold buildTask
  split
  · next h => simp [Step.kind, h, eq_comm]
  · next h => simp [Step.kind, h, eq_comm]
  · next kind hne h =>
    have hk : s.kind = kind := by simp [Step.kind, h]
    have hkind : kind ≠ "" := hne
    -- there is a kind, so what is left is whether it is known and what it says of the step
    cases hf : registry.get? kind with
    | none => simp [hk, hkind, refuses_iff, h, hf, @eq_comm _ e]
    | some factory =>
      simp [hk, hkind, refuses_iff, h, hf, mapError_eq_error_iff, @eq_comm _ e]

/-- A step whose `next` leads somewhere is bound exactly if its task is made. -/
theorem bindStep_eq_map {names : List String} {s : Step}
    (h : ∀ target, s.next? = some target → Document.isTarget names target = true) :
    bindStep registry names s =
      (buildTask registry s).map fun task => ⟨s.name, s.kind, s.next?, task⟩ := by
  have hnone : (s.next?.filter fun t => !(t == Document.endTarget || names.contains t)) = none := by
    rw [Option.filter_eq_none_iff]
    intro target hn
    change ¬ (!Document.isTarget names target) = true
    simp [h target hn]
  unfold bindStep
  rw [hnone]
  cases buildTask registry s <;> rfl

/-- **Steps are refused for the first of them that is**, in order. -/
theorem bindSteps_eq_error_iff {names : List String} {steps : List Step} {e : BindError} :
    bindSteps registry names steps = .error e ↔
      ∃ before s after, steps = before ++ s :: after ∧
        (∀ s' ∈ before, ∃ b, bindStep registry names s' = .ok b) ∧
        bindStep registry names s = .error e :=
  each_eq_error_iff (g := bindSteps registry names) rfl fun _ _ => rfl

/-! ### Documents -/

/-- A document with a declaration, steps and distinct names is bound exactly if its steps are. -/
theorem bind_eq_map {d : Document.Declaration} (hd : doc.declaration? = some d)
    (hsteps : doc.steps ≠ []) (hnames : doc.stepNames.Nodup) :
    bind registry doc =
      (bindSteps registry doc.stepNames doc.steps).map fun steps =>
        ⟨doc.name, d, steps, doc.stepNames.zipIdx⟩ := by
  have hindex : addNames [] 0 (doc.steps.map (·.name)) = .ok doc.stepNames.zipIdx :=
    addNames_eq_ok_iff.mpr ⟨hnames, fun _ _ => List.not_mem_nil, rfl⟩
  -- each of the three checks that come first lets the document pass
  unfold bind
  simp only [hd, List.isEmpty_iff, hsteps, if_false, hindex]
  change (bindSteps registry (Entries.names doc.stepNames.zipIdx) doc.steps >>= _) = _
  rw [names_zipIdx]
  cases bindSteps registry doc.stepNames doc.steps <;> rfl

/-- Every step of a valid document has a kind, so one that cannot be built is refused. -/
theorem buildTask_eq_error_iff_of_isValid (h : doc.isValid = true) {s : Step} (hs : s ∈ doc.steps)
    {e : BindError} : buildTask registry s = .error e ↔ Refuses registry s e := by
  obtain ⟨kind, hk, hne, -⟩ := Document.exists_kind_of_isValid h hs
  have hkind : s.kind ≠ "" := by simpa [Step.kind, hk] using hne
  simp [buildTask_eq_error_iff, hkind]

/-- **A valid document is refused for the first of its steps that cannot be built.** -/
theorem bind_eq_error_iff_of_isValid (h : doc.isValid = true) {e : BindError} :
    bind registry doc = .error e ↔
      ∃ before s after, doc.steps = before ++ s :: after ∧
        (∀ s' ∈ before, ∃ task, buildTask registry s' = .ok task) ∧
        buildTask registry s = .error e := by
  have hp := Document.isValid_iff.mp h
  obtain ⟨d, hd, -⟩ := hp.declaration
  rw [bind_eq_map hd hp.steps hp.names, map_eq_error_iff, bindSteps_eq_error_iff]
  refine exists_congr fun before => exists_congr fun s => exists_congr fun after =>
    and_congr_right fun hsplit => and_congr ?_ ?_
  · -- the steps before the refused one are steps of the document
    refine forall₂_congr fun s' hs' => ?_
    have hmem : s' ∈ doc.steps := by
      rw [hsplit]
      exact List.mem_append_left _ hs'
    rw [bindStep_eq_map (hp.next s' hmem)]
    simp [map_eq_ok_iff]
  · have hmem : s ∈ doc.steps := by simp [hsplit]
    rw [bindStep_eq_map (hp.next s hmem), map_eq_error_iff]

/-- A valid document is bound exactly if each of its steps can be built. -/
theorem exists_bind_iff_of_isValid (h : doc.isValid = true) :
    (∃ p, bind registry doc = .ok p) ↔
      ∀ s ∈ doc.steps, ∃ task, buildTask registry s = .ok task := by
  constructor
  · rintro ⟨p, hb⟩ s hs
    -- read from the steps of the document to the bound ones
    have hflip := (bind_eq_ok_iff.mp hb).steps.flip
    obtain ⟨b, -, hbinds⟩ := exists_mem_of_forall₂ hflip hs
    exact ⟨b.task, hbinds.task⟩
  · intro hall
    cases hb : bind registry doc with
    | ok p => exact ⟨p, rfl⟩
    | error e =>
      -- the step that it is refused for is one of those that can be built
      obtain ⟨before, s, after, hsplit, -, herr⟩ := (bind_eq_error_iff_of_isValid h).mp hb
      obtain ⟨task, hok⟩ := hall s (by simp [hsplit])
      exact absurd (hok.symm.trans herr) nofun

/-! ### Switch steps -/

@[simp] theorem get?_full_switch : (Registry.full settings).get? "switch" = some switchTask := by
  simp [Registry.full, Registry.withScript, Entries.get?_insert, Registry.standard,
    Entries.get?_cons]

/-- The cases of a switch are read if each has a condition and names a step. -/
theorem exists_readCases {raw : List Json}
    (h : ∀ c ∈ raw, (c.get? "condition").isSome ∧
      ∃ target, (c.get? "next").bind Json.text? = some target) :
    ∃ cases, List.Forall₂ ReadsCase raw cases := by
  induction raw with
  | nil => exact ⟨[], .nil⟩
  | cons c rest ih =>
    obtain ⟨⟨hc, target, hn⟩, hrest⟩ := List.forall_mem_cons.mp h
    obtain ⟨condition, hc⟩ := Option.isSome_iff_exists.mp hc
    obtain ⟨cases, hcases⟩ := ih hrest
    exact ⟨⟨condition, target⟩ :: cases, .cons ⟨hc, hn⟩ hcases⟩

/-- **A switch step of a valid document makes a task.** -/
theorem exists_buildTask_of_switch (h : doc.isValid = true) {s : Step} (hs : s ∈ doc.steps)
    (hk : s.kind = "switch") :
    ∃ cases, buildTask (.full settings) s = .ok (.choose cases) := by
  obtain ⟨raw, hp, hraw⟩ := (Document.isValid_iff.mp h).switch s hs hk
  obtain ⟨cases, hcases⟩ := exists_readCases fun c hc =>
    ⟨(hraw c hc).1, (hraw c hc).2.imp fun _ ht => ht.1⟩
  obtain ⟨kind, hkind, -⟩ := Document.exists_kind_of_isValid h hs
  obtain rfl : kind = "switch" := by simpa [Step.kind, hkind] using hk
  refine ⟨cases, buildTask_eq_ok_iff.mpr ⟨"switch", switchTask, hkind, by decide, by simp, ?_⟩⟩
  have hread : readCases 0 raw = .ok cases := readCases_eq_ok_iff.mpr hcases
  simp [switchTask, hp, hread, Except.map]

/-! ### The faults of valid documents -/

/-- **What a valid document may still be refused for.** With the standard kinds and `script`, it is
bound exactly if each of its steps can be built, and each switch step can. Otherwise it is refused
for the first step that cannot be built, which is not a switch: its kind is unknown, or makes
nothing of its parameters. -/
theorem bind_of_isValid (h : doc.isValid = true) :
    ((∃ p, bind (.full settings) doc = .ok p) ↔
        ∀ s ∈ doc.steps, ∃ task, buildTask (.full settings) s = .ok task) ∧
      (∀ s ∈ doc.steps, s.kind = "switch" →
        ∃ cases, buildTask (.full settings) s = .ok (.choose cases)) ∧
      ∀ e, bind (.full settings) doc = .error e ↔
        ∃ before s after, doc.steps = before ++ s :: after ∧
          (∀ s' ∈ before, ∃ task, buildTask (.full settings) s' = .ok task) ∧
          s.kind ≠ "switch" ∧ Refuses (.full settings) s e := by
  refine ⟨exists_bind_iff_of_isValid h, fun s hs hk => exists_buildTask_of_switch h hs hk,
    fun e => ?_⟩
  rw [bind_eq_error_iff_of_isValid h]
  refine exists_congr fun before => exists_congr fun s => exists_congr fun after =>
    and_congr_right fun hsplit => and_congr_right fun _ => ?_
  have hmem : s ∈ doc.steps := by simp [hsplit]
  rw [buildTask_eq_error_iff_of_isValid h hmem, iff_and_self]
  -- a switch is built, so it is not what is refused
  intro hr hk
  obtain ⟨cases, hok⟩ : ∃ cases, buildTask (.full settings) s = .ok (.choose cases) :=
    exists_buildTask_of_switch h hmem hk
  have herr := (buildTask_eq_error_iff_of_isValid h hmem).mpr hr
  exact absurd (hok.symm.trans herr) nofun

/-- Branches to a step of a kind that there is not; the step after that one lacks its value. -/
def signpost : Document where
  name := "signpost"
  declaration? := some ⟨none, none, none, .get, none, none, "ways", none⟩
  steps := [
    ⟨"fork", some "switch", none, [("switch", .array [
      .object [("condition", .bool true), ("next", .string "far")]])]⟩,
    ⟨"far", some "teleport", none, []⟩,
    ⟨"near", some "return", some "end", [("call", .string "return")]⟩]

/-- The document is valid, and of its two faults the first one counts. -/
theorem bind_of_isValid_signpost :
    signpost.isValid = true ∧
      bind (.full .standard) signpost = .error (.unknownKind "far" "teleport") :=
  ⟨rfl, ((bind_of_isValid (rfl : signpost.isValid = true)).2.2 _).mpr
    ⟨_ :: [], _, _, rfl, List.forall_mem_singleton.mpr ⟨_, rfl⟩, by decide,
      .unknownKind rfl rfl⟩⟩

end RouteFlow.Pipeline
