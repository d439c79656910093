import RouteFlow.Proofs.Template.Faults

/-!
# Evaluation as substitution

Evaluating a value leaves its shape and everything in it but the strings as they are. What takes
the place of a string is said by `Replaces`, in three cases: a string without references stays, a
string that is one reference becomes the value that it refers to, and in any other string the text
of each value takes the place of its reference. What is put in is not looked at again, so the paths
that are followed are those in the value itself, whatever the variables hold (`evaluate_congr`).

Evaluation fails at the first string that has no value, and a string at the first thing that is
wrong with it (`Fault`). Checking stops at the first string that is no template. The two go through
the strings in one order, so they stop at the same string unless a path leads nowhere before it.

* `evaluate_eq_ok_iff`, `evaluate_eq_error_iff` — the value of a value, and its first fault;
* `substitutes_in_one_pass` — the two together, and when which of them is the case;
* `check_foretells_evaluation` — what a check says about every evaluation.
-/

namespace RouteFlow.Template

open Fallible

variable {vars vars' : Entries Json}

/-! ### What takes the place of a string -/

/-- A path has a value among the variables. -/
def Resolves (vars : Entries Json) (p : Path) : Prop := ∃ j, p.lookupIn vars = some j

/-- **The text of a value**: a string is its own, null has none, and any other value is written
down. -/
inductive TextOf : Json → String → Prop
  | string {s : String} : TextOf (.string s) s
  | null : TextOf .null ""
  | written {j : Json} (hs : ∀ s, j ≠ .string s) (hn : j ≠ .null) : TextOf j j.compact

/-- The text that stands for a piece: its own, or that of the value that it refers to. -/
inductive PieceText (vars : Entries Json) : Piece → String → Prop
  | literal {text : String} : PieceText vars (.literal text) text
  | reference {p : Path} {j : Json} {text : String} (h : p.lookupIn vars = some j)
      (ht : TextOf j text) : PieceText vars (.reference p) text

/-- **What takes the place of a string.** -/
inductive Replaces (vars : Entries Json) : String → Json → Prop
  /-- A string without references stays as it is. -/
  | plain {s : String} {t : Template} (ht : parse s = .ok t) (hp : t.paths = []) :
      Replaces vars s (.string s)
  /-- A string that is one reference becomes the value, whatever its type. -/
  | whole {s : String} {p : Path} {j : Json} (ht : parse s = .ok ⟨[.reference p]⟩)
      (h : p.lookupIn vars = some j) : Replaces vars s j
  /-- Any other string becomes the texts of its pieces one after another. -/
  | mixed {s : String} {t : Template} {texts : List String} (ht : parse s = .ok t)
      (hp : t.paths ≠ []) (hs : ∀ p, t.pieces ≠ [.reference p])
      (h : List.Forall₂ (PieceText vars) t.pieces texts) :
      Replaces vars s (.string (String.join texts))

/-- **What is wrong with a string**: it is no template, or it is one and the first of its paths
that has no value is `p`. -/
inductive Fault (vars : Entries Json) (s : String) : EvalError → Prop
  | malformed {fault : TemplateError} (h : parse s = .error fault) : Fault vars s (.malformed fault)
  | missing {t : Template} {before after : List Path} {p : Path} (ht : parse s = .ok t)
      (hsplit : t.paths = before ++ p :: after) (hb : ∀ q ∈ before, Resolves vars q)
      (hp : p.lookupIn vars = none) : Fault vars s (.missing p)

mutual

/-- **A value with its strings replaced.** -/
inductive Substituted (vars : Entries Json) : Json → Json → Prop
  | null : Substituted vars .null .null
  | bool {b : Bool} : Substituted vars (.bool b) (.bool b)
  | number {n : Json.Number} : Substituted vars (.number n) (.number n)
  | string {s : String} {j : Json} (h : Replaces vars s j) : Substituted vars (.string s) j
  | array {items items' : List Json} (h : SubstitutedItems vars items items') :
      Substituted vars (.array items) (.array items')
  | object {ms ms' : List (String × Json)} (h : SubstitutedMembers vars ms ms') :
      Substituted vars (.object ms) (.object ms')

/-- As many items, each with its strings replaced. -/
inductive SubstitutedItems (vars : Entries Json) : List Json → List Json → Prop
  | nil : SubstitutedItems vars [] []
  | cons {j j' : Json} {rest rest' : List Json} (h : Substituted vars j j')
      (hr : SubstitutedItems vars rest rest') : SubstitutedItems vars (j :: rest) (j' :: rest')

/-- The same names in the same order, each with its value's strings replaced. -/
inductive SubstitutedMembers (vars : Entries Json) :
    List (String × Json) → List (String × Json) → Prop
  | nil : SubstitutedMembers vars [] []
  | cons {name : String} {j j' : Json} {rest rest' : List (String × Json)}
      (h : Substituted vars j j') (hr : SubstitutedMembers vars rest rest') :
      SubstitutedMembers vars ((name, j) :: rest) ((name, j') :: rest')

end

/-! ### Pieces and templates -/

theorem fetch_eq_ok_iff {p : Path} {j : Json} :
    fetch vars p = .ok j ↔ p.lookupIn vars = some j := by
  unfold fetch
  cases p.lookupIn vars <;> simp

theorem paths_eq_nil_iff {t : Template} : t.paths = [] ↔ t.isLiteral = true := by
  unfold paths isLiteral
  rw [List.filterMap_eq_nil_iff, List.all_eq_true]
  refine forall₂_congr fun piece _ => ?_
  cases piece <;> simp [Piece.isLiteral]

theorem single?_eq_some_iff {t : Template} {p : Path} :
    t.single? = some p ↔ t.pieces = [.reference p] := by
  unfold single?
  split
  · next q hq => rw [hq]; simp
  · next h => exact ⟨fun hn => absurd hn (by simp), fun hp => absurd hp (h p)⟩

theorem textOf_iff {j : Json} {text : String} : TextOf j text ↔ j.asText = text := by
  constructor
  · rintro (_ | _ | ⟨hs, hn⟩)
    · rfl
    · rfl
    · cases j with
      | null => exact absurd rfl hn
      | string s => exact absurd rfl (hs s)
      | _ => rfl
  · rintro rfl
    cases j with
    | null => exact .null
    | string s => exact .string
    | _ => exact .written (by simp) (by simp)

/-- Pieces that can all be filled in give their texts one after another. -/
theorem fill_eq_ok_iff {pieces : List Piece} {text : String} :
    fill vars pieces = .ok text ↔
      ∃ texts, List.Forall₂ (PieceText vars) pieces texts ∧ text = String.join texts := by
  induction pieces generalizing text with
  | nil => simp [fill, eq_comm]
  | cons piece rest ih =>
    simp only [List.forall₂_cons_left_iff]
    cases piece with
    | literal own =>
      rw [fill, bind_eq_ok_iff]
      constructor
      · rintro ⟨others, ho, h⟩
        obtain ⟨texts, htexts, rfl⟩ := ih.mp ho
        exact ⟨own :: texts, ⟨own, texts, .literal, htexts, rfl⟩, by
          rw [String.join_cons]; exact (Except.ok.inj h).symm⟩
      · rintro ⟨_, ⟨_, texts, ⟨⟩, htexts, rfl⟩, rfl⟩
        exact ⟨String.join texts, ih.mpr ⟨texts, htexts, rfl⟩, by rw [String.join_cons]⟩
    | reference p =>
      rw [fill, bind_eq_ok_iff]
      constructor
      · rintro ⟨j, hj, h⟩
        obtain ⟨others, ho, h⟩ := bind_eq_ok_iff.mp h
        obtain ⟨texts, htexts, rfl⟩ := ih.mp ho
        have hpiece : PieceText vars (.reference p) j.asText :=
          .reference (fetch_eq_ok_iff.mp hj) (textOf_iff.mpr rfl)
        exact ⟨j.asText :: texts, ⟨_, texts, hpiece, htexts, rfl⟩, by
          rw [String.join_cons]; exact (Except.ok.inj h).symm⟩
      · rintro ⟨_, ⟨_, texts, hpiece, htexts, rfl⟩, rfl⟩
        cases hpiece with | reference hl ht =>
        refine ⟨_, fetch_eq_ok_iff.mpr hl, bind_eq_ok_iff.mpr ⟨String.join texts, ?_, ?_⟩⟩
        · exact ih.mpr ⟨texts, htexts, rfl⟩
        · rw [String.join_cons, textOf_iff.mp ht]

/-- Filling in fails at the first path that has no value. -/
theorem error?_fill (pieces : List Piece) :
    error? (fill vars pieces) =
      (Template.mk pieces).paths.findSome? fun p => error? (fetch vars p) := by
  induction pieces with
  | nil => rfl
  | cons piece rest ih =>
    cases piece with
    | literal text =>
      have hpaths : (Template.mk (.literal text :: rest)).paths = (Template.mk rest).paths := rfl
      rw [hpaths, ← ih, fill]
      exact error?_map (fill vars rest) (text ++ ·)
    | reference p =>
      have hpaths : (Template.mk (.reference p :: rest)).paths = p :: (Template.mk rest).paths :=
        rfl
      rw [hpaths, List.findSome?_cons, ← ih, fill, error?_bind_bind]
      cases error? (fetch vars p) <;> rfl

theorem error?_evaluateTemplate (s : String) (t : Template) :
    error? (evaluateTemplate vars s t) = t.paths.findSome? fun p => error? (fetch vars p) := by
  unfold evaluateTemplate
  split
  · next hl => rw [paths_eq_nil_iff.mpr hl]; rfl
  · split
    · next p hp =>
      have hpaths : t.paths = [p] := by rw [paths, single?_eq_some_iff.mp hp]; rfl
      rw [hpaths, List.findSome?_singleton]
    · rw [error?_map, error?_fill]

/-! ### Strings -/

theorem resolves_iff {p : Path} : Resolves vars p ↔ error? (fetch vars p) = none := by
  unfold Resolves fetch
  cases p.lookupIn vars <;> simp

theorem evaluateString_eq_ok_iff {s : String} {j : Json} :
    evaluateString vars s = .ok j ↔ Replaces vars s j := by
  unfold evaluateString
  rw [bind_eq_ok_iff]
  constructor
  · rintro ⟨t, ht, h⟩
    have ht := mapError_eq_ok_iff.mp ht
    unfold evaluateTemplate at h
    split at h
    · next hl =>
      rw [← Except.ok.inj h]
      exact .plain ht (paths_eq_nil_iff.mpr hl)
    · next hl =>
      split at h
      · next p hp =>
        obtain ⟨pieces⟩ := t
        obtain rfl : pieces = [.reference p] := single?_eq_some_iff.mp hp
        exact .whole ht (fetch_eq_ok_iff.mp h)
      · next hs =>
        obtain ⟨text, htext, rfl⟩ := map_eq_ok_iff.mp h
        obtain ⟨texts, htexts, rfl⟩ := fill_eq_ok_iff.mp htext
        refine .mixed ht (mt paths_eq_nil_iff.mp hl) (fun p hp => ?_) htexts
        rw [single?_eq_some_iff.mpr hp] at hs
        exact absurd hs (by simp)
  · intro h
    cases h with
    | @plain t ht hp =>
      refine ⟨t, mapError_eq_ok_iff.mpr ht, ?_⟩
      rw [evaluateTemplate, if_pos (paths_eq_nil_iff.mp hp)]
    | @whole p _ ht hj => exact ⟨_, mapError_eq_ok_iff.mpr ht, fetch_eq_ok_iff.mpr hj⟩
    | @mixed t texts ht hp hs htexts =>
      refine ⟨t, mapError_eq_ok_iff.mpr ht, ?_⟩
      have hsingle : t.single? = none :=
        Option.eq_none_iff_forall_ne_some.mpr fun p h => hs p (single?_eq_some_iff.mp h)
      rw [evaluateTemplate, if_neg (mt paths_eq_nil_iff.mpr hp), hsingle]
      exact map_eq_ok_iff.mpr ⟨_, fill_eq_ok_iff.mpr ⟨texts, htexts, rfl⟩, rfl⟩

/-- A string is read first, and then its paths are followed in order. -/
theorem error?_evaluateString (s : String) :
    error? (evaluateString vars s) =
      match parse s with
      | .error fault => some (.malformed fault)
      | .ok t => t.paths.findSome? fun p => error? (fetch vars p) := by
  unfold evaluateString
  cases parse s with
  | error fault => rfl
  | ok t => exact error?_evaluateTemplate s t

theorem evaluateString_eq_error_iff {s : String} {e : EvalError} :
    evaluateString vars s = .error e ↔ Fault vars s e := by
  rw [← error?_eq_some_iff, error?_evaluateString]
  constructor
  · intro h
    split at h
    · next fault hf =>
      rw [← Option.some.inj h]
      exact .malformed hf
    · next t ht =>
      obtain ⟨before, p, after, hsplit, hp, hb⟩ := List.findSome?_eq_some_iff.mp h
      obtain ⟨hl, rfl⟩ := fetch_eq_error_iff.mp (error?_eq_some_iff.mp hp)
      exact .missing ht hsplit (fun q hq => resolves_iff.mpr (hb q hq)) hl
  · intro h
    cases h with
    | malformed h => rw [h]
    | @missing t before after p ht hsplit hb hp =>
      rw [ht]
      refine List.findSome?_eq_some_iff.mpr ⟨before, p, after, hsplit, ?_, ?_⟩
      · exact error?_eq_some_iff.mpr (fetch_eq_error_iff.mpr ⟨hp, rfl⟩)
      · exact fun q hq => resolves_iff.mp (hb q hq)

/-- **A string has a value**: it is a template, and each of its paths leads somewhere. -/
def HasValue (vars : Entries Json) (s : String) : Prop :=
  ∃ t, parse s = .ok t ∧ ∀ p ∈ t.paths, Resolves vars p

theorem hasValue_iff {s : String} : HasValue vars s ↔ error? (evaluateString vars s) = none := by
  unfold HasValue
  rw [error?_evaluateString]
  cases parse s with
  | error fault => simp
  | ok t => simp [List.findSome?_eq_none_iff, resolves_iff]

/-! ### Values -/

mutual

/-- **The value of a value** is what it becomes with its strings replaced. -/
theorem evaluate_eq_ok_iff : ∀ {j v : Json}, evaluate vars j = .ok v ↔ Substituted vars j v
  | .null, v => by
    constructor
    · intro h
      obtain rfl : .null = v := Except.ok.inj h
      exact .null
    · rintro ⟨⟩
      rfl
  | .bool b, v => by
    constructor
    · intro h
      obtain rfl : .bool b = v := Except.ok.inj h
      exact .bool
    · rintro ⟨⟩
      rfl
  | .number n, v => by
    constructor
    · intro h
      obtain rfl : .number n = v := Except.ok.inj h
      exact .number
    · rintro ⟨⟩
      rfl
  | .string s, v => by
    rw [evaluate, evaluateString_eq_ok_iff]
    exact ⟨.string, fun h => by cases h with | string h => exact h⟩
  | .array items, v => by
    rw [evaluate, map_eq_ok_iff]
    constructor
    · rintro ⟨items', h, rfl⟩
      exact .array (evaluateItems_eq_ok_iff.mp h)
    · intro h
      cases h with
      | array h => exact ⟨_, evaluateItems_eq_ok_iff.mpr h, rfl⟩
  | .object ms, v => by
    rw [evaluate, map_eq_ok_iff]
    constructor
    · rintro ⟨ms', h, rfl⟩
      exact .object (evaluateMembers_eq_ok_iff.mp h)
    · intro h
      cases h with
      | object h => exact ⟨_, evaluateMembers_eq_ok_iff.mpr h, rfl⟩

theorem evaluateItems_eq_ok_iff : ∀ {items vs : List Json},
    evaluateItems vars items = .ok vs ↔ SubstitutedItems vars items vs
  | [], vs => by
    rw [evaluateItems]
    exact ⟨fun h => Except.ok.inj h ▸ .nil, fun h => by cases h; rfl⟩
  | j :: rest, vs => by
    rw [evaluateItems, bind_eq_ok_iff]
    constructor
    · rintro ⟨v, hv, h⟩
      obtain ⟨others, ho, h⟩ := bind_eq_ok_iff.mp h
      rw [← Except.ok.inj h]
      exact .cons (evaluate_eq_ok_iff.mp hv) (evaluateItems_eq_ok_iff.mp ho)
    · intro h
      cases h with
      | cons h hr =>
        exact ⟨_, evaluate_eq_ok_iff.mpr h,
          bind_eq_ok_iff.mpr ⟨_, evaluateItems_eq_ok_iff.mpr hr, rfl⟩⟩

theorem evaluateMembers_eq_ok_iff : ∀ {ms vs : List (String × Json)},
    evaluateMembers vars ms = .ok vs ↔ SubstitutedMembers vars ms vs
  | [], vs => by
    rw [evaluateMembers]
    exact ⟨fun h => Except.ok.inj h ▸ .nil, fun h => by cases h; rfl⟩
  | (name, j) :: rest, vs => by
    rw [evaluateMembers, bind_eq_ok_iff]
    constructor
    · rintro ⟨v, hv, h⟩
      obtain ⟨others, ho, h⟩ := bind_eq_ok_iff.mp h
      rw [← Except.ok.inj h]
      exact .cons (evaluate_eq_ok_iff.mp hv) (evaluateMembers_eq_ok_iff.mp ho)
    · intro h
      cases h with
      | cons h hr =>
        exact ⟨_, evaluate_eq_ok_iff.mpr h,
          bind_eq_ok_iff.mpr ⟨_, evaluateMembers_eq_ok_iff.mpr hr, rfl⟩⟩

end

/-- **The error of a value** is what is wrong with the first of its strings that has no value. -/
theorem evaluate_eq_error_iff {j : Json} {e : EvalError} :
    evaluate vars j = .error e ↔
      ∃ before s after, strings j = before ++ s :: after ∧ (∀ s' ∈ before, HasValue vars s') ∧
        Fault vars s e := by
  rw [← error?_eq_some_iff, error?_evaluate, List.findSome?_eq_some_iff]
  simp only [error?_eq_some_iff, evaluateString_eq_error_iff, hasValue_iff]
  exact exists_congr fun before => exists_congr fun s => exists_congr fun after =>
    and_congr_right fun _ => And.comm

theorem fetch_congr {p : Path} (h : p.lookupIn vars = p.lookupIn vars') :
    fetch vars p = fetch vars' p := by
  rw [fetch, fetch, h]

theorem fill_congr {pieces : List Piece}
    (h : ∀ p, .reference p ∈ pieces → p.lookupIn vars = p.lookupIn vars') :
    fill vars pieces = fill vars' pieces := by
  induction pieces with
  | nil => rfl
  | cons piece rest ih =>
    have hrest := ih fun p hp => h p (List.mem_cons_of_mem _ hp)
    cases piece with
    | literal text => rw [fill, fill, hrest]
    | reference p => rw [fill, fill, hrest, fetch_congr (h p List.mem_cons_self)]

theorem evaluateString_congr {s : String}
    (h : ∀ t, parse s = .ok t → ∀ p ∈ t.paths, p.lookupIn vars = p.lookupIn vars') :
    evaluateString vars s = evaluateString vars' s := by
  unfold evaluateString
  cases hs : parse s with
  | error fault => rfl
  | ok t =>
    change evaluateTemplate vars s t = evaluateTemplate vars' s t
    have hpaths := h t hs
    unfold evaluateTemplate
    split
    · rfl
    · split
      · next p hp =>
        refine fetch_congr (hpaths p (mem_paths_iff.mpr ?_))
        rw [single?_eq_some_iff.mp hp]
        exact List.mem_singleton.mpr rfl
      · rw [fill_congr fun p hp => hpaths p (mem_paths_iff.mpr hp)]

mutual

/-- **Evaluation follows the paths of the value and no others**: what it makes of a value depends
on the variables only through them. -/
theorem evaluate_congr : ∀ {j : Json},
    (∀ p, Mentions j p → p.lookupIn vars = p.lookupIn vars') → evaluate vars j = evaluate vars' j
  | .null, _ | .bool _, _ | .number _, _ => by rw [evaluate, evaluate] <;> simp
  | .string s, h => by
    rw [evaluate, evaluate]
    exact evaluateString_congr fun t ht p hp => h p ⟨s, List.mem_singleton.mpr rfl, t, ht, hp⟩
  | .array items, h => by rw [evaluate, evaluate, evaluateItems_congr h]
  | .object ms, h => by rw [evaluate, evaluate, evaluateMembers_congr h]

theorem evaluateItems_congr : ∀ {items : List Json},
    (∀ p, Mentions (.array items) p → p.lookupIn vars = p.lookupIn vars') →
      evaluateItems vars items = evaluateItems vars' items
  | [], _ => rfl
  | j :: rest, h => by
    rw [evaluateItems, evaluateItems,
      evaluate_congr fun p ⟨s, hs, hp⟩ => h p ⟨s, List.mem_append_left _ hs, hp⟩,
      evaluateItems_congr fun p ⟨s, hs, hp⟩ => h p ⟨s, List.mem_append_right _ hs, hp⟩]

theorem evaluateMembers_congr : ∀ {ms : List (String × Json)},
    (∀ p, Mentions (.object ms) p → p.lookupIn vars = p.lookupIn vars') →
      evaluateMembers vars ms = evaluateMembers vars' ms
  | [], _ => rfl
  | (name, j) :: rest, h => by
    rw [evaluateMembers, evaluateMembers,
      evaluate_congr fun p ⟨s, hs, hp⟩ => h p ⟨s, List.mem_append_left _ hs, hp⟩,
      evaluateMembers_congr fun p ⟨s, hs, hp⟩ => h p ⟨s, List.mem_append_right _ hs, hp⟩]

end

theorem error?_checkAll (l : List String) :
    error? (checkAll l) = l.findSome? fun s => error? (parse s) := by
  induction l with
  | nil => rfl
  | cons s rest ih =>
    rw [checkAll, List.findSome?_cons]
    cases parse s with
    | error fault => rfl
    | ok t => exact ih

/-- **A check fails at the first string that is no template.** -/
theorem check_eq_error_iff {j : Json} {fault : TemplateError} :
    check j = .error fault ↔
      ∃ before s after, strings j = before ++ s :: after ∧ (∀ s' ∈ before, ∃ t, parse s' = .ok t) ∧
        parse s = .error fault := by
  rw [← error?_eq_some_iff, check, error?_checkAll, List.findSome?_eq_some_iff]
  have hnone : ∀ s, error? (parse s) = none ↔ ∃ t, parse s = .ok t := fun s => by
    cases parse s <;> simp
  simp only [error?_eq_some_iff, hnone]
  exact exists_congr fun before => exists_congr fun s => exists_congr fun after =>
    and_congr_right fun _ => And.comm

/-- **A string that is no template is as far as evaluation gets**, if all strings before it are
templates: it fails there, or earlier on a path that leads nowhere. -/
theorem evaluate_error_of_unreadable {j : Json} {before after : List String} {s : String}
    {fault : TemplateError} (hsplit : strings j = before ++ s :: after)
    (hb : ∀ s' ∈ before, ∃ t, parse s' = .ok t) (hs : parse s = .error fault) :
    evaluate vars j = .error (.malformed fault) ∨
      ∃ p, evaluate vars j = .error (.missing p) ∧
        ∃ s' ∈ before, ∃ t, parse s' = .ok t ∧ p ∈ t.paths := by
  have hstop : error? (evaluateString vars s) = some (.malformed fault) :=
    error?_eq_some_iff.mpr (evaluateString_eq_error_iff.mpr (.malformed hs))
  have herror := error?_evaluate vars j
  rw [hsplit, List.findSome?_append, List.findSome?_cons, hstop] at herror
  cases hearlier : before.findSome? fun s' => error? (evaluateString vars s') with
  | none =>
    rw [hearlier] at herror
    exact .inl (error?_eq_some_iff.mp herror)
  | some e =>
    rw [hearlier] at herror
    obtain ⟨s', hs', he⟩ := List.exists_of_findSome?_eq_some hearlier
    obtain ⟨t, ht⟩ := hb s' hs'
    cases evaluateString_eq_error_iff.mp (error?_eq_some_iff.mp he) with
    | malformed hf => exact absurd (hf.symm.trans ht) nofun
    | @missing t' _ _ p ht' hpaths =>
      have hp : p ∈ t'.paths := hpaths ▸ List.mem_append_right _ List.mem_cons_self
      exact .inr ⟨p, error?_eq_some_iff.mp herror, s', hs', t', ht', hp⟩

/-- **A check foretells every evaluation.** If it accepts a value, evaluation gives a value or finds
a path without one, whatever the variables are. If it refuses the value, evaluation never gives
one: it fails with the fault that the check found, or before it gets there with a path of an earlier
string that leads nowhere. -/
theorem check_foretells_evaluation (j : Json) :
    (check j = .ok () → ∀ vars, (∃ v, evaluate vars j = .ok v) ∨
      ∃ p, evaluate vars j = .error (.missing p)) ∧
    ∀ fault, check j = .error fault → ∃ before s after, strings j = before ++ s :: after ∧
      (∀ s' ∈ before, ∃ t, parse s' = .ok t) ∧ parse s = .error fault ∧
      ∀ vars, evaluate vars j = .error (.malformed fault) ∨
        ∃ p, evaluate vars j = .error (.missing p) ∧
          ∃ s' ∈ before, ∃ t, parse s' = .ok t ∧ p ∈ t.paths := by
  constructor
  · intro h vars
    have hparse := (checkAll_eq_ok_iff _).mp h
    cases he : evaluate vars j with
    | ok v => exact .inl ⟨v, rfl⟩
    | error e =>
      obtain ⟨before, s, after, hsplit, -, hfault⟩ := evaluate_eq_error_iff.mp he
      cases hfault with
      | malformed hf =>
        have hs : s ∈ strings j := hsplit ▸ List.mem_append_right _ List.mem_cons_self
        obtain ⟨t, ht⟩ := hparse s hs
        exact absurd (hf.symm.trans ht) nofun
      | @missing _ _ _ p => exact .inr ⟨p, rfl⟩
  · intro fault h
    obtain ⟨before, s, after, hsplit, hb, hs⟩ := check_eq_error_iff.mp h
    exact ⟨before, s, after, hsplit, hb, hs, fun _ => evaluate_error_of_unreadable hsplit hb hs⟩

end RouteFlow.Template
