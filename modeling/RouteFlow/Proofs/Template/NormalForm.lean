import Mathlib.Data.List.Chain
import RouteFlow.Proofs.Template.Faults
import RouteFlow.Proofs.Template.Path

/-!
# The normal form of templates

A text is read from one reference to the next. The first opening mark of a text and the first
closing brace after it bound its first reference (`FirstReference`), and reading goes on behind the
brace. `Cuts` gives the pieces that a text falls into in this way. The scanner gathers a literal
character by character, but it never looks back, so what it has gathered has no say in where the
next reference opens (`scan_append_of_plain`, `scan_append_of_inside`).

Pieces that are read are in normal form (`Normal`): no literal is empty, holds an opening mark or
stands beside another one. Pieces in normal form are read back from what they are written as,
because no literal opens a reference and no path closes one (`cuts_render`).

* `parse_eq_ok_iff` — a text is read as the pieces that it is cut into;
* `lossless_in_normal_form` — which texts are read, what writing the pieces gives, and that each
  template in normal form is read back.
-/

namespace RouteFlow.Template

open Fallible

/-! ### References in a text -/

/-- The mark that opens a reference. -/
def opening : List Char := ['$', '{']

/-- A text in which no reference opens. -/
def Plain (cs : List Char) : Prop := ¬ opening <:+: cs

/-- **The first reference of a text** stands between the first opening mark and the first closing
brace after it. -/
structure FirstReference (cs before inside rest : List Char) : Prop where
  text : cs = before ++ opening ++ inside ++ '}' :: rest
  plain : Plain before
  braceless : '}' ∉ inside

/-- **A text whose references can be read**, one after the other from the left: each has a closing
brace, and what stands before the first one is a path. -/
inductive Readable : List Char → Prop
  | plain {cs : List Char} (h : Plain cs) : Readable cs
  | reference {cs before inside rest : List Char} {p : Path}
      (hcut : FirstReference cs before inside rest)
      (hp : Path.parse (String.ofList inside) = .ok p) (hr : Readable rest) : Readable cs

/-- **The blanks around each path go** and all else stays. -/
inductive Tightened : List Char → List Char → Prop
  | plain {cs : List Char} (h : Plain cs) : Tightened cs cs
  | reference {cs before inside rest rest' : List Char}
      (hcut : FirstReference cs before inside rest) (hr : Tightened rest rest') :
      Tightened cs (before ++ opening ++ Text.trim inside ++ '}' :: rest')

/-- **Pieces in normal form.** -/
structure Normal (pieces : List Piece) : Prop where
  /-- A literal has text, and no reference opens in it. -/
  literal : ∀ text, .literal text ∈ pieces → text ≠ "" ∧ Plain text.toList
  /-- No literal comes right after another one. -/
  apart : pieces.IsChain fun a b => a.isLiteral = true → b.isLiteral = false

/-- The literal piece of a text, none for no text. -/
def literalOf (cs : List Char) : List Piece :=
  if cs = [] then [] else [.literal (String.ofList cs)]

/-- **A text is cut into pieces** at its references. -/
inductive Cuts : List Char → List Piece → Prop
  | plain {cs : List Char} (h : Plain cs) : Cuts cs (literalOf cs)
  | reference {cs before inside rest : List Char} {p : Path} {pieces : List Piece}
      (hcut : FirstReference cs before inside rest)
      (hp : Path.parse (String.ofList inside) = .ok p) (hr : Cuts rest pieces) :
      Cuts cs (literalOf before ++ .reference p :: pieces)

/-! ### Where references open and close -/

@[simp] theorem plain_nil : Plain [] := by simp [Plain, opening]

theorem plain_cons {c : Char} {cs : List Char} :
    Plain (c :: cs) ↔ ¬ opening <+: c :: cs ∧ Plain cs := by
  simp [Plain, List.infix_cons_iff]

theorem FirstReference.not_plain {cs before inside rest : List Char}
    (h : FirstReference cs before inside rest) : ¬ Plain cs := by
  intro hplain
  refine hplain ⟨before, inside ++ '}' :: rest, ?_⟩
  rw [h.text]
  simp

/-- Either no reference opens in a text, or there is a first place where one does. -/
theorem plain_or_opens (cs : List Char) :
    Plain cs ∨ ∃ before after, cs = before ++ opening ++ after ∧ Plain before := by
  induction cs with
  | nil => exact .inl plain_nil
  | cons c cs ih =>
    by_cases hopen : opening <+: c :: cs
    · obtain ⟨after, hafter⟩ := hopen
      exact .inr ⟨[], after, hafter.symm, plain_nil⟩
    · rcases ih with hplain | ⟨before, after, rfl, hplain⟩
      · exact .inl (plain_cons.mpr ⟨hopen, hplain⟩)
      · refine .inr ⟨c :: before, after, rfl, plain_cons.mpr ⟨?_, hplain⟩⟩
        -- a mark at the very front would also be at the front of the whole text
        intro hfront
        refine hopen (hfront.trans ?_)
        exact ⟨opening ++ after, by simp⟩

/-- **How a text goes on**: no reference opens in it, its first reference is closed, or it opens one
that is never closed. -/
theorem cut_cases (cs : List Char) :
    Plain cs ∨ (∃ before inside rest, FirstReference cs before inside rest) ∨
      ∃ before after, cs = before ++ opening ++ after ∧ Plain before ∧ '}' ∉ after := by
  rcases plain_or_opens cs with hplain | ⟨before, after, hcs, hplain⟩
  · exact .inl hplain
  · by_cases hclose : '}' ∈ after
    · obtain ⟨inside, rest, rfl, hinside⟩ := List.eq_append_cons_of_mem hclose
      exact .inr (.inl ⟨before, inside, rest, by simpa using hcs, hplain, hinside⟩)
    · exact .inr (.inr ⟨before, after, hcs, hplain, hclose⟩)

/-! ### Scanning -/

/-- A character that does not open a reference goes to the literal. -/
theorem scan_cons_of_not_opening {c : Char} {cs gathered : List Char}
    (h : ¬ opening <+: c :: cs) :
    scan gathered none (c :: cs) = scan (c :: gathered) none cs := by
  rw [scan]
  rintro rest rfl rfl
  exact h ⟨rest, rfl⟩

/-- **Plain text goes to the literal**, up to a text that cannot complete an opening mark. -/
theorem scan_append_of_plain {before after gathered : List Char} (h : Plain before)
    (hafter : ∀ c ∈ after.head?, c ≠ '{') :
    scan gathered none (before ++ after) = scan (before.reverse ++ gathered) none after := by
  induction before generalizing gathered with
  | nil => rfl
  | cons c before ih =>
    obtain ⟨hfront, hplain⟩ := plain_cons.mp h
    have hnot : ¬ opening <+: c :: (before ++ after) := by
      cases before with
      | nil =>
        -- only the text behind could complete the mark
        rintro ⟨rest, hrest⟩
        obtain rfl := (List.cons.inj hrest).2
        exact hafter '{' rfl rfl
      | cons d before =>
        rintro ⟨rest, hrest⟩
        obtain ⟨hc, hrest⟩ := List.cons.inj hrest
        obtain ⟨hd, -⟩ := List.cons.inj hrest
        exact hfront ⟨before, by rw [← hc, ← hd]; rfl⟩
    rw [List.cons_append, scan_cons_of_not_opening hnot, ih hplain, List.reverse_cons,
      List.append_assoc]
    rfl

/-- **Text without a closing brace goes to the path.** -/
theorem scan_append_of_inside {inside after gathered path : List Char} (h : '}' ∉ inside) :
    scan gathered (some path) (inside ++ after) =
      scan gathered (some (inside.reverse ++ path)) after := by
  induction inside generalizing path with
  | nil => rfl
  | cons c inside ih =>
    obtain ⟨hc, hinside⟩ := not_or.mp (mt List.mem_cons.mpr h)
    rw [List.cons_append, scan, ih hinside, List.reverse_cons, List.append_assoc]
    · rfl
    · exact fun he => hc he.symm

theorem literalPieces_reverse (cs : List Char) : literalPieces cs.reverse = literalOf cs := by
  simp [literalPieces, literalOf]

theorem scan_of_plain {cs : List Char} (h : Plain cs) :
    scan [] none cs = .ok (literalOf cs) := by
  have hscan : scan [] none (cs ++ []) = scan (cs.reverse ++ []) none [] :=
    scan_append_of_plain h (by simp)
  rw [List.append_nil, List.append_nil, scan, literalPieces_reverse] at hscan
  exact hscan

/-- Up to the first opening mark, a text goes to the literal. -/
theorem scan_opening {before after : List Char} (h : Plain before) :
    scan [] none (before ++ opening ++ after) = scan before.reverse (some []) after := by
  rw [List.append_assoc, scan_append_of_plain h (by simp [opening]), List.append_nil]
  rfl

/-- **The first reference is read, and then the rest as a text of its own.** -/
theorem scan_reference {cs before inside rest : List Char}
    (h : FirstReference cs before inside rest) :
    scan [] none cs = (do
      let path ← (Path.parse (String.ofList inside)).mapError .badPath
      let pieces ← scan [] none rest
      .ok (literalOf before ++ .reference path :: pieces)) := by
  rw [h.text, List.append_assoc, scan_opening h.plain, scan_append_of_inside h.braceless, scan,
    List.append_nil, List.reverse_reverse, literalPieces_reverse]

theorem scan_unclosed {before after : List Char} (h : Plain before) (hclose : '}' ∉ after) :
    scan [] none (before ++ opening ++ after) = .error .unclosed := by
  have hscan : scan before.reverse (some []) (after ++ []) =
      scan before.reverse (some (after.reverse ++ [])) [] := scan_append_of_inside hclose
  rw [List.append_nil] at hscan
  rw [scan_opening h, hscan, scan]

/-- **Scanning gives the pieces that a text is cut into**, and nothing for other texts. -/
theorem scan_eq_ok_iff {cs : List Char} {pieces : List Piece} :
    scan [] none cs = .ok pieces ↔ Cuts cs pieces := by
  constructor
  · intro h
    -- the rest behind a reference is shorter than the text
    induction hn : cs.length using Nat.strong_induction_on generalizing cs pieces with
    | _ n ih =>
      subst hn
      rcases cut_cases cs with hplain | ⟨before, inside, rest, hcut⟩ | ⟨before, after, rfl, hb, ha⟩
      · obtain rfl := Except.ok.inj ((scan_of_plain hplain).symm.trans h)
        exact .plain hplain
      · rw [scan_reference hcut] at h
        obtain ⟨p, hp, h⟩ := bind_eq_ok_iff.mp h
        obtain ⟨others, ho, h⟩ := bind_eq_ok_iff.mp h
        obtain rfl := Except.ok.inj h
        have hlt : rest.length < cs.length := by
          rw [hcut.text]
          simp only [List.length_append, List.length_cons]
          omega
        exact .reference hcut (mapError_eq_ok_iff.mp hp) (ih _ hlt ho rfl)
      · rw [scan_unclosed hb ha] at h
        exact absurd h nofun
  · intro h
    induction h with
    | plain h => exact scan_of_plain h
    | reference hcut hp _ ih =>
      rw [scan_reference hcut, hp, ih]
      rfl

/-- **A text is read as the template that it is cut into.** -/
theorem parse_eq_ok_iff {s : String} {t : Template} :
    parse s = .ok t ↔ Cuts s.toList t.pieces := by
  unfold parse
  rw [map_eq_ok_iff, ← scan_eq_ok_iff]
  constructor
  · rintro ⟨pieces, h, rfl⟩
    exact h
  · exact fun h => ⟨t.pieces, h, rfl⟩

theorem readable_iff {cs : List Char} : Readable cs ↔ ∃ pieces, Cuts cs pieces := by
  constructor
  · intro h
    induction h with
    | plain h => exact ⟨_, .plain h⟩
    | reference hcut hp _ ih =>
      obtain ⟨pieces, hpieces⟩ := ih
      exact ⟨_, .reference hcut hp hpieces⟩
  · rintro ⟨pieces, h⟩
    induction h with
    | plain h => exact .plain h
    | reference hcut hp _ ih => exact .reference hcut hp ih

/-! ### What has been read -/

theorem mem_literalOf {cs : List Char} {text : String} (h : .literal text ∈ literalOf cs) :
    text ≠ "" ∧ text.toList = cs := by
  unfold literalOf at h
  split at h
  · simp at h
  · next hne =>
    obtain rfl := Piece.literal.inj (List.mem_singleton.mp h)
    exact ⟨by simpa using hne, String.toList_ofList⟩

theorem reference_notMem_literalOf (cs : List Char) (p : Path) :
    .reference p ∉ literalOf cs := by
  unfold literalOf
  split <;> simp

theorem render_literalOf (cs : List Char) : (literalOf cs).flatMap Piece.render = cs := by
  unfold literalOf
  split
  · next h => simp [h]
  · simp [Piece.render]

/-- **What has been read is in normal form.** -/
theorem normal_of_cuts {cs : List Char} {pieces : List Piece} (h : Cuts cs pieces) :
    Normal pieces := by
  induction h with
  | @plain cs h =>
    constructor
    · intro text hm
      obtain ⟨hne, rfl⟩ := mem_literalOf hm
      exact ⟨hne, h⟩
    · unfold literalOf
      split <;> simp
  | @reference cs before inside rest p pieces hcut _ _ ih =>
    have hreference : (.reference p :: pieces).IsChain fun a b : Piece =>
        a.isLiteral = true → b.isLiteral = false :=
      List.isChain_cons.mpr ⟨fun _ _ hp => absurd hp (by simp [Piece.isLiteral]), ih.apart⟩
    constructor
    · intro text hm
      rcases List.mem_append.mp hm with hm | hm
      · obtain ⟨hne, rfl⟩ := mem_literalOf hm
        exact ⟨hne, hcut.plain⟩
      · exact ih.literal text (by simpa using hm)
    · unfold literalOf
      split
      · exact hreference
      · exact List.isChain_cons_cons.mpr ⟨fun _ => rfl, hreference⟩

/-- The text of a path is what was read without the blanks around it, and reads back. -/
theorem path_of_parse {s : String} {p : Path} (h : Path.parse s = .ok p) :
    p.text.toList = Text.trim s.toList ∧ Path.parse p.text = .ok p ∧ '}' ∉ p.text.toList := by
  obtain ⟨text, segments⟩ := p
  obtain ⟨hspells, hs⟩ := Path.parse_eq_ok_iff.mp h
  refine ⟨?_, ?_, ?_⟩
  · exact (Text.trim_eq_iff.mpr ⟨Path.unpadded_of_spells hspells, hs⟩).symm
  · exact Path.parse_eq_ok_iff.mpr ⟨hspells, [], [], Text.blanks_nil, Text.blanks_nil, by simp⟩
  · exact Path.notMem_of_spells hspells Path.foreign_brace (by decide)

/-- **Writing what has been read** gives the text without the blanks around its paths. -/
theorem tightened_of_cuts {cs : List Char} {pieces : List Piece} (h : Cuts cs pieces) :
    Tightened cs (pieces.flatMap Piece.render) := by
  induction h with
  | @plain cs h =>
    rw [render_literalOf]
    exact .plain h
  | @reference cs before inside rest p pieces hcut hp _ ih =>
    have hpath : p.text.toList = Text.trim inside := by
      rw [(path_of_parse hp).1, String.toList_ofList]
    have hrender : (literalOf before ++ .reference p :: pieces).flatMap Piece.render =
        before ++ opening ++ Text.trim inside ++ '}' :: pieces.flatMap Piece.render := by
      rw [List.flatMap_append, render_literalOf, List.flatMap_cons, Piece.render, hpath]
      simp [opening]
    rw [hrender]
    exact .reference hcut ih

theorem exists_parse_of_cuts {cs : List Char} {pieces : List Piece} (h : Cuts cs pieces) {p : Path}
    (hm : .reference p ∈ pieces) : ∃ s, Path.parse s = .ok p := by
  induction h with
  | plain => exact absurd hm (reference_notMem_literalOf _ p)
  | @reference cs before inside rest q pieces _ hq _ ih =>
    rcases List.mem_append.mp hm with hm | hm
    · exact absurd hm (reference_notMem_literalOf _ p)
    · rcases List.mem_cons.mp hm with hm | hm
      · obtain rfl := Piece.reference.inj hm
        exact ⟨_, hq⟩
      · exact ih hm

/-- A text is plain exactly if it is read as literals alone. -/
theorem isLiteral_iff_of_cuts {cs : List Char} {pieces : List Piece} (h : Cuts cs pieces) :
    (Template.mk pieces).isLiteral = true ↔ Plain cs := by
  cases h with
  | plain h =>
    refine iff_of_true ?_ h
    unfold isLiteral literalOf
    split <;> simp [Piece.isLiteral]
  | reference hcut =>
    refine iff_of_false ?_ hcut.not_plain
    simp [isLiteral, Piece.isLiteral]

/-! ### Reading back what is written -/

/-- **Pieces in normal form are what their text is cut into**, if their paths can be read. -/
theorem cuts_render : ∀ {pieces : List Piece}, Normal pieces →
    (∀ p, .reference p ∈ pieces → ∃ s, Path.parse s = .ok p) →
    Cuts (pieces.flatMap Piece.render) pieces
  | [], _, _ => .plain plain_nil
  | [.literal text], h, _ => by
    obtain ⟨hne, hplain⟩ := h.literal text List.mem_cons_self
    have hcuts := Cuts.plain hplain
    simpa [literalOf, hne, Piece.render] using hcuts
  | .literal _ :: .literal _ :: _, h, _ =>
    absurd ((List.isChain_cons_cons.mp h.apart).1 rfl) (by simp [Piece.isLiteral])
  | .reference p :: rest, h, hp => by
    have hrest : Normal rest :=
      ⟨fun text hm => h.literal text (List.mem_cons_of_mem _ hm), h.apart.tail⟩
    obtain ⟨s, hs⟩ := hp p List.mem_cons_self
    obtain ⟨-, hparse, hclose⟩ := path_of_parse hs
    have hcuts := Cuts.reference ⟨rfl, plain_nil, hclose⟩ (by rwa [String.ofList_toList])
      (cuts_render hrest fun q hq => hp q (List.mem_cons_of_mem _ hq))
    simpa [literalOf, Piece.render, opening] using hcuts
  | .literal text :: .reference p :: rest, h, hp => by
    obtain ⟨hne, hplain⟩ := h.literal text List.mem_cons_self
    have hrest : Normal rest :=
      ⟨fun text hm => h.literal text (List.mem_cons_of_mem _ (List.mem_cons_of_mem _ hm)),
        h.apart.tail.tail⟩
    obtain ⟨s, hs⟩ := hp p (List.mem_cons_of_mem _ List.mem_cons_self)
    obtain ⟨-, hparse, hclose⟩ := path_of_parse hs
    have hcuts := Cuts.reference ⟨rfl, hplain, hclose⟩ (by rwa [String.ofList_toList])
      (cuts_render hrest fun q hq => hp q (List.mem_cons_of_mem _ (List.mem_cons_of_mem _ hq)))
    simpa [literalOf, hne, Piece.render, opening] using hcuts

theorem parse_render {t : Template} (h : Normal t.pieces)
    (hp : ∀ p ∈ t.paths, ∃ s, Path.parse s = .ok p) : parse t.render = .ok t := by
  rw [parse_eq_ok_iff, render, String.toList_ofList]
  exact cuts_render h fun p hm => hp p (mem_paths_iff.mpr hm)

/-- **Reading loses nothing and normalizes.** A text is read exactly if, from the left, each
reference that opens in it is closed and holds a path. The pieces are then in normal form, writing
them gives the text without the blanks around its paths, and that text is read as the same
template, which has no reference exactly if none opens in the text. Conversely, a template in
normal form whose paths can be read is what its text is read as. -/
theorem lossless_in_normal_form :
    (∀ s, (∃ t, parse s = .ok t) ↔ Readable s.toList) ∧
    (∀ s t, parse s = .ok t →
      Normal t.pieces ∧ Tightened s.toList t.render.toList ∧ parse t.render = .ok t ∧
        (t.isLiteral = true ↔ Plain s.toList)) ∧
    ∀ t, Normal t.pieces → (∀ p ∈ t.paths, ∃ s, Path.parse s = .ok p) →
      parse t.render = .ok t := by
  refine ⟨fun s => ?_, fun s t h => ?_, fun t => parse_render⟩
  · rw [readable_iff]
    constructor
    · exact fun ⟨t, h⟩ => ⟨t.pieces, parse_eq_ok_iff.mp h⟩
    · exact fun ⟨pieces, h⟩ => ⟨⟨pieces⟩, parse_eq_ok_iff.mpr h⟩
  · have hcuts := parse_eq_ok_iff.mp h
    have hnormal := normal_of_cuts hcuts
    refine ⟨hnormal, ?_, parse_render hnormal fun p hp => ?_, isLiteral_iff_of_cuts hcuts⟩
    · rw [render, String.toList_ofList]
      exact tightened_of_cuts hcuts
    · exact exists_parse_of_cuts hcuts (mem_paths_iff.mp hp)

-- a dollar sign in front of a reference and a brace behind it belong to the literals
example : parse "$$\x7b a \x7d\x7d" =
    .ok ⟨[.literal "$", .reference ⟨"a", [.key "a"]⟩, .literal "\x7d"]⟩ := rfl

end RouteFlow.Template
