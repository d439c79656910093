import RouteFlow.Proofs.Fallible
import RouteFlow.Proofs.Text.Reading
import RouteFlow.Template.Path

/-!
# The grammar of paths

A path is spelled as parts with points between them, and a part as a name with indexes after it,
each a number in brackets. `Spells` gives this grammar together with the segments that a text
stands for. A reader that cuts a text at its points and the end of a part at its closing brackets
cannot cut in the wrong place: no part has a point in it and no index a closing bracket
(`notMem_of_spellsPart`, `exists_groups_of_spellsIndexes`). So reading accepts what the grammar
spells and nothing else:

* `parse_eq_ok_iff` — a text is read if, apart from blanks on either side, the grammar spells it;
* `spells_render` — segments are spelled the way they are written;
* `read_as_spelled` — the two together, and what follows for texts that were read before.
-/

namespace RouteFlow.Template

open Text (Blanks Unpadded Numeral isBlank)

namespace Path

/-! ### The grammar -/

/-- The characters of a name. -/
def NameChar (c : Char) : Prop :=
  ('A' ≤ c ∧ c ≤ 'Z') ∨ ('a' ≤ c ∧ c ≤ 'z') ∨ ('0' ≤ c ∧ c ≤ '9') ∨ c = '_' ∨ c = '-'

/-- A name is one or more characters of a name. -/
structure Name (cs : List Char) : Prop where
  nonempty : cs ≠ []
  chars : ∀ c ∈ cs, NameChar c

/-- **A text spells indexes**: numbers of a word, each in brackets and with or without blanks around
it, one right after the other. -/
inductive SpellsIndexes : List Char → List Segment → Prop
  | nil : SpellsIndexes [] []
  | cons {before number after rest : List Char} {n : Nat} {segments : List Segment}
      (hb : Blanks before) (hn : Numeral number n) (hlt : n < UInt64.size) (ha : Blanks after)
      (hr : SpellsIndexes rest segments) :
      SpellsIndexes ('[' :: (before ++ number ++ after) ++ ']' :: rest) (.index n :: segments)

/-- **A text spells a part**: a name and the indexes after it. -/
inductive SpellsPart : List Char → List Segment → Prop
  | intro {name indexes : List Char} {segments : List Segment} (hname : Name name)
      (hi : SpellsIndexes indexes segments) :
      SpellsPart (name ++ indexes) (.key (String.ofList name) :: segments)

/-- **A text spells segments**: one or more parts with points between them. -/
inductive Spells : List Char → List Segment → Prop
  | part {cs : List Char} {segments : List Segment} (h : SpellsPart cs segments) :
      Spells cs segments
  | cons {cs rest : List Char} {segments others : List Segment} (h : SpellsPart cs segments)
      (hr : Spells rest others) : Spells (cs ++ '.' :: rest) (segments ++ others)

/-! ### Characters -/

theorem isNameChar_iff {c : Char} : isNameChar c = true ↔ NameChar c := by
  have hc : isNameChar c =
      (decide ('A' ≤ c ∧ c ≤ 'Z') || (decide ('a' ≤ c) && decide (c ≤ 'z')) ||
        (decide ('0' ≤ c) && decide (c ≤ '9')) || c == '_' || c == '-') := rfl
  simp only [hc, NameChar, Bool.or_eq_true, Bool.and_eq_true, decide_eq_true_iff, beq_iff_eq,
    or_assoc]

theorem isName_iff {cs : List Char} : isName cs = true ↔ Name cs := by
  have hne : (!cs.isEmpty) = true ↔ cs ≠ [] := by simp
  unfold isName
  rw [Bool.and_eq_true, hne, List.all_eq_true]
  constructor
  · exact fun ⟨hn, hc⟩ => ⟨hn, fun c hm => isNameChar_iff.mp (hc c hm)⟩
  · exact fun h => ⟨h.nonempty, fun c hm => isNameChar_iff.mpr (h.chars c hm)⟩

/-- The characters of a name, as numbers. -/
theorem NameChar.toNat_mem {c : Char} (h : NameChar c) : 45 ≤ c.toNat ∧ c.toNat ≤ 122 := by
  rcases h with h | h | h | rfl | rfl
  · exact ⟨Nat.le_trans (by decide) h.1, Nat.le_trans h.2 (by decide)⟩
  · exact ⟨Nat.le_trans (by decide) h.1, Nat.le_trans h.2 (by decide)⟩
  · exact ⟨Nat.le_trans (by decide) h.1, Nat.le_trans h.2 (by decide)⟩
  · decide
  · decide

theorem NameChar.not_isBlank {c : Char} (h : NameChar c) : isBlank c = false := by
  have := h.toNat_mem
  simp only [isBlank, Bool.or_eq_false_iff, Bool.and_eq_false_iff, decide_eq_false_iff_not,
    beq_eq_false_iff_ne]
  omega

/-- No mark of the grammar belongs to a name. -/
theorem NameChar.ne {c d : Char} (h : NameChar c) (hd : isNameChar d = false) : c ≠ d := by
  rintro rfl
  exact absurd (isNameChar_iff.mpr h) (by simp [hd])

/-- Inside the brackets of an index there are no marks of the grammar. -/
theorem notMem_of_number {before number after : List Char} {n : Nat} (hb : Blanks before)
    (hn : Numeral number n) (ha : Blanks after) {d : Char} (hblank : isBlank d = false)
    (hplus : d ≠ '+') (hdigit : ¬ ('0' ≤ d ∧ d ≤ '9')) : d ∉ before ++ number ++ after := by
  intro hm
  rcases List.mem_append.mp hm with hm | hm
  · rcases List.mem_append.mp hm with hm | hm
    · exact absurd (hb d hm) (by simp [hblank])
    · exact (hn.forall_mem d hm).elim hplus hdigit
  · exact absurd (ha d hm) (by simp [hblank])

theorem unpadded_of_numeral {cs : List Char} {n : Nat} (h : Numeral cs n) : Unpadded cs := by
  refine Text.unpadded_of_forall fun c hc => ?_
  rcases h.forall_mem c hc with rfl | hd
  · decide
  · exact NameChar.not_isBlank (.inr (.inr (.inl hd)))

/-! ### Indexes -/

theorem index?_eq_some_iff {cs : List Char} {s : Segment} :
    index? cs = some s ↔
      ∃ before number after n, Blanks before ∧ Numeral number n ∧ n < UInt64.size ∧ Blanks after ∧
        cs = '[' :: (before ++ number ++ after) ∧ s = .index n := by
  unfold index?
  split
  · next inner =>
    constructor
    · intro h
      obtain ⟨n, hw, rfl⟩ := Option.map_eq_some_iff.mp h
      obtain ⟨hn, hlt⟩ := Text.word64?_eq_some_iff.mp hw
      obtain ⟨before, after, hb, ha, hinner⟩ := Text.exists_blanks_trim inner
      exact ⟨before, _, after, n, hb, hn, hlt, ha, congrArg _ hinner, rfl⟩
    · rintro ⟨before, number, after, n, hb, hn, hlt, ha, hcs, rfl⟩
      obtain rfl := (List.cons.inj hcs).2
      rw [Text.trim_append hb ha (unpadded_of_numeral hn),
        Text.word64?_eq_some_iff.mpr ⟨hn, hlt⟩]
      rfl
  · next hopen =>
    constructor
    · exact fun h => absurd h (by simp)
    · rintro ⟨before, number, after, n, -, -, -, -, hcs, -⟩
      exact absurd hcs (hopen _)

/-- The text of groups that a closing bracket ends each. -/
def closed (groups : List (List Char)) : List Char := groups.flatMap (· ++ [']'])

/-- Closing brackets end the groups, and nothing is left after the last one. -/
theorem intercalate_concat_nil (groups : List (List Char)) :
    [']'].intercalate (groups ++ [[]]) = closed groups := by
  induction groups with
  | nil => rfl
  | cons g groups ih =>
    cases groups with
    | nil => simp [closed, List.intercalate]
    | cons g' groups =>
      rw [closed, List.flatMap_cons, ← closed, ← ih]
      simp [List.intercalate]

theorem spellsIndexes_of_groups {groups : List (List Char)} {segments : List Segment}
    (h : groups.mapM index? = some segments) : SpellsIndexes (closed groups) segments := by
  induction groups generalizing segments with
  | nil =>
    obtain rfl : [] = segments := by simpa using h
    exact .nil
  | cons g groups ih =>
    rw [List.mapM_cons] at h
    obtain ⟨s, hs, h⟩ := Option.bind_eq_some_iff.mp h
    obtain ⟨others, ho, h⟩ := Option.bind_eq_some_iff.mp h
    obtain rfl := Option.some.inj h
    obtain ⟨before, number, after, n, hb, hn, hlt, ha, rfl, rfl⟩ := index?_eq_some_iff.mp hs
    have hcs : closed (('[' :: (before ++ number ++ after)) :: groups) =
        '[' :: (before ++ number ++ after) ++ ']' :: closed groups := by
      simp [closed]
    rw [hcs]
    exact .cons hb hn hlt ha (ih ho)

/-- What spells indexes falls apart into groups that can be read, at every closing bracket. -/
theorem exists_groups_of_spellsIndexes {cs : List Char} {segments : List Segment}
    (h : SpellsIndexes cs segments) :
    ∃ groups : List (List Char), cs = closed groups ∧ groups.mapM index? = some segments ∧
      ∀ g ∈ groups, ']' ∉ g := by
  induction h with
  | nil => exact ⟨[], rfl, rfl, by simp⟩
  | @cons before number after rest n segments hb hn hlt ha _ ih =>
    obtain ⟨groups, rfl, hmap, hclose⟩ := ih
    refine ⟨('[' :: (before ++ number ++ after)) :: groups, by simp [closed], ?_, ?_⟩
    · rw [List.mapM_cons,
        index?_eq_some_iff.mpr ⟨before, number, after, n, hb, hn, hlt, ha, rfl, rfl⟩, hmap]
      rfl
    · refine List.forall_mem_cons.mpr ⟨?_, hclose⟩
      have hinner := notMem_of_number hb hn ha (d := ']') (by decide) (by decide) (by decide)
      exact List.not_mem_cons_of_ne_of_not_mem (by decide) hinner

theorem indexes?_eq_some_iff {cs : List Char} {segments : List Segment} :
    indexes? cs = some segments ↔ SpellsIndexes cs segments := by
  unfold indexes?
  constructor
  · intro h
    split at h
    · next groups hsplit =>
      -- the last piece is empty, so a closing bracket ends each of the others
      have hpieces : cs.splitOn ']' = groups.reverse ++ [[]] := by
        rw [← List.reverse_reverse (cs.splitOn ']'), hsplit, List.reverse_cons]
      have hcs : [']'].intercalate (cs.splitOn ']') = cs := List.intercalate_splitOn ']'
      rw [hpieces, intercalate_concat_nil] at hcs
      rw [← hcs]
      exact spellsIndexes_of_groups h
    · simp at h
  · intro h
    obtain ⟨groups, rfl, hmap, hclose⟩ := exists_groups_of_spellsIndexes h
    have hpieces : (closed groups).splitOn ']' = groups ++ [[]] := by
      rw [← intercalate_concat_nil]
      refine List.splitOn_intercalate ']' ?_ (by simp)
      exact List.forall_mem_append.mpr ⟨hclose, by simp⟩
    rw [hpieces, List.reverse_append]
    simpa using hmap

/-! ### Parts -/

/-- What spells indexes is empty or begins with an opening bracket. -/
theorem SpellsIndexes.head {cs : List Char} {segments : List Segment}
    (h : SpellsIndexes cs segments) : ∀ c ∈ cs.head?, c = '[' := by
  cases h <;> simp

theorem readPart_eq_ok_iff {text : String} {cs : List Char} {segments : List Segment} :
    readPart text cs = .ok segments ↔ SpellsPart cs segments := by
  constructor
  · intro h
    unfold readPart at h
    dsimp only at h
    split at h
    · simp at h
    · split at h
      · simp at h
      · next hname =>
        split at h
        · simp at h
        · next indexes hi =>
          obtain rfl := Except.ok.inj h
          have hsplit := List.takeWhile_append_dropWhile (p := (· != '[')) (l := cs)
          have hpart := SpellsPart.intro (isName_iff.mp (by simpa using hname))
            (indexes?_eq_some_iff.mp hi)
          rwa [hsplit] at hpart
  · rintro ⟨hname, hi⟩
    next name indexes others =>
    -- the name ends where the first bracket opens
    have hopen : ∀ c ∈ name, (c != '[') = true := fun c hc =>
      bne_iff_ne.mpr ((hname.chars c hc).ne (by decide))
    have htake : (name ++ indexes).takeWhile (· != '[') = name := by
      rw [List.takeWhile_append_of_pos hopen]
      cases hi with
      | nil => rw [List.takeWhile_nil, List.append_nil]
      | cons => rw [List.cons_append, List.takeWhile_cons_of_neg (by decide), List.append_nil]
    have hdrop : (name ++ indexes).dropWhile (· != '[') = indexes := by
      rw [List.dropWhile_append_of_pos hopen]
      cases hi with
      | nil => rfl
      | cons => rw [List.cons_append, List.dropWhile_cons_of_neg (by decide)]
    have hne : name.isEmpty = false := by simpa using hname.nonempty
    unfold readPart
    dsimp only
    rw [htake, hdrop, isName_iff.mpr hname, hne, indexes?_eq_some_iff.mpr hi]
    rfl

/-- A character that is in no part of a path. -/
structure Foreign (d : Char) : Prop where
  blank : isBlank d = false
  name : isNameChar d = false
  plus : d ≠ '+'
  opening : d ≠ '['
  closing : d ≠ ']'

theorem foreign_point : Foreign '.' := by
  constructor <;> decide

theorem foreign_brace : Foreign '}' := by
  constructor <;> decide

theorem notMem_of_spellsIndexes {cs : List Char} {segments : List Segment}
    (h : SpellsIndexes cs segments) {d : Char} (hd : Foreign d) : d ∉ cs := by
  have hdigit : ¬ ('0' ≤ d ∧ d ≤ '9') := fun hdigit =>
    (isNameChar_iff.not.mp (by simp [hd.name])) (.inr (.inr (.inl hdigit)))
  induction h with
  | nil => simp
  | cons hb hn _ ha _ ih =>
    have hinner := notMem_of_number hb hn ha hd.blank hd.plus hdigit
    rw [List.mem_append, List.mem_cons, List.mem_cons]
    rintro ((h | h) | h | h)
    · exact hd.opening h
    · exact hinner h
    · exact hd.closing h
    · exact ih h

theorem notMem_of_spellsPart {cs : List Char} {segments : List Segment}
    (h : SpellsPart cs segments) {d : Char} (hd : Foreign d) : d ∉ cs := by
  obtain ⟨hname, hi⟩ := h
  intro hm
  rcases List.mem_append.mp hm with hm | hm
  · exact (hname.chars _ hm).ne hd.name rfl
  · exact notMem_of_spellsIndexes hi hd hm

/-- Of the characters that are in no part, a path has only points. -/
theorem notMem_of_spells {cs : List Char} {segments : List Segment} (h : Spells cs segments)
    {d : Char} (hd : Foreign d) (hpoint : d ≠ '.') : d ∉ cs := by
  induction h with
  | part h => exact notMem_of_spellsPart h hd
  | cons h _ ih =>
    rw [List.mem_append, List.mem_cons]
    rintro (hm | hm | hm)
    · exact notMem_of_spellsPart h hd hm
    · exact hpoint hm
    · exact ih hm

/-! ### Blanks around a path -/

theorem SpellsIndexes.last {cs : List Char} {segments : List Segment}
    (h : SpellsIndexes cs segments) : ∀ c ∈ cs.getLast?, c = ']' := by
  induction h with
  | nil => simp
  | @cons before number after rest n segments _ _ _ _ _ ih =>
    rw [List.getLast?_append]
    cases rest with
    | nil => simp
    | cons c rest => simpa [List.getLast?_cons_cons] using ih

theorem SpellsPart.ne_nil {cs : List Char} {segments : List Segment}
    (h : SpellsPart cs segments) : cs ≠ [] := by
  obtain ⟨hname, -⟩ := h
  exact List.append_ne_nil_of_left_ne_nil hname.nonempty _

theorem unpadded_of_spellsPart {cs : List Char} {segments : List Segment}
    (h : SpellsPart cs segments) : Unpadded cs := by
  obtain ⟨hname, hi⟩ := h
  next name indexes segments =>
  refine ⟨fun c hc => ?_, fun c hc => ?_⟩
  · rw [List.head?_append_of_ne_nil _ hname.nonempty] at hc
    exact (hname.chars c (List.mem_of_head? hc)).not_isBlank
  · -- the last character belongs to the name or closes an index
    rw [List.getLast?_append] at hc
    cases hl : indexes.getLast? with
    | none =>
      rw [hl, Option.none_or] at hc
      exact (hname.chars c (List.mem_of_getLast? hc)).not_isBlank
    | some d =>
      rw [hl, Option.some_or] at hc
      rw [← Option.some.inj hc, hi.last d hl]
      decide

theorem Spells.ne_nil {cs : List Char} {segments : List Segment} (h : Spells cs segments) :
    cs ≠ [] := by
  cases h with
  | part h => exact h.ne_nil
  | cons h _ => exact List.append_ne_nil_of_left_ne_nil h.ne_nil _

/-- A path neither begins nor ends with a blank. -/
theorem unpadded_of_spells {cs : List Char} {segments : List Segment} (h : Spells cs segments) :
    Unpadded cs := by
  induction h with
  | part h => exact unpadded_of_spellsPart h
  | @cons cs rest segments others h hr ih =>
    refine ⟨fun c hc => ?_, fun c hc => ?_⟩
    · rw [List.head?_append_of_ne_nil _ h.ne_nil] at hc
      exact (unpadded_of_spellsPart h).head c hc
    · rw [List.getLast?_append_of_ne_nil _ (List.cons_ne_nil _ _),
        List.getLast?_cons_of_ne_nil hr.ne_nil] at hc
      exact ih.last c hc

/-! ### Paths -/

theorem spells_of_readParts {text : String} {parts : List (List Char)} {segments : List Segment}
    (hne : parts ≠ []) (h : readParts text parts = .ok segments) :
    Spells (['.'].intercalate parts) segments := by
  induction parts generalizing segments with
  | nil => exact absurd rfl hne
  | cons part rest ih =>
    rw [readParts, Fallible.bind_eq_ok_iff] at h
    obtain ⟨own, hown, h⟩ := h
    obtain ⟨others, ho, h⟩ := Fallible.bind_eq_ok_iff.mp h
    obtain rfl := Except.ok.inj h
    have hpart := readPart_eq_ok_iff.mp hown
    cases rest with
    | nil =>
      obtain rfl : [] = others := by simpa [readParts] using ho
      simpa [List.intercalate] using Spells.part hpart
    | cons part' rest =>
      have hrest := Spells.cons hpart (ih (List.cons_ne_nil _ _) ho)
      simpa [List.intercalate] using hrest

/-- What spells segments falls apart into parts that can be read, at every point. -/
theorem exists_parts_of_spells (text : String) {cs : List Char} {segments : List Segment}
    (h : Spells cs segments) :
    ∃ parts : List (List Char), parts ≠ [] ∧ cs = ['.'].intercalate parts ∧
      readParts text parts = .ok segments ∧ ∀ part ∈ parts, '.' ∉ part := by
  induction h with
  | @part cs segments h =>
    refine ⟨[cs], List.cons_ne_nil _ _, by simp [List.intercalate], ?_, ?_⟩
    · simp [readParts, readPart_eq_ok_iff.mpr h, bind, Except.bind]
    · simpa using notMem_of_spellsPart h foreign_point
  | @cons cs rest segments others h _ ih =>
    obtain ⟨parts, hne, rfl, hread, hpoint⟩ := ih
    refine ⟨cs :: parts, List.cons_ne_nil _ _, ?_, ?_, ?_⟩
    · obtain ⟨part, parts, rfl⟩ := List.exists_cons_of_ne_nil hne
      simp [List.intercalate]
    · rw [readParts, readPart_eq_ok_iff.mpr h, hread]
      rfl
    · exact List.forall_mem_cons.mpr ⟨notMem_of_spellsPart h foreign_point, hpoint⟩

/-- **A text is read exactly if the grammar spells it**, apart from blanks on either side. -/
theorem parse_eq_ok_iff {s text : String} {segments : List Segment} :
    parse s = .ok ⟨text, segments⟩ ↔
      Spells text.toList segments ∧
        ∃ before after, Blanks before ∧ Blanks after ∧
          s.toList = before ++ text.toList ++ after := by
  unfold parse
  dsimp only
  constructor
  · intro h
    split at h
    · simp at h
    · obtain ⟨segments', hread, h⟩ := Fallible.bind_eq_ok_iff.mp h
      obtain ⟨rfl, rfl⟩ := Path.mk.inj (Except.ok.inj h)
      have hspells := spells_of_readParts (List.splitOn_ne_nil _ _) hread
      rw [List.intercalate_splitOn] at hspells
      rw [String.toList_ofList]
      exact ⟨hspells, Text.exists_blanks_trim s.toList⟩
  · rintro ⟨hspells, hs⟩
    have htrim : Text.trim s.toList = text.toList :=
      Text.trim_eq_iff.mpr ⟨unpadded_of_spells hspells, hs⟩
    obtain ⟨parts, hne, hparts, hread, hpoint⟩ := exists_parts_of_spells text hspells
    have hsplit : text.toList.splitOn '.' = parts := by
      rw [hparts]
      exact List.splitOn_intercalate '.' hpoint hne
    rw [htrim, if_neg (by simpa using hspells.ne_nil), String.ofList_toList, hsplit, hread]
    rfl

/-! ### Writing -/

/-- A segment can be written: its name is a name, or its index is a number of a word. -/
def Writable : Segment → Prop
  | .key name => Name name.toList
  | .index n => n < UInt64.size

theorem SpellsIndexes.append {cs cs' : List Char} {segments segments' : List Segment}
    (h : SpellsIndexes cs segments) (h' : SpellsIndexes cs' segments') :
    SpellsIndexes (cs ++ cs') (segments ++ segments') := by
  induction h with
  | nil => exact h'
  | cons hb hn hlt ha _ ih =>
    rw [List.append_assoc]
    exact .cons hb hn hlt ha ih

theorem spellsIndexes_digits {n : Nat} (hn : n < UInt64.size) :
    SpellsIndexes ('[' :: Nat.toDigits 10 n ++ [']']) [.index n] := by
  have h := SpellsIndexes.cons Text.blanks_nil (Text.numeral_toDigits n) hn Text.blanks_nil .nil
  simpa using h

/-- Segments that are written after a part continue it: an index lengthens the part, and a name
begins a new one. -/
theorem spells_append_renderRest {rest : List Segment} (hwrite : ∀ s ∈ rest, Writable s)
    {cs : List Char} {segments : List Segment} (h : SpellsPart cs segments) :
    Spells (cs ++ renderRest rest) (segments ++ rest) := by
  induction rest generalizing cs segments with
  | nil => simpa [renderRest] using Spells.part h
  | cons s rest ih =>
    obtain ⟨hs, hrest⟩ := List.forall_mem_cons.mp hwrite
    cases s with
    | key name =>
      have hname := SpellsPart.intro hs .nil
      rw [String.ofList_toList, List.append_nil] at hname
      have hmore := Spells.cons h (ih hrest hname)
      simpa [renderRest] using hmore
    | index n =>
      obtain ⟨hname, hi⟩ := h
      have hlonger := SpellsPart.intro hname (hi.append (spellsIndexes_digits hs))
      have hmore := ih hrest hlonger
      simpa [renderRest] using hmore

/-- **Segments are spelled the way they are written**, if they begin with a name. -/
theorem spells_render {name : String} {rest : List Segment}
    (h : ∀ s ∈ .key name :: rest, Writable s) :
    Spells (render (.key name :: rest)).toList (.key name :: rest) := by
  obtain ⟨hname, hrest⟩ := List.forall_mem_cons.mp h
  have hpart := SpellsPart.intro hname .nil
  rw [String.ofList_toList, List.append_nil] at hpart
  rw [render, String.toList_ofList]
  exact spells_append_renderRest hrest hpart

/-- A path begins with a name. -/
theorem Spells.exists_key {cs : List Char} {segments : List Segment} (h : Spells cs segments) :
    ∃ name rest, segments = .key name :: rest := by
  cases h with
  | part h =>
    obtain ⟨-, -⟩ := h
    exact ⟨_, _, rfl⟩
  | cons h _ =>
    obtain ⟨-, -⟩ := h
    exact ⟨_, _, rfl⟩

/-- **Paths are read as they are spelled.** A text is read exactly if, apart from blanks on either
side, the grammar spells it, and what is read are its text and the segments that it spells. So
segments that are written down read back, and so does the text of a path that was read; and since a
path begins with a name, it leads from variables where it leads from the object that they make. -/
theorem read_as_spelled :
    (∀ s text segments, parse s = .ok ⟨text, segments⟩ ↔
      Spells text.toList segments ∧
        ∃ before after, Blanks before ∧ Blanks after ∧
          s.toList = before ++ text.toList ++ after) ∧
    (∀ name rest, (∀ s ∈ .key name :: rest, Writable s) →
      parse (render (.key name :: rest)) =
        .ok ⟨render (.key name :: rest), .key name :: rest⟩) ∧
    ∀ s p, parse s = .ok p →
      parse p.text = .ok p ∧ ∀ vars, p.lookupIn vars = p.lookup (.object vars) := by
  have hunpadded : ∀ text segments, Spells text.toList segments →
      parse text = .ok ⟨text, segments⟩ := fun text segments h =>
    parse_eq_ok_iff.mpr ⟨h, [], [], Text.blanks_nil, Text.blanks_nil, by simp⟩
  refine ⟨fun s text segments => parse_eq_ok_iff, fun name rest h => ?_, ?_⟩
  · exact hunpadded _ _ (spells_render h)
  · rintro s ⟨text, segments⟩ h
    have hspells := (parse_eq_ok_iff.mp h).1
    refine ⟨hunpadded text segments hspells, fun vars => ?_⟩
    obtain ⟨name, rest, rfl⟩ := hspells.exists_key
    rfl

example : parse " a[ +01 ].b\n" = .ok ⟨"a[ +01 ].b", [.key "a", .index 1, .key "b"]⟩ := rfl

end Path

end RouteFlow.Template
