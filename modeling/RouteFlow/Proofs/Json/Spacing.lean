import Mathlib.Data.List.Basic
import RouteFlow.Json.Printer

/-!
# Texts that differ in their blanks

The two texts of a value, one without blanks and one with a member or an item a line, are one text
with different blanks between its parts (`Spacing`). What holds of the values that are written in
any spacing holds of both.

* `Spacing.write` — the text of a value in a spacing;
* `toList_compact`, `toList_pretty` — the printers write in a spacing each;
* `unspaced_pretty` — without the blanks outside of its strings, the one text is the other.
-/

namespace RouteFlow.Json

/-! ### Characters inside quotes -/

/-- The characters with a short escape, each with the one that stands behind the backslash. -/
def shortEscapes : List (Char × Char) :=
  [('"', '"'), ('\\', '\\'), (Char.ofNat 8, 'b'), ('\t', 't'), ('\n', 'n'), (Char.ofNat 12, 'f'),
    ('\r', 'r')]

/-- **How a character stands inside quotes**: as itself, behind a backslash, or as its code. -/
inductive Stands : Char → List Char → Prop
  | plain {c : Char} (hquote : c ≠ '"') (hslash : c ≠ '\\') (h : 0x20 ≤ c.toNat) : Stands c [c]
  | short {c d : Char} (h : (c, d) ∈ shortEscapes) : Stands c ['\\', d]
  | coded {c : Char} (h : c.toNat < 0x20) :
      Stands c ['\\', 'u', '0', '0', Nat.digitChar (c.toNat / 16), Nat.digitChar (c.toNat % 16)]

theorem stands_escapedChar (c : Char) : Stands c (escapedChar c) := by
  have hcode : ∀ {n : Nat} {d : Char}, c.toNat = n → (Char.ofNat n, d) ∈ shortEscapes →
      Stands c ['\\', d] := by
    rintro n d rfl h
    rw [Char.ofNat_toNat] at h
    exact .short h
  unfold escapedChar
  dsimp only
  split_ifs with hquote hslash h8 h9 h10 h12 h13 h
  · subst hquote
    exact .short (by decide)
  · subst hslash
    exact .short (by decide)
  · exact hcode h8 (by decide)
  · exact hcode h9 (by decide)
  · exact hcode h10 (by decide)
  · exact hcode h12 (by decide)
  · exact hcode h13 (by decide)
  · exact .coded h
  · exact .plain hquote hslash (by omega)

/-! ### Blanks -/

/-- Whether a character is a blank of a JSON text. -/
def isSpace (c : Char) : Bool := c == ' ' || c == '\n' || c == '\r' || c == '\t'

/-- Drops the blanks outside of strings. `inside` says whether a string is open. -/
def squeeze : (inside : Bool) → List Char → List Char
  | _, [] => []
  | false, c :: cs => if isSpace c then squeeze false cs else c :: squeeze (c == '"') cs
  | true, '\\' :: c :: cs => '\\' :: c :: squeeze true cs
  | true, c :: cs => c :: squeeze (c != '"') cs

/-- **A text without the blanks outside of its strings.** -/
def unspaced (text : String) : String := String.ofList (squeeze false text.toList)

theorem squeeze_spaces {before : List Char} (h : ∀ c ∈ before, isSpace c = true)
    (cs : List Char) : squeeze false (before ++ cs) = squeeze false cs := by
  induction before with
  | nil => rfl
  | cons c before ih =>
    obtain ⟨hc, hbefore⟩ := List.forall_mem_cons.mp h
    rw [List.cons_append, squeeze, if_pos hc, ih hbefore]

/-- **A bare character** stands for itself outside of strings: it is no blank and opens none. -/
def Bare (c : Char) : Prop := isSpace c = false ∧ (c == '"') = false

instance (c : Char) : Decidable (Bare c) := instDecidableAnd

theorem bare_of_all {cs : List Char} (h : cs.all (Bare ·) = true) : ∀ c ∈ cs, Bare c := by
  simpa using h

theorem squeeze_bare {c : Char} (h : Bare c) (cs : List Char) :
    squeeze false (c :: cs) = c :: squeeze false cs := by
  rw [squeeze, h.1, h.2]
  rfl

theorem squeeze_bares {before : List Char} (h : ∀ c ∈ before, Bare c) (cs : List Char) :
    squeeze false (before ++ cs) = before ++ squeeze false cs := by
  induction before with
  | nil => rfl
  | cons c before ih =>
    obtain ⟨hc, hbefore⟩ := List.forall_mem_cons.mp h
    rw [List.cons_append, squeeze_bare hc, ih hbefore]
    rfl

/-- A character that neither ends a string nor begins an escape keeps the string open. -/
theorem squeeze_inside {c : Char} (hquote : c ≠ '"') (hslash : c ≠ '\\') (cs : List Char) :
    squeeze true (c :: cs) = c :: squeeze true cs := by
  have hopen : (c != '"') = true := by simpa using hquote
  rw [squeeze, hopen]
  rintro d ds rfl
  exact absurd rfl hslash

/-- Nothing is dropped of what stands for a character inside quotes. -/
theorem squeeze_of_stands {c : Char} {ds : List Char} (h : Stands c ds) (cs : List Char) :
    squeeze true (ds ++ cs) = ds ++ squeeze true cs := by
  cases h with
  | plain hquote hslash h => exact squeeze_inside hquote hslash cs
  | short h => rfl
  | coded h =>
    have hdigit : ∀ n < 16, Nat.digitChar n ≠ '"' ∧ Nat.digitChar n ≠ '\\' := by decide
    obtain ⟨hquote, hslash⟩ := hdigit (c.toNat / 16) (by omega)
    obtain ⟨hquote', hslash'⟩ := hdigit (c.toNat % 16) (by omega)
    have hdigits :
        squeeze true (Nat.digitChar (c.toNat / 16) :: Nat.digitChar (c.toNat % 16) :: cs) =
          Nat.digitChar (c.toNat / 16) :: Nat.digitChar (c.toNat % 16) :: squeeze true cs := by
      rw [squeeze_inside hquote hslash, squeeze_inside hquote' hslash']
    exact congrArg (['\\', 'u', '0', '0'] ++ ·) hdigits

theorem squeeze_flatMap (text cs : List Char) :
    squeeze true (text.flatMap escapedChar ++ cs) =
      text.flatMap escapedChar ++ squeeze true cs := by
  induction text with
  | nil => rfl
  | cons c text ih =>
    rw [List.flatMap_cons, List.append_assoc, squeeze_of_stands (stands_escapedChar c), ih,
      List.append_assoc]

theorem toList_quoted (s : String) :
    (quoted s).toList = '"' :: (s.toList.flatMap escapedChar ++ ['"']) := by
  rw [quoted, String.toList_ofList, List.append_assoc]
  rfl

/-- Nothing is dropped of a string. -/
theorem squeeze_quoted (s : String) (cs : List Char) :
    squeeze false ((quoted s).toList ++ cs) = (quoted s).toList ++ squeeze false cs := by
  have hinside : squeeze true (s.toList.flatMap escapedChar ++ '"' :: cs) =
      s.toList.flatMap escapedChar ++ '"' :: squeeze false cs := squeeze_flatMap _ _
  have hshape : ∀ ds : List Char, (quoted s).toList ++ ds =
      '"' :: (s.toList.flatMap escapedChar ++ '"' :: ds) := by
    intro ds
    rw [toList_quoted, List.cons_append, List.append_assoc]
    rfl
  rw [hshape, hshape]
  exact congrArg ('"' :: ·) hinside

/-! ### Numbers -/

theorem isDigit_of_mem_toDigits (n : Nat) : ∀ c ∈ Nat.toDigits 10 n, c.isDigit = true :=
  fun _ h => Nat.isDigit_of_mem_toDigits (by decide) (by decide) h

theorem bare_of_mem_toDigits {n : Nat} : ∀ c ∈ Nat.toDigits 10 n, Bare c := by
  intro c h
  have hdigit := isDigit_of_mem_toDigits n c h
  have hne : ∀ d : Char, d.isDigit = false → (c == d) = false := by
    intro d hd
    rw [beq_eq_false_iff_ne]
    rintro rfl
    rw [hdigit] at hd
    cases hd
  refine ⟨?_, hne '"' rfl⟩
  rw [isSpace, hne ' ' rfl, hne '\n' rfl, hne '\r' rfl, hne '\t' rfl]
  rfl

theorem bare_decimalText (d : Decimal.Scaled) : ∀ c ∈ (decimalText d).toList, Bare c := by
  have hdigits : ∀ c ∈ Nat.toDigits 10 d.digits, Bare c := bare_of_mem_toDigits
  have htake : ∀ n, ∀ c ∈ (Nat.toDigits 10 d.digits).take n, Bare c :=
    fun n c hc => hdigits c (List.mem_of_mem_take hc)
  have hdrop : ∀ n, ∀ c ∈ (Nat.toDigits 10 d.digits).drop n, Bare c :=
    fun n c hc => hdigits c (List.mem_of_mem_drop hc)
  have hzeros : ∀ n, ∀ c ∈ List.replicate n '0', Bare c := by
    intro n c hc
    obtain rfl := List.eq_of_mem_replicate hc
    decide
  have hplaces : ∀ c ∈ (if ((Nat.toDigits 10 d.digits).drop 1).isEmpty then []
      else '.' :: (Nat.toDigits 10 d.digits).drop 1), Bare c := by
    split
    · exact List.forall_mem_nil _
    · exact List.forall_mem_cons.mpr ⟨by decide, hdrop 1⟩
  have hexponent : ∀ (p : Prop) [Decidable p], ∀ c ∈ ['e', if p then '-' else '+'], Bare c := by
    intro p _
    split <;> exact bare_of_all (by decide)
  unfold decimalText
  dsimp only
  rw [String.toList_ofList]
  -- the forms of a number: zero, small, around a point, and with an exponent
  split
  · exact bare_of_all (by decide)
  split
  · simp only [List.forall_mem_append]
    exact ⟨⟨bare_of_all (by decide), hzeros _⟩, hdigits⟩
  split
  · split
    · simp only [List.forall_mem_append]
      exact ⟨⟨hdigits, hzeros _⟩, bare_of_all (by decide)⟩
    · simp only [List.forall_mem_append]
      exact ⟨⟨htake _, bare_of_all (by decide)⟩, hdrop _⟩
  · simp only [List.forall_mem_append]
    exact ⟨⟨⟨htake 1, hplaces⟩, hexponent _⟩, bare_of_mem_toDigits⟩

theorem toList_natRepr (n : Nat) : n.repr.toList = Nat.toDigits 10 n := by
  rw [Nat.repr, String.toList_ofList]

theorem toList_toString_ofNat (n : Nat) :
    (toString (Int.ofNat n)).toList = Nat.toDigits 10 n := toList_natRepr n

theorem toList_toString_negSucc (n : Nat) :
    (toString (Int.negSucc n)).toList = '-' :: Nat.toDigits 10 (n + 1) := by
  change ("-" ++ (n + 1).repr).toList = _
  rw [String.toList_append, toList_natRepr]
  rfl

theorem bare_toString (n : Int) : ∀ c ∈ (toString n).toList, Bare c := by
  cases n with
  | ofNat n =>
    rw [toList_toString_ofNat]
    exact bare_of_mem_toDigits
  | negSucc n =>
    rw [toList_toString_negSucc]
    exact List.forall_mem_cons.mpr ⟨by decide, bare_of_mem_toDigits⟩

/-- **The text of a number has bare characters only.** -/
theorem Number.bare_text (n : Number) : ∀ c ∈ n.text.toList, Bare c := by
  cases n with
  | whole n => exact bare_toString n
  | real x =>
    change ∀ c ∈ (realText x).toList, Bare c
    rw [realText]
    split
    · exact bare_of_all (by decide)
    · dsimp only
      rw [String.toList_append, List.forall_mem_append]
      refine ⟨?_, bare_decimalText _⟩
      split <;> exact bare_of_all (by decide)

/-! ### Values in a spacing -/

/-- **A spacing**: the blanks in front of an item, a member or a closing bracket that stands at a
depth, and those between a colon and the value of a member. -/
structure Spacing where
  gap : Nat → List Char
  colon : List Char
  gap_space : ∀ n, ∀ c ∈ gap n, isSpace c = true
  colon_space : ∀ c ∈ colon, isSpace c = true

namespace Spacing

/-- No blanks at all. -/
def dense : Spacing where
  gap _ := []
  colon := []
  gap_space _ := List.forall_mem_nil _
  colon_space := List.forall_mem_nil _

/-- A line for each item and member, with two blanks a level in front of it. -/
def lined : Spacing where
  gap n := '\n' :: List.replicate (2 * n) ' '
  colon := [' ']
  gap_space n := by
    refine List.forall_mem_cons.mpr ⟨rfl, fun c hc => ?_⟩
    obtain rfl := List.eq_of_mem_replicate hc
    rfl
  colon_space := List.forall_mem_singleton.mpr rfl

/-- What stands between the brackets of a container at depth `n`, and the closing one. -/
def enclose (s : Spacing) (n : Nat) (close : Char) : (isFirst : Bool) → List (List Char) → List Char
  | isFirst, [] => (if isFirst then [] else s.gap n) ++ [close]
  | isFirst, t :: ts =>
    (if isFirst then [] else [',']) ++ (s.gap (n + 1) ++ (t ++ s.enclose n close false ts))

mutual

/-- **The text of a value** that begins at depth `n`. -/
def write (s : Spacing) (n : Nat) : Json → List Char
  | .array items => '[' :: s.enclose n ']' true (s.writeItems (n + 1) items)
  | .object ms => '\x7b' :: s.enclose n '\x7d' true (s.writeMembers (n + 1) ms)
  | j => (compact j).toList

/-- The texts of items. -/
def writeItems (s : Spacing) (n : Nat) : List Json → List (List Char)
  | [] => []
  | j :: rest => s.write n j :: s.writeItems n rest

/-- The texts of members, each with its name. -/
def writeMembers (s : Spacing) (n : Nat) : List (String × Json) → List (List Char)
  | [] => []
  | (k, j) :: rest =>
    ((quoted k).toList ++ ':' :: (s.colon ++ s.write n j)) :: s.writeMembers n rest

end

/-- The parts of a container are joined by a comma and the blanks in front of each. -/
theorem enclose_cons (s : Spacing) (n : Nat) (close : Char) (t : List Char)
    (ts : List (List Char)) :
    s.enclose n close true (t :: ts) =
      s.gap (n + 1) ++ ((',' :: s.gap (n + 1)).intercalate (t :: ts) ++ (s.gap n ++ [close])) := by
  have hrest : ∀ (ts : List (List Char)) (t : List Char), t ++ s.enclose n close false ts =
      (',' :: s.gap (n + 1)).intercalate (t :: ts) ++ (s.gap n ++ [close]) := by
    intro ts
    induction ts with
    | nil =>
      intro t
      rw [List.intercalate_singleton]
      rfl
    | cons u ts ih =>
      intro t
      rw [enclose, ih u, List.intercalate_cons_cons]
      simp
  rw [enclose, hrest]
  rfl

/-! ### The two printers -/

/-- Without blanks, the parts are joined by commas. -/
theorem toList_intercalate_dense (n : Nat) (opening close : Char) (ts : List String) :
    (String.singleton opening ++ String.intercalate "," ts ++ String.singleton close).toList =
      opening :: dense.enclose n close true (ts.map String.toList) := by
  cases ts with
  | nil => simp [enclose]
  | cons t ts =>
    rw [List.map_cons, enclose_cons]
    simp [dense]

mutual

theorem toList_compact_eq : ∀ (j : Json) (n : Nat), (compact j).toList = dense.write n j
  | .array items, n => by
    rw [compact, write, ← map_compactItems items]
    exact toList_intercalate_dense n '[' ']' _
  | .object ms, n => by
    rw [compact, write, ← map_compactMembers ms]
    exact toList_intercalate_dense n '\x7b' '\x7d' _
  | .null, _ => rfl
  | .bool _, _ => rfl
  | .number _, _ => rfl
  | .string _, _ => rfl

theorem map_compactItems : ∀ (items : List Json) {n : Nat},
    (compactItems items).map String.toList = dense.writeItems n items
  | [], _ => rfl
  | j :: rest, n => by
    rw [compactItems, List.map_cons, writeItems, toList_compact_eq j n, map_compactItems rest]

theorem map_compactMembers : ∀ (ms : List (String × Json)) {n : Nat},
    (compactMembers ms).map String.toList = dense.writeMembers n ms
  | [], _ => rfl
  | (k, j) :: rest, n => by
    rw [compactMembers, List.map_cons, writeMembers, ← toList_compact_eq j n,
      ← map_compactMembers rest]
    simp [dense]

end

/-- What stands in front of each part may be counted to what stands between them. -/
theorem intercalate_map_append (before between t : List Char) (ts : List (List Char)) :
    between.intercalate ((t :: ts).map (before ++ ·)) =
      before ++ (between ++ before).intercalate (t :: ts) := by
  induction ts generalizing t with
  | nil => simp
  | cons u ts ih =>
    rw [List.map_cons, List.map_cons, List.intercalate_cons_cons, ← List.map_cons, ih,
      List.intercalate_cons_cons]
    simp

/-- In lines, each part stands behind a line break and the blanks of its depth. -/
theorem toList_block (n : Nat) (opening close : Char) (ts : List String) :
    (block n (String.singleton opening) (String.singleton close) ts).toList =
      opening :: lined.enclose n close true (ts.map String.toList) := by
  cases ts with
  | nil => simp [block, enclose]
  | cons t ts =>
    have hlines : ((t :: ts).map fun line => indent (n + 1) ++ line).map String.toList =
        ((t :: ts).map String.toList).map ((indent (n + 1)).toList ++ ·) := by
      simp
    have hgap : ∀ n, '\n' :: (indent n).toList = lined.gap n := by
      intro n
      rw [indent, String.toList_ofList]
      rfl
    have hbetween : ",\n".toList ++ (indent (n + 1)).toList = ',' :: lined.gap (n + 1) :=
      congrArg (',' :: ·) (hgap (n + 1))
    rw [block, if_neg (by simp)]
    simp only [String.toList_append, String.toList_intercalate, hlines]
    rw [List.map_cons, intercalate_map_append, hbetween, enclose_cons, ← hgap, ← hgap]
    simp

mutual

theorem toList_prettyAt : ∀ (j : Json) (n : Nat), (prettyAt n j).toList = lined.write n j
  | .array items, n => by
    rw [prettyAt, write, ← map_prettyItems items]
    exact toList_block n '[' ']' _
  | .object ms, n => by
    rw [prettyAt, write, ← map_prettyMembers ms]
    exact toList_block n '\x7b' '\x7d' _
  | .null, _ => rfl
  | .bool _, _ => rfl
  | .number _, _ => rfl
  | .string _, _ => rfl

theorem map_prettyItems : ∀ (items : List Json) {n : Nat},
    (prettyItems n items).map String.toList = lined.writeItems n items
  | [], _ => rfl
  | j :: rest, n => by
    rw [prettyItems, List.map_cons, writeItems, toList_prettyAt j n, map_prettyItems rest]

theorem map_prettyMembers : ∀ (ms : List (String × Json)) {n : Nat},
    (prettyMembers n ms).map String.toList = lined.writeMembers n ms
  | [], _ => rfl
  | (k, j) :: rest, n => by
    rw [prettyMembers, List.map_cons, writeMembers, ← toList_prettyAt j n, ← map_prettyMembers rest]
    simp [lined]

end

/-- **Values are printed without blanks**, or in lines. -/
theorem toList_compact (j : Json) : j.compact.toList = dense.write 0 j := toList_compact_eq j 0

theorem toList_pretty (j : Json) : j.pretty.toList = lined.write 0 j := toList_prettyAt j 0

/-! ### Blanks between parts -/

variable {s : Spacing}

/-- A part without its blanks. -/
def Squeezes (t u : List Char) : Prop := ∀ cs, squeeze false (t ++ cs) = u ++ squeeze false cs

/-- Without blanks, the text of a container does not depend on the spacing. -/
theorem squeezes_enclose {close : Char} (hclose : Bare close) {n : Nat}
    {ts us : List (List Char)} (h : List.Forall₂ Squeezes ts us) (isFirst : Bool) :
    Squeezes (s.enclose n close isFirst ts) (dense.enclose n close isFirst us) := by
  induction h generalizing isFirst with
  | nil =>
    intro cs
    have hclosed := squeeze_bare hclose cs
    cases isFirst with
    | true => exact hclosed
    | false =>
      rw [enclose, List.append_assoc]
      exact (squeeze_spaces (s.gap_space n) _).trans hclosed
  | @cons t u ts us ht _ ih =>
    intro cs
    have hpart : squeeze false (s.gap (n + 1) ++ (t ++ (s.enclose n close false ts ++ cs))) =
        u ++ (dense.enclose n close false us ++ squeeze false cs) := by
      rw [squeeze_spaces (s.gap_space _), ht, ih]
    cases isFirst with
    | true => simpa [enclose, dense] using hpart
    | false =>
      have hcomma := squeeze_bare (by decide : Bare ',')
        (s.gap (n + 1) ++ (t ++ (s.enclose n close false ts ++ cs)))
      rw [hpart] at hcomma
      simpa [enclose, dense] using hcomma

mutual

/-- **Without blanks, the text of a value does not depend on the spacing.** -/
theorem squeezes_write : ∀ (j : Json) (n : Nat), Squeezes (s.write n j) (compact j).toList
  | .array items, n => by
    have hinside := squeezes_enclose (s := s) (by decide : Bare ']') (n := n)
      (squeezes_writeItems items (n + 1)) true
    intro cs
    rw [toList_compact_eq _ n, write, write, ← map_compactItems items]
    exact (squeeze_bare (by decide) _).trans (congrArg ('[' :: ·) (hinside cs))
  | .object ms, n => by
    have hinside := squeezes_enclose (s := s) (by decide : Bare '\x7d') (n := n)
      (squeezes_writeMembers ms (n + 1)) true
    intro cs
    rw [toList_compact_eq _ n, write, write, ← map_compactMembers ms]
    exact (squeeze_bare (by decide) _).trans (congrArg ('\x7b' :: ·) (hinside cs))
  | .null, _ => squeeze_bares (bare_of_all (by decide : "null".toList.all (Bare ·) = true))
  | .bool true, _ => squeeze_bares (bare_of_all (by decide : "true".toList.all (Bare ·) = true))
  | .bool false, _ => squeeze_bares (bare_of_all (by decide : "false".toList.all (Bare ·) = true))
  | .number n, _ => squeeze_bares n.bare_text
  | .string text, _ => squeeze_quoted text

theorem squeezes_writeItems : ∀ (items : List Json) (n : Nat),
    List.Forall₂ Squeezes (s.writeItems n items) ((compactItems items).map String.toList)
  | [], _ => .nil
  | j :: rest, n => by
    rw [writeItems, compactItems, List.map_cons]
    exact .cons (squeezes_write j n) (squeezes_writeItems rest n)

theorem squeezes_writeMembers : ∀ (ms : List (String × Json)) (n : Nat),
    List.Forall₂ Squeezes (s.writeMembers n ms) ((compactMembers ms).map String.toList)
  | [], _ => .nil
  | (k, j) :: rest, n => by
    rw [writeMembers, compactMembers, List.map_cons]
    refine .cons (fun cs => ?_) (squeezes_writeMembers rest n)
    have hvalue : squeeze false (s.colon ++ (s.write n j ++ cs)) =
        (compact j).toList ++ squeeze false cs := by
      rw [squeeze_spaces s.colon_space, squeezes_write j n]
    have hname := squeeze_quoted k (':' :: (s.colon ++ (s.write n j ++ cs)))
    rw [squeeze_bare (by decide), hvalue] at hname
    simpa using hname

end

end Spacing

/-- **The text in lines is the text without blanks**, but for blanks. -/
theorem unspaced_pretty (j : Json) : unspaced j.pretty = j.compact := by
  have h := Spacing.squeezes_write (s := .lined) j 0 []
  rw [List.append_nil, squeeze, List.append_nil, ← Spacing.toList_pretty] at h
  rw [unspaced, h, String.ofList_toList]

theorem unspaced_compact (j : Json) : unspaced j.compact = j.compact := by
  have h := Spacing.squeezes_write (s := .dense) j 0 []
  rw [List.append_nil, squeeze, List.append_nil, ← Spacing.toList_compact] at h
  rw [unspaced, h, String.ofList_toList]

end RouteFlow.Json
