import RouteFlow.Document.Declaration
import RouteFlow.Proofs.Entries
import RouteFlow.Proofs.Fallible

/-!
# Records that read back

A record is written as an object, field by field: each field has its member, or is left out where
that loses nothing. `Writes` follows a record through this. It says to which record the members lead
if they are stored one after the other, and a record of a known shape is read as this one
(`Shape.read_of_writes`), since every member finds its own field and every field that must be given
has its member.

How a member is written does not matter to that, so each way to write one has a lemma of its own:

* `Writes.needed`, `Writes.plain` — a member that is always there;
* `Writes.member?` — one that is left out for none.

What the members hold is read back as well (`ReadsBack`), containers if their contents are.

Which members there are is a matter of its own. A `Layout` says it name by name, with no regard to
how a record is written or read, and an object is `LaidOut` if it has just these members.

In the other direction, whatever a record was read from: what each field keeps holds of it
(`Shape.holds_of_read`).
-/

namespace RouteFlow.Json

open Fallible

variable {α β : Type}

/-- **A value reads back**: what it is written as is read as this value. -/
abbrev ReadsBack (r : Reader α) (write : α → Json) (a : α) : Prop := r.ofJson (write a) = .ok a

/-- What an object holds nests less deep than the object. -/
theorem Source.depth_lt_of_mem {ms : List (String × Json)} {m : String × Json} (h : m ∈ ms) :
    (ofJson m.2).depth < (ofJson (.object ms)).depth := by
  rw [ofJson, depth, Nat.lt_succ_iff]
  induction ms with
  | nil => exact absurd h List.not_mem_nil
  | cons m' rest ih =>
    obtain ⟨k, j⟩ := m'
    rw [ofMembers, depthOfMembers]
    rcases List.mem_cons.mp h with rfl | h
    · exact Nat.le_max_left _ _
    · exact (ih h).trans (Nat.le_max_right _ _)

/-! ### Containers -/

section Containers

variable {r : Reader α} {write : α → Json}

theorem readsBack_string (s : String) : ReadsBack .string .string s := rfl

theorem items_ofItems {l : List α} (h : ∀ a ∈ l, ReadsBack r write a) :
    Reader.items r (Source.ofItems (l.map write)) = .ok l := by
  induction l with
  | nil => rfl
  | cons a rest ih =>
    obtain ⟨ha, hrest⟩ := List.forall_mem_cons.mp h
    have hread : r (.ofJson (write a)) = .ok a := ha
    rw [List.map_cons, Source.ofItems, Reader.items, hread, ih hrest]
    rfl

/-- **A list reads back** if its items do. -/
theorem readsBack_list {l : List α} (h : ∀ a ∈ l, ReadsBack r write a) :
    ReadsBack (.list r) (fun l => .array (l.map write)) l :=
  items_ofItems h

/-- The object that holds the values of a mapping. -/
abbrev ofEntries (write : α → Json) (es : Entries α) : Json :=
  .object (es.map fun e => (e.1, write e.2))

theorem members_ofMembers (add : Entries α → String → α → Entries α) {es acc : Entries α}
    (h : ∀ e ∈ es, ReadsBack r write e.2) :
    Reader.members r add acc (Source.ofMembers (es.map fun e => (e.1, write e.2))) =
      .ok (es.foldl (fun acc e => add acc e.1 e.2) acc) := by
  induction es generalizing acc with
  | nil => rfl
  | cons e rest ih =>
    obtain ⟨he, hrest⟩ := List.forall_mem_cons.mp h
    have hread : r (.ofJson (write e.2)) = .ok e.2 := he
    rw [List.map_cons, Source.ofMembers, Reader.members, hread]
    exact ih hrest

/-- **A mapping reads back**, in its order, if its values do and each name comes once. -/
theorem readsBack_entries {es : Entries α} (hn : es.names.Nodup)
    (h : ∀ e ∈ es, ReadsBack r write e.2) : ReadsBack (.entries r) (ofEntries write) es := by
  have hread : Reader.ofJson (.entries r) (ofEntries write es) = .ok (Entries.ofList es) :=
    members_ofMembers Entries.insert h
  exact hread.trans (congrArg Except.ok (Entries.ofList_of_nodup hn))

/-- **A sorted mapping reads back** if its values do and its names ascend. -/
theorem readsBack_sorted {es : Entries α} (hn : es.Ascending)
    (h : ∀ e ∈ es, ReadsBack r write e.2) : ReadsBack (.sorted r) (ofEntries write) es := by
  have hread : Reader.ofJson (.sorted r) (ofEntries write es) = .ok (Entries.ofListSorted es) :=
    members_ofMembers Entries.insertSorted h
  exact hread.trans (congrArg Except.ok (Entries.ofListSorted_of_ascending hn))

end Containers

/-! ### Layouts -/

/-- What an object is to hold: names in order, each with what its value is to be, or with none where
there is to be no member of that name. -/
abbrev Layout := List (String × Option (Json → Prop))

/-- **Members follow a layout**: there is one for each name that is to have a value, in order, and
no other. -/
inductive Follows : Layout → List (String × Json) → Prop
  | nil : Follows [] []
  | written {name : String} {P : Json → Prop} {j : Json} {l : Layout} {ms : List (String × Json)}
      (h : P j) (rest : Follows l ms) : Follows ((name, some P) :: l) ((name, j) :: ms)
  | omitted {name : String} {l : Layout} {ms : List (String × Json)} (rest : Follows l ms) :
      Follows ((name, none) :: l) ms

/-- **An object is laid out**: its members follow a layout. -/
inductive LaidOut (l : Layout) : Json → Prop
  | intro {ms : List (String × Json)} (h : Follows l ms) : LaidOut l (.object ms)

/-- What a member is to be, unless the list that it holds is empty. -/
def unlessEmpty (l : List α) (P : Json → Prop) : Option (Json → Prop) :=
  match l with
  | [] => none
  | _ :: _ => some P

/-- A value is the text `s`. -/
inductive IsText (s : String) : Json → Prop
  | intro : IsText s (.string s)

/-- A value lists elements, in order. -/
inductive Lists (P : α → Json → Prop) (l : List α) : Json → Prop
  | intro {items : List Json} (h : List.Forall₂ P l items) : Lists P l (.array items)

/-- A value is an object with certain members. -/
inductive IsObject (P : List (String × Json) → Prop) : Json → Prop
  | intro {ms : List (String × Json)} (h : P ms) : IsObject P (.object ms)

/-- A value holds the values of a mapping under their names, in order. -/
abbrev Maps (P : α → Json → Prop) (es : Entries α) : Json → Prop :=
  IsObject (List.Forall₂ (fun e m => m.1 = e.1 ∧ P e.2 m.2) es)

section Layouts

variable {P : α → Json → Prop} {write : α → Json} {name : String} {l : Layout}
  {ms : List (String × Json)}

theorem lists_map (h : ∀ a, P a (write a)) (l : List α) : Lists P l (.array (l.map write)) := by
  refine .intro ?_
  rw [List.forall₂_map_right_iff, List.forall₂_same]
  exact fun a _ => h a

theorem maps_ofEntries (h : ∀ a, P a (write a)) (es : Entries α) :
    Maps P es (ofEntries write es) := by
  refine .intro ?_
  rw [List.forall₂_map_right_iff, List.forall₂_same]
  exact fun e _ => ⟨rfl, h e.2⟩

theorem Follows.member? (h : ∀ a, P a (write a)) (a? : Option α) (rest : Follows l ms) :
    Follows ((name, a?.map P) :: l) (Document.member? name write a? ++ ms) := by
  cases a? with
  | none => exact .omitted rest
  | some a => exact .written (h a) rest

theorem Follows.text? (s? : Option String) (rest : Follows l ms) :
    Follows ((name, s?.map IsText) :: l) (Document.member? name .string s? ++ ms) :=
  member? (fun _ => .intro) s? rest

end Layouts

/-! ### Fields -/

/-- **Members write a record** from `a` on: of the fields, in order, each stores its member or is
left out without need for it, and the outcome is `b`. -/
inductive Writes : List (Field α) → List (String × Json) → α → α → Prop
  | nil {a : α} : Writes [] [] a a
  | given {f : Field α} {fs : List (Field α)} {j : Json} {ms : List (String × Json)} {a b c : α}
      (h : f.store (.ofJson j) a = .ok b) (rest : Writes fs ms b c) :
      Writes (f :: fs) ((f.name, j) :: ms) a c
  | omitted {f : Field α} {fs : List (Field α)} {ms : List (String × Json)} {a b : α}
      (h : f.required = false) (rest : Writes fs ms a b) : Writes (f :: fs) ms a b

theorem readsBack_optional {r : Reader β} {write : β → Json} {v : β} (h : ReadsBack r write v)
    (hne : write v ≠ .null) : Reader.ofJson (.optional r) (write v) = .ok (some v) := by
  have hread : (r (.ofJson (write v))).map some = .ok (some v) := map_eq_ok_iff.mpr ⟨v, h, rfl⟩
  unfold Reader.ofJson Reader.optional
  cases hj : write v with
  | null => exact absurd hj hne
  | _ => rwa [hj] at hread

namespace Writes

variable {fs : List (Field α)} {ms : List (String × Json)} {name : String} {r : Reader β}
  {a b : α}

theorem needed {set : α → β → α} {j : Json} {v : β} (h : r.ofJson j = .ok v)
    (rest : Writes fs ms (set a v) b) : Writes (.needed name r set :: fs) ((name, j) :: ms) a b :=
  .given (map_eq_ok_iff.mpr ⟨v, h, rfl⟩) rest

theorem plain {set : α → β → α} {j : Json} {v : β} (h : r.ofJson j = .ok v)
    (rest : Writes fs ms (set a v) b) : Writes (.plain name r set :: fs) ((name, j) :: ms) a b :=
  .given (map_eq_ok_iff.mpr ⟨v, h, rfl⟩) rest

/-- **A member that is left out for none**, in a record that has none there to begin with. -/
theorem member? {set : α → Option β → α} {write : β → Json} (v? : Option β)
    (hnone : set a none = a) (h : ∀ v, v? = some v → ReadsBack r write v)
    (hne : ∀ v, v? = some v → write v ≠ .null) (rest : Writes fs ms (set a v?) b) :
    Writes (.plain name (.optional r) set :: fs) (Document.member? name write v? ++ ms) a b := by
  cases v? with
  | none =>
    rw [hnone] at rest
    exact .omitted rfl rest
  | some v => exact plain (readsBack_optional (h v rfl) (hne v rfl)) rest

/-- A text that is left out for none. -/
theorem text? {set : α → Option String → α} (s? : Option String) (hnone : set a none = a)
    (rest : Writes fs ms (set a s?) b) :
    Writes (.plain name (.optional .string) set :: fs)
      (Document.member? name .string s? ++ ms) a b :=
  member? s? hnone (fun s _ => readsBack_string s) nofun rest

end Writes

/-! ### Records -/

namespace Shape

variable {shape : Shape α}

/-- A field is not named like one before it. -/
theorem notMem_names_before (hn : (shape.fields.map (·.name)).Nodup) {before after : List (Field α)}
    {f : Field α} (hsplit : shape.fields = before ++ f :: after) :
    f.name ∉ before.map (·.name) := by
  rw [hsplit, List.map_append, List.nodup_append] at hn
  exact fun hmem => hn.2.2 _ hmem _ List.mem_cons_self rfl

/-- A member that has its name finds a field. -/
theorem find?_name (hn : (shape.fields.map (·.name)).Nodup) {before after : List (Field α)}
    {f : Field α} (hsplit : shape.fields = before ++ f :: after) :
    shape.fields.find? (·.name == f.name) = some f := by
  have hbefore : before.find? (·.name == f.name) = none := by
    rw [List.find?_eq_none]
    intro g hg heq
    exact notMem_names_before hn hsplit (beq_iff_eq.mp heq ▸ List.mem_map_of_mem hg)
  rw [hsplit, List.find?_append, hbefore, Option.none_or]
  exact List.find?_cons_of_pos (beq_self_eq_true f.name)

/-- The member of a field that has no value yet is stored. -/
theorem fill_cons_of_store {f : Field α} (hf : shape.fields.find? (·.name == f.name) = some f)
    {seen : List String} (hseen : f.name ∉ seen) {s : Source} {a b : α}
    (hstore : f.store s a = .ok b) (place : Span) (ms : List Member) :
    shape.fill seen a (((.ok f.name, place), s) :: ms) = shape.fill (f.name :: seen) b ms := by
  rw [fill]
  simp [hf, hseen, hstore, bind, Except.bind]

/-- **Members that write a record are stored.** Along the fields, what has its value belongs to
earlier ones, so no member is given a second time. -/
theorem fill_of_writes (hn : (shape.fields.map (·.name)).Nodup) {before fs : List (Field α)}
    (hsplit : shape.fields = before ++ fs) {ms : List (String × Json)} {a b : α}
    (h : Writes fs ms a b) {seen : List String} (hseen : ∀ k ∈ seen, k ∈ before.map (·.name)) :
    ∃ seen', shape.fill seen a (Source.ofMembers ms) = .ok (seen', b) ∧ seen ⊆ seen' ∧
      ∀ f ∈ fs, f.required = true → f.name ∈ seen' := by
  induction h generalizing before seen with
  | nil => exact ⟨seen, rfl, List.Subset.refl seen, List.forall_mem_nil _⟩
  | @given f fs j ms a b c hstore _ ih =>
    have hfresh : f.name ∉ seen := mt (hseen _) (notMem_names_before hn hsplit)
    have hseen' : ∀ k ∈ f.name :: seen, k ∈ (before ++ [f]).map (·.name) := by
      intro k hk
      rw [List.map_append, List.mem_append, or_comm]
      exact (List.mem_cons.mp hk).imp List.mem_singleton.mpr (hseen k)
    obtain ⟨seen', hfill, hsub, hgiven⟩ := ih (hsplit.trans (by simp)) hseen'
    refine ⟨seen', ?_, fun k hk => hsub (List.mem_cons_of_mem _ hk), ?_⟩
    · rw [Source.ofMembers, fill_cons_of_store (find?_name hn hsplit) hfresh hstore, hfill]
    · exact List.forall_mem_cons.mpr ⟨fun _ => hsub List.mem_cons_self, hgiven⟩
  | @omitted f fs ms a b hfree _ ih =>
    have hseen' : ∀ k ∈ seen, k ∈ (before ++ [f]).map (·.name) := by
      intro k hk
      rw [List.map_append]
      exact List.mem_append_left _ (hseen k hk)
    obtain ⟨seen', hfill, hsub, hgiven⟩ := ih (hsplit.trans (by simp)) hseen'
    refine ⟨seen', hfill, hsub, List.forall_mem_cons.mpr ⟨fun hreq => ?_, hgiven⟩⟩
    exact absurd (hfree.symm.trans hreq) Bool.false_ne_true

/-- **A record that was written is read.** -/
theorem read_of_writes (hn : (shape.fields.map (·.name)).Nodup) {ms : List (String × Json)} {a : α}
    (h : Writes shape.fields ms shape.start a) {j : Json} (hj : j = .object ms) :
    Reader.ofJson shape.read j = .ok a := by
  subst hj
  have hseen : ∀ k ∈ ([] : List String), k ∈ ([] : List (Field α)).map (·.name) :=
    List.forall_mem_nil _
  obtain ⟨seen, hfill, -, hgiven⟩ := fill_of_writes hn (List.nil_append _).symm h hseen
  have hmissing : shape.missing? seen = none := by
    rw [missing?, List.find?_eq_none]
    intro f hf hreq
    simp only [Bool.and_eq_true, Bool.not_eq_true', List.contains_eq_mem, decide_eq_false_iff_not]
      at hreq
    exact hreq.2 (hgiven f hf hreq.1)
  rw [Reader.ofJson, Source.ofJson, read, hfill]
  simp [bind, Except.bind, hmissing]

end Shape

/-! ### What is read -/

/-- Storing a value in a field keeps a property of the record. -/
def Field.Keeps (P : α → Prop) (f : Field α) : Prop :=
  ∀ ⦃s : Source⦄ ⦃a b : α⦄, P a → f.store s a = .ok b → P b

section Keeps

variable {P : α → Prop} {name : String} {r : Reader β} {set : α → β → α}

theorem Field.keeps_plain (h : ∀ s v a, r s = .ok v → P a → P (set a v)) :
    (Field.plain name r set).Keeps P := by
  intro s a b ha hstore
  obtain ⟨v, hv, rfl⟩ := map_eq_ok_iff.mp hstore
  exact h s v a hv ha

theorem Field.keeps_needed (h : ∀ s v a, r s = .ok v → P a → P (set a v)) :
    (Field.needed name r set).Keeps P := by
  intro s a b ha hstore
  obtain ⟨v, hv, rfl⟩ := map_eq_ok_iff.mp hstore
  exact h s v a hv ha

end Keeps

namespace Shape

variable {shape : Shape α} {P : α → Prop}

theorem holds_of_fill (hkeeps : ∀ f ∈ shape.fields, f.Keeps P) {ms : List Member}
    {seen seen' : List String} {a b : α} (ha : P a) (h : shape.fill seen a ms = .ok (seen', b)) :
    P b := by
  induction ms generalizing seen a with
  | nil =>
    obtain ⟨⟩ := h
    exact ha
  | cons m rest ih =>
    obtain ⟨⟨key, place⟩, s⟩ := m
    rw [fill] at h
    obtain ⟨k, -, h⟩ := bind_eq_ok_iff.mp h
    split at h
    · -- a member that no field has is passed over
      split at h
      · obtain ⟨⟩ := h
      · exact ih ha h
    · next f hf =>
      split at h
      · obtain ⟨⟩ := h
      · obtain ⟨a', ha', h⟩ := bind_eq_ok_iff.mp h
        exact ih (hkeeps f (List.mem_of_find?_eq_some hf) ha (mapError_eq_ok_iff.mp ha')) h

theorem holds_of_fillInOrder {fs fs' : List (Field α)} (hkeeps : ∀ f ∈ fs, f.Keeps P)
    {ss ss' : List Source} {a b : α} (ha : P a) (h : fillInOrder a fs ss = .ok (b, fs', ss')) :
    P b := by
  induction fs generalizing ss a with
  | nil =>
    obtain ⟨⟩ := h
    exact ha
  | cons f fs ih =>
    obtain ⟨hf, hrest⟩ := List.forall_mem_cons.mp hkeeps
    cases ss with
    | nil =>
      obtain ⟨⟩ := h
      exact ha
    | cons s rest =>
      rw [fillInOrder] at h
      obtain ⟨a', ha', h⟩ := bind_eq_ok_iff.mp h
      exact ih hrest (hf ha (mapError_eq_ok_iff.mp ha')) h

/-- **What every field keeps holds of a record that was read**, from an object or from a list. -/
theorem holds_of_read (hstart : P shape.start) (hkeeps : shape.fields.Forall (·.Keeps P))
    {s : Source} {a : α} (h : shape.read s = .ok a) : P a := by
  rw [List.forall_iff_forall_mem] at hkeeps
  cases s with
  | object ms span =>
    obtain ⟨⟨seen, b⟩, hfill, h⟩ := bind_eq_ok_iff.mp h
    dsimp only at h
    split at h
    · obtain ⟨⟩ := h
    · obtain rfl := Except.ok.inj h
      exact holds_of_fill hkeeps hstart hfill
  | list ss span =>
    obtain ⟨⟨b, unfilled, extra⟩, hfill, h⟩ := bind_eq_ok_iff.mp h
    dsimp only at h
    split at h
    · obtain ⟨⟩ := h
    · split at h
      · obtain rfl := Except.ok.inj h
        exact holds_of_fillInOrder hkeeps hstart hfill
      · obtain ⟨⟩ := h
  | _ => obtain ⟨⟩ := h

end Shape

section Containers

variable {r : Reader α} {s : Source}

theorem read_of_optional {a? : Option α} (h : Reader.optional r s = .ok a?) {a : α}
    (ha : a? = some a) : r s = .ok a := by
  subst ha
  cases s with
  | null span => obtain ⟨⟩ := h
  | _ =>
    obtain ⟨b, hb, hba⟩ := map_eq_ok_iff.mp h
    exact hb.trans (congrArg _ (Option.some.inj hba))

/-- The items of a list that was read were read each. -/
theorem exists_read_of_list {l : List α} (h : Reader.list r s = .ok l) :
    ∀ a ∈ l, ∃ s', r s' = .ok a := by
  cases s with
  | list ss span =>
    have hitems := (each_eq_ok_iff (g := Reader.items r) rfl fun _ _ => rfl).mp h
    intro a ha
    obtain ⟨s', -, hs'⟩ := exists_mem_of_forall₂ hitems ha
    exact ⟨s', mapError_eq_ok_iff.mp hs'⟩
  | deep inside => cases inside <;> obtain ⟨⟩ := h
  | _ => obtain ⟨⟩ := h

/-- What putting in a value keeps holds of a mapping that was read. -/
theorem holds_of_members {P : Entries α → Prop} {add : Entries α → String → α → Entries α}
    (hadd : ∀ es k s a, P es → r s = .ok a → P (add es k a)) {ms : List Member}
    {acc es : Entries α} (hacc : P acc) (h : Reader.members r add acc ms = .ok es) : P es := by
  induction ms generalizing acc with
  | nil =>
    obtain ⟨⟩ := h
    exact hacc
  | cons m rest ih =>
    obtain ⟨⟨key, place⟩, s⟩ := m
    rw [Reader.members] at h
    obtain ⟨k, -, h⟩ := bind_eq_ok_iff.mp h
    obtain ⟨a, ha, h⟩ := bind_eq_ok_iff.mp h
    exact ih (hadd acc k s a hacc (mapError_eq_ok_iff.mp ha)) h

/-- **A mapping that was read has each name once**, and its values were read. -/
theorem nodup_of_entries {es : Entries α} (h : Reader.entries r s = .ok es) :
    es.names.Nodup ∧ ∀ e ∈ es, ∃ s', r s' = .ok e.2 := by
  cases s with
  | object ms span =>
    refine holds_of_members (P := fun es => es.names.Nodup ∧ ∀ e ∈ es, ∃ s', r s' = .ok e.2)
      (fun es k s a hes ha => ?_) (by simp [Entries.names]) h
    refine ⟨Entries.nodup_insert hes.1 k a, fun e he => ?_⟩
    rcases Entries.mem_insert he with he | rfl
    · exact hes.2 e he
    · exact ⟨s, ha⟩
  | deep inside => cases inside <;> obtain ⟨⟩ := h
  | _ => obtain ⟨⟩ := h

/-- **A sorted mapping that was read ascends**, and its values were read. -/
theorem ascending_of_sorted {es : Entries α} (h : Reader.sorted r s = .ok es) :
    es.Ascending ∧ ∀ e ∈ es, ∃ s', r s' = .ok e.2 := by
  cases s with
  | object ms span =>
    refine holds_of_members (P := fun es => es.Ascending ∧ ∀ e ∈ es, ∃ s', r s' = .ok e.2)
      (fun es k s a hes ha => ?_) (by simp [Entries.ascending_nil]) h
    refine ⟨hes.1.insertSorted k a, fun e he => ?_⟩
    rcases Entries.mem_insertSorted he with he | rfl
    · exact hes.2 e he
    · exact ⟨s, ha⟩
  | deep inside => cases inside <;> obtain ⟨⟩ := h
  | _ => obtain ⟨⟩ := h

end Containers

end RouteFlow.Json
