import Mathlib.Data.List.Nodup
import RouteFlow.Proofs.Json.Records
import RouteFlow.Proofs.Json.WellFormed

/-!
# How a record may be spelled

A record of a known shape is read off an object, whose members may stand in any order and among
members that the record does not know, or off a list, whose items stand in the order of the fields.
This module says which record is read off a spelling, part by part, with no regard to the order in
which the reader comes across the members.

A field fills one part of the record and leaves all others alone (`Shape.Fills`). So what is in a
part in the end is what was read from the member of that name, or what was there to begin with
(`Shape.Fills.gives_of_read`), and a record that consists of such parts is read off the members that
give them (`Shape.read_object_iff_gives`). A list spells what the object does that gives its items
the names of the fields (`Shape.read_array_iff`). Both come down to one relation, `Spelled`:

* `Shape.read_iff_spelled` — a value is read as a record exactly if it spells it;
* `gives_optional_iff` — a part that may be left out is absent or null in the value, or else given.
-/

namespace RouteFlow.Json

open Fallible

variable {α β : Type} {shape : Shape α} {name : String} {r : Reader β} {part : α → β}

/-! ### Parts -/

/-- The names of the fields of a record. -/
def Shape.names (shape : Shape α) : List String := shape.fields.map (·.name)

/-- **A field fills a part of a record**: the field `name` stores there what `r` reads, and every
other field leaves the part as it is. -/
structure Shape.Fills (shape : Shape α) (name : String) (r : Reader β) (part : α → β) : Prop where
  stores : ∀ f ∈ shape.fields, f.name = name → ∀ s a, (f.store s a).map part = r s
  keeps : ∀ f ∈ shape.fields, f.name ≠ name → ∀ s a b, f.store s a = .ok b → part b = part a

/-- A part of a record, with the reader that its member is read with. -/
structure Shape.Part (α : Type) where
  {β : Type}
  name : String
  reader : Reader β
  get : α → β

/-- **A record consists of parts**: its fields fill one each, in order, and records that agree in
all parts are the same. -/
structure Shape.ConsistsOf (shape : Shape α) (parts : List (Part α)) : Prop where
  names : shape.names = parts.map (·.name)
  fills : parts.Forall fun p => shape.Fills p.name p.reader p.get
  ext : ∀ a b, (parts.Forall fun p => p.get a = p.get b) → a = b

/-- **What a member gives a part**: what `r` reads, and without a member what was there before. -/
inductive Gives (r : Reader β) (before : β) : Option Json → β → Prop
  | absent {v : β} (h : v = before) : Gives r before none v
  | read {j : Json} {v : β} (h : r.ofJson j = .ok v) : Gives r before (some j) v

theorem Gives.unique {before v v' : β} {j? : Option Json} (h : Gives r before j? v)
    (h' : Gives r before j? v') : v = v' := by
  cases h with
  | absent h =>
    cases h' with
    | absent h' => exact h.trans h'.symm
  | read h =>
    cases h' with
    | read h' => exact Except.ok.inj (h.symm.trans h')

theorem gives_iff {before v : β} {j? : Option Json} :
    Gives r before j? v ↔ (j? = none ∧ v = before) ∨ ∃ j, j? = some j ∧ r.ofJson j = .ok v := by
  constructor
  · rintro (h | h)
    · exact .inl ⟨rfl, h⟩
    · exact .inr ⟨_, rfl, h⟩
  · rintro (⟨rfl, h⟩ | ⟨j, rfl, h⟩)
    · exact .absent h
    · exact .read h

/-- What a member gives a part that has to be given. -/
theorem gives_and_mem_names_iff {before v : β} {ms : Entries Json} :
    Gives r before (ms.get? name) v ∧ name ∈ ms.names ↔
      ∃ j, ms.get? name = some j ∧ r.ofJson j = .ok v := by
  have hmem : name ∈ ms.names ↔ ms.get? name ≠ none := by
    rw [Ne, Entries.get?_eq_none_iff, not_not]
  rw [gives_iff, hmem]
  constructor
  · rintro ⟨⟨hnone, -⟩ | hread, hgiven⟩
    · exact absurd hnone hgiven
    · exact hread
  · rintro ⟨j, hj, hread⟩
    exact ⟨.inr ⟨j, hj, hread⟩, by simp [hj]⟩

/-- What the field of a part stores can be stored whatever the record is. -/
theorem Shape.Fills.exists_store (hf : shape.Fills name r part) {f : Field α}
    (hmem : f ∈ shape.fields) (hname : f.name = name) {s : Source} {v : β} (h : r s = .ok v)
    (a : α) : ∃ b, f.store s a = .ok b ∧ part b = v := by
  have hstore : (f.store s a).map part = .ok v := (hf.stores f hmem hname s a).trans h
  exact map_eq_ok_iff.mp hstore

/-- A changed value that is changed back. -/
theorem map_map_of_inverse {ε : Type} {f : α → β} {g : β → α} (h : ∀ a, g (f a) = a)
    (x : Except ε α) : (x.map f).map g = x := by
  cases x with
  | error e => rfl
  | ok a => exact congrArg Except.ok (h a)

/-! ### Objects -/

mutual

/-- Who passes over a value meets no fault. -/
theorem firstBreak?_ofJson : ∀ j : Json, (Source.ofJson j).firstBreak? = none
  | .null => rfl
  | .bool _ => rfl
  | .number _ => rfl
  | .string _ => rfl
  | .array items => firstBreakIn?_ofItems items
  | .object ms => firstBreakAmong?_ofMembers ms

theorem firstBreakIn?_ofItems : ∀ js : List Json,
    Source.firstBreakIn? (Source.ofItems js) = none
  | [] => rfl
  | j :: rest => by
    rw [Source.ofItems, Source.firstBreakIn?, firstBreak?_ofJson j]
    exact firstBreakIn?_ofItems rest

theorem firstBreakAmong?_ofMembers : ∀ ms : List (String × Json),
    Source.firstBreakAmong? (Source.ofMembers ms) = none
  | [] => rfl
  | (_, j) :: rest => by
    rw [Source.ofMembers, Source.firstBreakAmong?, firstBreak?_ofJson j]
    exact firstBreakAmong?_ofMembers rest

end

namespace Shape

variable {ms rest : List (String × Json)} {seen seen' : List String} {a b : α}

/-- A member that no field has is passed over. -/
theorem fill_cons_of_notMem {k : String} (hk : k ∉ shape.names) (j : Json) :
    shape.fill seen a (Source.ofMembers ((k, j) :: rest)) =
      shape.fill seen a (Source.ofMembers rest) := by
  have hnone : shape.fields.find? (·.name == k) = none := by
    rw [List.find?_eq_none]
    intro f hf heq
    exact hk (List.mem_map.mpr ⟨f, hf, beq_iff_eq.mp heq⟩)
  rw [Source.ofMembers, fill]
  simp [hnone, firstBreak?_ofJson, bind, Except.bind]

/-- **The first member** of an object that is read is passed over or stored in its field. -/
theorem fill_cons_cases {k : String} {j : Json}
    (h : shape.fill seen a (Source.ofMembers ((k, j) :: rest)) = .ok (seen', b)) :
    (k ∉ shape.names ∧ shape.fill seen a (Source.ofMembers rest) = .ok (seen', b)) ∨
      ∃ f ∈ shape.fields, f.name = k ∧ k ∉ seen ∧ ∃ a', f.store (.ofJson j) a = .ok a' ∧
        shape.fill (k :: seen) a' (Source.ofMembers rest) = .ok (seen', b) := by
  by_cases hk : k ∈ shape.names
  · right
    rw [Source.ofMembers, fill] at h
    obtain ⟨k', hk', h⟩ := bind_eq_ok_iff.mp h
    obtain rfl : k = k' := Except.ok.inj hk'
    split at h
    · next hnone =>
      obtain ⟨f, hf, hname⟩ := List.mem_map.mp hk
      exact absurd (beq_iff_eq.mpr hname) (List.find?_eq_none.mp hnone f hf)
    · next f hf =>
      split at h
      · obtain ⟨⟩ := h
      · next hseen =>
        obtain ⟨a', ha', h⟩ := bind_eq_ok_iff.mp h
        have hname : f.name = k := by simpa using List.find?_some hf
        exact ⟨f, List.mem_of_find?_eq_some hf, hname, by simpa using hseen, a',
          mapError_eq_ok_iff.mp ha', h⟩
  · exact .inl ⟨hk, fill_cons_of_notMem hk j ▸ h⟩

/-- **A part of a record** is in the end what its member gives. The induction is on the members, and
a part that has its value is safe, since no later member has the same name. -/
theorem Fills.gives_of_fill (hf : shape.Fills name r part) (hname : name ∈ shape.names)
    (hms : (ms.map (·.1)).Nodup)
    (h : shape.fill seen a (Source.ofMembers ms) = .ok (seen', b)) :
    Gives r (part a) (Entries.get? ms name) (part b) := by
  induction ms generalizing seen a with
  | nil =>
    obtain ⟨-, rfl⟩ := Prod.mk.inj (Except.ok.inj h)
    exact .absent rfl
  | cons m rest ih =>
    obtain ⟨k, j⟩ := m
    obtain ⟨hk, hrest⟩ := List.nodup_cons.mp hms
    rw [Entries.get?_cons]
    rcases fill_cons_cases h with ⟨hunknown, h⟩ | ⟨f, hmem, rfl, -, a', hstore, h⟩
    · have hne : k ≠ name := fun heq => hunknown (heq ▸ hname)
      rw [if_neg hne]
      exact ih hrest h
    · have hgives := ih hrest h
      by_cases hown : f.name = name
      · have hlast : Entries.get? rest name = none := by
          rw [Entries.get?_eq_none_iff, ← hown]
          exact hk
        have hread : r (.ofJson j) = .ok (part a') := by
          rw [← hf.stores f hmem hown _ a, hstore]
          rfl
        have hkept : part b = part a' := by
          rw [hlast] at hgives
          cases hgives with
          | absent h => exact h
        rw [if_pos hown, hkept]
        exact .read hread
      · rw [if_neg hown, ← hf.keeps f hmem hown _ _ _ hstore]
        exact hgives

/-- The fields that have their value in the end are those that had it and those with a member. -/
theorem mem_seen_of_fill (h : shape.fill seen a (Source.ofMembers ms) = .ok (seen', b))
    (k : String) :
    k ∈ seen' ↔ k ∈ seen ∨ k ∈ shape.names ∧ k ∈ Entries.names ms := by
  induction ms generalizing seen a with
  | nil =>
    obtain ⟨rfl, -⟩ := Prod.mk.inj (Except.ok.inj h)
    simp [Entries.names]
  | cons m rest ih =>
    obtain ⟨k', j⟩ := m
    have hnames : Entries.names ((k', j) :: rest) = k' :: Entries.names rest := rfl
    rw [hnames, List.mem_cons]
    rcases fill_cons_cases h with ⟨hunknown, h⟩ | ⟨f, hmem, rfl, -, a', -, h⟩
    · rw [ih h]
      have hne : k ∈ shape.names → k ≠ k' := by
        rintro hk rfl
        exact hunknown hk
      tauto
    · rw [ih h, List.mem_cons]
      have hknown : k = f.name → k ∈ shape.names := by
        rintro rfl
        exact List.mem_map_of_mem hmem
      tauto

/-- **An object is read** if every member can be stored that has a field. -/
theorem exists_fill (hn : shape.names.Nodup) (hms : (ms.map (·.1)).Nodup)
    (hseen : ∀ m ∈ ms, m.1 ∉ seen)
    (hstore : ∀ m ∈ ms, ∀ f ∈ shape.fields, f.name = m.1 → ∀ a,
      ∃ b, f.store (.ofJson m.2) a = .ok b) :
    ∃ seen' b, shape.fill seen a (Source.ofMembers ms) = .ok (seen', b) := by
  induction ms generalizing seen a with
  | nil => exact ⟨seen, a, rfl⟩
  | cons m rest ih =>
    obtain ⟨k, j⟩ := m
    obtain ⟨hk, hrest⟩ := List.nodup_cons.mp hms
    obtain ⟨hfresh, hothers⟩ := List.forall_mem_cons.mp hseen
    obtain ⟨hfirst, hlater⟩ := List.forall_mem_cons.mp hstore
    by_cases hknown : k ∈ shape.names
    · obtain ⟨f, hf, rfl⟩ := List.mem_map.mp hknown
      obtain ⟨a', ha'⟩ := hfirst f hf rfl a
      obtain ⟨before, after, hsplit⟩ := List.append_of_mem hf
      rw [Source.ofMembers, fill_cons_of_store (find?_name hn hsplit) hfresh ha']
      refine ih hrest (fun m hm => ?_) hlater
      -- the name of this member is not among those that follow
      refine List.not_mem_cons_of_ne_of_not_mem (fun heq => hk ?_) (hothers m hm)
      exact List.mem_map.mpr ⟨m, hm, heq⟩
    · rw [fill_cons_of_notMem hknown]
      exact ih hrest hothers hlater

/-- A record is read off an object if its members are stored and no field is missed. -/
theorem read_object_iff :
    Reader.ofJson shape.read (.object ms) = .ok a ↔
      (∃ seen, shape.fill [] shape.start (Source.ofMembers ms) = .ok (seen, a)) ∧
        ∀ f ∈ shape.fields, f.required = true → f.name ∈ Entries.names ms := by
  have hmissing {seen : List String} {b : α}
      (h : shape.fill [] shape.start (Source.ofMembers ms) = .ok (seen, b)) :
      shape.missing? seen = none ↔
        ∀ f ∈ shape.fields, f.required = true → f.name ∈ Entries.names ms := by
    rw [missing?, List.find?_eq_none]
    refine forall₂_congr fun f hf => ?_
    have hknown : f.name ∈ shape.names := List.mem_map_of_mem hf
    simp [mem_seen_of_fill h, hknown]
  rw [Reader.ofJson, Source.ofJson, read, bind_eq_ok_iff]
  constructor
  · rintro ⟨⟨seen, b⟩, hfill, h⟩
    dsimp only at h
    split at h
    · obtain ⟨⟩ := h
    · next hnone =>
      obtain rfl := Except.ok.inj h
      exact ⟨⟨seen, hfill⟩, (hmissing hfill).mp hnone⟩
  · rintro ⟨⟨seen, hfill⟩, hall⟩
    refine ⟨(seen, a), hfill, ?_⟩
    dsimp only
    rw [(hmissing hfill).mpr hall]

/-- **A part of a record that was read** is what its member gives. -/
theorem Fills.gives_of_read (hf : shape.Fills name r part) (hname : name ∈ shape.names)
    (hms : (ms.map (·.1)).Nodup) (h : Reader.ofJson shape.read (.object ms) = .ok a) :
    Gives r (part shape.start) (Entries.get? ms name) (part a) := by
  obtain ⟨⟨seen, hfill⟩, -⟩ := read_object_iff.mp h
  exact hf.gives_of_fill hname hms hfill

/-- A field that fills a part can store the member that gives the part its value. -/
theorem Fills.exists_store_of_gives (hf : shape.Fills name r part) {before v : β}
    (hg : Gives r before (Entries.get? ms name) v) {f : Field α} (hmem : f ∈ shape.fields)
    (hname : f.name = name) {j : Json} (hj : Entries.get? ms name = some j) (a : α) :
    ∃ b, f.store (.ofJson j) a = .ok b := by
  rw [hj] at hg
  cases hg with
  | read h =>
    obtain ⟨b, hb, -⟩ := hf.exists_store hmem hname h a
    exact ⟨b, hb⟩

/-- **A record is read off members** that give each of its parts its value. There is no more to a
record than its parts, so what is read is this one. -/
theorem read_object_iff_gives (hn : shape.names.Nodup) {parts : List (Part α)}
    (hparts : shape.ConsistsOf parts) (hms : (ms.map (·.1)).Nodup) :
    Reader.ofJson shape.read (.object ms) = .ok a ↔
      (parts.Forall fun p =>
        Gives p.reader (p.get shape.start) (Entries.get? ms p.name) (p.get a)) ∧
        ∀ f ∈ shape.fields, f.required = true → f.name ∈ Entries.names ms := by
  have hfills := List.forall_iff_forall_mem.mp hparts.fills
  have hnamed {p : Part α} (hp : p ∈ parts) : p.name ∈ shape.names := by
    rw [hparts.names]
    exact List.mem_map_of_mem hp
  constructor
  · intro h
    refine ⟨List.forall_iff_forall_mem.mpr fun p hp => ?_, (read_object_iff.mp h).2⟩
    exact (hfills p hp).gives_of_read (hnamed hp) hms h
  · rintro ⟨hgives, hrequired⟩
    rw [List.forall_iff_forall_mem] at hgives
    obtain ⟨seen, b, hfill⟩ : ∃ seen b, shape.fill [] shape.start (Source.ofMembers ms) =
        .ok (seen, b) := by
      refine exists_fill hn hms (fun _ _ => List.not_mem_nil) fun m hm f hf hname b => ?_
      have hpart : f.name ∈ parts.map (·.name) := hparts.names ▸ List.mem_map_of_mem hf
      obtain ⟨p, hp, hpname⟩ := List.mem_map.mp hpart
      have hget : Entries.get? ms p.name = some m.2 :=
        Entries.get?_of_mem hms (hpname.trans hname ▸ hm)
      exact (hfills p hp).exists_store_of_gives (hgives p hp) hf hpname.symm hget b
    have hread : Reader.ofJson shape.read (.object ms) = .ok b :=
      read_object_iff.mpr ⟨⟨seen, hfill⟩, hrequired⟩
    obtain rfl : b = a := by
      refine hparts.ext b a (List.forall_iff_forall_mem.mpr fun p hp => ?_)
      have hgiven := (hfills p hp).gives_of_read (hnamed hp) hms hread
      exact hgiven.unique (hgives p hp)
    exact hread

end Shape

/-! ### Lists -/

namespace Shape

variable {seen : List String} {a b : α}

/-- The names of the items of a list are those of the first fields. -/
theorem names_zip (names : List String) (items : List Json) :
    Entries.names (names.zip items) = names.take items.length := by
  induction names generalizing items with
  | nil => simp [Entries.names]
  | cons k names ih =>
    cases items with
    | nil => rfl
    | cons j rest => exact congrArg (k :: ·) (ih rest)

theorem fillInOrder_nil (a : α) (items : List Source) :
    fillInOrder a ([] : List (Field α)) items = .ok (a, [], items) := rfl

/-- **Items are stored as members would be** that have the names of the fields. What is left over in
the end is the fields behind the last item, or the items behind the last field. -/
theorem fillInOrder_iff (hn : shape.names.Nodup) {before fs : List (Field α)}
    (hsplit : shape.fields = before ++ fs) {items : List Json}
    (hseen : ∀ k ∈ seen, k ∈ before.map (·.name)) {unfilled : List (Field α)}
    {extra : List Source} :
    fillInOrder a fs (Source.ofItems items) = .ok (b, unfilled, extra) ↔
      (∃ seen', shape.fill seen a (Source.ofMembers ((fs.map (·.name)).zip items)) =
        .ok (seen', b)) ∧
        unfilled = fs.drop items.length ∧ extra = Source.ofItems (items.drop fs.length) := by
  induction fs generalizing before seen items a with
  | nil => simp [fillInOrder_nil, Source.ofMembers, fill, eq_comm]
  | cons f fs ih =>
    cases items with
    | nil => simp [Source.ofItems, Source.ofMembers, fillInOrder, fill, eq_comm]
    | cons j rest =>
      have hfresh : f.name ∉ seen := mt (hseen _) (notMem_names_before hn hsplit)
      have hseen' : ∀ k ∈ f.name :: seen, k ∈ (before ++ [f]).map (·.name) := by
        intro k hk
        rw [List.map_append, List.mem_append, or_comm]
        exact (List.mem_cons.mp hk).imp List.mem_singleton.mpr (hseen k)
      have hsplit' : shape.fields = (before ++ [f]) ++ fs := hsplit.trans (by simp)
      rw [Source.ofItems, fillInOrder, List.map_cons, List.zip_cons_cons, bind_eq_ok_iff]
      constructor
      · rintro ⟨a', hstore, h⟩
        rw [Source.ofMembers, fill_cons_of_store (find?_name hn hsplit) hfresh
          (mapError_eq_ok_iff.mp hstore)]
        exact (ih hsplit' hseen').mp h
      · rintro ⟨⟨seen', h⟩, hrest⟩
        rcases fill_cons_cases h with ⟨hunknown, -⟩ | ⟨f', hf', hname, -, a', hstore, h⟩
        · exact absurd (List.mem_map_of_mem (by simp [hsplit])) hunknown
        · -- there is only one field of this name
          obtain rfl := List.inj_on_of_nodup_map hn hf' (by simp [hsplit]) hname
          refine ⟨a', mapError_eq_ok_iff.mpr hstore, ?_⟩
          exact (ih hsplit' hseen').mpr ⟨⟨seen', h⟩, hrest⟩

/-- No field is missed behind the first `n` exactly if those that must be given are among these. -/
theorem find?_required_eq_none_iff (hn : shape.names.Nodup) {n : Nat} :
    (shape.fields.drop n).find? (·.required) = none ↔
      ∀ f ∈ shape.fields, f.required = true → f.name ∈ shape.names.take n := by
  have hparts : shape.fields = shape.fields.take n ++ shape.fields.drop n :=
    (List.take_append_drop _ _).symm
  have hfirst : shape.names.take n = (shape.fields.take n).map (·.name) := List.map_take.symm
  rw [List.find?_eq_none, hfirst]
  constructor
  · intro h f hf hreq
    rw [hparts] at hf
    rcases List.mem_append.mp hf with hf | hf
    · exact List.mem_map_of_mem hf
    · exact absurd hreq (h f hf)
  · intro h f hf hreq
    -- a field behind the first ones has none of their names
    have hmem := h f (List.mem_of_mem_drop hf) hreq
    rw [names, hparts, List.map_append, List.nodup_append] at hn
    exact hn.2.2 _ hmem _ (List.mem_map_of_mem hf) rfl

/-- **A list spells a record** as the object does that has its items under the names of the fields,
and there are no more items than fields. -/
theorem read_array_iff (hn : shape.names.Nodup) {items : List Json} :
    Reader.ofJson shape.read (.array items) = .ok a ↔
      items.length ≤ shape.fields.length ∧
        Reader.ofJson shape.read (.object (shape.names.zip items)) = .ok a := by
  have hfill {b : α} {unfilled : List (Field α)} {extra : List Source} :
      fillInOrder shape.start shape.fields (Source.ofItems items) = .ok (b, unfilled, extra) ↔
        (∃ seen, shape.fill [] shape.start (Source.ofMembers (shape.names.zip items)) =
          .ok (seen, b)) ∧
          unfilled = shape.fields.drop items.length ∧
            extra = Source.ofItems (items.drop shape.fields.length) :=
    fillInOrder_iff hn (List.nil_append _).symm (List.forall_mem_nil _)
  rw [read_object_iff, names_zip, Reader.ofJson, Source.ofJson, read, bind_eq_ok_iff]
  constructor
  · rintro ⟨⟨b, unfilled, extra⟩, h, hread⟩
    obtain ⟨hobject, rfl, rfl⟩ := hfill.mp h
    dsimp only at hread
    split at hread
    · obtain ⟨⟩ := hread
    · next hnone =>
      split at hread
      · next hextra =>
        obtain rfl := Except.ok.inj hread
        refine ⟨List.drop_eq_nil_iff.mp ?_, hobject, (find?_required_eq_none_iff hn).mp hnone⟩
        cases hdrop : items.drop shape.fields.length with
        | nil => rfl
        | cons j rest =>
          rw [hdrop, Source.ofItems] at hextra
          exact absurd hextra (List.cons_ne_nil _ _)
      · obtain ⟨⟩ := hread
  · rintro ⟨hlen, hobject, hall⟩
    refine ⟨(a, shape.fields.drop items.length, []), hfill.mpr ⟨hobject, rfl, ?_⟩, ?_⟩
    · rw [List.drop_eq_nil_iff.mpr hlen]
      rfl
    · dsimp only
      rw [(find?_required_eq_none_iff hn).mpr hall]

end Shape

/-! ### Spellings -/

/-- **A value spells a record** with fields of these names: its members are those of an object, or
its items, of which there may be fewer than fields, have the names of the fields in order. -/
inductive Spelled (names : List String) (P : Entries Json → Prop) : Json → Prop
  | object {ms : Entries Json} (h : P ms) : Spelled names P (.object ms)
  | list {items : List Json} (hlen : items.length ≤ names.length) (h : P (names.zip items)) :
      Spelled names P (.array items)

/-- **A value is read as a record exactly if it spells it**, where `P` says of members with distinct
names that the record is read off them. -/
theorem Shape.read_iff_spelled (hn : shape.names.Nodup) {a : α} {P : Entries Json → Prop}
    (hP : ∀ ms, WellFormed (.object ms) → (Reader.ofJson shape.read (.object ms) = .ok a ↔ P ms))
    {j : Json} (hj : WellFormed j) :
    Reader.ofJson shape.read j = .ok a ↔ Spelled shape.names P j := by
  cases hj with
  | @object ms hdistinct hms =>
    rw [hP ms (.object hdistinct hms)]
    exact ⟨.object, fun h => by cases h with | object h => exact h⟩
  | @array items hitems =>
    have hzip : WellFormed (.object (shape.names.zip items)) := by
      refine .object ?_ fun m hm => hitems m.2 (List.of_mem_zip hm).2
      rw [names_zip]
      exact hn.sublist (List.take_sublist _ _)
    have hlength : shape.names.length = shape.fields.length := List.length_map _
    rw [read_array_iff hn, hP _ hzip, ← hlength]
    exact ⟨fun h => .list h.1 h.2, fun h => by cases h with | list hlen h => exact ⟨hlen, h⟩⟩
  | _ => exact ⟨nofun, nofun⟩

/-- **What a value says of a part that may be left out**: nothing if there is no value or null, and
else what it is. -/
inductive MayBe (P : β → Json → Prop) : Option Json → Option β → Prop
  | absent : MayBe P none none
  | null : MayBe P (some .null) none
  | given {j : Json} {v : β} (hj : j ≠ .null) (h : P v j) : MayBe P (some j) (some v)

/-- A part that may be left out is given by what is absent, by null, or by what gives a value. -/
theorem gives_optional_iff {P : β → Json → Prop} {j? : Option Json} {v? : Option β}
    (hP : ∀ j, j? = some j → ∀ v, r.ofJson j = .ok v ↔ P v j) :
    Gives (.optional r) none j? v? ↔ MayBe P j? v? := by
  constructor
  · intro h
    cases h with
    | absent h =>
      subst h
      exact .absent
    | @read j _ h =>
      cases j with
      | null =>
        obtain rfl := Except.ok.inj h
        exact .null
      | _ =>
        obtain ⟨v, hv, rfl⟩ := map_eq_ok_iff.mp h
        exact .given nofun ((hP _ rfl v).mp hv)
  · intro h
    cases h with
    | absent => exact .absent rfl
    | null => exact .read rfl
    | @given j v hj h =>
      have hread : ReadsBack r (fun _ => j) v := (hP _ rfl v).mpr h
      exact .read (readsBack_optional hread hj)

theorem ofJson_string_iff {j : Json} {s : String} :
    Reader.string.ofJson j = .ok s ↔ IsText s j := by
  constructor
  · intro h
    cases j with
    | string t =>
      obtain rfl := Except.ok.inj h
      exact .intro
    | _ => exact absurd h nofun
  · rintro ⟨⟩
    rfl

theorem ofJson_json_iff {j v : Json} (hj : WellFormed j) :
    Reader.json.ofJson j = .ok v ↔ v = j := by
  unfold Reader.ofJson Reader.json
  rw [toJson_ofJson hj]
  exact ⟨fun h => (Except.ok.inj h).symm, fun h => congrArg _ h.symm⟩

theorem items_ofItems_iff {P : α → Json → Prop} {r : Reader α} {items : List Json} {l : List α}
    (hP : ∀ j ∈ items, ∀ a, r.ofJson j = .ok a ↔ P a j) :
    Reader.items r (Source.ofItems items) = .ok l ↔ List.Forall₂ P l items := by
  induction items generalizing l with
  | nil => cases l <;> simp [Source.ofItems, Reader.items]
  | cons j rest ih =>
    obtain ⟨hj, hrest⟩ := List.forall_mem_cons.mp hP
    have hfirst : ∀ a, r (.ofJson j) = .ok a ↔ P a j := hj
    simp only [Source.ofItems, Reader.items, bind_eq_ok_iff, mapError_eq_ok_iff, hfirst,
      ih hrest, List.forall₂_cons_right_iff]
    constructor
    · rintro ⟨a, ha, others, ho, h⟩
      exact ⟨a, others, ha, ho, (Except.ok.inj h).symm⟩
    · rintro ⟨a, others, ha, ho, rfl⟩
      exact ⟨a, ha, others, ho, rfl⟩

/-- A list is read item by item. -/
theorem ofJson_list_iff {P : α → Json → Prop} {r : Reader α} {j : Json} {l : List α}
    (hj : WellFormed j) (hP : ∀ j, WellFormed j → ∀ a, r.ofJson j = .ok a ↔ P a j) :
    Reader.ofJson (.list r) j = .ok l ↔ Lists P l j := by
  cases hj with
  | @array items hitems =>
    have hread : Reader.ofJson (.list r) (.array items) = .ok l ↔ List.Forall₂ P l items :=
      items_ofItems_iff fun j hj => hP j (hitems j hj)
    rw [hread]
    exact ⟨.intro, fun h => by cases h with | intro h => exact h⟩
  | _ => exact ⟨nofun, nofun⟩

end RouteFlow.Json
