import RouteFlow.Json.Shape
import RouteFlow.Proofs.Entries
import RouteFlow.Proofs.Fallible
import RouteFlow.Yaml.Value

/-!
# Values whose members have names of their own

The members of an object are a list of pairs, so nothing in the type keeps two of them from having
one name. `WellFormed` says that no object in a value does. This is no more than what every value
keeps that was read: members are put in one after the other, and a name that is already there keeps
its place.

* `WellFormed.remove`, `WellFormed.adjust` — what is left of an object is well formed;
* `toJson_ofJson_iff` — the well-formed values are those that read back as they are;
* `Json.wellFormed_of_ofText`, `Yaml.wellFormed_of_ofText?` — so is the value of a text.
-/

namespace RouteFlow.Json

open Fallible

/-- **A value is well formed**: no object in it has two members of one name. -/
inductive WellFormed : Json → Prop
  | null : WellFormed .null
  | bool {b : Bool} : WellFormed (.bool b)
  | number {n : Number} : WellFormed (.number n)
  | string {s : String} : WellFormed (.string s)
  | array {items : List Json} (h : ∀ j ∈ items, WellFormed j) : WellFormed (.array items)
  | object {ms : Entries Json} (hn : ms.names.Nodup) (h : ∀ m ∈ ms, WellFormed m.2) :
      WellFormed (.object ms)

/-! ### Objects -/

theorem wellFormed_object_iff {ms : Entries Json} :
    WellFormed (.object ms) ↔ ms.names.Nodup ∧ ∀ m ∈ ms, WellFormed m.2 := by
  constructor
  · rintro (_ | _ | _ | _ | _ | ⟨hn, h⟩)
    exact ⟨hn, h⟩
  · rintro ⟨hn, h⟩
    exact .object hn h

theorem WellFormed.get? {j value : Json} {k : String} (h : WellFormed j)
    (hk : j.get? k = some value) : WellFormed value := by
  cases h with
  | object hn h => exact h _ (Entries.mem_of_get? hk)
  | _ => simp [Json.get?, members?] at hk

theorem WellFormed.insert {ms : Entries Json} (h : WellFormed (.object ms)) {j : Json}
    (hj : WellFormed j) (k : String) : WellFormed (.object (ms.insert k j)) := by
  obtain ⟨hn, h⟩ := wellFormed_object_iff.mp h
  refine .object (Entries.nodup_insert hn k j) fun m hm => ?_
  rcases Entries.mem_insert hm with hm | rfl
  · exact h m hm
  · exact hj

theorem WellFormed.remove {ms : Entries Json} (h : WellFormed (.object ms)) (k : String) :
    WellFormed (.object (ms.remove k)) := by
  obtain ⟨hn, h⟩ := wellFormed_object_iff.mp h
  refine .object (Entries.nodup_remove hn k) fun m hm => ?_
  exact h m (List.mem_filter.mp ((Entries.remove_perm hn k).mem_iff.mp hm)).1

theorem WellFormed.adjust {ms : Entries Json} (h : WellFormed (.object ms)) {f : Json → Json}
    (hf : ∀ j, WellFormed j → WellFormed (f j)) (k : String) :
    WellFormed (.object (ms.adjust k f)) := by
  obtain ⟨hn, h⟩ := wellFormed_object_iff.mp h
  refine .object (by rwa [Entries.names_adjust]) fun m hm => ?_
  rcases Entries.mem_adjust hm with hm | ⟨v, hv, rfl⟩
  · exact h m hm
  · exact hf v (h _ hv)

/-! ### Values of JSON texts -/

mutual

/-- **The value of a text is well formed.** -/
theorem wellFormed_of_toJson : ∀ {s : Source} {j : Json}, s.toJson = .ok j → WellFormed j
  | .null _, j, h => by
    rw [← Except.ok.inj h]
    exact .null
  | .bool b _, j, h => by
    rw [← Except.ok.inj h]
    exact .bool
  | .number n _, j, h => by
    rw [Source.toJson, map_eq_ok_iff] at h
    obtain ⟨n, -, rfl⟩ := h
    exact .number
  | .string s _, j, h => by
    rw [Source.toJson, map_eq_ok_iff] at h
    obtain ⟨s, -, rfl⟩ := h
    exact .string
  | .list items _, j, h => by
    rw [Source.toJson, map_eq_ok_iff] at h
    obtain ⟨js, hjs, rfl⟩ := h
    exact .array (wellFormed_of_toItems hjs)
  | .object ms _, j, h => by
    rw [Source.toJson, map_eq_ok_iff] at h
    obtain ⟨es, hes, rfl⟩ := h
    exact wellFormed_of_toMembers (.object (by simp [Entries.names]) (by simp)) hes
  | .deep s, j, h => by simp [Source.toJson] at h
  | .broken b, j, h => by simp [Source.toJson] at h

theorem wellFormed_of_toItems : ∀ {items : List Source} {js : List Json},
    Source.toItems items = .ok js → ∀ j ∈ js, WellFormed j
  | [], js, h => by
    rw [← Except.ok.inj h]
    simp
  | s :: rest, js, h => by
    rw [Source.toItems] at h
    obtain ⟨j, hj, h⟩ := bind_eq_ok_iff.mp h
    obtain ⟨others, ho, h⟩ := bind_eq_ok_iff.mp h
    rw [← Except.ok.inj h]
    exact List.forall_mem_cons.mpr ⟨wellFormed_of_toJson hj, wellFormed_of_toItems ho⟩

theorem wellFormed_of_toMembers : ∀ {ms : List Member} {acc es : Entries Json},
    WellFormed (.object acc) → Source.toMembers acc ms = .ok es → WellFormed (.object es)
  | [], acc, es, hacc, h => by
    rw [← Except.ok.inj h]
    exact hacc
  | ((key, _), s) :: rest, acc, es, hacc, h => by
    rw [Source.toMembers] at h
    obtain ⟨k, -, h⟩ := bind_eq_ok_iff.mp h
    obtain ⟨j, hj, h⟩ := bind_eq_ok_iff.mp h
    exact wellFormed_of_toMembers (hacc.insert (wellFormed_of_toJson hj) k) h

end

mutual

/-- **A well-formed value reads back** as it is, seen as a text. -/
theorem toJson_ofJson : ∀ {j : Json}, WellFormed j → (Source.ofJson j).toJson = .ok j
  | .null, _ => rfl
  | .bool _, _ => rfl
  | .number _, _ => rfl
  | .string _, _ => rfl
  | .array items, h => by
    cases h with
    | array h =>
      rw [Source.ofJson, Source.toJson, toItems_ofItems h]
      rfl
  | .object ms, h => by
    obtain ⟨hn, hms⟩ := wellFormed_object_iff.mp h
    have hback : Source.toMembers [] (Source.ofMembers ms) = .ok (Entries.ofList ms) :=
      toMembers_ofMembers hms
    rw [Source.ofJson, Source.toJson, hback, Entries.ofList_of_nodup hn]
    rfl

theorem toItems_ofItems : ∀ {js : List Json},
    (∀ j ∈ js, WellFormed j) → Source.toItems (Source.ofItems js) = .ok js
  | [], _ => rfl
  | j :: rest, h => by
    obtain ⟨hj, hrest⟩ := List.forall_mem_cons.mp h
    rw [Source.ofItems, Source.toItems, toJson_ofJson hj, toItems_ofItems hrest]
    rfl

/-- Members are put in one after the other. -/
theorem toMembers_ofMembers : ∀ {ms : List (String × Json)} {acc : Entries Json},
    (∀ m ∈ ms, WellFormed m.2) →
      Source.toMembers acc (Source.ofMembers ms) =
        .ok (ms.foldl (fun es m => es.insert m.1 m.2) acc)
  | [], _, _ => rfl
  | (k, j) :: rest, acc, h => by
    obtain ⟨hj, hrest⟩ := List.forall_mem_cons.mp h
    rw [Source.ofMembers, Source.toMembers, toJson_ofJson hj]
    exact toMembers_ofMembers hrest

end

/-- **The values that read back** are the well-formed ones. -/
theorem toJson_ofJson_iff {j : Json} : (Source.ofJson j).toJson = .ok j ↔ WellFormed j :=
  ⟨wellFormed_of_toJson, toJson_ofJson⟩

/-- What is read from a text is read from its source. -/
theorem exists_source_of_ofText {α : Type} {r : Reader α} {text : String} {a : α}
    (h : r.ofText text = .ok a) : ∃ source, r source = .ok a := by
  unfold Reader.ofText Reader.ofOctets at h
  obtain ⟨value, hvalue, h⟩ := bind_eq_ok_iff.mp (mapError_eq_ok_iff.mp h)
  -- what follows the value in the text has no say in it
  obtain rfl : value = a := by
    split at h
    · simp at h
    · exact Except.ok.inj h
  exact ⟨_, hvalue⟩

/-- **A value that was read from a text is well formed.** -/
theorem wellFormed_of_ofText {s : String} {j : Json} (h : ofText s = .ok j) : WellFormed j := by
  obtain ⟨source, hsource⟩ := exists_source_of_ofText h
  exact wellFormed_of_toJson (mapError_eq_ok_iff.mp hsource)

end RouteFlow.Json

/-! ### Values of YAML texts -/

namespace RouteFlow.Yaml

open Fallible
open Json (WellFormed)

theorem wellFormed_of_integerOf {s : String} {j : Json} (h : integerOf s = .ok (some j)) :
    WellFormed j := by
  unfold integerOf at h
  split at h
  · unfold integerValue at h
    split_ifs at h <;> obtain ⟨⟩ := h <;> exact .number
  · obtain ⟨⟩ := h

theorem wellFormed_of_realOf? {s : String} {j : Json} (h : realOf? s = some j) : WellFormed j := by
  unfold realOf? at h
  dsimp only at h
  split at h
  · obtain rfl := Option.some.inj h
    exact .null
  · obtain ⟨x, -, h⟩ := Option.bind_eq_some_iff.mp h
    split at h
    · obtain rfl := Option.some.inj h
      exact .number
    · obtain ⟨⟩ := h

theorem wellFormed_of_scalarOf {s : String} {j : Json} (h : scalarOf s = .ok j) :
    WellFormed j := by
  unfold scalarOf at h
  split at h
  · obtain rfl := Except.ok.inj h
    exact .null
  · split at h
    · obtain rfl := Except.ok.inj h
      exact .bool
    · obtain ⟨found?, hfound, h⟩ := bind_eq_ok_iff.mp h
      split at h
      · obtain rfl := Except.ok.inj h
        exact wellFormed_of_integerOf hfound
      · split at h
        · obtain rfl := Except.ok.inj h
          exact .string
        · obtain rfl := Except.ok.inj h
          cases hreal : realOf? s with
          | none => exact .string
          | some j => exact wellFormed_of_realOf? hreal

theorem wellFormed_of_taggedScalar {tag s : String} {j : Json} (h : taggedScalar tag s = .ok j) :
    WellFormed j := by
  unfold taggedScalar at h
  split at h
  · cases hb : bool? s with
    | none => simp [hb] at h
    | some b =>
      rw [hb] at h
      obtain rfl := Except.ok.inj h
      exact .bool
  · obtain ⟨found?, hfound, h⟩ := bind_eq_ok_iff.mp h
    split at h
    · obtain rfl := Except.ok.inj h
      exact wellFormed_of_integerOf hfound
    · obtain ⟨⟩ := h
  · cases hreal : realOf? s with
    | none => simp [hreal] at h
    | some value =>
      rw [hreal] at h
      obtain rfl := Except.ok.inj h
      exact wellFormed_of_realOf? hreal
  · split at h
    · obtain rfl := Except.ok.inj h
      exact .null
    · obtain ⟨⟩ := h
  · obtain rfl := Except.ok.inj h
    exact .string

variable {read : Node → Nat → Except Fault (Json × Nat)}

theorem wellFormed_of_valuesOfItems
    (hread : ∀ node jumps j left, read node jumps = .ok (j, left) → WellFormed j) :
    ∀ {items : List Node} {jumps left : Nat} {js : List Json},
      valuesOfItems read jumps items = .ok (js, left) → ∀ j ∈ js, WellFormed j
  | [], jumps, left, js, h => by
    obtain ⟨⟩ := h
    simp
  | node :: rest, jumps, left, js, h => by
    rw [valuesOfItems] at h
    obtain ⟨⟨j, jumps'⟩, hj, h⟩ := bind_eq_ok_iff.mp h
    obtain ⟨⟨others, _⟩, ho, h⟩ := bind_eq_ok_iff.mp h
    obtain ⟨⟩ := h
    exact List.forall_mem_cons.mpr ⟨hread _ _ _ _ hj, wellFormed_of_valuesOfItems hread ho⟩

theorem wellFormed_of_valuesOfPairs {anchors : Anchors}
    (hread : ∀ node jumps j left, read node jumps = .ok (j, left) → WellFormed j) :
    ∀ {pairs : List (Node × Node)} {jumps left : Nat} {acc es : Entries Json},
      WellFormed (.object acc) → valuesOfPairs anchors read jumps acc pairs = .ok (es, left) →
        WellFormed (.object es)
  | [], jumps, left, acc, es, hacc, h => by
    obtain ⟨⟩ := h
    exact hacc
  | (k, v) :: rest, jumps, left, acc, es, hacc, h => by
    rw [valuesOfPairs] at h
    obtain ⟨⟨key, jumps'⟩, -, h⟩ := bind_eq_ok_iff.mp h
    cases key with
    | scalar text plain tag? id =>
      obtain ⟨⟨j, _⟩, hj, h⟩ := bind_eq_ok_iff.mp h
      exact wellFormed_of_valuesOfPairs hread (hacc.insert (hread _ _ _ _ hj) text) h
    | _ => obtain ⟨⟩ := h

/-- **The value of a node is well formed**, however deep collections may nest. -/
theorem wellFormed_of_valueOf {anchors : Anchors} {depth : Nat} {node : Node} {jumps left : Nat}
    {j : Json} (h : valueOf anchors depth node jumps = .ok (j, left)) : WellFormed j := by
  induction depth using Nat.strongRecOn generalizing node jumps j left with
  | ind depth ih =>
    unfold valueOf at h
    obtain ⟨⟨node, jumps⟩, -, h⟩ := bind_eq_ok_iff.mp h
    cases node with
    | scalar text plain tag? id =>
      dsimp only at h
      split at h
      · split at h
        · obtain ⟨⟩ := h
        · obtain ⟨value, hvalue, h⟩ := bind_eq_ok_iff.mp h
          obtain ⟨⟩ := h
          exact wellFormed_of_taggedScalar hvalue
      · split at h
        · obtain ⟨value, hvalue, h⟩ := bind_eq_ok_iff.mp h
          obtain ⟨⟩ := h
          exact wellFormed_of_scalarOf hvalue
        · obtain ⟨⟩ := h
          exact .string
    | sequence items tag? id =>
      dsimp only at h
      split at h
      · obtain ⟨⟩ := h
      · cases depth with
        | zero => obtain ⟨⟩ := h
        | succ d =>
          obtain ⟨⟨js, _⟩, hjs, h⟩ := bind_eq_ok_iff.mp h
          obtain ⟨⟩ := h
          exact .array (wellFormed_of_valuesOfItems (fun _ _ _ _ => ih d d.lt_succ_self) hjs)
    | mapping pairs tag? id =>
      dsimp only at h
      split at h
      · obtain ⟨⟩ := h
      · cases depth with
        | zero => obtain ⟨⟩ := h
        | succ d =>
          obtain ⟨⟨ms, _⟩, hms, h⟩ := bind_eq_ok_iff.mp h
          obtain ⟨⟩ := h
          exact wellFormed_of_valuesOfPairs (fun _ _ _ _ => ih d d.lt_succ_self)
            (.object (by simp [Entries.names]) (by simp)) hms
    | _ => obtain ⟨⟩ := h

/-- **A value that was read from a YAML text is well formed.** -/
theorem wellFormed_of_ofText? {s : String} {j : Json} (h : ofText? s = .ok j) : WellFormed j := by
  obtain ⟨tokens, -, h⟩ := bind_eq_ok_iff.mp h
  obtain ⟨node, -, h⟩ := bind_eq_ok_iff.mp h
  obtain ⟨⟨value, left⟩, hvalue, rfl⟩ := map_eq_ok_iff.mp h
  exact wellFormed_of_valueOf hvalue

end RouteFlow.Yaml
