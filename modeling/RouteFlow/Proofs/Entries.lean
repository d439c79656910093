import Mathlib.Data.List.Induction
import Mathlib.Data.String.Basic
import RouteFlow.Entries

/-!
# Which pairs entries hold

What a look-up finds is among the pairs, and what `adjust` and `remove` leave of them. These lemmas
ask nothing of the names: a name may be repeated. Where the names are distinct, the order of the
pairs has no say in what a look-up finds (`get?_eq_of_perm`), taking a name out leaves the other
pairs (`remove_perm`), and pairs that are put in one after the other stay in their order
(`ofList_of_nodup`). Where the names are kept in ascending order they stay so, and pairs that ascend
already stay in their order as well (`Ascending.insertSorted`, `ofListSorted_of_ascending`). Where
names repeat, the first place of each and the last value count (`names_ofList`, `get?_ofList`).
-/

namespace RouteFlow.Entries

universe u

variable {α : Type u}

theorem has_iff_mem {es : Entries α} {k : String} : has es k = true ↔ k ∈ names es := by
  rw [has, Option.isSome_iff_ne_none, ne_eq, get?_eq_none_iff, not_not]

theorem mem_of_get? {es : Entries α} {k : String} {v : α} (h : get? es k = some v) :
    (k, v) ∈ es := by
  induction es with
  | nil => simp at h
  | cons e rest ih =>
    obtain ⟨k', v'⟩ := e
    rw [get?_cons] at h
    split at h
    · next hk =>
      obtain rfl := Option.some.inj h
      rw [hk]
      exact List.mem_cons_self
    · exact List.mem_cons_of_mem _ (ih h)

theorem get?_adjust (es : Entries α) (k : String) (f : α → α) (k' : String) :
    get? (adjust es k f) k' = if k = k' then (get? es k').map f else get? es k' := by
  induction es with
  | nil => simp [adjust]
  | cons e rest ih =>
    obtain ⟨n, v⟩ := e
    by_cases h : n = k
    · subst h
      by_cases h' : n = k' <;> simp [adjust, get?_cons, h']
    · by_cases h' : n = k'
      · subst h'
        simp [adjust, get?_cons, h, Ne.symm h]
      · simp [adjust, get?_cons, h, h', ih]

theorem mem_insert {es : Entries α} {k : String} {v : α} {e : String × α}
    (h : e ∈ insert es k v) : e ∈ es ∨ e = (k, v) := by
  induction es with
  | nil => exact .inr (List.mem_singleton.mp h)
  | cons e' rest ih =>
    obtain ⟨n, x⟩ := e'
    rw [insert] at h
    split at h
    · next hk =>
      subst hk
      exact (List.mem_cons.mp h).symm.imp_left (List.mem_cons_of_mem _)
    · rcases List.mem_cons.mp h with h | h
      · exact .inl (h ▸ List.mem_cons_self)
      · exact (ih h).imp_left (List.mem_cons_of_mem _)

/-- Changing a value moves no name. -/
theorem names_adjust (es : Entries α) (k : String) (f : α → α) :
    names (adjust es k f) = names es := by
  induction es with
  | nil => rfl
  | cons e rest ih =>
    obtain ⟨n, v⟩ := e
    rw [adjust]
    split
    · rfl
    · exact congrArg (n :: ·) ih

/-- What stands among the pairs after a change was there before, or is the changed value. -/
theorem mem_adjust {es : Entries α} {k : String} {f : α → α} {e : String × α}
    (h : e ∈ adjust es k f) : e ∈ es ∨ ∃ v, (k, v) ∈ es ∧ e = (k, f v) := by
  induction es with
  | nil => simp [adjust] at h
  | cons e' rest ih =>
    obtain ⟨n, v⟩ := e'
    rw [adjust] at h
    split at h
    · next hk =>
      subst hk
      rcases List.mem_cons.mp h with h | h
      · exact .inr ⟨v, List.mem_cons_self, h⟩
      · exact .inl (List.mem_cons_of_mem _ h)
    · rcases List.mem_cons.mp h with h | h
      · exact .inl (h ▸ List.mem_cons_self)
      · rcases ih h with h | ⟨v', hv', he⟩
        · exact .inl (List.mem_cons_of_mem _ h)
        · exact .inr ⟨v', List.mem_cons_of_mem _ hv', he⟩

/-- A look-up does not depend on where in the order a value is put. -/
theorem get?_insertSorted (es : Entries α) (k : String) (v : α) (k' : String) :
    get? (insertSorted es k v) k' = if k = k' then some v else get? es k' := by
  induction es with
  | nil => rfl
  | cons e rest ih =>
    obtain ⟨n, x⟩ := e
    by_cases hn : n = k
    · subst hn
      by_cases hk : n = k' <;> simp [insertSorted, get?_cons, hk]
    · by_cases hlt : k < n
      · simp [insertSorted, get?_cons, hn, hlt]
      · by_cases hk : n = k'
        · subst hk
          simp [insertSorted, get?_cons, hn, hlt, Ne.symm hn]
        · simp [insertSorted, get?_cons, hn, hlt, hk, ih]

theorem mem_insertSorted {es : Entries α} {k : String} {v : α} {e : String × α}
    (h : e ∈ insertSorted es k v) : e ∈ es ∨ e = (k, v) := by
  induction es with
  | nil => exact .inr (List.mem_singleton.mp h)
  | cons e' rest ih =>
    obtain ⟨n, x⟩ := e'
    rw [insertSorted] at h
    split at h
    · next hk =>
      subst hk
      exact (List.mem_cons.mp h).symm.imp_left (List.mem_cons_of_mem _)
    · split at h
      · exact (List.mem_cons.mp h).symm
      · rcases List.mem_cons.mp h with h | h
        · exact .inl (h ▸ List.mem_cons_self)
        · exact (ih h).imp_left (List.mem_cons_of_mem _)

/-- Taking a name out leaves the pairs with other names. -/
theorem mem_remove_of_ne {es : Entries α} {k k' : String} {v : α} (h : (k', v) ∈ es)
    (hk : k' ≠ k) : (k', v) ∈ remove es k := by
  induction es with
  | nil => simp at h
  | cons e rest ih =>
    obtain ⟨n, x⟩ := e
    rw [remove]
    split
    · next hn =>
      -- the pair is not the one taken out, so it is the last one or before the last one
      have hrest : (k', v) ∈ rest := by
        rcases List.mem_cons.mp h with h | h
        · exact absurd ((Prod.mk.inj h).1.trans hn) hk
        · exact h
      cases hl : rest.getLast? with
      | none => rw [List.getLast?_eq_none_iff.mp hl] at hrest; exact hrest
      | some last =>
        obtain ⟨others, rfl⟩ := List.getLast?_eq_some_iff.mp hl
        rw [List.dropLast_concat]
        rw [List.mem_append, List.mem_singleton] at hrest
        exact List.mem_cons.mpr hrest.symm
    · rcases List.mem_cons.mp h with h | h
      · rw [h]; exact List.mem_cons_self
      · exact List.mem_cons_of_mem _ (ih h)

/-- Putting in a value removes no name and moves none. -/
theorem names_prefix_insert (es : Entries α) (k : String) (v : α) :
    names es <+: names (insert es k v) := by
  rw [names_insert]
  split
  · exact List.prefix_refl _
  · exact List.prefix_append _ _

/-! ### Distinct names -/

theorem get?_of_mem {es : Entries α} (hn : (names es).Nodup) {k : String} {v : α}
    (h : (k, v) ∈ es) : get? es k = some v := by
  induction es with
  | nil => simp at h
  | cons e rest ih =>
    obtain ⟨n, x⟩ := e
    obtain ⟨hfresh, hrest⟩ := List.nodup_cons.mp hn
    rcases List.mem_cons.mp h with h | h
    · obtain ⟨rfl, rfl⟩ := Prod.mk.inj h
      simp [get?_cons]
    · -- the name stands further on, so it is not the first one
      have hne : n ≠ k := by
        rintro rfl
        exact hfresh (List.mem_map.mpr ⟨(n, v), h, rfl⟩)
      rw [get?_cons, if_neg hne]
      exact ih hrest h

/-- **The order of distinct names** has no say in what a look-up finds. -/
theorem get?_eq_of_perm {es es' : Entries α} (h : es.Perm es') (hn : (names es).Nodup)
    (k : String) : get? es k = get? es' k := by
  have hnames : (names es).Perm (names es') := h.map _
  have hn' : (names es').Nodup := hnames.nodup_iff.mp hn
  cases hk : get? es k with
  | some v => exact (get?_of_mem hn' (h.mem_iff.mp (mem_of_get? hk))).symm
  | none =>
    symm
    rw [get?_eq_none_iff] at hk ⊢
    exact fun hk' => hk (hnames.mem_iff.mpr hk')

theorem nodup_insert {es : Entries α} (hn : (names es).Nodup) (k : String) (v : α) :
    (names (insert es k v)).Nodup := by
  rw [names_insert]
  split
  · exact hn
  · next hk =>
    refine List.nodup_append.mpr ⟨hn, by simp, ?_⟩
    rintro n hn' _ hmem rfl
    exact hk (List.mem_singleton.mp hmem ▸ hn')

/-- **Taking a name out** leaves the other pairs, in some order. -/
theorem remove_perm {es : Entries α} (hn : (names es).Nodup) (k : String) :
    (remove es k).Perm (es.filter (·.1 ≠ k)) := by
  induction es with
  | nil => exact .nil
  | cons e rest ih =>
    obtain ⟨n, x⟩ := e
    obtain ⟨hfresh, hrest⟩ := List.nodup_cons.mp hn
    rw [remove]
    split
    · next hk =>
      subst hk
      -- no other pair has the name, and the last pair takes the place of the first
      have hothers : rest.filter (·.1 ≠ n) = rest := by
        refine List.filter_eq_self.mpr fun e he => ?_
        have hne : e.1 ≠ n := fun hn => hfresh (List.mem_map.mpr ⟨e, he, hn⟩)
        simpa using hne
      rw [List.filter_cons_of_neg (by simp), hothers]
      cases hl : rest.getLast? with
      | none => rw [List.getLast?_eq_none_iff.mp hl]
      | some last =>
        obtain ⟨others, rfl⟩ := List.getLast?_eq_some_iff.mp hl
        rw [List.dropLast_concat]
        exact (List.perm_append_singleton last others).symm
    · next hk =>
      rw [List.filter_cons_of_pos (by simpa using hk)]
      exact (ih hrest).cons (n, x)

theorem nodup_remove {es : Entries α} (hn : (names es).Nodup) (k : String) :
    (names (remove es k)).Nodup :=
  ((remove_perm hn k).map _).nodup_iff.mpr (hn.sublist (List.filter_sublist.map _))

theorem get?_remove {es : Entries α} (hn : (names es).Nodup) (k k' : String) :
    get? (remove es k) k' = if k = k' then none else get? es k' := by
  rw [get?_eq_of_perm (remove_perm hn k) (nodup_remove hn k)]
  clear hn
  induction es with
  | nil => simp
  | cons e rest ih =>
    obtain ⟨n, x⟩ := e
    by_cases hk : n = k
    · subst hk
      rw [List.filter_cons_of_neg (by simp), ih, get?_cons]
      by_cases hk' : n = k' <;> simp [hk']
    · rw [List.filter_cons_of_pos (by simpa using hk), get?_cons, get?_cons, ih]
      by_cases hk' : n = k'
      · subst hk'
        simp [Ne.symm hk]
      · simp [hk']

theorem nodup_ofList (ps : List (String × α)) : (names (ofList ps)).Nodup := by
  unfold ofList
  induction ps using List.reverseRecOn with
  | nil => exact List.nodup_nil
  | append_singleton rest p ih =>
    rw [List.foldl_append, List.foldl_cons, List.foldl_nil]
    exact nodup_insert ih _ _

/-- What is held was put in. -/
theorem mem_of_mem_ofList {ps : List (String × α)} {e : String × α} (h : e ∈ ofList ps) :
    e ∈ ps := by
  unfold ofList at h
  induction ps using List.reverseRecOn with
  | nil => exact h
  | append_singleton rest p ih =>
    rw [List.foldl_append, List.foldl_cons, List.foldl_nil] at h
    rw [List.mem_append, List.mem_singleton]
    exact (mem_insert h).imp_left ih

/-- A new name goes last. -/
theorem insert_of_notMem {es : Entries α} {k : String} (v : α) (h : k ∉ names es) :
    insert es k v = es ++ [(k, v)] := by
  induction es with
  | nil => rfl
  | cons e rest ih =>
    obtain ⟨n, x⟩ := e
    obtain ⟨hne, hrest⟩ := not_or.mp (mt List.mem_cons.mpr h)
    rw [insert, if_neg (Ne.symm hne), ih hrest]
    rfl

/-- Pairs that are put in one after the other stay in their order, if each of them goes last where
it fits behind those before it. -/
theorem foldl_eq_append (Fits : Entries α → Prop) {add : Entries α → String → α → Entries α}
    (hfits : ∀ es es', Fits (es ++ es') → Fits es)
    (hadd : ∀ es k v, Fits (es ++ [(k, v)]) → add es k v = es ++ [(k, v)])
    {acc ps : Entries α} (h : Fits (acc ++ ps)) :
    ps.foldl (fun es p => add es p.1 p.2) acc = acc ++ ps := by
  induction ps generalizing acc with
  | nil => exact (List.append_nil acc).symm
  | cons p rest ih =>
    obtain ⟨k, v⟩ := p
    have happend : acc ++ (k, v) :: rest = (acc ++ [(k, v)]) ++ rest := by simp
    rw [happend] at h ⊢
    rw [List.foldl_cons, hadd acc k v (hfits _ _ h)]
    exact ih h

theorem notMem_of_nodup_append {es es' : Entries α} {k : String} {v : α}
    (h : (names (es ++ (k, v) :: es')).Nodup) : k ∉ names es := by
  rw [names, List.map_append, List.nodup_append] at h
  exact fun hk => h.2.2 k hk k List.mem_cons_self rfl

/-- Pairs with distinct names that are put in one after the other stay in their order. -/
theorem ofList_of_nodup {ps : List (String × α)} (hn : (ps.map (·.1)).Nodup) : ofList ps = ps :=
  foldl_eq_append (fun es => (names es).Nodup)
    (fun es es' h => h.sublist ((List.sublist_append_left es es').map _))
    (fun _ _ v h => insert_of_notMem v (notMem_of_nodup_append h)) hn

/-! ### Ascending names -/

/-- **The names ascend**, so that each comes once. -/
def Ascending (es : Entries α) : Prop := (names es).Pairwise (· < ·)

theorem ascending_nil : Ascending ([] : Entries α) := List.Pairwise.nil

theorem ascending_cons_iff {e : String × α} {es : Entries α} :
    Ascending (e :: es) ↔ (∀ k ∈ names es, e.1 < k) ∧ Ascending es := List.pairwise_cons

theorem Ascending.nodup {es : Entries α} (h : Ascending es) : (names es).Nodup :=
  h.imp ne_of_lt

theorem mem_names_insertSorted {es : Entries α} {k k' : String} {v : α} :
    k' ∈ names (insertSorted es k v) ↔ k' = k ∨ k' ∈ names es := by
  rw [← not_iff_not, ← get?_eq_none_iff, get?_insertSorted, not_or, ← get?_eq_none_iff]
  by_cases hk : k = k'
  · simp [hk]
  · simp [hk, Ne.symm hk]

/-- **Putting in a value keeps the order.** -/
theorem Ascending.insertSorted {es : Entries α} (h : Ascending es) (k : String) (v : α) :
    Ascending (insertSorted es k v) := by
  induction es with
  | nil => exact List.pairwise_singleton _ _
  | cons e rest ih =>
    obtain ⟨n, x⟩ := e
    obtain ⟨hfirst, hrest⟩ := ascending_cons_iff.mp h
    rw [Entries.insertSorted]
    split
    · exact h
    · next hne =>
      split
      · next hlt =>
        refine ascending_cons_iff.mpr ⟨fun m hm => ?_, h⟩
        rcases List.mem_cons.mp hm with rfl | hm
        · exact hlt
        · exact hlt.trans (hfirst m hm)
      · next hge =>
        -- the name goes in further on, where all names come after the first one
        refine ascending_cons_iff.mpr ⟨fun m hm => ?_, ih hrest⟩
        rcases mem_names_insertSorted.mp hm with rfl | hm
        · exact lt_of_le_of_ne (not_lt.mp hge) hne
        · exact hfirst m hm

/-- A name behind all others goes last. -/
theorem insertSorted_of_forall_lt {es : Entries α} {k : String} (v : α)
    (h : ∀ n ∈ names es, n < k) : insertSorted es k v = es ++ [(k, v)] := by
  induction es with
  | nil => rfl
  | cons e rest ih =>
    obtain ⟨n, x⟩ := e
    obtain ⟨hn, hrest⟩ := List.forall_mem_cons.mp h
    rw [insertSorted, if_neg hn.ne, if_neg hn.asymm, ih hrest]
    rfl

/-- Pairs with ascending names that are put in one after the other stay in their order. -/
theorem ofListSorted_of_ascending {ps : List (String × α)} (h : Ascending ps) :
    ofListSorted ps = ps := by
  refine foldl_eq_append Ascending (fun es es' h => ?_) (fun es k v h => ?_) h
  · exact h.sublist ((List.sublist_append_left es es').map _)
  · rw [Ascending, names, List.map_append, List.pairwise_append] at h
    exact insertSorted_of_forall_lt v fun n hn => h.2.2 n hn k List.mem_cons_self

/-! ### Repeated names -/

/-- **Of pairs that are put in one after the other**, a look-up finds the last one with the name. -/
theorem get?_ofList (ps : List (String × α)) (k : String) :
    get? (ofList ps) k = (ps.reverse.find? (·.1 = k)).map (·.2) := by
  unfold ofList
  induction ps using List.reverseRecOn with
  | nil => rfl
  | append_singleton rest p ih =>
    rw [List.foldl_append, List.foldl_cons, List.foldl_nil, get?_insert, ih, List.reverse_concat,
      List.find?_cons]
    by_cases hp : p.1 = k <;> simp [hp]

/-- Of repeated names the first place counts. -/
theorem eraseDups_concat (l : List String) (k : String) :
    (l ++ [k]).eraseDups = if k ∈ l then l.eraseDups else l.eraseDups ++ [k] := by
  rw [List.eraseDups_append]
  by_cases h : k ∈ l <;> simp [List.removeAll, h, List.eraseDups_cons]

/-- Names may be selected before repetitions are left out, or afterwards. -/
theorem eraseDups_filter (p : String → Bool) (l : List String) :
    (l.filter p).eraseDups = l.eraseDups.filter p := by
  induction l using List.reverseRecOn with
  | nil => rfl
  | append_singleton rest k ih =>
    rw [List.filter_append, eraseDups_concat]
    by_cases hp : p k = true
    · rw [List.filter_cons_of_pos hp, List.filter_nil, eraseDups_concat, ih]
      by_cases hk : k ∈ rest <;> simp [hk, hp]
    · rw [List.filter_cons_of_neg hp, List.filter_nil, List.append_nil, ih]
      by_cases hk : k ∈ rest <;> simp [hk, hp]

/-- **The names of pairs that are put in one after the other**: each in its first place. -/
theorem names_ofList (ps : List (String × α)) : names (ofList ps) = (ps.map (·.1)).eraseDups := by
  induction ps using List.reverseRecOn with
  | nil => rfl
  | append_singleton rest p ih =>
    -- the last pair adds its name exactly if no pair before it has it
    have hmem : p.1 ∈ names (ofList rest) ↔ p.1 ∈ rest.map (·.1) := by
      rw [ih, List.mem_eraseDups]
    rw [List.map_append, List.map_singleton, eraseDups_concat, ← ih]
    unfold ofList at hmem ⊢
    rw [List.foldl_append, List.foldl_cons, List.foldl_nil, names_insert]
    simp only [hmem]

end RouteFlow.Entries
