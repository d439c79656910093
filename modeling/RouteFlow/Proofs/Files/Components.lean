import Mathlib.Data.List.Induction
import RouteFlow.Proofs.Files.Loading

/-!
# The components of paths

Every name among the components of a path is ordinary: it has no slash in it, and it is neither
empty nor one of the two names that stand for directories (`ordinary_of_mem_components`). Ordinary
names can be put behind a directory again, and are its further components
(`components_inDirectory`), and joined by slashes they can be told apart
(`intercalate_injective`).

What is left of the last name without its extension need not be ordinary: of `..yml` a single point
is left. It is ordinary unless it is such a name (`ordinary_stem`).
-/

namespace RouteFlow.Files.Path

/-! ### Ordinary names -/

/-- **A name that a path can have as a component.** -/
structure Ordinary (s : String) : Prop where
  special : s ∉ ["", ".", ".."]
  slash : '/' ∉ s.toList

variable {s n path directory : String} {ns ns' : List String}

theorem Ordinary.ne_empty (h : Ordinary s) : s ≠ "" := fun he =>
  h.special (he ▸ List.mem_cons_self)

/-- An ordinary name is the component that it spells. -/
theorem Ordinary.component? (h : Ordinary s) : component? s.toList = some (.name s) :=
  component?_eq_name_iff.mpr ⟨rfl, h.special⟩

theorem notMem_of_mem_splitOn {cs part : List Char} (h : part ∈ cs.splitOn '/') : '/' ∉ part := by
  induction cs generalizing part with
  | nil =>
    rw [List.splitOn_nil, List.mem_singleton] at h
    simp [h]
  | cons c rest ih =>
    rw [List.splitOn_cons_eq_if_modifyHead] at h
    split at h
    · rcases List.mem_cons.mp h with rfl | h
      · simp
      · exact ih h
    · next hc =>
      -- the character goes to the front of the first part
      cases hparts : rest.splitOn '/' with
      | nil => exact absurd hparts (List.splitOn_ne_nil _ _)
      | cons first others =>
        rw [hparts] at ih h
        rcases List.mem_cons.mp h with rfl | h
        · have hfirst : '/' ∉ first := ih List.mem_cons_self
          have hne : '/' ≠ c := fun he => hc (by rw [← he]; rfl)
          simp [hfirst, hne]
        · exact ih (List.mem_cons_of_mem _ h)

/-! ### Components -/

/-- The component that the first parts of a path stand for. -/
def lead : List (List Char) → List Component
  | [] :: _ :: _ => [.root]
  | ['.'] :: _ => [.here]
  | _ => []

theorem components_eq (path : String) :
    components path =
      lead (path.toList.splitOn '/') ++ (path.toList.splitOn '/').filterMap component? := by
  unfold components lead
  rfl

theorem lead_cases (parts : List (List Char)) :
    lead parts = [] ∨ lead parts = [.root] ∨ lead parts = [.here] := by
  unfold lead
  split <;> simp

/-- **The names in a path are ordinary.** -/
theorem ordinary_of_mem_components (h : .name s ∈ components path) : Ordinary s := by
  rw [components_eq, List.mem_append] at h
  rcases h with h | h
  · rcases lead_cases (path.toList.splitOn '/') with hl | hl | hl <;> simp [hl] at h
  · obtain ⟨part, hpart, hname⟩ := List.mem_filterMap.mp h
    obtain ⟨rfl, hspecial⟩ := component?_eq_name_iff.mp hname
    exact ⟨hspecial, notMem_of_mem_splitOn hpart⟩

/-- Behind the first component there are only names and `..`. -/
theorem mem_tail_components {c : Component} (h : c ∈ (components path).tail) :
    c = .above ∨ ∃ s, c = .name s := by
  have hmem : c ∈ (path.toList.splitOn '/').filterMap component? := by
    rw [components_eq] at h
    rcases lead_cases (path.toList.splitOn '/') with hl | hl | hl
    · rw [hl] at h
      exact List.mem_of_mem_tail h
    · simpa [hl] using h
    · simpa [hl] using h
  obtain ⟨part, -, hc⟩ := List.mem_filterMap.mp hmem
  unfold component? at hc
  split at hc
  · exact absurd hc nofun
  · exact absurd hc nofun
  · exact .inl (Option.some.inj hc).symm
  · exact .inr ⟨_, (Option.some.inj hc).symm⟩

/-- **The root and a `.` only come first**: nothing stands before them. -/
theorem eq_nil_of_components_eq {before after : List Component} {c : Component}
    (h : components path = before ++ c :: after) (hc : c = .root ∨ c = .here) : before = [] := by
  cases before with
  | nil => rfl
  | cons d ds =>
    have htail : c ∈ (components path).tail := by
      rw [h]
      exact List.mem_append_right _ List.mem_cons_self
    rcases mem_tail_components htail with rfl | ⟨s, rfl⟩ <;> rcases hc with h | h <;> cases h

/-! ### Names behind a directory -/

/-- The path of what is reached from a directory by names. -/
def inDirectory (directory : String) (ns : List String) : String :=
  if directory = "" then String.intercalate "/" ns
  else directory ++ "/" ++ String.intercalate "/" ns

theorem splitOn_intercalate_names (hne : ns ≠ []) (hn : ∀ n ∈ ns, Ordinary n) :
    (String.intercalate "/" ns).toList.splitOn '/' = ns.map (·.toList) := by
  rw [String.toList_intercalate]
  refine List.splitOn_intercalate '/' (fun part hpart => ?_) (by simpa using hne)
  obtain ⟨n, hmem, rfl⟩ := List.mem_map.mp hpart
  exact (hn n hmem).slash

theorem filterMap_component?_names (hn : ∀ n ∈ ns, Ordinary n) :
    (ns.map (·.toList)).filterMap component? = ns.map .name := by
  induction ns with
  | nil => rfl
  | cons n rest ih =>
    obtain ⟨hfirst, hrest⟩ := List.forall_mem_cons.mp hn
    rw [List.map_cons, List.filterMap_cons_some hfirst.component?, ih hrest, List.map_cons]

theorem lead_cons (first : List Char) (rest : List (List Char)) :
    lead (first :: rest) =
      if first = [] ∧ rest ≠ [] then [.root] else if first = ['.'] then [.here] else [] := by
  unfold lead
  cases rest <;> split <;> simp_all

/-- What follows does not change what a path that is not empty begins with. -/
theorem lead_append {parts : List (List Char)} (hne : parts ≠ []) (hp : parts ≠ [[]])
    (others : List (List Char)) : lead (parts ++ others) = lead parts := by
  obtain ⟨first, rest, rfl⟩ := List.exists_cons_of_ne_nil hne
  rw [List.cons_append, lead_cons, lead_cons]
  by_cases hfirst : first = []
  · have hrest : rest ≠ [] := by
      rintro rfl
      exact hp (hfirst ▸ rfl)
    simp [hfirst, hrest]
  · simp [hfirst]

/-- **Names behind a directory** are its components followed by the names. -/
theorem components_inDirectory (directory : String) (hne : ns ≠ []) (hn : ∀ n ∈ ns, Ordinary n) :
    components (inDirectory directory ns) = components directory ++ ns.map .name := by
  have hparts := splitOn_intercalate_names hne hn
  unfold inDirectory
  split
  · next hd =>
    -- the first name is neither empty nor a single point
    obtain ⟨first, rest, rfl⟩ := List.exists_cons_of_ne_nil hne
    have hfirst := (hn first List.mem_cons_self).special
    have hempty : first.toList ≠ [] := fun he => hfirst (by simpa using Or.inl he)
    have hhere : first.toList ≠ ['.'] := fun he => by
      have hpoint : first = "." := String.toList_inj.mp (show first.toList = ".".toList from he)
      exact hfirst (by simp [hpoint])
    have hlead : lead ((first :: rest).map (·.toList)) = [] := by
      rw [List.map_cons, lead_cons, if_neg fun h => hempty h.1, if_neg hhere]
    rw [components_eq, hparts, hlead, filterMap_component?_names hn, hd]
    rfl
  · next hd =>
    have hsplit : (directory ++ "/" ++ String.intercalate "/" ns).toList.splitOn '/' =
        directory.toList.splitOn '/' ++ ns.map (·.toList) := by
      rw [← hparts, ← List.splitOn_append_cons_self]
      simp
    have hdirectory : directory.toList.splitOn '/' ≠ [[]] := by
      intro he
      have hjoin : ['/'].intercalate (directory.toList.splitOn '/') = directory.toList :=
        List.intercalate_splitOn '/'
      rw [he] at hjoin
      exact hd (String.toList_inj.mp hjoin.symm)
    rw [components_eq, components_eq, hsplit, List.filterMap_append,
      filterMap_component?_names hn, lead_append (List.splitOn_ne_nil _ _) hdirectory,
      List.append_assoc]

theorem intercalate_eq_empty_iff (hn : ∀ n ∈ ns, Ordinary n) :
    String.intercalate "/" ns = "" ↔ ns = [] := by
  refine ⟨fun h => ?_, fun h => h ▸ rfl⟩
  by_contra hne
  have hparts := splitOn_intercalate_names hne hn
  -- the empty text has one part, the empty one, and no name is empty
  obtain ⟨first, rest, rfl⟩ := List.exists_cons_of_ne_nil hne
  rw [h] at hparts
  have hfirst : [] = first.toList := (List.cons.inj hparts).1
  exact (hn first List.mem_cons_self).ne_empty (String.toList_inj.mp hfirst.symm)

/-- **Names joined by slashes can be told apart.** -/
theorem intercalate_injective (hn : ∀ n ∈ ns, Ordinary n) (hn' : ∀ n ∈ ns', Ordinary n)
    (h : String.intercalate "/" ns = String.intercalate "/" ns') : ns = ns' := by
  by_cases hne : ns = []
  · subst hne
    exact ((intercalate_eq_empty_iff hn').mp h.symm).symm
  · have hne' : ns' ≠ [] := fun he =>
      hne ((intercalate_eq_empty_iff hn).mp (h.trans (he ▸ rfl)))
    have hparts : ns.map (·.toList) = ns'.map (·.toList) := by
      rw [← splitOn_intercalate_names hne hn, h, splitOn_intercalate_names hne' hn']
    exact List.map_injective_iff.mpr (fun _ _ => String.toList_inj.mp) hparts

/-! ### Extensions -/

/-- A name is left as it is, or some of its characters are left. -/
theorem splitName_fst_cases (s : String) :
    (splitName s).1 = s ∨
      (splitName s).1 ≠ "" ∧ ∀ c ∈ (splitName s).1.toList, c ∈ s.toList := by
  unfold splitName
  dsimp only
  split
  · exact .inl rfl
  · next h =>
    rw [Bool.or_eq_true, not_or] at h
    refine .inr ⟨fun hempty => h.1 ?_, fun c hc => ?_⟩
    · rw [List.isEmpty_iff]
      simpa using congrArg String.toList hempty
    · rw [String.toList_ofList] at hc
      exact List.mem_of_mem_take hc

/-- A name with an extension is longer than the names that stand for directories. -/
theorem two_lt_length_extended (n : String) : 2 < (n ++ ".yml").length := by
  have hlength : ".yml".length = 4 := by decide
  rw [String.length_append, hlength]
  omega

theorem splitName_extended (hn : n ≠ "") : (splitName (n ++ ".yml")).1 = n := by
  have hlist : n.toList ≠ [] := by simpa using hn
  have hspecial : n ++ ".yml" ≠ ".." := by
    intro he
    have hlength := two_lt_length_extended n
    rw [he] at hlength
    exact absurd hlength (by decide)
  unfold splitName
  simp [hlist, hspecial]

theorem Ordinary.extended (h : Ordinary n) : Ordinary (n ++ ".yml") := by
  have hlength := two_lt_length_extended n
  refine ⟨fun hs => ?_, by simp [h.slash]⟩
  generalize n ++ ".yml" = s at hs hlength
  simp only [List.mem_cons, List.not_mem_nil, or_false] at hs
  rcases hs with rfl | rfl | rfl <;> revert hlength <;> decide

/-- **What is left of an ordinary name without its extension** is ordinary, unless it is made of one
or two points alone. -/
theorem ordinary_stem (h : Ordinary s) (h1 : (splitName s).1 ≠ ".") (h2 : (splitName s).1 ≠ "..") :
    Ordinary (splitName s).1 := by
  rcases splitName_fst_cases s with hs | ⟨hne, hmem⟩
  · rw [hs]
    exact h
  · exact ⟨by simp [hne, h1, h2], fun hslash => h.slash (hmem _ hslash)⟩

end RouteFlow.Files.Path
