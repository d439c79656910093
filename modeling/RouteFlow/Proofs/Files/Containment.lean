import RouteFlow.Proofs.Files.Components

/-!
# Files inside a directory

A file is accepted below a directory if the components of its path begin with those of the
directory, and it is known there by the names after these. Components that are no names are left
out, and so is what is left of the last name if it is made of points alone. So the name of a file
says where it is only if nothing is left out that leads somewhere (`Drops`).

`resolve` follows a path by its text. Of two files that are known by one name and for neither of
which anything was left out, the resolved paths are the same but for the extension
(`not_drops_iff`); such files lie under the directory. Where something was left out the name belongs
to another file. The proof weighs a path, a name counting one and a `..` minus one: a `..` that
leads somewhere costs one (`weight_foldl_follow_le`), so that the path that was resolved weighs less
than its name says.

* `inside_and_apart_iff` — which of the accepted files lie under the directory and are told apart;
* `file_outside_accepted` — a file that is accepted though it is outside.
-/

namespace RouteFlow.Files

/-- What a component counts: a name leads one further, and a `..` one back. -/
def Component.weight : Component → Int
  | .name _ => 1
  | .above => -1
  | _ => 0

namespace Path

variable {cs place before after rest : List Component} {s n : String} {ns : List String}

/-! ### Where a path leads -/

/-- The place above another one. Above the outermost directory there is only itself, and where no
name is left to take away a `..` stays. -/
def above (place : List Component) : List Component :=
  match place.getLast? with
  | some (.name _) => place.dropLast
  | some .root => place
  | _ => place ++ [.above]

/-- The place that one more component leads to. -/
def follow (place : List Component) : Component → List Component
  | .root => [.root]
  | .here => place
  | .name s => place ++ [.name s]
  | .above => above place

/-- **The place that components lead to**, by their text. -/
def resolve (cs : List Component) : List Component := cs.foldl follow []

/-- Components with the extension of the last one taken off. -/
def stem (cs : List Component) : List Component :=
  match cs.getLast? with
  | some (.name s) => cs.dropLast ++ [.name (splitName s).1]
  | _ => cs

theorem resolve_append (a b : List Component) : resolve (a ++ b) = b.foldl follow (resolve a) :=
  List.foldl_append

/-- A place above another one is that place, or a name shorter, or one `..` longer. -/
theorem above_cases (place : List Component) :
    above place = place ∨ (∃ before s, place = before ++ [.name s] ∧ above place = before) ∨
      above place = place ++ [.above] := by
  unfold above
  split
  · next s hs => exact .inr (.inl ⟨_, s, (List.dropLast_append_getLast? _ hs).symm, rfl⟩)
  · exact .inl rfl
  · exact .inr (.inr rfl)

theorem above_concat_name (place : List Component) (s : String) :
    above (place ++ [.name s]) = place := by
  simp [above]

/-- An extension is only taken off a name at the end. -/
theorem stem_cases (cs : List Component) :
    stem cs = cs ∨ ∃ before s, cs = before ++ [.name s] ∧
      stem cs = before ++ [.name (splitName s).1] := by
  unfold stem
  split
  · next s hs => exact .inr ⟨_, s, (List.dropLast_append_getLast? _ hs).symm, rfl⟩
  · exact .inl rfl

theorem stem_concat_name (cs : List Component) (s : String) :
    stem (cs ++ [.name s]) = cs ++ [.name (splitName s).1] := by
  simp [stem]

/-- Taking off an extension leaves as many components. -/
theorem length_stem (cs : List Component) : (stem cs).length = cs.length := by
  rcases stem_cases cs with h | ⟨before, s, rfl, h⟩ <;> simp [h]

theorem withoutExtension_concat_name (cs : List Component) (s : String) :
    withoutExtension (cs ++ [.name s]) =
      cs ++ (component? (splitName s).1.toList).toList := by
  simp [withoutExtension]

theorem withoutExtension_of_getLast? (h : ∀ s, cs.getLast? ≠ some (.name s)) :
    withoutExtension cs = cs := by
  unfold withoutExtension
  split
  · next s hs => exact absurd hs (h s)
  · rfl

/-! ### Names -/

theorem names_append (a b : List Component) : names (a ++ b) = names a ++ names b :=
  List.filterMap_append

theorem names_map_name (ns : List String) : names (ns.map .name) = ns := by
  induction ns with
  | nil => rfl
  | cons n rest ih => exact congrArg (n :: ·) ih

theorem mem_names_iff : n ∈ names cs ↔ .name n ∈ cs := by
  unfold names
  rw [List.mem_filterMap]
  constructor
  · rintro ⟨c, hc, hn⟩
    cases c with
    | name s => exact Option.some.inj hn ▸ hc
    | root | here | above => cases hn
  · exact fun h => ⟨_, h, rfl⟩

/-! ### Weights -/

/-- The components of a path counted together. -/
def weight : List Component → Int
  | [] => 0
  | c :: rest => c.weight + weight rest

theorem weight_append (a b : List Component) : weight (a ++ b) = weight a + weight b := by
  induction a with
  | nil => exact (Int.zero_add _).symm
  | cons c rest ih => rw [List.cons_append, weight, weight, ih, Int.add_assoc]

theorem weight_names (ns : List String) : weight (ns.map .name) = ns.length := by
  induction ns with
  | nil => rfl
  | cons n rest ih =>
    rw [List.map_cons, weight, ih, List.length_cons, Component.weight]
    omega

theorem weight_stem (cs : List Component) : weight (stem cs) = weight cs := by
  rcases stem_cases cs with h | ⟨before, s, rfl, h⟩
  · rw [h]
  · rw [h, weight_append, weight_append]
    rfl

/-- **A `..` that leads somewhere costs one.** -/
theorem weight_above (h : above place ≠ place) : weight (above place) = weight place - 1 := by
  rcases above_cases place with hsame | ⟨before, s, rfl, hshort⟩ | hlong
  · exact absurd hsame h
  · rw [hshort, weight_append]
    exact (Int.add_sub_cancel (weight before) 1).symm
  · rw [hlong, weight_append]
    rfl

/-- Following a component leads no further than its name does, if it has one. -/
theorem weight_follow_le {c : Component} (hc : c ≠ .root) (place : List Component) :
    weight (follow place c) ≤ weight place + (names [c]).length := by
  cases c with
  | root => exact absurd rfl hc
  | here => exact Int.le_of_eq (Int.add_zero _).symm
  | name s => exact Int.le_of_eq (weight_append place [.name s])
  | above =>
    change weight (above place) ≤ weight place + 0
    by_cases h : above place = place
    · exact Int.le_of_eq (by rw [h, Int.add_zero])
    · rw [weight_above h]
      omega

/-- **Following components leads no further than their names do.** -/
theorem weight_foldl_follow_le (hroot : .root ∉ cs) (place : List Component) :
    weight (cs.foldl follow place) ≤ weight place + (names cs).length := by
  induction cs generalizing place with
  | nil => exact Int.le_of_eq (Int.add_zero _).symm
  | cons c rest ih =>
    obtain ⟨hc, hrest⟩ := not_or.mp (mt List.mem_cons.mpr hroot)
    have hfirst := weight_follow_le (Ne.symm hc) place
    have hothers := ih hrest (follow place c)
    have hnames : (names (c :: rest)).length = (names [c]).length + (names rest).length := by
      rw [← List.length_append, ← names_append]
      rfl
    rw [List.foldl_cons, hnames]
    omega

/-- Names alone lead as far as they say, and so do names among which no component leads
elsewhere. -/
theorem foldl_follow_eq (hroot : .root ∉ cs)
    (h : ∀ before after, cs = before ++ .above :: after →
      above (before.foldl follow place) = before.foldl follow place) :
    cs.foldl follow place = place ++ (names cs).map .name := by
  induction cs generalizing place with
  | nil => exact (List.append_nil place).symm
  | cons c rest ih =>
    obtain ⟨hc, hrest⟩ := not_or.mp (mt List.mem_cons.mpr hroot)
    have hnext := ih hrest fun before after hsplit =>
      h (c :: before) after (congrArg (c :: ·) hsplit)
    rw [List.foldl_cons, hnext]
    cases c with
    | root => exact absurd rfl hc
    | here => rfl
    | name s =>
      change place ++ [.name s] ++ (names rest).map .name = _
      rw [List.append_assoc]
      rfl
    | above =>
      have hplace : above place = place := h [] rest rfl
      change above place ++ _ = _
      rw [hplace]
      rfl

/-! ### Accepted files -/

/-- The names by which a file is known whose components after those of the directory are `rest`. -/
def way (rest : List Component) : List String := names (withoutExtension rest)

theorem inside?_eq_some_iff {dir cs rest : List Component} :
    inside? dir cs = some rest ↔ cs = dir ++ rest := by
  constructor
  · intro h
    induction dir generalizing cs with
    | nil => exact Option.some.inj h
    | cons d ds ih =>
      cases cs with
      | nil => cases h
      | cons c cs =>
        unfold inside? at h
        split at h
        · next hd => rw [List.cons_append, hd, ih h]
        · cases h
  · rintro rfl
    exact inside?_append dir rest

theorem way_concat {before : List Component} {s : String} (h : Ordinary (splitName s).1) :
    way (before ++ [.name s]) = names before ++ [(splitName s).1] := by
  rw [way, withoutExtension_concat_name, h.component?, names_append]
  rfl

/-- The last component is no name, or what is left of the name without its extension is ordinary. -/
def EndsOrdinary (rest : List Component) : Prop :=
  ∀ before s, rest = before ++ [.name s] → Ordinary (splitName s).1

/-- Then as many names are left as there are. -/
theorem EndsOrdinary.length_way (h : EndsOrdinary rest) :
    (way rest).length = (names rest).length := by
  rcases List.eq_nil_or_concat rest with rfl | ⟨before, c, rfl⟩
  · rfl
  · rw [List.concat_eq_append] at h ⊢
    cases c with
    | name s =>
      rw [way_concat (h before s rfl), names_append, List.length_append, List.length_append]
      rfl
    | root | here | above => rw [way, withoutExtension_of_getLast? (by simp)]

/-! ### Absolute places -/

theorem root_mem_stem (h : .root ∈ cs) : .root ∈ stem cs := by
  rcases stem_cases cs with hstem | ⟨before, s, rfl, hstem⟩
  · rwa [hstem]
  · rw [hstem]
    simpa using h

theorem root_mem_follow (h : .root ∈ place) (c : Component) : .root ∈ follow place c := by
  cases c with
  | root => exact List.mem_singleton.mpr rfl
  | here => exact h
  | name s => exact List.mem_append_left _ h
  | above =>
    change .root ∈ above place
    rcases above_cases place with hsame | ⟨before, s, rfl, hshort⟩ | hlong
    · rwa [hsame]
    · rw [hshort]
      simpa using h
    · rw [hlong]
      exact List.mem_append_left _ h

/-- A place that was reached from the root, or by the root, stays absolute. -/
theorem root_mem_foldl (h : .root ∈ place ∨ .root ∈ cs) : .root ∈ cs.foldl follow place := by
  induction cs generalizing place with
  | nil => exact h.resolve_right List.not_mem_nil
  | cons c rest ih =>
    rw [List.foldl_cons]
    refine ih ?_
    rcases h with h | h
    · exact .inl (root_mem_follow h c)
    · rcases List.mem_cons.mp h with rfl | h
      · exact .inl (List.mem_singleton.mpr rfl)
      · exact .inr h

end Path

open RouteFlow.Files.Path

variable {directory file file' name n : String} {rest : List Component}

/-- **A file is accepted** if its components begin with those of the directory. -/
theorem routePath_eq_ok_iff_way :
    routePath (components directory) file = .ok name ↔
      ∃ rest, components file = components directory ++ rest ∧
        String.intercalate "/" (way rest) = name := by
  rw [routePath_eq_ok_iff, routePath?, Option.map_eq_some_iff]
  simp only [inside?_eq_some_iff]
  rfl

/-- A file lies under a directory: names lead to it from there. -/
def LiesUnder (directory file : String) : Prop :=
  ∃ ns : List String,
    resolve (components file) = resolve (components directory) ++ ns.map .name

/-- Two paths lead to the same place, but for the extension of the last name. -/
def SameUpToExtension (file file' : String) : Prop :=
  stem (resolve (components file)) = stem (resolve (components file'))

/-- **Something is left out of the name of a file** that tells where it is. -/
inductive Drops (directory file : String) : Prop
  /-- The root, where the directory is the empty path. -/
  | root (hd : components directory = []) (hf : .root ∈ components file)
  /-- A `..` behind the directory that leads somewhere. -/
  | above {before after : List Component}
      (hf : components file = components directory ++ before ++ .above :: after)
      (hp : Path.above (resolve (components directory ++ before)) ≠
        resolve (components directory ++ before))
  /-- One or two points, which are left of the last name without its extension. -/
  | points {before : List Component} {s : String}
      (hf : components file = components directory ++ before ++ [.name s])
      (hs : (splitName s).1 = "." ∨ (splitName s).1 = "..")

/-- **A file is not where its name says.** The empty name is that of the directory. -/
inductive Strays (directory file : String) : String → Prop
  | nameless (h : resolve (components file) ≠ resolve (components directory)) :
      Strays directory file ""
  | named {name : String} (hn : name ≠ "") (h : Drops directory file) :
      Strays directory file name

section Accepted

variable (hrest : components file = components directory ++ rest)

include hrest

theorem ordinary_of_mem_rest {s : String} (h : .name s ∈ rest) : Ordinary s := by
  have hmem : .name s ∈ components file := by
    rw [hrest]
    exact List.mem_append_right _ h
  exact ordinary_of_mem_components hmem

/-- A root behind the directory means that the directory is the empty path. -/
theorem directory_eq_nil (hroot : .root ∈ rest) : components directory = [] := by
  obtain ⟨before, after, rfl⟩ := List.append_of_mem hroot
  rw [← List.append_assoc] at hrest
  exact (List.append_eq_nil_iff.mp (eq_nil_of_components_eq hrest (.inl rfl))).1

theorem root_notMem_rest (hd : ¬ Drops directory file) : .root ∉ rest := fun hroot =>
  hd (.root (directory_eq_nil hrest hroot) (hrest ▸ List.mem_append_right _ hroot))

/-- What is left of the last name is ordinary, unless it is left out. -/
theorem endsOrdinary_of_not_drops (hd : ¬ Drops directory file) : EndsOrdinary rest := by
  intro before s hlast
  have hfile : components file = components directory ++ before ++ [.name s] := by
    rw [hrest, hlast, List.append_assoc]
  have hs : Ordinary s :=
    ordinary_of_mem_rest hrest (hlast ▸ List.mem_append_right _ (List.mem_singleton.mpr rfl))
  exact ordinary_stem hs (fun h => hd (.points hfile (.inl h))) fun h => hd (.points hfile (.inr h))

omit hrest in
/-- A `..` behind the directory stays where it is, unless it is left out. -/
theorem above_resolve_of_not_drops (hd : ¬ Drops directory file) {before after : List Component}
    (hfile : components file = components directory ++ before ++ .above :: after) :
    Path.above (resolve (components directory ++ before)) =
      resolve (components directory ++ before) := by
  by_contra hp
  exact hd (.above hfile hp)

/-- **Where nothing is left out**, names lead from the directory to the file. -/
theorem resolve_of_not_drops (hd : ¬ Drops directory file) :
    resolve (components file) = resolve (components directory) ++ (names rest).map .name := by
  rw [hrest, resolve_append]
  refine foldl_follow_eq (root_notMem_rest hrest hd) fun before after hsplit => ?_
  have hfile : components file = components directory ++ before ++ .above :: after := by
    rw [hrest, hsplit, List.append_assoc]
  rw [← resolve_append]
  exact above_resolve_of_not_drops hd hfile

theorem ordinary_of_mem_way (hn : n ∈ way rest) : Ordinary n := by
  rcases List.eq_nil_or_concat rest with rfl | ⟨before, c, rfl⟩
  · exact absurd hn List.not_mem_nil
  · rw [List.concat_eq_append] at hrest hn
    cases c with
    | name s =>
      rw [way, withoutExtension_concat_name, names_append, List.mem_append, mem_names_iff,
        mem_names_iff] at hn
      rcases hn with hn | hn
      · exact ordinary_of_mem_rest hrest (List.mem_append_left _ hn)
      · -- what is left of the last name is one only if it is not made of points alone
        obtain ⟨hs, hspecial⟩ := component?_eq_name_iff.mp (Option.mem_toList.mp hn)
        rw [← String.toList_inj.mp hs] at hspecial ⊢
        have hordinary : Ordinary s :=
          ordinary_of_mem_rest hrest (List.mem_append_right _ List.mem_cons_self)
        simp only [List.mem_cons, List.not_mem_nil, or_false, not_or] at hspecial
        exact ordinary_stem hordinary hspecial.2.1 hspecial.2.2
    | root | here | above =>
      rw [way, withoutExtension_of_getLast? (by simp), mem_names_iff] at hn
      exact ordinary_of_mem_rest hrest hn

/-- A `..` at the end would take the last name back, so there is none if it stays where it is. -/
theorem names_eq_nil_of_last_above (hd : ¬ Drops directory file) {before : List Component}
    (hlast : rest = before ++ [.above]) : names rest = [] := by
  by_contra hne
  obtain ⟨init, n, hn⟩ := (List.eq_nil_or_concat (names rest)).resolve_left hne
  have hfile : components file = components directory ++ before ++ [.above] := by
    rw [hrest, hlast, List.append_assoc]
  have hplace := above_resolve_of_not_drops hd hfile
  have hresolve : resolve (components directory ++ before) =
      resolve (components directory) ++ init.map .name ++ [.name n] := by
    calc
      resolve (components directory ++ before)
        = resolve (components file) := by
          rw [hfile, resolve_append _ [.above]]
          exact hplace.symm
      _ = resolve (components directory) ++ (names rest).map .name :=
          resolve_of_not_drops hrest hd
      _ = resolve (components directory) ++ init.map .name ++ [.name n] := by
          rw [hn, List.concat_eq_append, List.map_append, ← List.append_assoc]
          rfl
  rw [hresolve, above_concat_name] at hplace
  have hlength := congrArg List.length hplace
  simp at hlength

/-- Where nothing is left out and there is a way at all, a name is at its end. -/
theorem exists_last_of_not_drops (hd : ¬ Drops directory file) (hne : way rest ≠ []) :
    ∃ before s, rest = before ++ [.name s] := by
  rcases List.eq_nil_or_concat rest with hnil | ⟨before, c, hlast⟩
  · exact absurd (hnil ▸ rfl) hne
  · rw [List.concat_eq_append] at hlast
    cases c with
    | name s => exact ⟨before, s, hlast⟩
    | root =>
      have hroot := root_notMem_rest hrest hd
      exact absurd (hlast ▸ List.mem_append_right _ List.mem_cons_self) hroot
    | here =>
      -- nothing stands before a `.`, so there would be no way
      rw [hlast, ← List.append_assoc] at hrest
      obtain ⟨-, rfl⟩ := List.append_eq_nil_iff.mp (eq_nil_of_components_eq hrest (.inr rfl))
      exact absurd (hlast ▸ rfl) hne
    | above =>
      have hway : way rest = names rest := by
        rw [way, withoutExtension_of_getLast? (by simp [hlast])]
      exact absurd (hway.trans (names_eq_nil_of_last_above hrest hd hlast)) hne

/-- **Where nothing is left out**, the file is where its name says, but for the extension. -/
theorem stem_resolve_of_not_drops (hd : ¬ Drops directory file) (hne : way rest ≠ []) :
    stem (resolve (components file)) =
      resolve (components directory) ++ (way rest).map .name := by
  obtain ⟨before, s, hlast⟩ := exists_last_of_not_drops hrest hd hne
  have hordinary := endsOrdinary_of_not_drops hrest hd before s hlast
  have hnames : names rest = names before ++ [s] := by
    rw [hlast, names_append]
    rfl
  rw [resolve_of_not_drops hrest hd, hnames, hlast, way_concat hordinary, List.map_append,
    List.map_append, ← List.append_assoc, ← List.append_assoc]
  exact stem_concat_name _ s

end Accepted

/-! ### Where something is left out -/

section Accepted

variable (hrest : components file = components directory ++ rest) (hne : way rest ≠ [])
variable (h : stem (resolve (components file)) =
  resolve (components directory) ++ (way rest).map .name)

include hrest hne h

omit hne in
theorem root_notMem_of_stem_resolve : .root ∉ rest := by
  intro hroot
  have hdir := directory_eq_nil hrest hroot
  have hresolve : .root ∈ resolve (components file) :=
    root_mem_foldl (.inr (hrest ▸ List.mem_append_right _ hroot))
  have hstem := root_mem_stem hresolve
  rw [h, hdir] at hstem
  -- what was reached from the empty path by names alone is not absolute
  obtain ⟨n, -, hn⟩ := List.mem_map.mp hstem
  cases hn

theorem endsOrdinary_of_stem_resolve : EndsOrdinary rest := by
  intro before s hlast
  obtain ⟨init, n, hway⟩ := (List.eq_nil_or_concat (way rest)).resolve_left hne
  have hfile : resolve (components file) =
      resolve (components directory ++ before) ++ [.name s] := by
    rw [hrest, hlast, ← List.append_assoc, resolve_append]
    rfl
  rw [hfile, stem_concat_name, hway, List.concat_eq_append, List.map_append,
    ← List.append_assoc] at h
  have hn : n ∈ way rest := by simp [hway]
  have hlasts := (List.append_inj' h rfl).2
  simp only [List.map_cons, List.map_nil, List.cons.injEq, Component.name.injEq, and_true] at hlasts
  rw [hlasts]
  exact ordinary_of_mem_way hrest hn

/-- **A file that is where its name says** has nothing left out of its name. -/
theorem not_drops_of_stem_resolve : ¬ Drops directory file := by
  have hroot := root_notMem_of_stem_resolve hrest h
  have hends := endsOrdinary_of_stem_resolve hrest hne h
  intro hdrops
  cases hdrops with
  | root hd hf =>
    rw [hrest, hd] at hf
    exact hroot hf
  | @points before s hf hs =>
    rw [hrest, List.append_assoc] at hf
    have hspecial := (hends before s (List.append_cancel_left hf)).special
    rcases hs with hs | hs <;> simp [hs] at hspecial
  | @above before after hf hp =>
    rw [hrest, List.append_assoc] at hf
    have hsplit := List.append_cancel_left hf
    rw [hsplit, List.mem_append, List.mem_cons, not_or, not_or] at hroot
    -- the weight of the name, and that of the place which the `..` leads to
    have hname := congrArg weight h
    rw [weight_stem, weight_append, weight_names, hends.length_way] at hname
    have hnames : (names rest).length = (names before).length + (names after).length := by
      rw [hsplit, names_append, List.length_append]
      rfl
    have hfile : resolve (components file) =
        after.foldl follow (Path.above (resolve (components directory ++ before))) := by
      rw [hrest, hsplit, resolve_append, resolve_append, List.foldl_append]
      rfl
    have hbefore : weight (resolve (components directory ++ before)) ≤
        weight (resolve (components directory)) + (names before).length := by
      rw [resolve_append]
      exact weight_foldl_follow_le hroot.1 _
    have hcost := weight_above hp
    have hafter := weight_foldl_follow_le hroot.2.2
      (Path.above (resolve (components directory ++ before)))
    rw [← hfile] at hafter
    omega

end Accepted

/-- **Nothing is left out of the name of a file exactly if the file is where its name says.** -/
theorem not_drops_iff (hrest : components file = components directory ++ rest)
    (hne : way rest ≠ []) :
    ¬ Drops directory file ↔ stem (resolve (components file)) =
      resolve (components directory) ++ (way rest).map .name :=
  ⟨fun hd => stem_resolve_of_not_drops hrest hd hne, not_drops_of_stem_resolve hrest hne⟩

/-! ### Telling files apart -/

/-- **Every name is that of a file** whose name nothing is left out of. -/
theorem exists_file_not_drops (directory : String) {ns : List String} (hne : ns ≠ [])
    (hn : ∀ n ∈ ns, Ordinary n) :
    ∃ file, routePath (components directory) file = .ok (String.intercalate "/" ns) ∧
      ¬ Drops directory file := by
  obtain ⟨init, last, hlast⟩ := (List.eq_nil_or_concat ns).resolve_left hne
  rw [List.concat_eq_append] at hlast
  subst hlast
  have hordinary : Ordinary last := hn last (by simp)
  -- with an extension put to it the last name is left whole when an extension is taken off
  have hnames : ∀ n ∈ init ++ [last ++ ".yml"], Ordinary n := by
    intro n hmem
    rcases List.mem_append.mp hmem with hmem | hmem
    · exact hn n (List.mem_append_left _ hmem)
    · rw [List.mem_singleton.mp hmem]
      exact hordinary.extended
  have hstem : (splitName (last ++ ".yml")).1 = last := splitName_extended hordinary.ne_empty
  have hfile := components_inDirectory directory (by simp) hnames
  refine ⟨_, routePath_eq_ok_iff_way.mpr ⟨_, hfile, ?_⟩, fun hdrops => ?_⟩
  · rw [List.map_append, List.map_singleton, way_concat (by rwa [hstem]), names_map_name, hstem]
  · cases hdrops with
    | root hd hf => simp [hfile, hd] at hf
    | above hf _ =>
      rw [hfile, List.append_assoc] at hf
      have hmem := List.append_cancel_left hf ▸ List.mem_append_right _ List.mem_cons_self
      simp at hmem
    | points hf hs =>
      rw [hfile, List.map_append, ← List.append_assoc] at hf
      have hlast := (List.append_inj' hf rfl).2
      simp only [List.map_cons, List.map_nil, List.cons.injEq, Component.name.injEq,
        and_true] at hlast
      rw [← hlast, hstem] at hs
      rcases hs with rfl | rfl <;> exact absurd hordinary.special (by decide)

theorem strays_empty_iff :
    Strays directory file "" ↔ resolve (components file) ≠ resolve (components directory) := by
  constructor
  · intro h
    cases h with
    | nameless h => exact h
    | named hn _ => exact absurd rfl hn
  · exact .nameless

theorem strays_iff_drops (hname : name ≠ "") :
    Strays directory file name ↔ Drops directory file := by
  constructor
  · intro h
    cases h with
    | nameless _ => exact absurd rfl hname
    | named _ h => exact h
  · exact .named hname

/-- The empty name is that of the directory, so a file with this name is told apart from the
directory exactly if it is the directory. -/
theorem same_directory_iff :
    resolve (components file) = resolve (components directory) ↔
      LiesUnder directory file ∧ SameUpToExtension file directory := by
  constructor
  · intro hsame
    refine ⟨⟨[], by simpa using hsame⟩, ?_⟩
    rw [SameUpToExtension, hsame]
  · rintro ⟨⟨ns, hns⟩, hsame⟩
    -- the file is no further than the directory, so no name leads from there to it
    have hlength := congrArg List.length hsame
    rw [length_stem, length_stem, hns, List.length_append, List.length_map,
      Nat.add_eq_left, List.length_eq_zero_iff] at hlength
    rw [hns, hlength]
    exact List.append_nil _

/-- A file that nothing is left out of is where its name says, whichever of the files with this name
the name is taken from. -/
theorem stem_resolve_of_same_name {rest : List Component}
    (hrest : components file = components directory ++ rest) (hne : way rest ≠ [])
    (h : routePath (components directory) file' = .ok (String.intercalate "/" (way rest)))
    (hd : ¬ Drops directory file') :
    stem (resolve (components file')) =
      resolve (components directory) ++ (way rest).map .name := by
  obtain ⟨rest', hrest', hway⟩ := routePath_eq_ok_iff_way.mp h
  have hsame : way rest' = way rest :=
    intercalate_injective (fun n => ordinary_of_mem_way hrest')
      (fun n => ordinary_of_mem_way hrest) hway
  rw [← hsame] at hne ⊢
  exact stem_resolve_of_not_drops hrest' hd hne

/-- **Which accepted files lie inside the directory and are told apart.** For every directory and
every file that is accepted below it: the file is where its name says exactly if it lies under the
directory and its resolved path is, but for the extension, that of every other file which is known
by the same name and is where the name says. It is not if the root, a `..` that leads somewhere, or
points that are left of the last name were left out of its name, or if its name is empty though it
is not the directory. -/
theorem inside_and_apart_iff (h : routePath (components directory) file = .ok name) :
    ¬ Strays directory file name ↔
      LiesUnder directory file ∧
        ∀ file', routePath (components directory) file' = .ok name →
          ¬ Strays directory file' name → SameUpToExtension file file' := by
  obtain ⟨rest, hrest, rfl⟩ := routePath_eq_ok_iff_way.mp h
  have hordinary : ∀ n ∈ way rest, Ordinary n := fun n => ordinary_of_mem_way hrest
  by_cases hne : way rest = []
  · have hname : String.intercalate "/" (way rest) = "" :=
      (intercalate_eq_empty_iff hordinary).mpr hne
    have hdirectory : routePath (components directory) directory = .ok "" :=
      routePath_eq_ok_iff_way.mpr ⟨[], (List.append_nil _).symm, rfl⟩
    rw [hname]
    simp only [strays_empty_iff, not_not]
    constructor
    · intro hsame
      refine ⟨(same_directory_iff.mp hsame).1, fun file' _ hsame' => ?_⟩
      rw [SameUpToExtension, hsame, hsame']
    · rintro ⟨hunder, hall⟩
      exact same_directory_iff.mpr ⟨hunder, hall directory hdirectory rfl⟩
  · have hname : String.intercalate "/" (way rest) ≠ "" :=
      mt (intercalate_eq_empty_iff hordinary).mp hne
    simp only [strays_iff_drops hname]
    constructor
    · intro hd
      refine ⟨⟨names rest, resolve_of_not_drops hrest hd⟩, fun file' h' hd' => ?_⟩
      calc
        stem (resolve (components file))
          = resolve (components directory) ++ (way rest).map .name :=
            stem_resolve_of_not_drops hrest hd hne
        _ = stem (resolve (components file')) :=
            (stem_resolve_of_same_name hrest hne h' hd').symm
    · rintro ⟨-, hall⟩
      -- the file is the same as one that is where the name says
      obtain ⟨file', h', hd'⟩ := exists_file_not_drops directory hne hordinary
      refine (not_drops_iff hrest hne).mpr ?_
      calc
        stem (resolve (components file))
          = stem (resolve (components file')) := hall file' h' hd'
        _ = resolve (components directory) ++ (way rest).map .name :=
            stem_resolve_of_same_name hrest hne h' hd'

/-- A file below a directory is where its name says. Another one has the same name though it is
elsewhere: of its own name nothing but a point is left. -/
theorem inside_and_apart_iff_users :
    (routePath (components "/dsl") "/dsl/users.yml" = .ok "users" ∧
      LiesUnder "/dsl" "/dsl/users.yml" ∧
      ∀ file', routePath (components "/dsl") file' = .ok "users" →
        ¬ Strays "/dsl" file' "users" → SameUpToExtension "/dsl/users.yml" file') ∧
    routePath (components "/dsl") "/dsl/users/..yml" = .ok "users" ∧
      Strays "/dsl" "/dsl/users/..yml" "users" := by
  have hname : "users" ≠ "" := by decide
  have hplain : routePath (components "/dsl") "/dsl/users.yml" = .ok "users" :=
    routePath_eq_ok_iff.mpr (by decide +kernel)
  have hfile : components "/dsl/users.yml" = components "/dsl" ++ [.name "users.yml"] := by
    decide +kernel
  have hne : way [.name "users.yml"] ≠ [] := by decide +kernel
  have hstays : ¬ Strays "/dsl" "/dsl/users.yml" "users" := by
    rw [strays_iff_drops hname, not_drops_iff hfile hne]
    decide +kernel
  have hpoints : Drops "/dsl" "/dsl/users/..yml" :=
    .points (show _ = components "/dsl" ++ [.name "users"] ++ [.name "..yml"] by decide +kernel)
      (.inl (by decide +kernel))
  exact ⟨⟨hplain, (inside_and_apart_iff hplain).mp hstays⟩,
    routePath_eq_ok_iff.mpr (by decide +kernel), .named hname hpoints⟩

/-- A file is accepted below a directory though it lies outside of it, and has the name of a file
that lies inside. -/
theorem file_outside_accepted :
    routePath (components "a") "a/../b.yml" = .ok "b" ∧
      routePath (components "a") "a/b.yml" = .ok "b" ∧
      ¬ LiesUnder "a" "a/../b.yml" ∧ ¬ SameUpToExtension "a/../b.yml" "a/b.yml" := by
  have hfile : resolve (components "a/../b.yml") = [.name "b.yml"] := by decide +kernel
  have hdirectory : resolve (components "a") = [.name "a"] := by decide +kernel
  refine ⟨routePath_eq_ok_iff.mpr (by decide +kernel), routePath_eq_ok_iff.mpr (by decide +kernel),
    ?_, by unfold SameUpToExtension; decide +kernel⟩
  rintro ⟨ns, hns⟩
  rw [hfile, hdirectory] at hns
  have hnames : "b.yml" = "a" := Component.name.inj (List.cons.inj hns).1
  exact absurd hnames (by decide)

end RouteFlow.Files
