import RouteFlow.Proofs.Last
import RouteFlow.Proofs.OpenApi.Projection

/-!
# What stands under a path

Routes with the same path share one path item. Each route is merged into what is already there, part
by part, so that different parts of an item may come from different routes: an operation comes from
the last route with its method, and the description from the last route that has one, whatever the
method (`Gathers`). A route without a description does not take away an earlier one.

Everything is by induction along the routes, one more at the end (`paths_project_concat`).
-/

namespace RouteFlow.OpenApi

open Document (Declaration)

variable {d : Declaration} {name path : String} {routes : List (Declaration × String)}

/-- **A route stands under a path**: it is described, and the path is its own. -/
abbrev StandsUnder (path : String) (r : Declaration × String) : Prop :=
  r.1.method ∈ describedMethods ∧ r.1.route r.2 = path

/-- A route stands under a path and has a description. -/
abbrev DescribedUnder (path : String) (r : Declaration × String) : Prop :=
  StandsUnder path r ∧ r.1.description? ≠ none

/-- A route has a method and a path. -/
abbrev HasRoute (m : Http.Method) (path : String) (r : Declaration × String) : Prop :=
  r.1.method = m ∧ r.1.route r.2 = path

/-! ### One more route -/

theorem exists_pathItem?_iff : (∃ item, pathItem? d = some item) ↔ d.method ∈ describedMethods := by
  rw [← Option.ne_none_iff_exists', ne_eq, pathItem?_eq_none_iff, not_not]

theorem addRoute_of_pathItem? {item : PathItem} (h : pathItem? d = some item)
    (paths : Entries PathItem) (name : String) :
    addRoute paths d name =
      paths.insertSorted (d.route name) (((paths.get? (d.route name)).getD .empty).merge item) := by
  rw [addRoute, projectRoute, h]
  rfl

theorem description?_of_pathItem? {item : PathItem} (h : pathItem? d = some item) :
    item.description? = d.description? := by
  unfold pathItem? at h
  cases hm : d.method <;> simp only [hm, Option.some.injEq, reduceCtorEq] at h <;> rw [← h]

theorem description?_merge (earlier later : PathItem) :
    (earlier.merge later).description? = later.description?.or earlier.description? := rfl

/-- A route that is described brings its path. -/
theorem mem_names_addRoute {paths : Entries PathItem} :
    path ∈ (addRoute paths d name).names ↔
      StandsUnder path (d, name) ∨ path ∈ paths.names := by
  by_cases hm : d.method ∈ describedMethods
  · obtain ⟨item, hitem⟩ := exists_pathItem?_iff.mpr hm
    rw [addRoute_of_pathItem? hitem, Entries.mem_names_insertSorted, StandsUnder, eq_comm]
    simp [hm]
  · rw [addRoute_of_notMem hm]
    simp [StandsUnder, hm]

theorem ascending_addRoute {paths : Entries PathItem} (h : paths.Ascending) :
    (addRoute paths d name).Ascending := by
  cases hd : pathItem? d with
  | none => rwa [addRoute_of_notMem (pathItem?_eq_none_iff.mp hd)]
  | some item =>
    rw [addRoute_of_pathItem? hd]
    exact h.insertSorted _ _

/-- The description that paths have under one of them. -/
def descriptionAt? (paths : Entries PathItem) (path : String) : Option String :=
  (paths.get? path).bind (·.description?)

/-- **A route with a description** replaces the one under its path, and no other route does. -/
theorem descriptionAt?_addRoute {paths : Entries PathItem} :
    descriptionAt? (addRoute paths d name) path =
      if DescribedUnder path (d, name) then d.description?
      else descriptionAt? paths path := by
  cases hd : pathItem? d with
  | none =>
    have hm := pathItem?_eq_none_iff.mp hd
    rw [addRoute_of_notMem hm, if_neg fun h => hm h.1.1]
  | some item =>
    have hm : d.method ∈ describedMethods := exists_pathItem?_iff.mp ⟨item, hd⟩
    unfold descriptionAt?
    rw [addRoute_of_pathItem? hd, Entries.get?_insertSorted]
    by_cases hp : d.route name = path
    · -- the item of the route is merged with what stood under its path
      subst hp
      have hold : ((paths.get? (d.route name)).getD .empty).description? =
          (paths.get? (d.route name)).bind (·.description?) := by
        cases paths.get? (d.route name) <;> rfl
      rw [if_pos rfl, Option.bind_some, description?_merge, hold, description?_of_pathItem? hd]
      by_cases hnone : d.description? = none
      · rw [if_neg fun h => h.2 hnone, hnone, Option.none_or]
      · obtain ⟨text, htext⟩ := Option.ne_none_iff_exists'.mp hnone
        rw [if_pos ⟨⟨hm, rfl⟩, hnone⟩, htext, Option.some_or]
    · rw [if_neg hp, if_neg fun h => hp h.1.2]

/-! ### All routes -/

theorem paths_project_concat (info : Info) (r : Declaration × String) :
    (project info (routes ++ [r])).paths = addRoute (project info routes).paths r.1 r.2 := by
  unfold project
  rw [List.foldl_append]
  rfl

/-- **The paths of a description** are those of the routes that are described. -/
theorem mem_names_project (info : Info) :
    path ∈ (project info routes).paths.names ↔ ∃ r ∈ routes, StandsUnder path r := by
  induction routes using List.reverseRecOn with
  | nil => exact iff_of_false List.not_mem_nil (by simp)
  | append_singleton rest r ih =>
    rw [paths_project_concat, mem_names_addRoute, ih]
    simp only [List.mem_append, List.mem_singleton, or_and_right, exists_or, exists_eq_left]
    rw [or_comm]

theorem ascending_project (info : Info) : (project info routes).paths.Ascending := by
  induction routes using List.reverseRecOn with
  | nil => exact Entries.ascending_nil
  | append_singleton rest r ih =>
    rw [paths_project_concat]
    exact ascending_addRoute ih

/-- **What a path is described by** is the description of the last route there that has one. -/
theorem descriptionAt?_project_eq_some_iff (info : Info) {text : String} :
    descriptionAt? (project info routes).paths path = some text ↔
      ∃ r, IsLast (DescribedUnder path) routes r ∧ r.1.description? = some text := by
  induction routes using List.reverseRecOn with
  | nil =>
    refine iff_of_false nofun ?_
    rintro ⟨r, hr, -⟩
    exact List.not_mem_nil hr.mem
  | append_singleton rest r ih =>
    rw [paths_project_concat, descriptionAt?_addRoute]
    simp only [isLast_concat_iff]
    by_cases hr : DescribedUnder path r
    · rw [if_pos hr]
      constructor
      · exact fun htext => ⟨r, .inl ⟨hr, rfl⟩, htext⟩
      · rintro ⟨r', ⟨-, rfl⟩ | ⟨hr', -⟩, htext⟩
        · exact htext
        · exact absurd hr hr'
    · rw [if_neg hr, ih]
      simp [hr]

theorem descriptionAt?_project_eq_none_iff (info : Info) :
    descriptionAt? (project info routes).paths path = none ↔
      ∀ r ∈ routes, StandsUnder path r → r.1.description? = none := by
  rw [Option.eq_none_iff_forall_ne_some]
  constructor
  · intro h r hr hunder
    by_contra hsome
    -- some route there has a description, so there is a last one that has
    obtain ⟨r', hr'⟩ :=
      exists_isLast_iff (P := DescribedUnder path) |>.mpr ⟨r, hr, hunder, hsome⟩
    obtain ⟨text, htext⟩ := Option.ne_none_iff_exists'.mp hr'.holds.2
    exact h text ((descriptionAt?_project_eq_some_iff info).mpr ⟨r', hr', htext⟩)
  · intro h text htext
    obtain ⟨r, hr, -⟩ := (descriptionAt?_project_eq_some_iff info).mp htext
    exact hr.holds.2 (h r hr.mem hr.holds.1)

/-- There is no operation for a method under a path exactly if no route has both. -/
theorem operation?_project_eq_none_iff {m : Http.Method} (hm : m ∈ describedMethods) (info : Info) :
    (project info routes).operation? m path = none ↔ ∀ r ∈ routes, ¬ HasRoute m path r := by
  rw [operation?_project hm, Option.bind_eq_none_iff, ← find?_reverse_eq_none_iff]
  constructor
  · intro h
    refine Option.eq_none_iff_forall_ne_some.mpr fun r hr => ?_
    -- the operation of the route that was found would be there
    have hdescribed : r.1.method ∈ describedMethods :=
      (find?_reverse_eq_some_iff.mp hr).holds.1 ▸ hm
    have hsome := isSome_routeOperation? hdescribed
    rw [h r hr] at hsome
    exact absurd hsome Bool.false_ne_true
  · intro h r hr
    exact absurd (h.symm.trans hr) nofun

/-- **An operation is that of the last route** that has its method and its path. -/
theorem operation?_project_of_isLast {m : Http.Method} (hm : m ∈ describedMethods) (info : Info)
    {r : Declaration × String} (hr : IsLast (HasRoute m path) routes r) :
    ∃ item, projectRoute r.1 r.2 = some (path, item) ∧
      (project info routes).operation? m path = item.operation? m := by
  obtain ⟨hmethod, hpath⟩ := hr.holds
  obtain ⟨item, hitem⟩ := exists_pathItem?_iff.mpr (hmethod ▸ hm)
  refine ⟨item, by rw [projectRoute, hitem, hpath]; rfl, ?_⟩
  rw [operation?_project hm, find?_reverse_eq_some_iff.mpr hr, operation?_of_pathItem? hitem,
    if_pos hmethod]
  rfl

/-! ### Path items -/

/-- **What a path item gathers**: for each described method, the operation of the last route with
this method and the path, if there is one, and the description of the last route under the path that
has one. -/
structure Gathers (routes : List (Declaration × String)) (path : String) (item : PathItem) :
    Prop where
  present : ∀ m ∈ describedMethods,
    (item.operation? m).isSome ↔ ∃ r ∈ routes, HasRoute m path r
  latest : ∀ m ∈ describedMethods, ∀ r, IsLast (HasRoute m path) routes r →
    ∃ single, projectRoute r.1 r.2 = some (path, single) ∧
      item.operation? m = single.operation? m
  description : ∀ text, item.description? = some text ↔
    ∃ r, IsLast (DescribedUnder path) routes r ∧ r.1.description? = some text
  undescribed : item.description? = none ↔
    ∀ r ∈ routes, StandsUnder path r → r.1.description? = none

/-- **A description gathers its routes path by path.** Its paths are those of the routes with a
described method, in order, and under each path stands an item that gathers the routes there. Routes
with other methods might as well not have been given. -/
theorem gathers_routes_by_path (info : Info) (routes : List (Declaration × String)) :
    (∀ path, path ∈ (project info routes).paths.names ↔ ∃ r ∈ routes, StandsUnder path r) ∧
      (project info routes).paths.Ascending ∧
      (∀ path item, (project info routes).paths.get? path = some item →
        Gathers routes path item) ∧
      project info (routes.filter fun r => r.1.method ∈ describedMethods) =
        project info routes := by
  refine ⟨fun path => mem_names_project info, ascending_project info, fun path item hitem => ?_,
    project_filter info routes⟩
  have hoperation : ∀ m, (project info routes).operation? m path = item.operation? m := fun m => by
    rw [Description.operation?, operationAt?, hitem, Option.bind_some]
  have hdescription : descriptionAt? (project info routes).paths path = item.description? := by
    rw [descriptionAt?, hitem, Option.bind_some]
  exact {
    present := fun m hm => by
      rw [← hoperation, ← not_iff_not, Option.not_isSome_iff_eq_none,
        operation?_project_eq_none_iff hm]
      simp
    latest := fun m hm r hr => by
      rw [← hoperation]
      exact operation?_project_of_isLast hm info hr
    description := fun text => by
      rw [← hdescription]
      exact descriptionAt?_project_eq_some_iff info
    undescribed := by
      rw [← hdescription]
      exact descriptionAt?_project_eq_none_iff info }

end RouteFlow.OpenApi
