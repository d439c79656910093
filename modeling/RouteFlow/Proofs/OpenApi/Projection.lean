import Mathlib.Data.List.Induction
import RouteFlow.OpenApi.Projection
import RouteFlow.Proofs.Entries

/-!
# What a description holds

A description is put together route by route, and the parts of a path item one by one. Seen through
a method and a path it is simpler: there is the operation that the last route with this method and
this path stands for (`operation?_project`). Routes whose method is not described leave no trace
(`project_filter`).
-/

namespace RouteFlow.OpenApi

open Document (Declaration)

variable {d : Declaration} {m : Http.Method} {path : String}

/-- The methods whose routes are described. -/
def describedMethods : List Http.Method := [.get, .post, .put]

/-! ### Operations by method -/

/-- The operation of a method. -/
def PathItem.operation? (i : PathItem) : Http.Method → Option Operation
  | .get => i.get?
  | .post => i.post?
  | .put => i.put?
  | _ => none

/-- The operation that paths have for a method under one of them. -/
def operationAt? (paths : Entries PathItem) (m : Http.Method) (path : String) : Option Operation :=
  (paths.get? path).bind (·.operation? m)

/-- The operation that a description has for a method under a path. -/
def Description.operation? (d : Description) (m : Http.Method) (path : String) :
    Option Operation :=
  operationAt? d.paths m path

/-- The operation that a route stands for. -/
def routeOperation? (d : Declaration) : Option Operation :=
  (pathItem? d).bind (·.operation? d.method)

@[simp] theorem operation?_empty (m : Http.Method) : PathItem.empty.operation? m = none := by
  cases m <;> rfl

/-- Items are merged method by method. -/
theorem operation?_merge (earlier later : PathItem) (m : Http.Method) :
    (earlier.merge later).operation? m = (later.operation? m).or (earlier.operation? m) := by
  cases m <;> rfl

theorem pathItem?_eq_none_iff : pathItem? d = none ↔ d.method ∉ describedMethods := by
  unfold pathItem?
  cases d.method <;> simp [describedMethods]

/-- The item of a route has an operation for the method of the route and for no other. -/
theorem operation?_of_pathItem? {item : PathItem} (h : pathItem? d = some item)
    (m : Http.Method) : item.operation? m = if d.method = m then routeOperation? d else none := by
  by_cases hm : d.method = m
  · rw [if_pos hm, routeOperation?, h, hm]
    rfl
  · rw [if_neg hm]
    unfold pathItem? at h
    -- an item is made for one of three methods, with no operation for any other
    cases hd : d.method <;> simp only [hd, Option.some.injEq, reduceCtorEq] at h hm <;>
      subst h <;> cases m <;> first | rfl | exact absurd rfl hm

/-- A route with a described method stands for an operation. -/
theorem isSome_routeOperation? (h : d.method ∈ describedMethods) :
    (routeOperation? d).isSome := by
  unfold routeOperation? pathItem?
  cases hd : d.method <;> simp_all [describedMethods, PathItem.operation?]

/-! ### Descriptions -/

/-- A further route brings the operation that it stands for, in the place of an earlier one. -/
theorem operationAt?_addRoute (hm : m ∈ describedMethods) (paths : Entries PathItem)
    (name : String) :
    operationAt? (addRoute paths d name) m path =
      if d.method = m ∧ d.route name = path then routeOperation? d
      else operationAt? paths m path := by
  unfold addRoute projectRoute
  cases hd : pathItem? d with
  | none =>
    -- a route that is not described has another method than `m`
    have hne : d.method ≠ m := fun he => pathItem?_eq_none_iff.mp hd (he ▸ hm)
    simp [hne]
  | some item =>
    unfold operationAt?
    simp only [Option.map_some, Entries.get?_insertSorted]
    by_cases hp : d.route name = path
    · -- the item of the route is merged with what stood under its path
      have hold : (((paths.get? path).getD .empty).operation? m) =
          (paths.get? path).bind (·.operation? m) := by
        cases paths.get? path <;> simp
      simp only [hp, if_true, and_true, Option.bind_some, operation?_merge, hold,
        operation?_of_pathItem? hd]
      by_cases hdm : d.method = m
      · obtain ⟨op, hop⟩ := Option.isSome_iff_exists.mp (isSome_routeOperation? (hdm ▸ hm))
        simp [hdm, hop]
      · simp [hdm]
    · simp [hp]

/-- **What a description has for a method under a path** is the operation of the last route that
has both. -/
theorem operation?_project (hm : m ∈ describedMethods) (info : Info)
    (routes : List (Declaration × String)) :
    (project info routes).operation? m path =
      (routes.reverse.find? fun r => r.1.method = m ∧ r.1.route r.2 = path).bind
        fun r => routeOperation? r.1 := by
  unfold Description.operation? project
  induction routes using List.reverseRecOn with
  | nil => rfl
  | append_singleton rest r ih =>
    -- the route that comes last is the first one found from the end
    rw [List.foldl_append, List.foldl_cons, List.foldl_nil, operationAt?_addRoute hm, ih,
      List.reverse_concat, List.find?_cons]
    by_cases hr : r.1.method = m ∧ r.1.route r.2 = path <;> simp [hr]

/-- A route that is not described adds nothing. -/
theorem addRoute_of_notMem (h : d.method ∉ describedMethods) (paths : Entries PathItem)
    (name : String) : addRoute paths d name = paths := by
  rw [addRoute, projectRoute, pathItem?_eq_none_iff.mpr h]
  rfl

/-- **Routes with other methods** leave no trace in a description. -/
theorem project_filter (info : Info) (routes : List (Declaration × String)) :
    project info (routes.filter fun r => r.1.method ∈ describedMethods) = project info routes := by
  unfold project
  rw [List.foldl_filter]
  -- a step of the fold passes over a route exactly where it would add nothing
  congr
  funext paths r
  split
  · rfl
  · next h => exact (addRoute_of_notMem (by simpa using h) paths r.2).symm

end RouteFlow.OpenApi
