import RouteFlow.Proofs.Last
import RouteFlow.Proofs.Service.Routes

/-!
# Whom a table sends a request to

A table is built by putting pipelines in, each under the route that it declares. What it holds in
the end is said here in terms of the pipelines alone, in the order in which they were put in:

* `mem_routes_ofPipelines`, `hasPath_ofPipelines` — the routes and the paths that there are;
* `Latest` — the last pipeline that takes a method and a path;
* `pipeline?_eq_some_iff`, `pipeline?_eq_none_iff` — a request goes to the latest pipeline that
  takes it, and to none if none takes it.

The method of a request is a word of the caller. It is read in any letter case, so it means a
method exactly if its upper-case form is the name of that method (`ofText?_eq_some_iff`), and a word
that is no method is taken by nobody.
-/

namespace RouteFlow

namespace Service

variable {ps : List Pipeline} {p : Pipeline}

/-! ### Routes and paths -/

theorem Route.path_ofPipeline (p : Pipeline) :
    (Route.ofPipeline p).path = normalPath p.route := by
  rw [Route.ofPipeline, Route.of]

namespace RouteTable

/-- The routes that a table has a pipeline for. -/
def routes (t : RouteTable) : List Route := t.map (·.1)

@[simp] theorem routes_nil : routes [] = [] := rfl

@[simp] theorem routes_cons (r : Route) (p : Pipeline) (t : RouteTable) :
    routes ((r, p) :: t) = r :: routes t := rfl

/-- Putting a pipeline under a route adds this route and takes none away. -/
theorem mem_routes_put {t : RouteTable} {r r' : Route} :
    r' ∈ routes (put t r p) ↔ r' = r ∨ r' ∈ routes t := by
  induction t with
  | nil => rw [put, routes_cons, List.mem_cons]
  | cons e t ih =>
    obtain ⟨s, q⟩ := e
    rw [put, routes_cons]
    by_cases hs : s = r
    · -- the route is there already, and its pipeline is replaced
      subst hs
      rw [if_pos rfl, routes_cons, List.mem_cons, or_self_left]
    · rw [if_neg hs]
      by_cases hb : r.before s = true
      · rw [if_pos hb, routes_cons, routes_cons, List.mem_cons]
      · rw [if_neg hb, routes_cons, List.mem_cons, ih, List.mem_cons]
        exact or_left_comm

/-- **The routes of a table** are those that its pipelines declare. -/
theorem mem_routes_ofPipelines {r : Route} :
    r ∈ routes (ofPipelines ps) ↔ ∃ p ∈ ps, Route.ofPipeline p = r := by
  unfold ofPipelines
  induction ps using List.reverseRecOn with
  | nil => simp
  | append_singleton rest p ih =>
    rw [List.foldl_append, List.foldl_cons, List.foldl_nil, insert, mem_routes_put, ih]
    simp only [List.mem_append, List.mem_singleton, or_and_right, exists_or, exists_eq_left]
    rw [or_comm, eq_comm]

/-- **The paths of a table** are those of its pipelines, in their normal form. -/
theorem hasPath_ofPipelines {path : String} :
    (ofPipelines ps).hasPath path = true ↔ ∃ p ∈ ps, normalPath p.route = normalPath path := by
  have hroutes : (ofPipelines ps).hasPath path = true ↔
      ∃ r ∈ routes (ofPipelines ps), r.path = normalPath path := by
    simp [hasPath, routes]
  rw [hroutes]
  constructor
  · rintro ⟨r, hr, hpath⟩
    obtain ⟨p, hp, rfl⟩ := mem_routes_ofPipelines.mp hr
    rw [Route.path_ofPipeline] at hpath
    exact ⟨p, hp, hpath⟩
  · rintro ⟨p, hp, hpath⟩
    rw [← Route.path_ofPipeline] at hpath
    exact ⟨_, mem_routes_ofPipelines.mpr ⟨p, hp, rfl⟩, hpath⟩

end RouteTable

/-! ### Pipelines that take a request -/

/-- **A pipeline takes a method and a path**: the method, in any letter case, is the one that it
declares, and the paths have the same normal form. -/
structure Takes (word path : String) (p : Pipeline) : Prop where
  method : p.declaration.method.name = Text.upper (Text.trimmed word)
  path : normalPath p.route = normalPath path

/-- **The latest pipeline** of a list that takes a method and a path: no later one does. -/
inductive Latest (ps : List Pipeline) (word path : String) (p : Pipeline) : Prop
  | intro (before after : List Pipeline) (split : ps = before ++ p :: after)
      (takes : Takes word path p) (last : ∀ q ∈ after, ¬ Takes word path q)

theorem Latest.mem {word path : String} (h : Latest ps word path p) : p ∈ ps := by
  obtain ⟨before, after, rfl, -, -⟩ := h
  simp

theorem Latest.takes {word path : String} (h : Latest ps word path p) : Takes word path p := by
  obtain ⟨-, -, -, htakes, -⟩ := h
  exact htakes

theorem latest_iff_isLast {word path : String} :
    Latest ps word path p ↔ IsLast (Takes word path) ps p := by
  constructor
  · rintro ⟨before, after, hsplit, htakes, hlast⟩
    exact ⟨before, after, hsplit, htakes, hlast⟩
  · rintro ⟨before, after, hsplit, htakes, hlast⟩
    exact ⟨before, after, hsplit, htakes, hlast⟩

/-- A pipeline takes what means its own route. -/
theorem takes_iff {word path : String} {m : Http.Method} (h : Http.Method.ofText? word = some m) :
    Takes word path p ↔ Route.ofPipeline p = Route.of m path := by
  have hm : p.declaration.method.name = Text.upper (Text.trimmed word) ↔
      p.declaration.method = m := by
    rw [← Http.Method.ofText?_eq_some_iff, h, Option.some.injEq, eq_comm]
  constructor
  · intro ht
    rw [Route.ofPipeline, Route.of, Route.of, hm.mp ht.method, ht.path]
  · intro hr
    rw [Route.ofPipeline, Route.of, Route.of, Route.mk.injEq] at hr
    exact ⟨hm.mpr hr.1, hr.2⟩

/-- A word that is no method is taken by nobody. -/
theorem not_takes {word path : String} (h : Http.Method.ofText? word = none) :
    ¬ Takes word path p := by
  intro ht
  rw [Http.Method.ofText?_eq_some_iff.mpr ht.method] at h
  exact absurd h nofun

namespace Server

variable {s : Server} {r : Request}

/-- **A request goes to the latest pipeline that takes it.** -/
theorem pipeline?_eq_some_iff (hs : s.routes = .ofPipelines ps) :
    s.pipeline? r = some p ↔ Latest ps r.method r.target.path p := by
  unfold pipeline?
  cases hm : Http.Method.ofText? r.method with
  | none =>
    rw [Option.bind_none]
    exact ⟨nofun, fun h => absurd h.takes (not_takes hm)⟩
  | some m =>
    rw [Option.bind_some, hs, RouteTable.find?, RouteTable.get?_ofPipelines,
      find?_reverse_eq_some_iff, latest_iff_isLast]
    exact isLast_congr fun q _ => (takes_iff hm).symm

/-- A request goes nowhere exactly if no pipeline takes it. -/
theorem pipeline?_eq_none_iff (hs : s.routes = .ofPipelines ps) :
    s.pipeline? r = none ↔ ∀ p ∈ ps, ¬ Takes r.method r.target.path p := by
  unfold pipeline?
  cases hm : Http.Method.ofText? r.method with
  | none => exact ⟨fun _ _ _ => not_takes hm, fun _ => rfl⟩
  | some m =>
    rw [Option.bind_some, hs, RouteTable.find?, RouteTable.get?_ofPipelines,
      find?_reverse_eq_none_iff]
    simp only [takes_iff hm]

end Server
end Service
end RouteFlow
