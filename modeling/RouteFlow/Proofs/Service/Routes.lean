import Mathlib.Data.List.Find
import Mathlib.Data.List.Induction
import RouteFlow.Proofs.OpenApi.Projection
import RouteFlow.Service.Server

/-!
# What a server describes and what it serves

A server keeps its pipelines twice: in the table that requests are dispatched by, and in the
description that it publishes. The table goes by methods and normal forms of paths and holds one
pipeline for each, the one that came last (`get?_ofPipelines`); the description goes by paths as
they are and holds operations.

The two agree (`describes_what_it_serves`). Both come down to the last pipeline with a method and a
path, and the path of a pipeline that is named by the way to its file is in normal form already
(`normalPath_route`).
-/

namespace RouteFlow.Service

open OpenApi (Operation describedMethods)

/-! ### Tables -/

/-- **What a table holds for a route** is the last pipeline that declares it. -/
theorem RouteTable.get?_ofPipelines (ps : List Pipeline) (r : Route) :
    (ofPipelines ps).get? r = ps.reverse.find? fun p => Route.ofPipeline p = r := by
  unfold ofPipelines
  induction ps using List.reverseRecOn with
  | nil => rfl
  | append_singleton rest p ih =>
    -- the pipeline that comes last takes its route, whoever had it
    rw [List.foldl_append, List.foldl_cons, List.foldl_nil, insert, get?_put, ih,
      List.reverse_concat, List.find?_cons]
    by_cases hp : Route.ofPipeline p = r <;> simp [hp]

/-! ### Paths -/

/-- **A name that is a way to a file**: names joined by slashes, none of them empty. The empty name
is no such way, since there is at least the name of the file on it. -/
def IsRoutePath (name : String) : Prop :=
  ∃ parts : List String, parts ≠ [] ∧ (∀ part ∈ parts, part ≠ "" ∧ '/' ∉ part.toList) ∧
    name = String.intercalate "/" parts

/-- Such a name ends with something else than a slash. -/
theorem IsRoutePath.exists_last {name : String} (h : IsRoutePath name) :
    ∃ cs c, name.toList = cs ++ [c] ∧ c ≠ '/' := by
  obtain ⟨parts, hne, hparts, rfl⟩ := h
  rw [String.toList_intercalate]
  -- the end of the joined names is that of the last of them
  induction parts with
  | nil => exact absurd rfl hne
  | cons part rest ih =>
    obtain ⟨⟨hpart, hslash⟩, hrest⟩ := List.forall_mem_cons.mp hparts
    cases rest with
    | nil =>
      have hnil : part.toList ≠ [] := by simpa using hpart
      refine ⟨part.toList.dropLast, part.toList.getLast hnil, ?_, ?_⟩
      · simp [List.dropLast_concat_getLast]
      · exact fun he => hslash (he ▸ List.getLast_mem hnil)
    | cons part' rest =>
      obtain ⟨cs, c, hcs, hc⟩ := ih (by simp) hrest
      refine ⟨part.toList ++ "/".toList ++ cs, c, ?_, hc⟩
      rw [List.map_cons] at hcs
      rw [List.map_cons, List.map_cons, List.intercalate_cons_cons, hcs]
      simp only [List.append_assoc]

/-- A path that begins with a slash and ends with something else is in normal form. -/
theorem normalPath_eq_self {path : String} {cs : List Char} {c : Char}
    (h : path.toList = '/' :: (cs ++ [c])) (hc : c ≠ '/') : normalPath path = path := by
  have htrim : Text.withoutTrailing '/' path = path := by
    rw [Text.withoutTrailing, h]
    rw [← List.cons_append, List.reverse_concat, List.dropWhile_cons_of_neg (by simpa using hc),
      List.reverse_cons, List.reverse_reverse, List.cons_append, ← h, String.ofList_toList]
  have hnonempty : path.isEmpty = false := by
    rw [Bool.eq_false_iff]
    intro he
    rw [String.isEmpty_iff.mp he] at h
    simp at h
  have hslash : path.startsWith "/" = true := by
    rw [String.startsWith_string_iff, h]
    exact ⟨cs ++ [c], rfl⟩
  unfold normalPath
  simp [htrim, hnonempty, hslash]

/-- **The path of a pipeline in a file** is in normal form. -/
theorem normalPath_route {p : Pipeline} (h : IsRoutePath p.name) :
    normalPath p.route = p.route := by
  obtain ⟨cs, c, hname, hc⟩ := h.exists_last
  -- taking slashes off the front of the name leaves its end
  obtain ⟨cs', hcs'⟩ : ∃ cs', p.name.toList.dropWhile (· == '/') = cs' ++ [c] := by
    rw [hname, List.dropWhile_append]
    split
    · exact ⟨[], by simp [hc]⟩
    · exact ⟨_, rfl⟩
  have hroute : p.route.toList =
      '/' :: ((p.declaration.namespacePath.toList ++ '/' :: cs') ++ [c]) := by
    simp [Pipeline.route, Document.Declaration.route, Text.withoutLeading, hcs']
  exact normalPath_eq_self hroute hc

/-- For a path in normal form, such a pipeline declares a route exactly if it has the method and
the path as they are. -/
theorem ofPipeline_eq_iff {p : Pipeline} (h : IsRoutePath p.name) {m : Http.Method} {path : String}
    (hpath : normalPath path = path) :
    Route.ofPipeline p = Route.of m path ↔ p.declaration.method = m ∧ p.route = path := by
  simp [Route.ofPipeline, Route.of, normalPath_route h, hpath]

/-! ### Agreement -/

/-- A pipeline that a table finds is one of its pipelines and declares the route. -/
theorem RouteTable.ofPipeline_of_find? {ps : List Pipeline} {m : Http.Method} {path : String}
    {p : Pipeline} (h : (ofPipelines ps).find? m path = some p) :
    p ∈ ps ∧ Route.ofPipeline p = Route.of m path := by
  rw [find?, get?_ofPipelines] at h
  exact ⟨List.mem_reverse.mp (List.mem_of_find?_eq_some h), by simpa using List.find?_some h⟩

/-- The operation for a described method and a path is that of the pipeline which the table finds
there. -/
theorem operation?_eq_bind_find? {ps : List Pipeline} (h : ∀ p ∈ ps, IsRoutePath p.name)
    (info : OpenApi.Info) {m : Http.Method} (hm : m ∈ describedMethods) {path : String}
    (hpath : normalPath path = path) :
    (OpenApi.project info (ps.map fun p => (p.declaration, p.name))).operation? m path =
      ((RouteTable.ofPipelines ps).find? m path).bind
        fun p => OpenApi.routeOperation? p.declaration := by
  have hsame : ∀ p ∈ ps.reverse, decide (p.declaration.method = m ∧ p.route = path) =
      decide (Route.ofPipeline p = Route.of m path) := by
    intro p hp
    rw [decide_eq_decide, ofPipeline_eq_iff (h p (List.mem_reverse.mp hp)) hpath]
  calc (OpenApi.project info (ps.map fun p => (p.declaration, p.name))).operation? m path
      = (ps.reverse.find? fun p => p.declaration.method = m ∧ p.route = path).bind
          fun p => OpenApi.routeOperation? p.declaration := by
        rw [OpenApi.operation?_project hm, ← List.map_reverse, List.find?_map, Option.bind_map]
        rfl
    _ = (ps.reverse.find? fun p => Route.ofPipeline p = Route.of m path).bind
          fun p => OpenApi.routeOperation? p.declaration := by
        rw [List.find?_congr hsame]
    _ = ((RouteTable.ofPipelines ps).find? m path).bind
          fun p => OpenApi.routeOperation? p.declaration := by
        rw [RouteTable.find?, RouteTable.get?_ofPipelines]

/-- **A server describes what it serves.** For pipelines that are named by the ways to their files,
a described method and a path in normal form, the description has an operation exactly if a
pipeline is served, and it is the operation projected from the declaration of that pipeline.
Pipelines with other methods leave the description as it is. -/
theorem describes_what_it_serves {ps : List Pipeline} (h : ∀ p ∈ ps, IsRoutePath p.name)
    (settings : Run.Settings) (title : String) (heartbeat : Release.Heartbeat) :
    let s := Server.ofPipelines settings title heartbeat ps
    (∀ m ∈ describedMethods, ∀ path, normalPath path = path →
        ((s.description.operation? m path).isSome ↔ (s.routes.find? m path).isSome) ∧
          ∀ p, s.routes.find? m path = some p →
            ∃ item, OpenApi.projectRoute p.declaration p.name = some (path, item) ∧
              s.description.operation? m path = item.operation? m) ∧
      s.description =
        (Server.ofPipelines settings title heartbeat
          (ps.filter fun p => p.declaration.method ∈ describedMethods)).description := by
  intro s
  constructor
  · intro m hm path hpath
    have hop : s.description.operation? m path =
        (s.routes.find? m path).bind fun p => OpenApi.routeOperation? p.declaration :=
      operation?_eq_bind_find? h _ hm hpath
    cases hf : s.routes.find? m path with
    | none =>
      -- nothing is served, and nothing described
      simp [hop, hf]
    | some p =>
      obtain ⟨hp, hroute⟩ := RouteTable.ofPipeline_of_find? hf
      -- the route of the pipeline is the one asked for, letter by letter
      obtain ⟨rfl, rfl⟩ := (ofPipeline_eq_iff (h p hp) hpath).mp hroute
      rw [hop, hf, Option.bind_some]
      refine ⟨by simp [OpenApi.isSome_routeOperation? hm], ?_⟩
      rintro p' hp'
      obtain rfl := Option.some.inj hp'
      cases hitem : OpenApi.pathItem? p.declaration with
      | none => exact absurd hm (OpenApi.pathItem?_eq_none_iff.mp hitem)
      | some item =>
        refine ⟨item, by rw [OpenApi.projectRoute, hitem]; rfl, ?_⟩
        rw [OpenApi.operation?_of_pathItem? hitem, if_pos rfl]
  · -- filtering the pipelines filters the routes that are projected
    have hfilter : ((ps.map fun p => (p.declaration, p.name)).filter
          fun r => r.1.method ∈ describedMethods) =
        (ps.filter fun p => p.declaration.method ∈ describedMethods).map
          fun p => (p.declaration, p.name) := by
      rw [List.filter_map]
      rfl
    change OpenApi.project _ _ = OpenApi.project _ _
    rw [← hfilter, OpenApi.project_filter]

/-- A pipeline without steps that answers `GET` and says what it returns. -/
def placard (ns name returns : String) : Pipeline :=
  ⟨name, ⟨none, none, none, .get, none, some returns, ns, none⟩, [], []⟩

/-- Two ways of cutting a path into a namespace and a name make the same route, and what the server
describes there is the pipeline that came last. -/
theorem describes_what_it_serves_placards :
    let ps := [placard "x" "a/b" "old", placard "x/a" "b" "new"]
    (∀ p ∈ ps, IsRoutePath p.name) ∧
      (RouteTable.ofPipelines ps).find? .get "/x/a/b" = some (placard "x/a" "b" "new") ∧
      ∃ item, OpenApi.projectRoute (placard "x/a" "b" "new").declaration "b" =
          some ("/x/a/b", item) ∧
        (Server.ofPipelines .standard "placards" ⟨"", "", none, 0⟩ ps).description.operation? .get
          "/x/a/b" = item.get? := by
  intro ps
  have hps : ∀ p ∈ ps, IsRoutePath p.name :=
    List.forall_mem_cons.mpr ⟨⟨["a", "b"], by decide, by decide, by decide +kernel⟩,
      List.forall_mem_singleton.mpr ⟨["b"], by decide, by decide, by decide +kernel⟩⟩
  have hfind : (RouteTable.ofPipelines ps).find? .get "/x/a/b" =
      some (placard "x/a" "b" "new") := by
    rw [RouteTable.find?, RouteTable.get?_ofPipelines]
    exact List.find?_cons_of_pos (by decide +kernel)
  exact ⟨hps, hfind, ((describes_what_it_serves hps .standard "placards" ⟨"", "", none, 0⟩).1 .get
    (by decide) "/x/a/b" (by decide +kernel)).2 _ hfind⟩

end RouteFlow.Service
