import Mathlib.Data.List.Dedup
import Mathlib.Data.Prod.Lex
import RouteFlow.Proofs.Last
import RouteFlow.Proofs.Service.Tables
import RouteFlow.Proofs.Text.Reading

/-!
# Tables after any history

A table is the outcome of a history of insertions. `Recalls` says what it answers in the end without
going through the table: each answer is in terms of the pipelines of the history, and the last one
with a route is the one that counts.

Paths are compared in their normal form, and `NormalForm` says which that is: take all slashes off
the end and put one in front if there is none. Hence slashes at the end of a path never matter
(`normalPath_append_slashes`).

That a route is listed once does not follow from one insertion alone: a pipeline goes to the first
route that does not stand before its own, so its route might be there a second time further on. It
is not, since the routes ascend (`Ascending`), and an insertion keeps them so
(`Ascending.put`).
-/

namespace RouteFlow.Service

variable {ps : List Pipeline} {p : Pipeline}

/-! ### Normal forms of paths -/

/-- **The normal form of a path**: what is left without the slashes at its end, with a slash in
front of it if there is none. -/
inductive NormalForm (path : List Char) : List Char → Prop
  | given {bare : List Char} {n : Nat} (h : path = bare ++ List.replicate n '/')
      (last : bare.getLast? ≠ some '/') (first : bare.head? = some '/') : NormalForm path bare
  | supplied {bare : List Char} {n : Nat} (h : path = bare ++ List.replicate n '/')
      (last : bare.getLast? ≠ some '/') (first : bare.head? ≠ some '/') :
      NormalForm path ('/' :: bare)

/-- A normal form is one of its own. -/
theorem NormalForm.self {path form : List Char} (h : NormalForm path form) :
    NormalForm form form := by
  cases h with
  | given _ last first => exact .given (n := 0) (List.append_nil _).symm last first
  | @supplied bare _ _ last _ =>
    cases bare with
    | nil => exact @NormalForm.supplied _ [] 1 rfl last (by simp)
    | cons c rest =>
      refine .given (n := 0) (List.append_nil _).symm ?_ rfl
      rwa [List.getLast?_cons_cons]

/-- Slashes at the end of a path have no say in its normal form. -/
theorem NormalForm.append {path form : List Char} (h : NormalForm path form) (n : Nat) :
    NormalForm (path ++ List.replicate n '/') form := by
  cases h with
  | given h last first =>
    exact .given (by rw [h, List.append_assoc, List.replicate_append_replicate]) last first
  | supplied h last first =>
    exact .supplied (by rw [h, List.append_assoc, List.replicate_append_replicate]) last first

theorem normalForm_normalPath (path : String) :
    NormalForm path.toList (normalPath path).toList := by
  obtain ⟨last, n, h⟩ := Text.withoutTrailing_eq_iff.mp
    (rfl : Text.withoutTrailing '/' path = Text.withoutTrailing '/' path)
  have hstarts : (Text.withoutTrailing '/' path).startsWith "/" = true ↔
      (Text.withoutTrailing '/' path).toList.head? = some '/' := by
    rw [String.startsWith_string_iff]
    cases (Text.withoutTrailing '/' path).toList with
    | nil => simp
    | cons c rest => simp [eq_comm]
  unfold normalPath
  dsimp only
  split
  · next hempty =>
    rw [String.isEmpty_iff.mp hempty] at h
    exact .supplied h (by simp) (by simp)
  · split
    · next hfirst => exact .given h last (hstarts.mp hfirst)
    · next hfirst =>
      rw [String.toList_append]
      exact .supplied h last (mt hstarts.mpr hfirst)

/-- A path has one normal form. -/
theorem NormalForm.unique {path form form' : List Char} (h : NormalForm path form)
    (h' : NormalForm path form') : form = form' := by
  -- taking the slashes off the end leaves one text only
  have hbare : ∀ {bare bare' : List Char} {n n' : Nat}, path = bare ++ List.replicate n '/' →
      bare.getLast? ≠ some '/' → path = bare' ++ List.replicate n' '/' →
      bare'.getLast? ≠ some '/' → bare = bare' := by
    intro bare bare' n n' h last h' last'
    have hleft : Text.withoutTrailing '/' (String.ofList path) = String.ofList bare :=
      Text.withoutTrailing_eq_iff.mpr (by simp only [String.toList_ofList]; exact ⟨last, n, h⟩)
    have hright : Text.withoutTrailing '/' (String.ofList path) = String.ofList bare' :=
      Text.withoutTrailing_eq_iff.mpr (by simp only [String.toList_ofList]; exact ⟨last', n', h'⟩)
    exact String.ofList_injective (hleft.symm.trans hright)
  cases h with
  | given h last first =>
    cases h' with
    | given h' last' _ => exact hbare h last h' last'
    | supplied h' last' first' => exact absurd first (hbare h last h' last' ▸ first')
  | supplied h last first =>
    cases h' with
    | given h' last' first' => exact absurd (hbare h last h' last' ▸ first') first
    | supplied h' last' _ => rw [hbare h last h' last']

/-- **The normal form of a path** is what the comparison of paths goes by. -/
theorem normalPath_eq_iff {path form : String} :
    normalPath path = form ↔ NormalForm path.toList form.toList := by
  constructor
  · rintro rfl
    exact normalForm_normalPath path
  · intro h
    exact String.toList_injective ((normalForm_normalPath path).unique h)

/-- A path that is nothing but slashes, or not even that, is one slash. -/
example : normalPath "" = "/" ∧ normalPath "///" = "/" ∧ normalPath "a//" = "/a" := by
  decide +kernel

theorem normalPath_idem (path : String) : normalPath (normalPath path) = normalPath path :=
  normalPath_eq_iff.mpr (normalForm_normalPath path).self

theorem normalPath_append_slashes (path : String) (n : Nat) :
    normalPath (path ++ String.ofList (List.replicate n '/')) = normalPath path := by
  rw [normalPath_eq_iff, String.toList_append, String.toList_ofList]
  exact (normalForm_normalPath path).append n

/-! ### Ascending routes -/

namespace Route

/-- The place of a route: that of its method, and then its path. -/
def place (r : Route) : ℕ ×ₗ String := toLex (Http.Method.all.idxOf r.method, r.path)

theorem place_injective : Function.Injective place := by
  rintro ⟨m, path⟩ ⟨m', path'⟩ h
  obtain ⟨hm, rfl⟩ := Prod.mk.inj (toLex.injective h)
  have hall : m ∈ Http.Method.all := by cases m <;> decide
  rw [(List.idxOf_inj hall).mp hm]

/-- One route stands before another where its place comes first. -/
theorem before_iff {r r' : Route} : r.before r' = true ↔ r.place < r'.place := by
  have hall : ∀ m : Http.Method, m ∈ Http.Method.all := fun m => by cases m <;> decide
  rw [before, place, place, Prod.Lex.toLex_lt_toLex]
  simp [List.idxOf_inj (hall _)]

end Route

namespace RouteTable

/-- **The routes ascend**, so that each comes once. -/
def Ascending (t : RouteTable) : Prop := t.routes.Pairwise fun r r' => r.place < r'.place

theorem ascending_cons_iff {r : Route} {t : RouteTable} :
    Ascending ((r, p) :: t) ↔ (∀ r' ∈ t.routes, r.place < r'.place) ∧ Ascending t :=
  List.pairwise_cons

theorem Ascending.nodup {t : RouteTable} (h : Ascending t) : t.routes.Nodup :=
  h.imp fun hlt => by
    rintro rfl
    exact lt_irrefl _ hlt

/-- **Putting in a pipeline keeps the order.** -/
theorem Ascending.put {t : RouteTable} (h : Ascending t) (r : Route) (p : Pipeline) :
    Ascending (put t r p) := by
  induction t with
  | nil => exact List.pairwise_singleton _ _
  | cons e t ih =>
    obtain ⟨s, q⟩ := e
    obtain ⟨hfirst, hrest⟩ := ascending_cons_iff.mp h
    rw [RouteTable.put]
    split
    · next hs =>
      subst hs
      exact h
    · next hne =>
      split
      · next hbefore =>
        have hlt := Route.before_iff.mp hbefore
        refine ascending_cons_iff.mpr ⟨fun r' hr' => ?_, h⟩
        rcases List.mem_cons.mp hr' with rfl | hr'
        · exact hlt
        · exact hlt.trans (hfirst r' hr')
      · next hafter =>
        -- the route goes in further on, where all routes come after the first one
        have hge := not_lt.mp (mt Route.before_iff.mpr hafter)
        refine ascending_cons_iff.mpr ⟨fun r' hr' => ?_, ih hrest⟩
        rcases mem_routes_put.mp hr' with rfl | hr'
        · exact lt_of_le_of_ne hge (Route.place_injective.ne hne)
        · exact hfirst r' hr'

theorem ascending_ofPipelines (ps : List Pipeline) : Ascending (ofPipelines ps) := by
  unfold ofPipelines
  induction ps using List.reverseRecOn with
  | nil => exact List.Pairwise.nil
  | append_singleton rest p ih =>
    rw [List.foldl_append, List.foldl_cons, List.foldl_nil, insert]
    exact ih.put _ p

/-- What is listed for a route is what a look-up finds. -/
theorem get?_of_mem {t : RouteTable} (h : Ascending t) {r : Route} (hmem : (r, p) ∈ t) :
    t.get? r = some p := by
  induction t with
  | nil => exact absurd hmem List.not_mem_nil
  | cons e t ih =>
    obtain ⟨s, q⟩ := e
    obtain ⟨hfirst, hrest⟩ := ascending_cons_iff.mp h
    rcases List.mem_cons.mp hmem with heq | hmem
    · obtain ⟨rfl, rfl⟩ := Prod.mk.inj heq
      exact if_pos rfl
    · -- the route stands further on, so it is not the first one
      have hne : s ≠ r := by
        rintro rfl
        exact lt_irrefl _ (hfirst s (List.mem_map_of_mem hmem))
      rw [get?, if_neg hne]
      exact ih hrest hmem

end RouteTable

/-! ### Histories -/

/-- **A pipeline is registered** for a method and a path. -/
def RegisteredAs (m : Http.Method) (path : String) (p : Pipeline) : Prop :=
  p.declaration.method = m ∧ normalPath p.route = normalPath path

theorem ofPipeline_eq_of_iff {m : Http.Method} {path : String} :
    Route.ofPipeline p = Route.of m path ↔ RegisteredAs m path p := by
  rw [Route.ofPipeline, Route.of, Route.of, Route.mk.injEq, RegisteredAs]

namespace RouteTable

/-- **A look-up finds the pipeline that was registered last.** -/
theorem find?_ofPipelines_eq_some_iff {m : Http.Method} {path : String} :
    (ofPipelines ps).find? m path = some p ↔ IsLast (RegisteredAs m path) ps p := by
  rw [find?, get?_ofPipelines, find?_reverse_eq_some_iff]
  exact isLast_congr fun q _ => ofPipeline_eq_of_iff

theorem find?_ofPipelines_eq_none_iff {m : Http.Method} {path : String} :
    (ofPipelines ps).find? m path = none ↔ ∀ p ∈ ps, ¬ RegisteredAs m path p := by
  rw [find?, get?_ofPipelines, find?_reverse_eq_none_iff]
  simp only [ofPipeline_eq_of_iff]

/-- There is a pipeline at a path exactly if a look-up for some method finds one. -/
theorem hasPath_ofPipelines_iff_find? {path : String} :
    (ofPipelines ps).hasPath path = true ↔ ∃ m p, (ofPipelines ps).find? m path = some p := by
  rw [hasPath_ofPipelines]
  simp only [find?_ofPipelines_eq_some_iff, exists_isLast_iff]
  constructor
  · rintro ⟨p, hp, hpath⟩
    exact ⟨p.declaration.method, p, hp, rfl, hpath⟩
  · rintro ⟨m, p, hp, -, hpath⟩
    exact ⟨p, hp, hpath⟩

/-- **The routes of a table** are the distinct routes of the pipelines. -/
theorem routes_ofPipelines_perm (ps : List Pipeline) :
    (routes (ofPipelines ps)).Perm (ps.map Route.ofPipeline).dedup := by
  refine (List.perm_ext_iff_of_nodup (ascending_ofPipelines ps).nodup (List.nodup_dedup _)).mpr ?_
  intro r
  rw [mem_routes_ofPipelines, List.mem_dedup, List.mem_map]

/-- A look-up goes by routes as they are listed. -/
theorem find?_of_mem {r : Route} (h : (r, p) ∈ ofPipelines ps) :
    (ofPipelines ps).find? r.method r.path = some p := by
  have hr : r ∈ routes (ofPipelines ps) := List.mem_map_of_mem h
  obtain ⟨q, -, hq⟩ := mem_routes_ofPipelines.mp hr
  have hnormal : Route.of r.method r.path = r := by
    rw [← hq, Route.ofPipeline, Route.of, Route.of, normalPath_idem]
  rw [find?, hnormal]
  exact get?_of_mem (ascending_ofPipelines ps) h

end RouteTable

/-- **What a table answers** after pipelines were put in, in terms of these pipelines: look-ups find
the pipeline that was registered last, there is a pipeline at a path if some look-up finds one, and
the table lists each route once, in order and with the pipeline that a look-up finds. -/
structure Recalls (ps : List Pipeline) (t : RouteTable) : Prop where
  found : ∀ m path p, t.find? m path = some p ↔ IsLast (RegisteredAs m path) ps p
  notFound : ∀ m path, t.find? m path = none ↔ ∀ p ∈ ps, ¬ RegisteredAs m path p
  paths : ∀ path, t.hasPath path = true ↔ ∃ m p, t.find? m path = some p
  size : t.length = (ps.map Route.ofPipeline).dedup.length
  routes : t.routes.Perm (ps.map Route.ofPipeline).dedup
  ascending : t.Ascending
  listed : ∀ r p, (r, p) ∈ t → t.find? r.method r.path = some p

/-- **A table recalls its history.** Whatever pipelines were put in, one after the other, the table
answers as `Recalls` says, and each insertion gave back what a look-up for the route of the pipeline
had found just before. Paths are compared in their normal form, so that slashes at the end of a path
do not matter to any look-up. -/
theorem table_recalls_history :
    (∀ ps, Recalls ps (.ofPipelines ps)) ∧
      (∀ ps p, (RouteTable.ofPipelines ps).insert p =
        ((RouteTable.ofPipelines ps).find? p.declaration.method p.route,
          .ofPipelines (ps ++ [p]))) ∧
      (∀ path, normalPath (normalPath path) = normalPath path) ∧
      (∀ path path', normalPath path = normalPath path' ↔
        ∃ form, NormalForm path.toList form ∧ NormalForm path'.toList form) ∧
      ∀ (t : RouteTable) (path : String) (n : Nat),
        (∀ m, t.find? m (path ++ String.ofList (List.replicate n '/')) = t.find? m path) ∧
          t.hasPath (path ++ String.ofList (List.replicate n '/')) = t.hasPath path := by
  refine ⟨fun ps => ?_, fun ps p => ?_, normalPath_idem, fun path path' => ?_, fun t path n => ?_⟩
  · have hsize : (RouteTable.ofPipelines ps).length = (ps.map Route.ofPipeline).dedup.length := by
      rw [← (RouteTable.routes_ofPipelines_perm ps).length_eq, RouteTable.routes, List.length_map]
    exact {
      found := fun _ _ _ => RouteTable.find?_ofPipelines_eq_some_iff
      notFound := fun _ _ => RouteTable.find?_ofPipelines_eq_none_iff
      paths := fun _ => RouteTable.hasPath_ofPipelines_iff_find?
      size := hsize
      routes := RouteTable.routes_ofPipelines_perm ps
      ascending := RouteTable.ascending_ofPipelines ps
      listed := fun _ _ => RouteTable.find?_of_mem }
  · have hnext : RouteTable.ofPipelines (ps ++ [p]) =
        ((RouteTable.ofPipelines ps).insert p).2 := by
      rw [RouteTable.ofPipelines, List.foldl_append]
      rfl
    rw [hnext]
    rfl
  · constructor
    · intro h
      have hform := normalForm_normalPath path'
      rw [← h] at hform
      exact ⟨_, normalForm_normalPath path, hform⟩
    · rintro ⟨form, h, h'⟩
      rw [← String.toList_inj, (normalForm_normalPath path).unique h,
        (normalForm_normalPath path').unique h']
  · have hsame := normalPath_append_slashes path n
    constructor
    · intro m
      rw [RouteTable.find?, RouteTable.find?, Route.of, Route.of, hsame]
    · rw [RouteTable.hasPath, RouteTable.hasPath, hsame]

end RouteFlow.Service
