import RouteFlow.Pipeline.Basic

/-!
# Route tables

A route is a method with a path. Paths are compared in a normal form: they begin with a slash and
do not end with one, unless they are nothing but slashes. A table holds at most one pipeline for
each route, in the order of methods and then of paths.

* `RouteTable.insert`: a pipeline takes its route, and the one that had it is given back.
* `RouteTable.find?`: the pipeline of a route.
-/

namespace RouteFlow.Service

/-- The normal form of a path. -/
def normalPath (path : String) : String :=
  let trimmed := Text.withoutTrailing '/' path
  if trimmed.isEmpty then "/"
  else if trimmed.startsWith "/" then trimmed
  else "/" ++ trimmed

/-- A method with a path in normal form. -/
structure Route where
  method : Http.Method
  path : String
  deriving DecidableEq

namespace Route

/-- The route of a request. -/
def of (method : Http.Method) (path : String) : Route := ⟨method, normalPath path⟩

/-- The route that a pipeline declares. -/
def ofPipeline (p : Pipeline) : Route := of p.declaration.method p.route

/-- Whether one route stands before another: methods in their order, then paths. -/
def before (a b : Route) : Bool :=
  let place (r : Route) : Nat := Http.Method.all.idxOf r.method
  place a < place b || a.method == b.method && decide (a.path < b.path)

end Route

/-- Pipelines by route, in ascending order. -/
abbrev RouteTable := List (Route × Pipeline)

namespace RouteTable

/-- The pipeline of a route. -/
def get? (t : RouteTable) (r : Route) : Option Pipeline :=
  match t with
  | [] => none
  | (r', p) :: rest => if r' = r then some p else get? rest r

/-- Puts a pipeline under a route. -/
def put (t : RouteTable) (r : Route) (p : Pipeline) : RouteTable :=
  match t with
  | [] => [(r, p)]
  | (r', p') :: rest =>
    if r' = r then (r, p) :: rest
    else if r.before r' then (r, p) :: (r', p') :: rest
    else (r', p') :: put rest r p

/-- Puts a pipeline under the route that it declares: the pipeline that was there, and the new
table. -/
def insert (t : RouteTable) (p : Pipeline) : Option Pipeline × RouteTable :=
  (get? t (.ofPipeline p), put t (.ofPipeline p) p)

/-- The table of pipelines; of two with the same route the later one counts. -/
def ofPipelines (ps : List Pipeline) : RouteTable := ps.foldl (fun t p => (insert t p).2) []

/-- The pipeline for a method and a path. -/
def find? (t : RouteTable) (method : Http.Method) (path : String) : Option Pipeline :=
  get? t (.of method path)

/-- Whether there is a pipeline at a path, for any method. -/
def hasPath (t : RouteTable) (path : String) : Bool := t.any fun e => e.1.path == normalPath path

theorem get?_put (t : RouteTable) (r : Route) (p : Pipeline) (r' : Route) :
    get? (put t r p) r' = if r = r' then some p else get? t r' := by
  induction t with
  | nil => rfl
  | cons e t ih =>
    obtain ⟨s, q⟩ := e
    by_cases hs : s = r
    · subst hs
      by_cases hr : s = r' <;> simp [put, get?, hr]
    · by_cases hb : r.before s
      · simp [put, get?, hs, hb]
      · by_cases hr : s = r'
        · subst hr
          simp [put, get?, hs, hb, Ne.symm hs]
        · simp [put, get?, hs, hb, hr, ih]

end RouteTable
end RouteFlow.Service
