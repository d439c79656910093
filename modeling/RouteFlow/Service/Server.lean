import RouteFlow.OpenApi.Projection
import RouteFlow.Release.Version
import RouteFlow.Run.Engine
import RouteFlow.Service.RouteTable
import RouteFlow.Service.Target
import RouteFlow.Url.Escape

/-!
# The server

A server answers at two addresses of its own, `/healthz` and `/openapi.json`, which may only be
read, and hands every other request to the pipeline of its route. The answer of a run is its body,
or the record of its failure with the status that the cause stands for. A run that crashes is not
answered.

* `Server.dispatch`: the answer to a request for a pipeline.
* `Server.answer`: the answer to any request.
-/

namespace RouteFlow.Service

/-- A server: its pipelines, and what it says of itself. -/
structure Server where
  settings : Run.Settings
  routes : RouteTable
  description : OpenApi.Description
  heartbeat : Release.Heartbeat

/-- A request, with the method as it was sent. -/
structure Request where
  method : String
  target : Target
  body : List UInt8

/-- An answer. -/
structure Answer where
  status : Nat
  contentType? : Option String
  allow? : Option String
  body : String
  deriving DecidableEq

namespace Answer

/-- An answer that is a JSON value. -/
def json (status : Nat) (j : Json) : Answer := ⟨status, some "application/json", none, j.compact⟩

/-- An answer that refuses a request. -/
def refusal (status : Nat) (message : String) : Answer :=
  json status (.object [("error", .string message)])

/-- An answer without its body. -/
def headOnly (a : Answer) : Answer := { a with body := "" }

/-- The answer to a request that would do more than read. -/
def readOnly : Answer := ⟨405, none, some "GET,HEAD", ""⟩

end Answer

namespace Server

/-- The server of pipelines: of two for one route the later one is served, and each is described. -/
def ofPipelines (settings : Run.Settings) (title : String) (heartbeat : Release.Heartbeat)
    (ps : List Pipeline) : Server where
  settings := settings
  routes := .ofPipelines ps
  description :=
    OpenApi.project ⟨title, heartbeat.version⟩ (ps.map fun p => (p.declaration, p.name))
  heartbeat := heartbeat

/-- Why a request does not reach a pipeline. -/
inductive Refusal where
  | noPath (path : String)
  | noMethod (method path : String)
  | badBody (error : Json.TextError)

/-- The answer to a request that does not reach a pipeline. -/
def Refusal.answer : Refusal → Answer
  | .noPath path => .refusal 404 ("no pipeline at " ++ path)
  | .noMethod method path => .refusal 405 (method ++ " not allowed on " ++ path)
  | .badBody e => .refusal 400 ("request body is not valid JSON: " ++ e.message)

/-- The value of a request body; an empty one is `null`. -/
def bodyValue (octets : List UInt8) : Except Json.TextError Json :=
  if octets.isEmpty then .ok .null else Json.ofOctets octets

/-- Parameters as variables; of two with the same name the later one counts. -/
def parameters (pairs : List (String × String)) : Entries Json :=
  Entries.ofList (pairs.map fun p => (p.1, Json.string p.2))

/-- The pipeline that a request is for. -/
def pipeline? (s : Server) (r : Request) : Option Pipeline :=
  (Http.Method.ofText? r.method).bind fun m => s.routes.find? m r.target.path

/-- The pipeline that a request is for and what it gets. -/
def resolve (s : Server) (r : Request) : Except Refusal (Pipeline × Run.Request) :=
  match s.pipeline? r with
  | none =>
    if s.routes.hasPath r.target.path then .error (.noMethod r.method r.target.path)
    else .error (.noPath r.target.path)
  | some p => do
    let body ← (bodyValue r.body).mapError Refusal.badBody
    .ok (p, ⟨p.declaration.method, body, parameters (Url.formDecode r.target.query)⟩)

/-- The answer that tells the end of a run. -/
def outcomeAnswer? : Run.Ending Run.RunError Run.Output → Option Answer
  | .ok output => some (.json 200 output.body)
  | .error e => some (.json e.cause.status e.toJson)
  | .crash => none

variable {σ : Type}

/-- Answers a request for a pipeline, if its run does not crash. -/
def dispatch (c : Run.Collaborators σ) (s : Server) (r : Request) (w : Run.World σ) :
    Option Answer × Run.World σ :=
  match s.resolve r with
  | .error refusal => (some refusal.answer, w)
  | .ok (p, request) =>
    let trace := Run.run c s.settings p request w
    (outcomeAnswer? trace.report.outcome, trace.world)

/-- What the server says of itself at a path. -/
def page? (s : Server) (now : Int) (path : String) : Option Json :=
  if path = "/healthz" then some (s.heartbeat.toJson now)
  else if path = "/openapi.json" then some s.description.toJson
  else none

/-- The answer that shows a page. -/
def pageAnswer (method : String) (page : Json) : Answer :=
  if method = "GET" then .json 200 page
  else if method = "HEAD" then (Answer.json 200 page).headOnly
  else .readOnly

/-- Answers a request at the moment `now`, in milliseconds of Unix time. -/
def answer (c : Run.Collaborators σ) (s : Server) (now : Int) (r : Request) (w : Run.World σ) :
    Option Answer × Run.World σ :=
  match s.page? now r.target.path with
  | some page => (some (pageAnswer r.method page), w)
  | none => s.dispatch c r w

end Server
end RouteFlow.Service
