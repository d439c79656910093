import RouteFlow.Json.Shape

/-!
# Kinds of failure and cause codes

Every failure is of some kind, the kind determines the cause code that the caller is told, and the
code determines the status of the answer.

* `FailureKind.cause`: the code of a kind.
* `CauseCode.ofText`: the code that a JSON text gives.
-/

namespace RouteFlow.Run

/-- What sort of thing went wrong. -/
inductive FailureKind where
  /-- A required value was absent. -/
  | missingValue
  /-- A script failed. -/
  | script
  /-- A call to another server failed. -/
  | network
  /-- The pipeline is malformed or does not end. -/
  | integrity
  /-- The run was given up while no call was pending. -/
  | cancelled
  | other
  deriving DecidableEq, Repr

/-- The name of a kind. -/
def FailureKind.name : FailureKind → String
  | .missingValue => "missing value"
  | .script => "script"
  | .network => "network"
  | .integrity => "pipeline integrity"
  | .cancelled => "cancelled"
  | .other => "other"

/-- What the caller is told about the cause of a failed run. -/
inductive CauseCode where
  | null
  | script
  | network
  | pipelineIntegrity
  | unknown
  deriving DecidableEq, Repr

/-- The code that a kind of failure is told as. -/
def FailureKind.cause : FailureKind → CauseCode
  | .missingValue => .null
  | .script => .script
  | .network => .network
  | .integrity => .pipelineIntegrity
  | .cancelled | .other => .unknown

namespace CauseCode

/-- The name of a code. -/
def name : CauseCode → String
  | .null => "E_null"
  | .script => "E_script"
  | .network => "E_network"
  | .pipelineIntegrity => "E_pipeline_integrity"
  | .unknown => "E_unknown"

/-- The codes, in their order. -/
def all : List CauseCode := [.null, .script, .network, .pipelineIntegrity, .unknown]

/-- The HTTP status of the answer to a run that failed with a code. -/
def status : CauseCode → Nat
  | .null => 400
  | .network => 502
  | .script | .pipelineIntegrity | .unknown => 500

/-- The code with a name. -/
def ofName? (s : String) : Option CauseCode := all.find? (·.name == s)

/-! ### Reading -/

open Json (Place ShapeError)

/-- The value at a place. -/
def valueAt (p : Place) : Json.Part :=
  Json.readValue Place.offset Json.depthLimit p (2 * p.rest.length + 2)

/-- Reads the name of a code. -/
def readName (p : Place) : Except ShapeError (CauseCode × Place) :=
  match valueAt p with
  | ⟨.string (.ok s) span, some q⟩ =>
    match ofName? s with
    | some code => .ok (code, q)
    | none => .error (.shape (.unknownVariant s (all.map name)) (some span.stop))
  | part => .error (part.source.mismatch "variant identifier")

/-- Passes the colon that comes next. -/
def readColon (p : Place) : Except ShapeError Place :=
  let q := p.skipBlanks
  match q.rest with
  | 0x3A :: _ => .ok (q.advance 1)
  | [] => .error (.form (q.fault .endInObject))
  | _ => .error (.form (q.faultNext .colonExpected))

/-- Passes the `null` that comes next. -/
def readNull (p : Place) : Except ShapeError Place :=
  match valueAt p with
  | ⟨.null _, some q⟩ => .ok q
  | part => .error (part.source.mismatch "unit")

/-- Passes the brace that comes next. -/
def readBrace (p : Place) : Except ShapeError Place :=
  let q := p.skipBlanks
  match q.rest with
  | 0x7D :: _ => .ok (q.advance 1)
  | [] => .error (.form (q.fault .endInObject))
  | _ => .error (.form (q.fault .valueExpected))

/-- Reads a code: its name, or an object that has the name for its only member and `null` under
it. -/
def read (p : Place) : Except ShapeError (CauseCode × Place) := do
  let q := p.skipBlanks
  match q.rest with
  | [] => .error (.form (q.fault .endInValue))
  | 0x22 :: _ => readName q
  | 0x7B :: _ =>
    let (code, r) ← readName (q.advance 1)
    let r ← readColon r
    let r ← readNull r
    let r ← readBrace r
    .ok (code, r)
  | _ => .error (.form (q.faultNext .valueExpected))

/-- The code that a JSON text gives. -/
def ofText (s : String) : Except Json.TextError CauseCode :=
  let bs := Text.octets s
  (do
    let (code, p) ← read ⟨0, bs⟩
    match p.trailing? with
    | some f => .error (.form f)
    | none => .ok code).mapError (.of bs)

end CauseCode
end RouteFlow.Run
