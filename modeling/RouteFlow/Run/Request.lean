import RouteFlow.Document.Declaration

/-!
# Requests to a pipeline

What a caller sends, and the variables that a run begins with. Of the request only the fields that
the declaration names are kept, in the order of the declaration; a field that the request lacks is
absent.

* `initialVariables`: the one variable `incoming` with `body` and `params` in it.
-/

namespace RouteFlow.Run

/-- A request to a pipeline. -/
structure Request where
  method : Http.Method
  body : Json
  params : Entries Json

/-- The variable that holds what is kept of the request. -/
def incoming : String := "incoming"

/-- The values that a mapping has under the names of fields, added to `acc`. -/
def keepFields (source : Entries Json) (acc : Entries Json) :
    List Document.AllowedField → Entries Json
  | [] => acc
  | f :: rest =>
    match f.field? with
    | none => keepFields source acc rest
    | some name =>
      match source.get? name with
      | none => keepFields source acc rest
      | some v => keepFields source (acc.insert name v) rest

/-- What is kept of a request body; a body that is not an object has no fields. -/
def keptBody (d : Document.Declaration) (body : Json) : Entries Json :=
  keepFields (body.members?.getD []) [] d.bodyFields

/-- What is kept of query parameters. -/
def keptParams (d : Document.Declaration) (params : Entries Json) : Entries Json :=
  keepFields params [] d.paramFields

/-- The variables that a run begins with. -/
def initialVariables (d : Document.Declaration) (r : Request) : Entries Json :=
  [(incoming, .object [
    ("body", .object (keptBody d r.body)),
    ("params", .object (keptParams d r.params))])]

end RouteFlow.Run
