import RouteFlow.Document.Declaration

/-!
# API descriptions

The part of an OpenAPI 3 document that describes routes: paths with up to three operations, their
inputs and their answers. Each record reads itself from a value or a text (`reader`) and writes
itself as a value (`toJson`). Absent options and empty lists of parameters or properties are not
written, and read back as absent or empty.

* `Description`: a whole document.
-/

namespace RouteFlow.OpenApi

open Json (Reader Shape Field)
open Document (member?)

/-! ### Records -/

/-- Title and version of an API. -/
structure Info where
  title : String
  version : String
  deriving DecidableEq

/-- The type of a value, and for an object its properties in order. -/
structure Schema where
  type? : Option String
  description? : Option String
  properties : List (String × Schema)

/-- An input that stands in the address of a request. -/
structure Parameter where
  name : String
  location : String
  description? : Option String
  schema? : Option Schema

/-- The schema of a body in one media type. -/
structure MediaType where
  schema : Schema

/-- A request body, by media type. -/
structure RequestBody where
  content : Entries MediaType

/-- An answer. -/
structure Response where
  description : String
  deriving DecidableEq

/-- What a method of a path takes and answers. -/
structure Operation where
  parameters : List Parameter
  requestBody? : Option RequestBody
  responses : Entries Response

/-- The operations of a path. -/
structure PathItem where
  description? : Option String
  get? : Option Operation
  post? : Option Operation
  put? : Option Operation

/-- A description of an API. -/
structure Description where
  openapi : String
  info : Info
  paths : Entries PathItem

/-- A path without operations. -/
def PathItem.empty : PathItem := ⟨none, none, none, none⟩

/-- The version of the standard that descriptions follow. -/
def standardVersion : String := "3.0.1"

/-- The media type of JSON. -/
def jsonMediaType : String := "application/json"

/-! ### Reading -/

namespace Info

/-- The fields of an info record. -/
def shape : Shape Info where
  name := "Info"
  start := ⟨"", ""⟩
  fields := [
    .needed "title" .string fun i v => { i with title := v },
    .needed "version" .string fun i v => { i with version := v }]

end Info

namespace Schema

/-- The fields of a schema whose properties `r` reads. -/
def shape (r : Reader Schema) : Shape Schema where
  name := "Schema"
  start := ⟨none, none, []⟩
  fields := [
    .plain "type" (.optional .string) fun s v => { s with type? := v },
    .plain "description" (.optional .string) fun s v => { s with description? := v },
    .plain "properties" (.entries r) fun s v => { s with properties := v }]

/-- Reads a schema that nests less than `n` deep. -/
def readerWithin : Nat → Reader Schema
  | 0 => fun _ => .error (.shape (.refused ⟨"schema nests too deep", none⟩) none)
  | n + 1 => (shape (readerWithin n)).read

/-- Reads a schema. -/
def reader : Reader Schema := fun s => readerWithin (s.depth + 1) s

end Schema

namespace Parameter

/-- The fields of a parameter. -/
def shape : Shape Parameter where
  name := "Parameter"
  start := ⟨"", "", none, none⟩
  fields := [
    .needed "name" .string fun p v => { p with name := v },
    .needed "in" .string fun p v => { p with location := v },
    .plain "description" (.optional .string) fun p v => { p with description? := v },
    .plain "schema" (.optional Schema.reader) fun p v => { p with schema? := v }]

end Parameter

namespace MediaType

/-- The fields of a media type. -/
def shape : Shape MediaType where
  name := "MediaType"
  start := ⟨⟨none, none, []⟩⟩
  fields := [.needed "schema" Schema.reader fun _ v => ⟨v⟩]

end MediaType

namespace RequestBody

/-- The fields of a request body. -/
def shape : Shape RequestBody where
  name := "RequestBody"
  start := ⟨[]⟩
  fields := [.plain "content" (.sorted MediaType.shape.read) fun _ v => ⟨v⟩]

end RequestBody

namespace Response

/-- The fields of an answer. -/
def shape : Shape Response where
  name := "Response"
  start := ⟨""⟩
  fields := [.plain "description" .string fun _ v => ⟨v⟩]

end Response

namespace Operation

/-- The fields of an operation. -/
def shape : Shape Operation where
  name := "Operation"
  start := ⟨[], none, []⟩
  fields := [
    .plain "parameters" (.list Parameter.shape.read) fun o v => { o with parameters := v },
    .plain "requestBody" (.optional RequestBody.shape.read) fun o v => { o with requestBody? := v },
    .plain "responses" (.sorted Response.shape.read) fun o v => { o with responses := v }]

/-- Reads an operation. -/
def reader : Reader Operation := shape.read

end Operation

namespace PathItem

/-- The fields of a path. -/
def shape : Shape PathItem where
  name := "PathItem"
  start := .empty
  fields := [
    .plain "description" (.optional .string) fun i v => { i with description? := v },
    .plain "get" (.optional Operation.reader) fun i v => { i with get? := v },
    .plain "post" (.optional Operation.reader) fun i v => { i with post? := v },
    .plain "put" (.optional Operation.reader) fun i v => { i with put? := v }]

end PathItem

namespace Description

/-- The fields of a description. -/
def shape : Shape Description where
  name := "OpenApiDocument"
  start := ⟨"", ⟨"", ""⟩, []⟩
  fields := [
    .needed "openapi" .string fun d v => { d with openapi := v },
    .needed "info" Info.shape.read fun d v => { d with info := v },
    .plain "paths" (.sorted PathItem.shape.read) fun d v => { d with paths := v }]

/-- Reads a description. -/
def reader : Reader Description := shape.read

end Description

/-! ### Writing -/

/-- The member `name` that holds a list or an object, left out when it is empty. -/
def filledMember {α : Type} (name : String) (write : List α → Json) (l : List α) :
    List (String × Json) :=
  if l.isEmpty then [] else [(name, write l)]

/-- An object with the values of a mapping. -/
def objectOf {α : Type} (write : α → Json) (es : Entries α) : Json :=
  .object (es.map fun (k, a) => (k, write a))

/-- The object that describes an info record. -/
def Info.toJson (i : Info) : Json :=
  .object [("title", .string i.title), ("version", .string i.version)]

mutual

/-- The object that describes a schema. -/
def Schema.toJson : Schema → Json
  | ⟨type?, description?, properties⟩ =>
    .object <|
      member? "type" .string type? ++
      member? "description" .string description? ++
      filledMember "properties" .object (propertiesToMembers properties)

/-- The members that describe properties. -/
def propertiesToMembers : List (String × Schema) → List (String × Json)
  | [] => []
  | (k, s) :: rest => (k, s.toJson) :: propertiesToMembers rest

end

/-- The object that describes a parameter. -/
def Parameter.toJson (p : Parameter) : Json :=
  .object <|
    [("name", .string p.name), ("in", .string p.location)] ++
    member? "description" .string p.description? ++
    member? "schema" Schema.toJson p.schema?

/-- The object that describes a media type. -/
def MediaType.toJson (m : MediaType) : Json := .object [("schema", m.schema.toJson)]

/-- The object that describes a request body. -/
def RequestBody.toJson (b : RequestBody) : Json :=
  .object [("content", objectOf MediaType.toJson b.content)]

/-- The object that describes an answer. -/
def Response.toJson (r : Response) : Json := .object [("description", .string r.description)]

/-- The object that describes an operation. -/
def Operation.toJson (o : Operation) : Json :=
  .object <|
    filledMember "parameters" (fun ps : List Parameter => .array (ps.map Parameter.toJson))
      o.parameters ++
    member? "requestBody" RequestBody.toJson o.requestBody? ++
    [("responses", objectOf Response.toJson o.responses)]

/-- The object that describes a path. -/
def PathItem.toJson (i : PathItem) : Json :=
  .object <|
    member? "description" .string i.description? ++
    member? "get" Operation.toJson i.get? ++
    member? "post" Operation.toJson i.post? ++
    member? "put" Operation.toJson i.put?

/-- The object that describes an API. -/
def Description.toJson (d : Description) : Json :=
  .object [
    ("openapi", .string d.openapi),
    ("info", d.info.toJson),
    ("paths", objectOf PathItem.toJson d.paths)]

end RouteFlow.OpenApi
