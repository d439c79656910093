import RouteFlow.OpenApi.Model

/-!
# Describing routes

`project` turns declarations into the description of an API. A route with the method GET takes its
query parameters, one with POST or PUT its body fields; a route with any other method is not
described. Routes with the same path share one path item, in which a later operation of a method
replaces an earlier one.

* `projectRoute`: the path and the operation of a single route.
-/

namespace RouteFlow.OpenApi

open Document (Declaration AllowedField)

/-- The answer that a route promises. -/
def responses (d : Declaration) : Entries Response := [("200", ⟨d.returns?.getD ""⟩)]

/-- The schema of a body field. -/
def fieldSchema (f : AllowedField) : Schema := ⟨f.type?, f.description?, []⟩

/-- The schema of the body that a route takes. -/
def bodySchema (d : Declaration) : Schema where
  type? := some "object"
  description? := none
  properties := Entries.ofList (d.bodyFields.filterMap fun f => f.field?.map (·, fieldSchema f))

/-- The query parameter that an allowed field stands for. -/
def queryParameter? (f : AllowedField) : Option Parameter :=
  f.field?.map fun name =>
    ⟨name, "query", f.description?, f.type?.map fun t => ⟨some t, none, []⟩⟩

/-- An operation that takes a body. -/
def bodyOperation (d : Declaration) : Operation where
  parameters := []
  requestBody? := some ⟨[(jsonMediaType, ⟨bodySchema d⟩)]⟩
  responses := responses d

/-- An operation that takes query parameters. -/
def queryOperation (d : Declaration) : Operation where
  parameters := d.paramFields.filterMap queryParameter?
  requestBody? := none
  responses := responses d

/-- The path item of a route, if its method is one that is described. -/
def pathItem? (d : Declaration) : Option PathItem :=
  let item : PathItem := { PathItem.empty with description? := d.description? }
  match d.method with
  | .post => some { item with post? := some (bodyOperation d) }
  | .put => some { item with put? := some (bodyOperation d) }
  | .get => some { item with get? := some (queryOperation d) }
  | _ => none

/-- The path of the route that the pipeline `name` serves, and what is under it. -/
def projectRoute (d : Declaration) (name : String) : Option (String × PathItem) :=
  (pathItem? d).map (d.route name, ·)

/-- A path item in which the parts that `later` has replace those of `earlier`. -/
def PathItem.merge (earlier later : PathItem) : PathItem where
  description? := later.description?.or earlier.description?
  get? := later.get?.or earlier.get?
  post? := later.post?.or earlier.post?
  put? := later.put?.or earlier.put?

/-- Paths with one more route. -/
def addRoute (paths : Entries PathItem) (d : Declaration) (name : String) : Entries PathItem :=
  match projectRoute d name with
  | none => paths
  | some (path, item) =>
    paths.insertSorted path (((paths.get? path).getD .empty).merge item)

/-- The description of routes, each given by its declaration and the name of its pipeline. -/
def project (info : Info) (routes : List (Declaration × String)) : Description where
  openapi := standardVersion
  info := info
  paths := routes.foldl (fun paths (d, name) => addRoute paths d name) []

end RouteFlow.OpenApi
