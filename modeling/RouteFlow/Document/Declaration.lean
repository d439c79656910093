import RouteFlow.Http.Method
import RouteFlow.Json.Shape

/-!
# Declarations

The declaration of a route: its method and namespace, the request fields that it accepts and its
documentation. `Declaration.reader` reads one from a value or a text, and `Declaration.toJson`
writes it with absent parts left out.

* `Declaration.route`: the public path of the route.
* `Declaration.bodyFields`, `Declaration.paramFields`: the fields that the allowlist names.
-/

namespace RouteFlow

namespace Document

/-- A request field that a route accepts. -/
structure AllowedField where
  field? : Option String
  type? : Option String
  description? : Option String
  deriving DecidableEq

/-- The request fields that a route accepts, in the body and among the query parameters. -/
structure Allowlist where
  body? : Option (List AllowedField)
  params? : Option (List AllowedField)
  deriving DecidableEq

/-- What a route promises: how it is called, what it accepts and what it is for. -/
structure Declaration where
  call? : Option String
  version? : Option Json
  description? : Option String
  method : Http.Method
  accepts? : Option String
  returns? : Option String
  namespacePath : String
  allowlist? : Option Allowlist

/-- The `call` value that marks a declaration. -/
def declareCall : String := "declare"

/-! ### Reading -/

open Json (Reader Shape Field)

namespace AllowedField

/-- The fields of an allowed field. -/
def shape : Shape AllowedField where
  name := "AllowedField"
  start := ⟨none, none, none⟩
  fields := [
    .plain "field" (.optional .string) fun f v => { f with field? := v },
    .plain "type" (.optional .string) fun f v => { f with type? := v },
    .plain "description" (.optional .string) fun f v => { f with description? := v }]

/-- Reads an allowed field. -/
def reader : Reader AllowedField := shape.read

end AllowedField

namespace Allowlist

/-- The fields of an allowlist. -/
def shape : Shape Allowlist where
  name := "Allowlist"
  start := ⟨none, none⟩
  fields := [
    .plain "body" (.optional (.list AllowedField.reader)) fun a v => { a with body? := v },
    .plain "params" (.optional (.list AllowedField.reader)) fun a v => { a with params? := v }]

/-- Reads an allowlist. -/
def reader : Reader Allowlist := shape.read

end Allowlist

/-- Reads a method. -/
def readMethod : Reader Http.Method := fun s => do
  let text ← Reader.string s
  match Http.Method.ofText? text with
  | some m => .ok m
  | none => .error (.shape (.refused (.ofReason (Http.Method.unsupported text))) none)

namespace Declaration

/-- The fields of a declaration. Every one but the method may be left out. -/
def shape : Shape Declaration where
  name := "Declaration"
  start := ⟨none, none, none, .get, none, none, "", none⟩
  fields := [
    .plain "call" (.optional .string) fun d v => { d with call? := v },
    .plain "version" (.optional .json) fun d v => { d with version? := v },
    .plain "description" (.optional .string) fun d v => { d with description? := v },
    .needed "method" readMethod fun d v => { d with method := v },
    .plain "accepts" (.optional .string) fun d v => { d with accepts? := v },
    .plain "returns" (.optional .string) fun d v => { d with returns? := v },
    .plain "namespace" .string fun d v => { d with namespacePath := v },
    .plain "allowlist" (.optional Allowlist.reader) fun d v => { d with allowlist? := v }]

/-- Reads a declaration. -/
def reader : Reader Declaration := shape.read

end Declaration

/-! ### Writing -/

/-- The member `name` of an object, left out for none. -/
def member? {α : Type} (name : String) (write : α → Json) : Option α → List (String × Json)
  | none => []
  | some a => [(name, write a)]

/-- The object that describes an allowed field. -/
def AllowedField.toJson (f : AllowedField) : Json :=
  .object <|
    member? "field" .string f.field? ++
    member? "type" .string f.type? ++
    member? "description" .string f.description?

/-- The object that describes an allowlist. -/
def Allowlist.toJson (a : Allowlist) : Json :=
  let section? (name : String) := member? name fun fs : List AllowedField =>
    .array (fs.map AllowedField.toJson)
  .object (section? "body" a.body? ++ section? "params" a.params?)

namespace Declaration

/-- The object that describes a declaration. -/
def toJson (d : Declaration) : Json :=
  .object <|
    member? "call" .string d.call? ++
    member? "version" id d.version? ++
    member? "description" .string d.description? ++
    [("method", .string d.method.name)] ++
    member? "accepts" .string d.accepts? ++
    member? "returns" .string d.returns? ++
    [("namespace", .string d.namespacePath)] ++
    member? "allowlist" Allowlist.toJson d.allowlist?

/-! ### Views -/

/-- The body fields that the allowlist names. -/
def bodyFields (d : Declaration) : List AllowedField :=
  (d.allowlist?.bind (·.body?)).getD []

/-- The query parameters that the allowlist names. -/
def paramFields (d : Declaration) : List AllowedField :=
  (d.allowlist?.bind (·.params?)).getD []

/-- The public path of the route that the pipeline `name` serves. -/
def route (d : Declaration) (name : String) : String :=
  "/" ++ d.namespacePath ++ "/" ++ Text.withoutLeading '/' name

end Declaration
end Document
end RouteFlow
