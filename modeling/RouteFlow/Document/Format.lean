import RouteFlow.Document.Basic
import RouteFlow.Yaml.Value

/-!
# Document texts

A document is written in JSON or in YAML. The format follows from the extension of its file; where
that says nothing it is found by trying: JSON first if the text begins with a bracket, YAML first
otherwise.

* `Format.readValue`: the value of a text and the format it was read in.
* `Document.ofText`: the document of a text.
-/

namespace RouteFlow.Document

/-- How a document is written. -/
inductive Format where
  | json
  | yaml
  | auto
  deriving DecidableEq, Repr

/-- The name of a format. -/
def Format.name : Format → String
  | .json => "json"
  | .yaml => "yaml"
  | .auto => "auto"

/-- The format that a file extension stands for. -/
def Format.ofExtension (extension? : Option String) : Format :=
  match extension?.map Text.lower with
  | some "json" => .json
  | some "yml" | some "yaml" => .yaml
  | _ => .auto

/-- Why a text is no document. -/
inductive ReadError where
  | json (error : Json.TextError)
  | yaml (fault : Yaml.Fault)
  | unknownFormat
  | document (fault : Fault)

/-- The wording of an error. -/
def ReadError.message : ReadError → String
  | .json e => "failed to parse as JSON: " ++ e.message
  | .yaml f => "failed to parse as YAML: " ++ f.message
  | .unknownFormat =>
    "unable to auto-detect document format (neither valid JSON nor valid YAML)"
  | .document f => f.message

/-- Reads a value whose format has to be found. -/
def readAny (text : String) : Except ReadError (Json × Format) :=
  let json := Json.ofText text
  let yaml := Yaml.ofText? text
  match Text.trimStart text.toList with
  | [] => .error .unknownFormat
  | c :: _ =>
    if c = '{' ∨ c = '[' then
      match json, yaml with
      | .ok j, _ => .ok (j, .json)
      | .error _, .ok j => .ok (j, .yaml)
      | .error e, .error _ => .error (.json e)
    else
      match yaml, json with
      | .ok j, _ => .ok (j, .yaml)
      | .error _, .ok j => .ok (j, .json)
      | .error f, .error _ => .error (.yaml f)

/-- Reads a value. -/
def Format.readValue (format : Format) (text : String) : Except ReadError (Json × Format) :=
  match format with
  | .json => ((Json.ofText text).map (·, .json)).mapError .json
  | .yaml => ((Yaml.ofText? text).map (·, .yaml)).mapError .yaml
  | .auto => readAny text

/-- The document `name` that a text holds, and the format that it is written in. -/
def ofText (format : Format) (name text : String) : Except ReadError (Document × Format) := do
  let (value, format) ← format.readValue text
  let doc ← (ofJson name value).mapError .document
  .ok (doc, format)

end RouteFlow.Document
