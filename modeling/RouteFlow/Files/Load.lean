import RouteFlow.Document.Format
import RouteFlow.Document.Validation
import RouteFlow.Files.Tree
import RouteFlow.Pipeline.Basic

/-!
# Pipelines in files

Each pipeline document below a directory is known by the way that leads to it, without the
extension. The documents are read in the order of these ways, and bound one after another.

* `loadAll`, `load`: the documents below a directory, and a single one.
* `bindAll`: the pipelines below a directory.
-/

namespace RouteFlow.Files

/-- The extensions of pipeline documents. -/
def documentExtensions : List String := ["yml", "yaml", "json"]

/-- A document with the file that it was read from. -/
structure Loaded where
  routePath : String
  file : String
  document : Document
  format : Document.Format

/-- Why a document cannot be loaded. -/
inductive LoadError where
  | io (path : String) (error : IoError)
  | parse (path : String) (error : Document.ReadError)
  | outsideRoot (path : String)

/-- The wording of an error. -/
def LoadError.message : LoadError → String
  | .io path e => "failed to read " ++ path ++ ": " ++ e.message
  | .parse path e => "failed to parse " ++ path ++ ": " ++ e.message
  | .outsideRoot path => path ++ " is not inside the DSL root"

/-- Whether a path has the extension of a pipeline document. -/
def isDocument (path : String) : Bool :=
  (Path.extension? path).any fun e => documentExtensions.any (Text.sameLetters e)

/-- The name of a file inside a directory. -/
def routePath (root : List Component) (file : String) : Except LoadError String :=
  match Path.routePath? root file with
  | some name => .ok name
  | none => .error (.outsideRoot file)

/-- Loads a document inside a directory. -/
def load (d : Disk) (root : List Component) (file : String) : Except LoadError Loaded := do
  let name ← routePath root file
  let text ← (d.readText file).mapError (.io file)
  let format := Document.Format.ofExtension (Path.extension? file)
  let (document, format) ← (Document.ofText format name text).mapError (.parse file)
  .ok ⟨name, file, document, format⟩

/-- Loads documents in order. -/
def loadEach (d : Disk) (root : List Component) : List String → Except LoadError (List Loaded)
  | [] => .ok []
  | file :: rest => do
    let loaded ← load d root file
    let others ← loadEach d root rest
    .ok (loaded :: others)

/-- Loads the documents below a directory. -/
def loadAll (d : Disk) (root : String) : Except LoadError (List Loaded) := do
  let files ← (d.list root).mapError (.io root)
  loadEach d (Path.components root) (files.filter isDocument)

/-! ### Binding -/

/-- Why the pipelines below a directory cannot be served. -/
inductive SetError where
  | load (error : LoadError)
  | invalid (name : String) (violations : List Document.Violation)
  | bind (name : String) (error : Pipeline.BindError)

/-- The wording of an error: a line for each violation. -/
def SetError.lines : SetError → List String
  | .load e => [e.message]
  | .invalid name violations => violations.map fun v => name ++ ": " ++ v.message
  | .bind name e => [name ++ ": " ++ e.message]

/-- Validates and binds a document. -/
def bindLoaded (registry : Pipeline.Registry) (l : Loaded) : Except SetError Pipeline :=
  match l.document.violations with
  | [] => (Pipeline.bind registry l.document).mapError (.bind l.routePath)
  | violations => .error (.invalid l.routePath violations)

/-- Validates and binds documents in order. -/
def bindEach (registry : Pipeline.Registry) : List Loaded → Except SetError (List Pipeline)
  | [] => .ok []
  | l :: rest => do
    let p ← bindLoaded registry l
    let others ← bindEach registry rest
    .ok (p :: others)

/-- The pipelines below a directory. -/
def bindAll (d : Disk) (registry : Pipeline.Registry) (root : String) :
    Except SetError (List Pipeline) := do
  let loaded ← (loadAll d root).mapError .load
  bindEach registry loaded

end RouteFlow.Files
