import RouteFlow.Command.Basic
import RouteFlow.Files.Load
import RouteFlow.Service.Server

/-!
# What commands do

Every command works on a disk. What it prints is a function of the disk, of the command, and for
a run of those who answer its calls.

* `checkPath`, `describeDirectory`, `runOnce`: what the commands print.
* `server`: the server that is to be started.
* `execute`: what any command prints.
-/

namespace RouteFlow.Command

open Files (Disk Loaded)

/-! ### Checking documents -/

/-- The documents at a path: a directory, or a single file, known by its name alone. -/
def documentsAt (d : Disk) (path : String) : Except Files.LoadError (List Loaded) :=
  if d.isDirectory path then Files.loadAll d path
  else (Files.load d (Files.Path.parent path) path).map ([·])

/-- The wording of what is wrong with a document. -/
def findings (l : Loaded) : List String := l.document.violations.map (·.message)

/-- Whether nothing is wrong with a document. -/
def isValid (l : Loaded) : Bool := (findings l).isEmpty

/-- The lines about a document on the standard output. -/
def validLines (l : Loaded) : List String :=
  if isValid l then ["ok: " ++ l.routePath ++ " (" ++ l.file ++ ")"] else []

/-- The lines about a document on the error output. -/
def invalidLines (l : Loaded) : List String :=
  if isValid l then []
  else
    ("error: " ++ l.routePath ++ " (" ++ l.file ++ ") failed validation") ::
      (findings l).map ("- " ++ ·)

/-- What is found about a document. -/
def findingsJson (l : Loaded) : Json :=
  .object <|
    [("route", .string l.routePath), ("file", .string l.file), ("valid", .bool (isValid l))] ++
      if isValid l then [] else [("errors", .array ((findings l).map .string))]

/-- Checks the documents at a path. -/
def checkPath (d : Disk) (path : String) (style : Style) : Printed :=
  match documentsAt d path with
  | .error e => style.fail .invalid [e.message]
  | .ok documents =>
    let exit : Exit := if documents.all isValid then .success else .invalid
    if style.format = .text && !style.quiet then
      ⟨exit, documents.flatMap validLines, documents.flatMap invalidLines⟩
    else
      style.succeed exit <| .object [
        ("valid", .bool (documents.all isValid)),
        ("files", .array (documents.map findingsJson))]

/-! ### Describing a directory -/

/-- The declaration of a valid document, with the name under which it is known. -/
def describable? (l : Loaded) : Option (Document.Declaration × String) :=
  if isValid l then l.document.declaration?.map (·, l.routePath) else none

/-- Describes the pipelines of a directory, all of which have to be valid. -/
def describeDirectory (d : Disk) (directory title version : String) (style : Style) : Printed :=
  match Files.loadAll d directory with
  | .error e => style.fail .invalid [e.message]
  | .ok documents =>
    match documents.filter fun l => (describable? l).isNone with
    | [] =>
      let routes := documents.filterMap describable?
      style.succeed .success (OpenApi.project ⟨title, version⟩ routes).toJson
    | invalid =>
      let names := String.intercalate ", " (invalid.map (·.routePath))
      style.fail .invalid ["invalid pipelines: " ++ names]

/-! ### A single run -/

/-- Why a run cannot begin. -/
inductive RunRefusal where
  | badBody (error : Json.TextError)
  | badParam (text : String)
  | load (error : Files.LoadError)
  | bind (error : Files.SetError)

namespace RunRefusal

/-- How the command ends. -/
def exit : RunRefusal → Exit
  | .badBody _ | .badParam _ => .cannotRun
  | .load _ | .bind _ => .invalid

/-- The wording, a line for each violation. -/
def lines : RunRefusal → List String
  | .badBody e => ["invalid --body JSON: " ++ e.message]
  | .badParam text => ["invalid --param `" ++ text ++ "`, expected KEY=VALUE"]
  | .load e => [e.message]
  | .bind e => e.lines

end RunRefusal

/-- Reads a parameter: what stands before the first `=` and what stands after it. -/
def readParam (text : String) : Except RunRefusal (String × String) :=
  match Text.cut? ['='] text.toList with
  | some (name, value) => .ok (String.ofList name, String.ofList value)
  | none => .error (.badParam text)

/-- The body that a run is given; none is `null`. -/
def readBody : Option String → Except RunRefusal Json
  | none => .ok .null
  | some text => (Json.ofText text).mapError .badBody

/-- The pipeline of a run and what it gets. -/
def prepare (d : Disk) (r : RunOnce) : Except RunRefusal (Pipeline × Run.Request) := do
  let body ← readBody r.body?
  let params ← r.params.mapM readParam
  let loaded ← (Files.load d (Files.Path.parent r.file) r.file).mapError RunRefusal.load
  let registry := Pipeline.Registry.standard r.calls.settings
  let p ← (Files.bindLoaded registry loaded).mapError RunRefusal.bind
  .ok (p, ⟨p.declaration.method, body, Service.Server.parameters params⟩)

/-- The lines of what a run told. -/
def eventLines (target : EventTarget) (notices : List Run.Notice) : List String :=
  match target with
  | .out => notices.map (·.toJson.compact)
  | .nowhere | .log => []

/-- What is printed of the end of a run. What the system says of a crash is left out. -/
def report (style : Style) : Run.Ending Run.RunError Run.Output → Printed
  | .ok output => style.succeed .success output.body
  | .error e => style.succeed .failed e.toJson
  | .crash => ⟨.crashed, [], []⟩

/-- Runs a pipeline once. -/
def runOnce {σ : Type} (c : Run.Collaborators σ) (d : Disk) (r : RunOnce) (w : Run.World σ) :
    Printed × Run.World σ :=
  match prepare d r with
  | .error e => (r.style.fail e.exit e.lines, w)
  | .ok (p, request) =>
    let trace := Run.run c r.limits.settings p request w
    let printed := report r.style trace.report.outcome
    ({ printed with out := eventLines r.events trace.notices ++ printed.out }, trace.world)

/-! ### Serving a directory -/

/-- Why a server cannot be started. -/
inductive ServeRefusal where
  | version (error : Release.VersionFileError)
  | pipelines (error : Files.SetError)

/-- How the command ends. -/
def ServeRefusal.exit : ServeRefusal → Exit
  | .version _ => .cannotRun
  | .pipelines _ => .invalid

/-- The wording, a line for each violation. -/
def ServeRefusal.lines : ServeRefusal → List String
  | .version e => [e.message]
  | .pipelines e => e.lines

/-- The server of a directory that starts at a moment, in milliseconds of Unix time. -/
def server (d : Disk) (s : Serve) (startedAt : Int) : Except ServeRefusal Service.Server := do
  let package ← (Release.Package.load d s.versionFile).mapError ServeRefusal.version
  let registry := Pipeline.Registry.standard s.calls.settings
  let ps ← (Files.bindAll d registry s.directory).mapError ServeRefusal.pipelines
  .ok (.ofPipelines s.limits.settings s.app (.of s.app package startedAt) ps)

/-- Starts the server of a directory. There is nothing here that could listen, so it ends at once.
-/
def serveOnce (d : Disk) (s : Serve) : Printed :=
  match server d s 0 with
  | .error e => ⟨e.exit, [], e.lines.map ("error: " ++ ·)⟩
  | .ok _ => ⟨.cannotRun, [], ["error: cannot listen on " ++ s.listen]⟩

/-! ### All commands -/

/-- The name and the version of the program. -/
def versionLine : String := "ruuter " ++ Release.programVersionText

/-- Carries a command out. -/
def execute {σ : Type} (c : Run.Collaborators σ) (d : Disk) (w : Run.World σ) :
    Command → Printed × Run.World σ
  | .showVersion => (⟨.success, [versionLine], []⟩, w)
  | .validate path style => (checkPath d path style, w)
  | .describe directory title version style =>
    (describeDirectory d directory title version style, w)
  | .run r => runOnce c d r w
  | .serve s => (serveOnce d s, w)

end RouteFlow.Command
