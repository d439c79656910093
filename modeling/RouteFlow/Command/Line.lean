import RouteFlow.Command.Basic
import RouteFlow.Release.Version
import RouteFlow.Text.Numeral

/-!
# The command line

A command is named by a word, followed by its options and the path that it works on. An option is
written `--name value` or `--name=value`, a switch `--name`; nothing after `--` is an option. What
the line does not give is taken from the environment, and else stands at its standard value.

* `ofLine`: the command that a line asks for.
-/

namespace RouteFlow.Command

/-! ### Errors -/

/-- Why a line asks for nothing that can be done. -/
inductive UsageError where
  | noCommand
  | unknownCommand (word : String)
  | unexpected (argument : String)
  | repeated (option : String)
  | noValue (option : String)
  | badValue (option value : String)
  | noPath (name : String)
  deriving DecidableEq, Repr

/-- The wording of an error. -/
def UsageError.message : UsageError → String
  | .noCommand => "a command is required: serve, validate, openapi or run"
  | .unknownCommand word => "unrecognized subcommand '" ++ word ++ "'"
  | .unexpected argument => "unexpected argument '" ++ argument ++ "' found"
  | .repeated option => "the argument '--" ++ option ++ "' cannot be used multiple times"
  | .noValue option => "a value is required for '--" ++ option ++ "' but none was supplied"
  | .badValue option value => "invalid value '" ++ value ++ "' for '--" ++ option ++ "'"
  | .noPath name => "the following required arguments were not provided: <" ++ name ++ ">"

/-! ### Options -/

/-- What an option takes. -/
inductive Arity where
  | switch
  | single
  | many
  deriving DecidableEq, Repr

/-- An option, and the variable of the environment that stands in for it. -/
structure OptionRule where
  name : String
  arity : Arity
  envName? : Option String

/-- The options and the paths of a line. -/
structure Given where
  options : List (String × String)
  paths : List String

namespace Given

/-- Nothing. -/
def empty : Given := ⟨[], []⟩

/-- The line with one more option before it. -/
def withOption (g : Given) (name value : String) : Given :=
  { g with options := (name, value) :: g.options }

/-- The line with one more path before it. -/
def withPath (g : Given) (path : String) : Given := { g with paths := path :: g.paths }

/-- The values of an option, in order. -/
def values (g : Given) (name : String) : List String :=
  g.options.filterMap fun o => if o.1 = name then some o.2 else none

end Given

/-- Whether a word is written like an option. -/
def isOptionLike (word : String) : Bool := word.startsWith "-" && word != "-"

/-- A word cut into the name of an option and the value that is attached to it. -/
def cutOption? (word : String) : Option (String × Option String) :=
  match word.toList with
  | '-' :: '-' :: rest =>
    match Text.cut? ['='] rest with
    | some (name, value) => some (String.ofList name, some (String.ofList value))
    | none => some (String.ofList rest, none)
  | ['-', 'q'] => some ("quiet", none)
  | _ => none

/-- Reads the words of a line. -/
def readWords (options : List OptionRule) : List String → Except UsageError Given
  | [] => .ok .empty
  | "--" :: rest => .ok ⟨[], rest⟩
  | word :: rest =>
    if !isOptionLike word then return (← readWords options rest).withPath word
    else
      match (cutOption? word).bind fun (name, value?) =>
          (options.find? (·.name == name)).map (·, value?) with
      | none => .error (.unexpected word)
      | some (o, value?) =>
        match o.arity, value? with
        | .switch, some _ => .error (.unexpected word)
        | .switch, none => return (← readWords options rest).withOption o.name "true"
        | _, some value => return (← readWords options rest).withOption o.name value
        | _, none =>
          match rest with
          | value :: rest =>
            if isOptionLike value then .error (.noValue o.name)
            else return (← readWords options rest).withOption o.name value
          | [] => .error (.noValue o.name)

/-! ### Values -/

/-- A line with its environment. -/
structure Line where
  given : Given
  environment : Entries String

namespace Line

/-- The value of an option, from the line or from the environment. -/
def value? (l : Line) (o : OptionRule) : Except UsageError (Option String) :=
  match l.given.values o.name with
  | [] => .ok (o.envName?.bind l.environment.get?)
  | [value] => .ok (some value)
  | _ => .error (.repeated o.name)

/-- The text of an option, or its standard value. -/
def text (l : Line) (o : OptionRule) (standard : String) : Except UsageError String := do
  return (← l.value? o).getD standard

/-- The path of an option, or its standard value; no path is empty. -/
def path (l : Line) (o : OptionRule) (standard : String) : Except UsageError String := do
  let value ← l.text o standard
  if value.isEmpty then .error (.noValue o.name) else .ok value

/-- A value that has to be read. -/
def read {α : Type} (l : Line) (o : OptionRule) (reader : String → Option α) (standard : α) :
    Except UsageError α := do
  match ← l.value? o with
  | none => .ok standard
  | some value =>
    match reader value with
    | some a => .ok a
    | none => .error (.badValue o.name value)

/-- A whole number of 64 bits. -/
def number (l : Line) (o : OptionRule) (standard : Nat) : Except UsageError Nat :=
  l.read o (Text.word64? ·.toList) standard

/-- Whether a switch is on. -/
def isOn (l : Line) (o : OptionRule) : Except UsageError Bool :=
  l.read o (fun | "true" => some true | "false" => some false | _ => none) false

/-- The path that a command works on. -/
def target (l : Line) (name : String) : Except UsageError String :=
  match l.given.paths with
  | [] | [""] => .error (.noPath name)
  | [path] => .ok path
  | _ :: extra :: _ => .error (.unexpected extra)

/-- Refuses paths, for a command that takes none. -/
def noTarget (l : Line) : Except UsageError Unit :=
  match l.given.paths with
  | [] => .ok ()
  | extra :: _ => .error (.unexpected extra)

end Line

/-! ### The options of the commands -/

/-- A switch that the environment knows too. -/
def switch (name : String) (envName? : Option String) : OptionRule := ⟨name, .switch, envName?⟩

/-- An option with one value. -/
def single (name : String) (envName? : Option String) : OptionRule := ⟨name, .single, envName?⟩

/-- In which form a report is printed. -/
def formatOption : OptionRule := single "format" none

/-- Leaves out what is not a finding. -/
def quietOption : OptionRule := switch "quiet" none

/-- The title of a description. -/
def titleOption : OptionRule := single "title" none

/-- The version that a description states. -/
def apiVersionOption : OptionRule := single "api-version" none

/-- The body of the request of a single run. -/
def bodyOption : OptionRule := single "body" none

/-- A query parameter of the request, as often as there are parameters. -/
def paramOption : OptionRule := ⟨"param", .many, none⟩

/-- Where the events of a single run go. -/
def eventsOption : OptionRule := single "events" none

/-- How long a run may take. -/
def requestTimeoutOption : OptionRule := single "request-timeout-ms" "RUUTER_REQUEST_TIMEOUT_MS"

/-- How many steps a run may take. -/
def maxStepsOption : OptionRule := single "max-steps" "RUUTER_MAX_STEPS"

/-- How long one call may take. -/
def httpTimeoutOption : OptionRule := single "http-timeout-ms" "RUUTER_HTTP_TIMEOUT_MS"

/-- How large the answer to a call may be. -/
def maxResponseOption : OptionRule := single "max-response-bytes" "RUUTER_HTTP_MAX_RESPONSE_BYTES"

/-- How often a call is tried in all. -/
def attemptsOption : OptionRule := single "retry-attempts" "RUUTER_RETRY_ATTEMPTS"

/-- Tries also those calls again that may have had an effect. -/
def nonIdempotentOption : OptionRule := switch "retry-non-idempotent" "RUUTER_RETRY_NON_IDEMPOTENT"

/-- How much is logged. -/
def logLevelOption : OptionRule := single "log-level" "RUUTER_LOG_LEVEL"

/-- Logs one JSON value a line. -/
def logJsonOption : OptionRule := switch "log-json" "RUUTER_LOG_JSON"

/-- Where the documents are. -/
def directoryOption : OptionRule := single "dsl-dir" "RUUTER_DSL_DIR"

/-- The address at which the service listens. -/
def listenOption : OptionRule := single "listen" "RUUTER_LISTEN_ADDR"

/-- The name under which the service reports itself. -/
def appOption : OptionRule := single "app-name" "RUUTER_APP_NAME"

/-- The file that states what is deployed. -/
def versionFileOption : OptionRule := single "version-file" "RUUTER_VERSION_FILE"

/-- The options of printing. -/
def styleOptions : List OptionRule := [formatOption, quietOption]

/-- The options of running pipelines. -/
def runOptions : List OptionRule := [
  requestTimeoutOption, maxStepsOption, httpTimeoutOption, maxResponseOption, attemptsOption,
  nonIdempotentOption, logLevelOption, logJsonOption]

namespace Line

/-- How a command prints. -/
def style (l : Line) : Except UsageError Style := do
  let formats := fun | "text" => some Format.text | "json" => some .json | _ => none
  let format ← l.read formatOption formats .text
  let quiet ← l.isOn quietOption
  .ok ⟨format, quiet⟩

/-- The limits of runs. -/
def limits (l : Line) : Except UsageError RunLimits := do
  let timeoutMillis ← l.number requestTimeoutOption 60000
  let maxSteps ← l.number maxStepsOption 1000
  .ok ⟨timeoutMillis, maxSteps⟩

/-- The limits of calls. -/
def calls (l : Line) : Except UsageError CallLimits := do
  let timeoutMillis ← l.number httpTimeoutOption 30000
  let maxResponseOctets ← l.number maxResponseOption (10 * 1024 * 1024)
  let attempts ← l.number attemptsOption 3
  let retryNonIdempotent ← l.isOn nonIdempotentOption
  let _ ← l.isOn logJsonOption
  let _ ← l.text logLevelOption "info"
  .ok ⟨timeoutMillis, maxResponseOctets, attempts, retryNonIdempotent⟩

/-- The command `validate`. -/
def validate (l : Line) : Except UsageError Command := do
  .ok (.validate (← l.target "PATH") (← l.style))

/-- The command `openapi`. -/
def describe (l : Line) : Except UsageError Command := do
  let directory ← l.target "DIR"
  let title ← l.text titleOption "ruuter"
  let version ← l.text apiVersionOption Release.programVersionText
  .ok (.describe directory title version (← l.style))

/-- The command `run`. -/
def run (l : Line) : Except UsageError Command := do
  let targets := fun
    | "none" => some EventTarget.nowhere
    | "stdout" => some .out
    | "log" => some .log
    | _ => none
  .ok <| .run {
    file := ← l.target "FILE"
    body? := ← l.value? bodyOption
    params := l.given.values paramOption.name
    events := ← l.read eventsOption targets .nowhere
    limits := ← l.limits
    calls := ← l.calls
    style := ← l.style }

/-- The command `serve`. -/
def serve (l : Line) : Except UsageError Command := do
  l.noTarget
  .ok <| .serve {
    directory := ← l.path directoryOption "DSL"
    listen := ← l.text listenOption "0.0.0.0:8080"
    app := ← l.text appOption "ruuter"
    versionFile := ← l.path versionFileOption "/app/.env"
    limits := ← l.limits
    calls := ← l.calls }

end Line

/-- The commands, with their options and the reading of their lines. -/
def commands : Entries (List OptionRule × (Line → Except UsageError Command)) := [
  ("serve",
    ([directoryOption, listenOption, appOption, versionFileOption] ++ runOptions, Line.serve)),
  ("validate", (styleOptions, Line.validate)),
  ("openapi", ([titleOption, apiVersionOption] ++ styleOptions, Line.describe)),
  ("run", ([bodyOption, paramOption, eventsOption] ++ runOptions ++ styleOptions, Line.run))]

/-- The variables of the environment that stand in for options. -/
def environmentNames : List String := (commands.flatMap (·.2.1)).filterMap (·.envName?)

/-- The command that the words of a line ask for. -/
def ofLine (environment : Entries String) : List String → Except UsageError Command
  | [] => .error .noCommand
  | "--version" :: _ | "-V" :: _ => .ok .showVersion
  | word :: rest =>
    match commands.get? word with
    | none => .error (if isOptionLike word then .unexpected word else .unknownCommand word)
    | some (options, read) => do
      let given ← readWords options rest
      read ⟨given, environment⟩

end RouteFlow.Command
