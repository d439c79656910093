import RouteFlow.Command.Output
import RouteFlow.Pipeline.Registry
import RouteFlow.Run.Engine

/-!
# Commands

The program tells its version, checks documents, describes the pipelines of a directory, runs a
pipeline once and serves a directory.
-/

namespace RouteFlow

namespace Command

/-- Limits of runs, in milliseconds and steps; a timeout of zero is none. -/
structure RunLimits where
  timeoutMillis : Nat
  maxSteps : Nat
  deriving DecidableEq, Repr

/-- The settings of runs with these limits. -/
def RunLimits.settings (l : RunLimits) : Run.Settings where
  maxSteps := l.maxSteps
  timeout? := if 0 < l.timeoutMillis then some (Nanos.ofMillis l.timeoutMillis) else none

/-- Limits of the calls that pipelines make. -/
structure CallLimits where
  timeoutMillis : Nat
  maxResponseOctets : Nat
  attempts : Nat
  retryNonIdempotent : Bool
  deriving DecidableEq, Repr

/-- The settings of calls with these limits. -/
def CallLimits.settings (l : CallLimits) : Run.CallSettings where
  timeout := Nanos.ofMillis l.timeoutMillis
  limit := l.maxResponseOctets
  retry :=
    { Retry.Policy.standard.withMaxAttempts l.attempts with
      retryNonIdempotent := l.retryNonIdempotent }

/-- Where the events of a run go. -/
inductive EventTarget where
  | nowhere
  | out
  | log
  deriving DecidableEq, Repr

/-- A single run. -/
structure RunOnce where
  file : String
  body? : Option String
  /-- Parameters as they were given, each a name, `=` and a value. -/
  params : List String
  events : EventTarget
  limits : RunLimits
  calls : CallLimits
  style : Style

/-- A server of a directory. -/
structure Serve where
  directory : String
  listen : String
  app : String
  versionFile : String
  limits : RunLimits
  calls : CallLimits

end Command

/-- What the program is asked to do. -/
inductive Command where
  | showVersion
  | validate (path : String) (style : Command.Style)
  | describe (directory title version : String) (style : Command.Style)
  | run (run : Command.RunOnce)
  | serve (serve : Command.Serve)

/-- The paths that a command reads. -/
def Command.paths : Command → List String
  | .showVersion => []
  | .validate path _ => [path]
  | .describe directory _ _ _ => [directory]
  | .run r => [r.file]
  | .serve s => [s.versionFile, s.directory]

end RouteFlow
