import RouteFlow.Json.Printer

/-!
# What a command prints

A command prints lines to the standard output and to the error output, and ends with an exit
status. Its result is a JSON value. A quiet command prints neither its result nor its errors.

* `Style.result`, `Style.error`: the lines of a result and of an error.
-/

namespace RouteFlow.Command

/-- How a command ends. -/
inductive Exit where
  | success
  | invalid
  | failed
  | cannotRun
  | crashed
  deriving DecidableEq, Repr

/-- The status that the system gets. -/
def Exit.status : Exit → Nat
  | .success => 0
  | .invalid => 2
  | .failed => 3
  | .cannotRun => 4
  | .crashed => 101

/-- Text for people or for programs. -/
inductive Format where
  | text
  | json
  deriving DecidableEq, Repr

/-- How a command prints. -/
structure Style where
  format : Format
  quiet : Bool
  deriving DecidableEq, Repr

/-- What a command has printed, and how it ended. -/
structure Printed where
  exit : Exit
  out : List String
  err : List String
  deriving DecidableEq, Repr

namespace Style

/-- The lines of a result. -/
def result (s : Style) (j : Json) : List String :=
  if s.quiet then []
  else
    match s.format with
    | .text => [j.pretty]
    | .json => [j.compact]

/-- The lines of an error. -/
def error (s : Style) (message : String) : List String :=
  if s.quiet then []
  else
    match s.format with
    | .text => ["error: " ++ message]
    | .json => [(Json.object [("error", .string message)]).compact]

/-- A command that ends with a result. -/
def succeed (s : Style) (exit : Exit) (j : Json) : Printed := ⟨exit, s.result j, []⟩

/-- A command that ends with errors. -/
def fail (s : Style) (exit : Exit) (messages : List String) : Printed :=
  ⟨exit, [], messages.flatMap s.error⟩

end Style
end RouteFlow.Command
