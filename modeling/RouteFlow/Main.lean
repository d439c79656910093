import RouteFlow.Command.Execute
import RouteFlow.Command.Line

/-!
# The program

Reads what a command needs, carries the command out and prints. The program has no network: every
call of a pipeline fails, and a server ends before it listens. It cannot look into directories
either: for a path that is no file, the paths of the files below it are read from the standard
input, one on a line.
-/

namespace RouteFlow

/-- The identity of the one run of a command. -/
def runId : String := "00000000-0000-4000-8000-000000000000"

/-- Without a network nobody answers. -/
def nobody : Run.Collaborators Unit where
  identify _ := (runId, ())
  send _ _ := (.error (.network "no network"), 0, ())
  evaluate _ _ _ := (.error (.unavailable "no evaluator"), 0, ())
  consult _ now := (now, 0, ())

/-- The world before a command. -/
def freshWorld : Run.World Unit := ⟨0, (), []⟩

/-- The octets of a file, none if it cannot be read. -/
def readOctets? (path : String) : IO (Option (List UInt8)) :=
  try
    let octets ← IO.FS.readBinFile path
    return some octets.toList
  catch _ => return none

/-- Puts the files that can be read on a disk; the paths of the others are given back. -/
def putFiles (disk : Files.Disk) (paths : List String) : IO (Files.Disk × List String) := do
  let mut disk := disk
  let mut missing := []
  for path in paths do
    match ← readOctets? path with
    | some octets => disk := disk.put path (.file octets)
    | none => missing := missing ++ [path]
  return (disk, missing)

/-- The lines of the standard input. -/
def inputLines : IO (List String) := do
  let text ← (← IO.getStdin).readToEnd
  return (text.splitOn "\n").filter (!·.isEmpty)

/-- The disk with the files that a command reads. -/
def diskFor (command : Command) : IO Files.Disk := do
  let here := ["home", "user"]
  let empty : Files.Disk := ⟨(Files.Tree.directory []).put (.directory []) here, here⟩
  let (disk, missing) ← putFiles empty command.paths
  if missing.isEmpty then return disk
  else return (← putFiles disk (← inputLines)).1

/-- The variables of the environment that the program knows. -/
def environment : IO (Entries String) := do
  let mut found := []
  for name in Command.environmentNames do
    match ← IO.getEnv name with
    | some value => found := (name, value) :: found
    | none => pure ()
  return found

end RouteFlow

open RouteFlow in
/-- Carries out the command that a line asks for. -/
def main (args : List String) : IO UInt32 := do
  match Command.ofLine (← environment) args with
  | .error e =>
    IO.eprintln ("error: " ++ e.message)
    return 2
  | .ok command =>
    let disk ← diskFor command
    let (printed, _) := Command.execute nobody disk freshWorld command
    printed.out.forM IO.println
    printed.err.forM IO.eprintln
    return UInt32.ofNat printed.exit.status
