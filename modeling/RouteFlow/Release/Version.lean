import RouteFlow.Json.Basic
import RouteFlow.Release.EnvFile.Basic

/-!
# Releases

A package is described by an environment file: its release, the time of its build and the three
parts of its version. What the file does not say is absent, and an absent part of the version is
that of the program itself.

* `Package.load`: the description of a package on a disk.
* `Heartbeat`: what a running server says of itself.
-/

namespace RouteFlow.Release

/-- The version of the program: major, minor and patch. -/
def programVersion : String × String × String := ("0", "1", "0")

/-- The version of the program as text. -/
def programVersionText : String :=
  programVersion.1 ++ "." ++ programVersion.2.1 ++ "." ++ programVersion.2.2

/-- What is known of a package. -/
structure Package where
  release? : Option String
  buildTime? : Option String
  major? : Option String
  minor? : Option String
  patch? : Option String

/-- A version file that cannot be read. -/
structure VersionFileError where
  path : String
  error : EnvFileError

/-- The wording of an error. -/
def VersionFileError.message (e : VersionFileError) : String :=
  "failed to read version file " ++ e.path ++ ": " ++ e.error.message

namespace Package

/-- A package of which nothing is known. -/
def unknown : Package := ⟨none, none, none, none, none⟩

/-- What is known of a package after an assignment; other names say nothing. -/
def assign (p : Package) (name value : String) : Package :=
  match name with
  | "RELEASE" => { p with release? := some value }
  | "BUILDTIME" => { p with buildTime? := some value }
  | "MAJOR" => { p with major? := some value }
  | "MINOR" => { p with minor? := some value }
  | "PATCH" => { p with patch? := some value }
  | _ => p

/-- What assignments say of a package; of two for a name the later one counts. -/
def ofAssignments (as : List (String × String)) : Package :=
  as.foldl (fun p a => p.assign a.1 a.2) unknown

/-- Reads the file at a path. -/
def read (d : Files.Disk) (path : String) : Except EnvFileError Package := do
  let octets ← (d.read path).mapError EnvFileError.io
  let as ← EnvFile.read octets
  .ok (ofAssignments as)

/-- Reads the file at a path; where there is none nothing is known. -/
def load (d : Files.Disk) (path : String) : Except VersionFileError Package :=
  if d.exists? path then (read d path).mapError (⟨path, ·⟩) else .ok unknown

/-- The version of a package. -/
def version (p : Package) : String :=
  "v" ++ p.major?.getD programVersion.1 ++ "." ++ p.minor?.getD programVersion.2.1 ++ "." ++
    p.patch?.getD programVersion.2.2

end Package

/-- What a running server says of itself: the application and its version, and when it started, in
milliseconds of Unix time. -/
structure Heartbeat where
  app : String
  version : String
  packagingTime? : Option String
  startedAt : Int

namespace Heartbeat

/-- What a server says that starts at a moment. -/
def of (app : String) (p : Package) (startedAt : Int) : Heartbeat :=
  ⟨app, p.version, p.buildTime?, startedAt⟩

/-- A heartbeat at a moment. -/
def toJson (h : Heartbeat) (now : Int) : Json :=
  .object [
    ("appName", .string h.app),
    ("version", .string h.version),
    ("packagingTime", .ofText? h.packagingTime?),
    ("appStartTime", .number (.whole h.startedAt)),
    ("serverTime", .number (.whole now))]

end Heartbeat
end RouteFlow.Release
