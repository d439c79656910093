import RouteFlow.Entries
import RouteFlow.Files.Path
import RouteFlow.Text.Utf8

/-!
# Directories

A tree of files, and what can be asked of it: whether a path leads to a directory, the text of a
file, and the files below a directory. Asking for what is not there fails as the system would.

* `Disk.find`: what a path leads to.
* `Disk.list`: the files below a directory.
-/

namespace RouteFlow.Files

/-- A file or a directory. -/
inductive Tree where
  | file (octets : List UInt8)
  | directory (children : List (String × Tree))

instance : Inhabited Tree := ⟨.directory []⟩

/-- Why a file cannot be read. -/
inductive IoError where
  | notFound
  | notDirectory
  | isDirectory
  | notText
  deriving DecidableEq, Repr

/-- The wording of an error. -/
def IoError.message : IoError → String
  | .notFound => "No such file or directory (os error 2)"
  | .notDirectory => "Not a directory (os error 20)"
  | .isDirectory => "Is a directory (os error 21)"
  | .notText => "stream did not contain valid UTF-8"

namespace Tree

/-- The child of a directory. -/
def child? (name : String) : Tree → Except IoError Tree
  | .file _ => .error .notDirectory
  | .directory children =>
    match Entries.get? children name with
    | some t => .ok t
    | none => .error .notFound

mutual

/-- The paths of the files below `path`, each with the names that lead to it. -/
def filesBelow (path : String) (names : List String) : Tree → List (List String × String)
  | .file _ => [(names, path)]
  | .directory children => filesAmong path names children

/-- The paths of the files among children. -/
def filesAmong (path : String) (names : List String) :
    List (String × Tree) → List (List String × String)
  | [] => []
  | (name, t) :: rest =>
    filesBelow (Path.join path name) (names ++ [name]) t ++ filesAmong path names rest

end

/-- The tree with `new` put at the end of a way of names; directories on the way are made. -/
def put (t new : Tree) : List String → Tree
  | [] => new
  | name :: rest =>
    let children :=
      match t with
      | .directory children => children
      | .file _ => []
    let inner := (Entries.get? children name).getD (.directory [])
    .directory (Entries.insert children name (inner.put new rest))

/-- A place in a tree: what is there, and the directories around it from the innermost on. -/
structure Place where
  tree : Tree
  around : List Tree

/-- Follows the parts of a path. Above the outermost directory there is only itself. -/
def Place.follow (p : Place) : List (List Char) → Except IoError Place
  | [] => .ok p
  | part :: rest =>
    match p.tree, part with
    | .file _, _ => .error .notDirectory
    | .directory _, [] | .directory _, ['.'] => p.follow rest
    | .directory _, ['.', '.'] =>
      match p.around with
      | [] => p.follow rest
      | t :: around => (Place.mk t around).follow rest
    | .directory _, cs => do
      let t ← p.tree.child? (String.ofList cs)
      (Place.mk t (p.tree :: p.around)).follow rest

end Tree

/-! ### Disks -/

/-- A tree with the directory in it that relative paths begin at. -/
structure Disk where
  root : Tree
  here : List String

namespace Disk

/-- What a path leads to. -/
def find (d : Disk) (path : String) : Except IoError Tree :=
  if path.isEmpty then .error .notFound
  else do
    let root : Tree.Place := ⟨d.root, []⟩
    let start ← if path.startsWith "/" then .ok root else root.follow (d.here.map (·.toList))
    let place ← start.follow (path.toList.splitOn '/')
    .ok place.tree

/-- Whether a path leads anywhere. -/
def exists? (d : Disk) (path : String) : Bool := (d.find path).toOption.isSome

/-- Whether a path leads to a directory. -/
def isDirectory (d : Disk) (path : String) : Bool :=
  match d.find path with
  | .ok (.directory _) => true
  | _ => false

/-- The octets of a file. -/
def read (d : Disk) (path : String) : Except IoError (List UInt8) := do
  match ← d.find path with
  | .file octets => .ok octets
  | .directory _ => .error .isDirectory

/-- The text of a file. -/
def readText (d : Disk) (path : String) : Except IoError String := do
  let octets ← d.read path
  match Text.Utf8.decode? octets with
  | some s => .ok s
  | none => .error .notText

/-- The paths of the files below the directory `path`, in the order of the names that lead to
them. -/
def list (d : Disk) (path : String) : Except IoError (List String) := do
  match ← d.find path with
  | .file _ => .error .notDirectory
  | dir =>
    .ok (((Tree.filesBelow path [] dir).mergeSort fun a b => !b.1.lex a.1).map (·.2))

/-- The names that lead to a path from the root. -/
def namesTo (d : Disk) (path : String) : List String :=
  (path.toList.splitOn '/').foldl (fun (names : List String) part =>
    match part with
    | [] | ['.'] => names
    | ['.', '.'] => names.dropLast
    | cs => names ++ [String.ofList cs]) (if path.startsWith "/" then [] else d.here)

/-- The disk with a file or a directory put where a path leads. -/
def put (d : Disk) (path : String) (new : Tree) : Disk :=
  { d with root := d.root.put new (d.namesTo path) }

end Disk
end RouteFlow.Files
