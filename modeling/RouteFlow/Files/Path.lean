import RouteFlow.Text.Blank

/-!
# File paths

A path is text; what it means is its components: the root, a leading `.`, each `..`, and names.
Doubled slashes, a slash at the end and any other `.` do not count.

* `routePath?`: the name under which the file of a pipeline is known inside a directory.
-/

namespace RouteFlow.Files

/-- A part of a path. -/
inductive Component where
  | root
  | here
  | above
  | name (s : String)
  deriving DecidableEq, Repr

namespace Path

/-- The component that a part between slashes stands for, none for an empty one and for `.`. -/
def component? (part : List Char) : Option Component :=
  match part with
  | [] | ['.'] => none
  | ['.', '.'] => some .above
  | cs => some (.name (String.ofList cs))

/-- The components of a path. -/
def components (path : String) : List Component :=
  let parts := path.toList.splitOn '/'
  let lead :=
    match parts with
    | [] :: _ :: _ => [Component.root]
    | ['.'] :: _ => [Component.here]
    | _ => []
  lead ++ parts.filterMap component?

/-- The names among components. -/
def names (cs : List Component) : List String :=
  cs.filterMap fun
    | .name s => some s
    | _ => none

/-- Splits a file name at its last point, unless the point begins it: stem and extension. -/
def splitName (name : String) : String × Option String :=
  let cs := name.toList
  let after := (cs.reverse.takeWhile (· != '.')).reverse
  let before := cs.take (cs.length - after.length - 1)
  if before.isEmpty || name == ".." then (name, none)
  else (String.ofList before, some (String.ofList after))

/-- The last component, if it is a name. -/
def fileName? (path : String) : Option String :=
  match (components path).getLast? with
  | some (.name s) => some s
  | _ => none

/-- The extension of the file that a path leads to. -/
def extension? (path : String) : Option String := (fileName? path).bind fun n => (splitName n).2

/-- The path of `name` inside the directory `dir`. -/
def join (dir name : String) : String :=
  if dir.isEmpty || dir.endsWith "/" then dir ++ name else dir ++ "/" ++ name

/-- The components of the directory that holds what a path leads to. -/
def parent (path : String) : List Component := (components path).dropLast

/-- Components without the extension of the last one. -/
def withoutExtension (cs : List Component) : List Component :=
  match cs.getLast? with
  | some (.name s) => cs.dropLast ++ (component? (splitName s).1.toList).toList
  | _ => cs

/-- The components of a path after those of a directory, if it begins with them. -/
def inside? : List Component → List Component → Option (List Component)
  | [], cs => some cs
  | d :: ds, c :: cs => if d = c then inside? ds cs else none
  | _ :: _, [] => none

/-- The name of a file inside a directory: the names on the way to it, without the extension,
joined by slashes. -/
def routePath? (root : List Component) (file : String) : Option String :=
  (inside? root (components file)).map fun cs =>
    String.intercalate "/" (names (withoutExtension cs))

end Path
end RouteFlow.Files
