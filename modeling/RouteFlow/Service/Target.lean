import RouteFlow.Text.Blank

/-!
# Targets of requests

What a request is for: a path and a query. A target is written as a path, as an absolute address,
whose scheme and authority do not count, or as an authority alone, which has no path.

* `Target.ofText`: reads a target.
-/

namespace RouteFlow.Service

/-- A path with the text of a query. Nothing in either is decoded. -/
structure Target where
  path : String
  query : String
  deriving DecidableEq

namespace Target

/-- The path and the query in what follows an authority; the fragment does not count. -/
def ofPath (cs : List Char) : Target :=
  let cs := cs.takeWhile (· != '#')
  let path := cs.takeWhile (· != '?')
  let query := (cs.dropWhile (· != '?')).drop 1
  ⟨if path.isEmpty then "/" else String.ofList path, String.ofList query⟩

/-- Reads a target. -/
def ofText (s : String) : Target :=
  let cs := s.toList
  if cs.head? = some '/' || cs = ['*'] then ofPath cs
  else
    match Text.cut? [':', '/', '/'] cs with
    | some (_, rest) => ofPath (rest.dropWhile fun c => c != '/' && c != '?' && c != '#')
    | none => ⟨"", ""⟩

end Target
end RouteFlow.Service
