import RouteFlow.Release.EnvFile.Entry

/-!
# Environment files

An environment file assigns values to names, one entry after another. A value may speak of the names
before it. An entry may begin with the word `export`.

* `EnvFile.read`: the assignments of a file, in order.
-/

namespace RouteFlow.Release

/-- What is left of an entry, and how many octets have been read of it. -/
structure Remainder where
  place : Nat
  rest : List Char

namespace Remainder

/-- What is left after the characters that satisfy `p`, and those characters. -/
def pass (p : Char → Bool) (r : Remainder) : List Char × Remainder :=
  let passed := r.rest.takeWhile p
  (passed, ⟨r.place + octetCount passed, r.rest.dropWhile p⟩)

/-- What is left after blanks. -/
def skipBlanks (r : Remainder) : Remainder := (r.pass Text.isBlank).2

/-- Whether nothing but a comment is left. -/
def isOver (r : Remainder) : Bool := r.rest.isEmpty || r.rest.head? == some '#'

/-- Reads a name: letters, digits, underscores and points, the first a letter or an underscore. -/
def name (r : Remainder) : Except Nat (String × Remainder) :=
  match r.rest with
  | [] => .error r.place
  | c :: _ =>
    if c.isAlpha || c = '_' then
      let (chars, r) := r.pass fun c => c.isAlphanum || c = '_' || c = '.'
      .ok (String.ofList chars, r)
    else .error r.place

/-- Reads the sign between a name and a value. -/
def equals (r : Remainder) : Except Nat Remainder :=
  match r.rest with
  | '=' :: rest => .ok ⟨r.place + 1, rest⟩
  | _ => .error r.place

/-- Reads the name that an entry assigns to, and the sign after it. The word `export` before the
name does not count, but stands for itself where the sign follows. -/
def target (r : Remainder) : Except Nat (String × Remainder) := do
  let (first, r) ← r.name
  let r := r.skipBlanks
  if first = "export" then
    match r.equals with
    | .ok r => .ok (first, r)
    | .error _ =>
      let (second, r) ← r.name
      .ok (second, ← r.skipBlanks.equals)
  else .ok (first, ← r.equals)

end Remainder

/-- The assignment of an entry, if it has one. -/
def assignment? (vars : Entries String) (entry : List Char) :
    Except EnvFileError (Option (String × String)) := do
  let r := (Remainder.mk 0 (Text.trimEnd entry)).skipBlanks
  if r.isOver then .ok none
  else
    let (name, r) ← r.target.mapError (.line (String.ofList entry))
    let r := r.skipBlanks
    if r.isOver then .ok (some (name, ""))
    else
      let text := String.ofList r.rest
      let value ← (readValue vars text).mapError (.line text)
      .ok (some (name, value))

/-- The assignments of entries, where `vars` has been assigned before. -/
def assignments (vars : Entries String) :
    List (Except EnvFileError (List Char)) → Except EnvFileError (List (String × String))
  | [] => .ok []
  | entry :: rest => do
    match ← assignment? vars (← entry) with
    | none => assignments vars rest
    | some (name, value) =>
      let others ← assignments (vars.insert name value) rest
      .ok ((name, value) :: others)

/-- The assignments of a file. -/
def EnvFile.read (octets : List UInt8) : Except EnvFileError (List (String × String)) :=
  assignments [] (rawEntries octets)

end RouteFlow.Release
