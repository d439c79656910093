import RouteFlow.Files.Tree
import RouteFlow.Release.EnvFile.Value

/-!
# Entries of an environment file

An entry is a line, or several lines if a quote is open at the end of a line or a blank at the end
of the text. A comment begins at a `#` after a blank outside of quotes.

* `rawEntries`: the texts of the entries.
-/

namespace RouteFlow.Release

/-- Why an environment file cannot be read: the file itself, or a line with the place of its
fault. -/
inductive EnvFileError where
  | io (error : Files.IoError)
  | line (text : String) (place : Nat)
  deriving DecidableEq

/-- The wording of an error. -/
def EnvFileError.message : EnvFileError → String
  | .io e => e.message
  | .line text place =>
    "Error parsing line: '" ++ text ++ "', error at line index: " ++ toString place

/-- The octets that characters take. -/
def octetCount (cs : List Char) : Nat := cs.foldl (fun n c => n + c.utf8Size) 0

/-- The characters that end within the first `n` octets. -/
def takeOctets (n : Nat) : List Char → List Char
  | [] => []
  | c :: rest => if c.utf8Size ≤ n then c :: takeOctets (n - c.utf8Size) rest else []

/-! ### Lines -/

/-- Cuts octets into lines, each with the line feed that ends it. -/
def cutLines : List UInt8 → List (List UInt8)
  | [] => []
  | b :: rest =>
    if b = 10 then [b] :: cutLines rest
    else
      match cutLines rest with
      | [] => [[b]]
      | line :: lines => (b :: line) :: lines

/-- A line without the line feed at its end, and without a carriage return before that. -/
def withoutLineEnd (cs : List Char) : List Char :=
  match cs.reverse with
  | '\n' :: '\r' :: rest | '\n' :: rest => rest.reverse
  | _ => cs

/-! ### What is open at the end of a line -/

/-- What is open between two characters of an entry. -/
inductive Opening where
  | nothing
  | blank
  | escape
  | single
  | singleEscape
  | double
  | doubleEscape
  deriving DecidableEq

namespace Opening

/-- What a character opens where nothing is open. -/
def ofChar (c : Char) : Opening :=
  if c = '\\' then .escape
  else if c = '"' then .double
  else if c = '\'' then .single
  else .nothing

/-- What is open after a character. -/
def step (c : Char) : Opening → Opening
  | .nothing => if Text.isBlank c && c != '\n' && c != '\r' then .blank else ofChar c
  | .blank => ofChar c
  | .escape => .nothing
  | .single => if c = '\\' then .singleEscape else if c = '\'' then .nothing else .single
  | .singleEscape => .single
  | .double => if c = '\\' then .doubleEscape else if c = '"' then .nothing else .double
  | .doubleEscape => .double

/-- What is open after characters, or the place where a comment begins. -/
def after (place : Nat) (o : Opening) : List Char → Opening ⊕ Nat
  | [] => .inl o
  | c :: rest =>
    if o = .blank && c = '#' then .inr place
    else after (place + c.utf8Size) (o.step c) rest

end Opening

/-! ### Entries -/

/-- The texts of the entries in lines, where `text` has been read of the first of them and `o` is
open. A comment cuts the entry to as many octets as stand before it in its own line. -/
def rawEntriesFrom (text : List Char) (o : Opening) :
    List (List UInt8) → List (Except EnvFileError (List Char))
  | [] =>
    match o with
    | .nothing => []
    | _ => [.error (.line (String.ofList text) (octetCount text))]
  | line :: rest =>
    match Text.Utf8.decode? line with
    | none => [.error (.io .notText)]
    | some line =>
      let text := text ++ line.toList
      if (Text.trimStart text).head? = some '#' then .ok [] :: rawEntriesFrom [] .nothing rest
      else
        match o.after 0 line.toList with
        | .inr place => .ok (takeOctets place text) :: rawEntriesFrom [] .nothing rest
        | .inl .nothing => .ok (withoutLineEnd text) :: rawEntriesFrom [] .nothing rest
        | .inl o => rawEntriesFrom text o rest

/-- The texts of the entries of a file; nothing follows an error. -/
def rawEntries (octets : List UInt8) : List (Except EnvFileError (List Char)) :=
  rawEntriesFrom [] .nothing (cutLines octets)

end RouteFlow.Release
