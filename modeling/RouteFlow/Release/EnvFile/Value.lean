import RouteFlow.Entries
import RouteFlow.Text.Alphanumeric

/-!
# Values of an environment file

A value is bare text, text in single quotes, which stands for itself, or text in double quotes,
and may be put together of several of these. Outside of single quotes a backslash escapes a
character, and `$` and a name, or `$` and a name in braces, stand for the value of a variable; a
variable that is not set has the empty value. A blank outside of quotes ends the value, and only a
comment may follow.

* `readValue`: the value that a text stands for, or the place where it goes wrong.
-/

namespace RouteFlow.Release

/-- Where a reader stands in a value; `quoted` says that a double quote is open. -/
inductive ValueState where
  | text (quoted : Bool)
  | escaped (quoted : Bool)
  | verbatim
  | variable (quoted : Bool) (name : List Char)
  | braced (quoted : Bool) (name : List Char)
  | ended
  deriving DecidableEq

/-- What an escaped character stands for. -/
def unescape? : Char → Option Char
  | '\\' => some '\\'
  | '"' => some '"'
  | '\'' => some '\''
  | '$' => some '$'
  | ' ' => some ' '
  | 'n' => some '\n'
  | _ => none

/-- The value of a variable, empty if it is not set. -/
def variableText (vars : Entries String) (name : List Char) : List Char :=
  ((vars.get? (String.ofList name)).getD "").toList

namespace ValueState

/-- What a character in text does: the next state and what it adds to the value. -/
def stepText (quoted : Bool) (c : Char) : ValueState × List Char :=
  if c = '$' then (.variable quoted [], [])
  else if c = '\\' then (.escaped quoted, [])
  else if c = '"' then (.text !quoted, [])
  else if quoted then (.text true, [c])
  else if c = '\'' then (.verbatim, [])
  else if c = ' ' || c = '\t' then (.ended, [])
  else (.text false, [c])

/-- The next state and what the character adds to the value; none if it may not stand there. A
comment keeps the value ended. The character after the name of a variable belongs to the text,
whatever it is, unless it begins another variable. -/
def step? (vars : Entries String) (c : Char) : ValueState → Option (ValueState × List Char)
  | .text quoted => some (stepText quoted c)
  | .escaped quoted => (unescape? c).map fun c' => (.text quoted, [c'])
  | .verbatim => some (if c = '\'' then (.text false, []) else (.verbatim, [c]))
  | .variable quoted name =>
    some <|
      if Text.isAlphanumeric c then (.variable quoted (name ++ [c]), [])
      else if c = '\x7b' && name.isEmpty then (.braced quoted [], [])
      else if c = '$' then (.variable quoted [], variableText vars name)
      else (.text quoted, variableText vars name ++ [c])
  | .braced quoted name =>
    some (if c = '\x7d' then (.text quoted, variableText vars name)
      else (.braced quoted (name ++ [c]), []))
  | .ended => if c = ' ' || c = '\t' then some (.ended, []) else none

/-- What the end of the text adds to the value; none if a quote or a brace is still open. -/
def finish? (vars : Entries String) : ValueState → Option (List Char)
  | .text false | .escaped false | .ended => some []
  | .variable false name => some (variableText vars name)
  | _ => none

end ValueState

/-- The value of a text, from the character number `i` on; the error is the place of the fault. -/
def readValueFrom (vars : Entries String) (i : Nat) (s : ValueState) :
    List Char → Except (Option Nat) (List Char)
  | [] =>
    match s.finish? vars with
    | some out => .ok out
    | none => .error none
  | c :: rest =>
    if s = .ended && c = '#' then .ok []
    else
      match s.step? vars c with
      | none => .error (some i)
      | some (s, out) => (readValueFrom vars (i + 1) s rest).map (out ++ ·)

/-- The value that a text stands for. A character that may not stand where it does is named by its
number, an open quote or brace by the last octet. -/
def readValue (vars : Entries String) (input : String) : Except Nat String :=
  match readValueFrom vars 0 (.text false) input.toList with
  | .ok out => .ok (String.ofList out)
  | .error (some i) => .error i
  | .error none => .error (input.utf8ByteSize - 1)

end RouteFlow.Release
