import RouteFlow.Text.Unseen

/-!
# Quoted text

`quoted` puts a text between double quotes so that every character of it can be told: the quote and
the backslash stand behind a backslash, NUL, tab, line feed and carriage return have letters, and a
character that shows nothing by itself is written by its code point in hexadecimal.
-/

namespace RouteFlow.Text

/-- How one character stands between quotes. -/
def quotedChar (c : Char) : List Char :=
  if c = '"' then ['\\', '"']
  else if c = '\\' then ['\\', '\\']
  else if c = Char.ofNat 0 then ['\\', '0']
  else if c = '\t' then ['\\', 't']
  else if c = '\n' then ['\\', 'n']
  else if c = '\r' then ['\\', 'r']
  else if isUnseen c then ['\\', 'u', '{'] ++ Nat.toDigits 16 c.toNat ++ ['}']
  else [c]

/-- A text between double quotes. -/
def quoted (s : String) : String :=
  String.ofList (['"'] ++ s.toList.flatMap quotedChar ++ ['"'])

end RouteFlow.Text
