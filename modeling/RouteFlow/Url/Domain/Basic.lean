import RouteFlow.Text.Composition
import RouteFlow.Url.Domain.Direction
import RouteFlow.Url.Domain.Excluded
import RouteFlow.Url.Domain.Joining
import RouteFlow.Url.Domain.Mapping
import RouteFlow.Url.Domain.Mark
import RouteFlow.Url.Punycode

/-!
# Names of hosts

A name is a row of labels kept apart by points. Its normal form has every character replaced by
what it stands for, and is composed; a label beyond ASCII is sent in Punycode, behind a marker. A
label that comes with the marker has to be what the label that it encodes is sent as.

* `normal`: the normal form of a text.
* `asciiName?`: the form in which a name is sent.
-/

namespace RouteFlow.Url.Domain

/-- A text with each character replaced by what it stands for, in composed form. -/
def normal (cs : List Char) : List Char := Text.compose (cs.flatMap meaning)

/-- Whether a character is beyond ASCII. -/
def isInternational (c : Char) : Bool := 0x80 ≤ c.toNat

/-- The marker in front of a label in Punycode. -/
def marker : List Char := ['x', 'n', '-', '-']

/-- The greatest length of a label that is written in Punycode. -/
def longestWritten : Nat := 1000

/-- The greatest length of a label that is read as Punycode, its marker left out. -/
def longestRead : Nat := 2000

/-- The label that a label in normal form encodes; without a marker a label is meant as it is. -/
def decodeLabel? (label : List Char) : Option (List Char) :=
  if marker.isPrefixOf label then
    let code := label.drop marker.length
    if code.isEmpty || code.getLast? == some '-' || longestRead < code.length then none
    else (Punycode.decode? code).filter fun decoded => normal decoded == decoded
  else some label

/-- Whether a label may be part of a name. -/
def isFit (label : List Char) : Bool :=
  !label.any isExcluded && !label.head?.any isMark && areJoinersFit label
    && !(label.any isInternational && longestWritten < label.length)

/-- A label as it is sent. -/
def encodeLabel (label : List Char) : List Char :=
  if label.any isInternational then marker ++ Punycode.encode label else label

/-- The form in which a name is sent; none if it is no name. -/
def asciiName? (name : List Char) : Option (List Char) :=
  match ((normal name).splitOn '.').mapM decodeLabel? with
  | none => none
  | some labels =>
    if labels.all isFit && areOrdered labels then
      some ((labels.map encodeLabel).intersperse ['.']).flatten
    else none

end RouteFlow.Url.Domain
