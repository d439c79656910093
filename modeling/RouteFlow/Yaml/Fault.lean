/-!
# Faults of a YAML text

The ways in which a text fails to be YAML, or fails to stand for a value.
-/

namespace RouteFlow.Yaml

/-- Why a text cannot be read. -/
inductive Fault where
  | badCharacter
  | endInScalar
  | markerInScalar
  | keyWithoutColon
  | entryNotAllowed
  | keyNotAllowed
  | valueNotAllowed
  | tabInIndentation
  | unexpectedColon
  | badDirective
  | badAnchor
  | badTag
  | badEscape
  | badBlockHeader
  | noSuchToken
  | contentExpected
  | dashExpected
  | keyExpected
  | listEndExpected
  | mappingEndExpected
  | documentStartExpected
  | repeatedDirective
  | otherVersion
  | undefinedTag
  | unknownAlias
  | secondDocument
  | tagNotHeld
  | foreignTag
  | wideInteger
  | keyNotScalar
  | tooDeep
  | tooManyAliases
  deriving DecidableEq, Repr

/-- The wording of a fault. -/
def Fault.message : Fault → String
  | .badCharacter => "control characters are not allowed"
  | .endInScalar => "found unexpected end of stream in a quoted scalar"
  | .markerInScalar => "found unexpected document indicator in a quoted scalar"
  | .keyWithoutColon => "could not find expected ':' after a simple key"
  | .entryNotAllowed => "block sequence entries are not allowed in this context"
  | .keyNotAllowed => "mapping keys are not allowed in this context"
  | .valueNotAllowed => "mapping values are not allowed in this context"
  | .tabInIndentation => "found a tab character where an indentation space is expected"
  | .unexpectedColon => "found unexpected ':' in a plain scalar"
  | .badDirective => "found a malformed or unknown directive"
  | .badAnchor => "did not find expected alphabetic or numeric character in an anchor"
  | .badTag => "found a malformed tag"
  | .badEscape => "found an unknown or malformed escape"
  | .badBlockHeader => "found a malformed block scalar header"
  | .noSuchToken => "found character that cannot start any token"
  | .contentExpected => "did not find expected node content"
  | .dashExpected => "did not find expected '-' indicator"
  | .keyExpected => "did not find expected key"
  | .listEndExpected => "did not find expected ',' or ']'"
  | .mappingEndExpected => "did not find expected ',' or '\x7d'"
  | .documentStartExpected => "did not find expected document start"
  | .repeatedDirective => "found a directive twice"
  | .otherVersion => "found incompatible YAML document"
  | .undefinedTag => "found undefined tag handle"
  | .unknownAlias => "unknown anchor"
  | .secondDocument => "the text holds more than one document"
  | .tagNotHeld => "the scalar is not of the type that its tag names"
  | .foreignTag => "the value has a tag that no value can have"
  | .wideInteger => "the integer has more than 64 bits"
  | .keyNotScalar => "a key must be a scalar"
  | .tooDeep => "recursion limit exceeded"
  | .tooManyAliases => "repetition limit exceeded"

end RouteFlow.Yaml
