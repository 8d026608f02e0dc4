import Courier.Text.Numeral

/-!
# Faults of YAML text

A fault is a problem at a place, often within a construct that began at an earlier place.  Its
message leaves out places at the very start of the text, and the second place where it is the first.
-/

namespace Courier.Yaml

/-- A line and a column, both counted from zero. -/
structure Mark where
  line : Nat
  column : Nat
  deriving DecidableEq, Repr, Inhabited

namespace Mark

/-- The start of a text. -/
def start : Mark := ⟨0, 0⟩

/-- Some columns further on the same line. -/
def right (m : Mark) (n : Nat) : Mark := ⟨m.line, m.column + n⟩

/-- The start of the next line. -/
def down (m : Mark) : Mark := ⟨m.line + 1, 0⟩

/-- The place as it stands behind a message; the start of the text is not named. -/
def suffix (m : Mark) : String :=
  if m = start then ""
  else " at line " ++ Text.decimal (m.line + 1) ++ " column " ++ Text.decimal (m.column + 1)

end Mark

/-- What is wrong with a text. -/
inductive Problem where
  | noToken
  | noKeyEnd
  | entryHere
  | keyHere
  | valueHere
  | unknownDirective
  | noDirectiveName
  | oddDirectiveName
  | noDirectiveEnd
  | noVersionDot
  | longVersion
  | noVersionNumber
  | noPrefixGap
  | noPrefixEnd
  | noAnchorName
  | noBang
  | noTagUri
  | noTagOctet
  | badLeadingOctet
  | badTrailingOctet
  | noTagClose
  | noTagEnd
  | zeroIndent
  | noHeaderEnd
  | tabForIndent
  | markerInQuotes
  | openQuotes
  | unknownEscape
  | noEscapeDigit
  | badEscapeCode
  | colonInFlow
  | tabBreaksIndent
  | duplicateVersion
  | foreignVersion
  | duplicateTagPrefix
  | noDocumentStart
  | unknownTagPrefix
  | noNode
  | noEntry
  | noKey
  | noListEnd
  | noMapEnd
  | unknownAnchor
  deriving DecidableEq, Repr

/-- The wording of a problem. -/
def Problem.message : Problem → String
  | .noToken => "found character that cannot start any token"
  | .noKeyEnd => "could not find expected ':'"
  | .entryHere => "block sequence entries are not allowed in this context"
  | .keyHere => "mapping keys are not allowed in this context"
  | .valueHere => "mapping values are not allowed in this context"
  | .unknownDirective => "found unknown directive name"
  | .noDirectiveName => "could not find expected directive name"
  | .oddDirectiveName => "found unexpected non-alphabetical character"
  | .noDirectiveEnd => "did not find expected comment or line break"
  | .noVersionDot => "did not find expected digit or '.' character"
  | .longVersion => "found extremely long version number"
  | .noVersionNumber => "did not find expected version number"
  | .noPrefixGap => "did not find expected whitespace"
  | .noPrefixEnd => "did not find expected whitespace or line break"
  | .noAnchorName => "did not find expected alphabetic or numeric character"
  | .noBang => "did not find expected '!'"
  | .noTagUri => "did not find expected tag URI"
  | .noTagOctet => "did not find URI escaped octet"
  | .badLeadingOctet => "found an incorrect leading UTF-8 octet"
  | .badTrailingOctet => "found an incorrect trailing UTF-8 octet"
  | .noTagClose => "did not find the expected '>'"
  | .noTagEnd => "did not find expected whitespace or line break"
  | .zeroIndent => "found an indentation indicator equal to 0"
  | .noHeaderEnd => "did not find expected comment or line break"
  | .tabForIndent => "found a tab character where an indentation space is expected"
  | .markerInQuotes => "found unexpected document indicator"
  | .openQuotes => "found unexpected end of stream"
  | .unknownEscape => "found unknown escape character"
  | .noEscapeDigit => "did not find expected hexdecimal number"
  | .badEscapeCode => "found invalid Unicode character escape code"
  | .colonInFlow => "found unexpected ':'"
  | .tabBreaksIndent => "found a tab character that violates indentation"
  | .duplicateVersion => "found duplicate %YAML directive"
  | .foreignVersion => "found incompatible YAML document"
  | .duplicateTagPrefix => "found duplicate %TAG directive"
  | .noDocumentStart => "did not find expected <document start>"
  | .unknownTagPrefix => "found undefined tag handle"
  | .noNode => "did not find expected node content"
  | .noEntry => "did not find expected '-' indicator"
  | .noKey => "did not find expected key"
  | .noListEnd => "did not find expected ',' or ']'"
  | .noMapEnd => "did not find expected ',' or '\x7d'"
  | .unknownAnchor => "unknown anchor"

/-- The construct in which a problem was met. -/
inductive Setting where
  | nextToken
  | simpleKey
  | directive
  | versionDirective
  | prefixDirective
  | anchor
  | alias
  | prefixHandle
  | tagHandle
  | tag
  | blockScalar
  | quotedScalar
  | quotedEscape
  | plainScalar
  | node
  | blockNode
  | flowNode
  | blockList
  | blockMap
  | flowList
  | flowMap
  deriving DecidableEq, Repr

/-- The wording of a setting. -/
def Setting.message : Setting → String
  | .nextToken => "while scanning for the next token"
  | .simpleKey => "while scanning a simple key"
  | .directive => "while scanning a directive"
  | .versionDirective => "while scanning a %YAML directive"
  | .prefixDirective => "while scanning a %TAG directive"
  | .anchor => "while scanning an anchor"
  | .alias => "while scanning an alias"
  | .prefixHandle => "while parsing a %TAG directive"
  | .tagHandle => "while parsing a tag"
  | .tag => "while scanning a tag"
  | .blockScalar => "while scanning a block scalar"
  | .quotedScalar => "while scanning a quoted scalar"
  | .quotedEscape => "while parsing a quoted scalar"
  | .plainScalar => "while scanning a plain scalar"
  | .node => "while parsing a node"
  | .blockNode => "while parsing a block node"
  | .flowNode => "while parsing a flow node"
  | .blockList => "while parsing a block collection"
  | .blockMap => "while parsing a block mapping"
  | .flowList => "while parsing a flow sequence"
  | .flowMap => "while parsing a flow mapping"

/-- Why a text is not YAML. -/
inductive Fault where
  /-- A control character, at a distance in bytes from the start. -/
  | control (offset : Nat)
  | plain (problem : Problem) (place : Mark)
  | within (setting : Setting) (begun : Mark) (problem : Problem) (place : Mark)
  deriving DecidableEq, Repr

/-- The wording of a fault. -/
def Fault.message : Fault → String
  | .control offset =>
    "control characters are not allowed"
      ++ if offset = 0 then "" else " at position " ++ Text.decimal offset
  | .plain problem place => problem.message ++ place.suffix
  | .within setting begun problem place =>
    problem.message ++ place.suffix ++ ", " ++ setting.message
      ++ if begun = place then "" else begun.suffix

end Courier.Yaml
