import ResourceQuery.Number.Integer

namespace ResourceQuery.Yaml

/-- What was being read when a fault was met. -/
inductive Activity where
  | nextToken
  | simpleKey
  | directive
  | versionDirective
  | tagDirective
  | tagDirectiveValue
  | directiveHandle
  | directiveHandleEnd
  | tag
  | tagValue
  | anchor
  | reference
  | blockScalar
  | quotedScalar
  | escape
  | plainScalar
  | node
  | blockNode
  | flowNode
  | blockCollection
  | blockMapping
  | flowSequence
  | flowMapping
  deriving DecidableEq, Repr

def Activity.describe : Activity → String
  | nextToken => "scanning for the next token"
  | simpleKey => "scanning a simple key"
  | directive => "scanning a directive"
  | versionDirective => "scanning a %YAML directive"
  | tagDirective => "scanning a %TAG directive"
  | tagDirectiveValue => "parsing a %TAG directive"
  | directiveHandle => "scanning a tag directive"
  | directiveHandleEnd => "parsing a tag directive"
  | tag => "scanning a tag"
  | tagValue => "parsing a tag"
  | anchor => "scanning an anchor"
  | reference => "scanning an alias"
  | blockScalar => "scanning a block scalar"
  | quotedScalar => "scanning a quoted scalar"
  | escape => "parsing a quoted scalar"
  | plainScalar => "scanning a plain scalar"
  | node => "parsing a node"
  | blockNode => "parsing a block node"
  | flowNode => "parsing a flow node"
  | blockCollection => "parsing a block collection"
  | blockMapping => "parsing a block mapping"
  | flowSequence => "parsing a flow sequence"
  | flowMapping => "parsing a flow mapping"

inductive Problem where
  /-- The bytes before the character. -/
  | controlCharacter (position : Nat)
  | badStart
  | expectedColon
  | sequenceNotAllowed
  | keyNotAllowed
  | mappingNotAllowed
  | expectedDirectiveName
  | directiveNameEnd
  | unknownDirective
  | expectedVersion
  | longVersion
  | expectedVersionPoint
  | expectedHandle
  | expectedBlank
  | expectedBlankOrLineEnd
  | expectedTagUri
  | expectedTagClose
  | expectedOctet
  | badLeadingOctet
  | badTrailingOctet
  | expectedName
  | zeroIndent
  | expectedLineEnd
  | tabAsIndent
  | markerInQuotes
  | endInQuotes
  | unknownEscape
  | expectedHexNumber
  | invalidCodePoint
  | tabInIndent
  | unexpectedColon
  | repeatedVersion
  | incompatibleVersion
  | repeatedHandle
  | expectedDocument
  | undefinedHandle
  | expectedContent
  | expectedDash
  | expectedKey
  | expectedSequenceEnd
  | expectedMappingEnd
  | unknownAnchor
  | moreDocuments
  deriving DecidableEq, Repr

def Problem.describe : Problem → String
  | controlCharacter position =>
    "control characters are not allowed" ++
      if position = 0 then "" else " at position " ++ Number.printNat position
  | badStart => "found character that cannot start any token"
  | expectedColon => "could not find expected ':'"
  | sequenceNotAllowed => "block sequence entries are not allowed in this context"
  | keyNotAllowed => "mapping keys are not allowed in this context"
  | mappingNotAllowed => "mapping values are not allowed in this context"
  | expectedDirectiveName => "could not find expected directive name"
  | directiveNameEnd => "found unexpected non-alphabetical character"
  | unknownDirective => "found unknown directive name"
  | expectedVersion => "did not find expected version number"
  | longVersion => "found extremely long version number"
  | expectedVersionPoint => "did not find expected digit or '.' character"
  | expectedHandle => "did not find expected '!'"
  | expectedBlank => "did not find expected whitespace"
  | expectedBlankOrLineEnd => "did not find expected whitespace or line break"
  | expectedTagUri => "did not find expected tag URI"
  | expectedTagClose => "did not find the expected '>'"
  | expectedOctet => "did not find URI escaped octet"
  | badLeadingOctet => "found an incorrect leading UTF-8 octet"
  | badTrailingOctet => "found an incorrect trailing UTF-8 octet"
  | expectedName => "did not find expected alphabetic or numeric character"
  | zeroIndent => "found an indentation indicator equal to 0"
  | expectedLineEnd => "did not find expected comment or line break"
  | tabAsIndent => "found a tab character where an indentation space is expected"
  | markerInQuotes => "found unexpected document indicator"
  | endInQuotes => "found unexpected end of stream"
  | unknownEscape => "found unknown escape character"
  | expectedHexNumber => "did not find expected hexadecimal number"
  | invalidCodePoint => "found invalid Unicode character escape code"
  | tabInIndent => "found a tab character that violates indentation"
  | unexpectedColon => "found unexpected ':'"
  | repeatedVersion => "found duplicate %YAML directive"
  | incompatibleVersion => "found incompatible YAML document"
  | repeatedHandle => "found duplicate %TAG directive"
  | expectedDocument => "did not find expected <document start>"
  | undefinedHandle => "found undefined tag handle"
  | expectedContent => "did not find expected node content"
  | expectedDash => "did not find expected '-' indicator"
  | expectedKey => "did not find expected key"
  | expectedSequenceEnd => "did not find expected ',' or ']'"
  | expectedMappingEnd => "did not find expected ',' or '\x7d'"
  | unknownAnchor => "unknown anchor"
  | moreDocuments => "deserializing from YAML containing more than one document is not supported"

structure SyntaxError where
  problem : Problem
  activity : Option Activity
  deriving DecidableEq, Repr

def SyntaxError.message (e : SyntaxError) : String :=
  match e.activity with
  | none => e.problem.describe
  | some a => e.problem.describe ++ ", while " ++ a.describe

/-- A fault met while something was being read. -/
def Activity.refuse {α : Type} (a : Activity) (p : Problem) : Except SyntaxError α :=
  .error ⟨p, some a⟩

/-- A fault of the text as a whole. -/
def Problem.refuse {α : Type} (p : Problem) : Except SyntaxError α :=
  .error ⟨p, none⟩

/-- What could be read, in order, and the fault that ended the reading if one did. -/
structure Reading (α : Type) where
  items : List α
  fault : Option SyntaxError
  deriving Repr

end ResourceQuery.Yaml
