import InstructionSet.Base64
import InstructionSet.Calendar
import InstructionSet.Number.Numeral
import InstructionSet.Text.Encoding
import InstructionSet.Yaml.Source
import InstructionSet.Yaml.Token

/-!
# What can be wrong with a document

A located fault has a problem and where it is, and usually what was being read
and where that began. Apart from it stand faults of the source, and faults of a
scalar's value, which have no place. `LocatedFault.message` is the full account of
a located fault.
-/

set_option autoImplicit false

namespace InstructionSet.Yaml

inductive NodeKind where
  | scalar
  | sequence
  | mapping
deriving DecidableEq, Repr

def NodeKind.label : NodeKind → String
  | .scalar => "scalar"
  | .sequence => "sequence"
  | .mapping => "mapping"

inductive Activity where
  | nextToken
  | simpleKey
  | directive
  | directiveUri
  | anchor
  | alias
  | tag
  | tagUri
  | blockScalar
  | quotedScalar
  | doubleQuotedScalar
  | node
  | blockNode
  | flowNode
  | blockCollection
  | blockMapping
  | flowSequence
  | flowMapping
  | firstAnchor (name : String)
  | singleDocument
  | constructedMapping
  | orderedMap
  | pairs
deriving DecidableEq, Repr

def Activity.message : Activity → String
  | .nextToken => "while scanning for the next token"
  | .simpleKey => "while scanning a simple key"
  | .directive => "while scanning a directive"
  | .directiveUri => "while parsing a directive"
  | .anchor => "while scanning an anchor"
  | .alias => "while scanning an alias"
  | .tag => "while scanning a tag"
  | .tagUri => "while parsing a tag"
  | .blockScalar => "while scanning a block scalar"
  | .quotedScalar => "while scanning a quoted scalar"
  | .doubleQuotedScalar => "while scanning a double-quoted scalar"
  | .node => "while parsing a node"
  | .blockNode => "while parsing a block node"
  | .flowNode => "while parsing a flow node"
  | .blockCollection => "while parsing a block collection"
  | .blockMapping => "while parsing a block mapping"
  | .flowSequence => "while parsing a flow sequence"
  | .flowMapping => "while parsing a flow mapping"
  | .firstAnchor name => "found duplicate anchor " ++ Text.quoted name ++ "; first occurrence"
  | .singleDocument => "expected a single document in the stream"
  | .constructedMapping => "while constructing a mapping"
  | .orderedMap => "while constructing an ordered map"
  | .pairs => "while constructing pairs"

inductive Expected where
  | nameCharacter
  | digit
  | digitOrPoint
  | digitOrSpace
  | space
  | commentOrBreak
  | closingAngle
  | exclamation
  | uri
  | uriEscape
  | blockIndicators
  | hexEscape (digits : Nat)
deriving DecidableEq, Repr

def Expected.message : Expected → String
  | .nameCharacter => "alphabetic or numeric character"
  | .digit => "a digit"
  | .digitOrPoint => "a digit or '.'"
  | .digitOrSpace => "a digit or ' '"
  | .space => "' '"
  | .commentOrBreak => "a comment or a line break"
  | .closingAngle => "'>'"
  | .exclamation => "'!'"
  | .uri => "URI"
  | .uriEscape => "URI escape sequence of 2 hexadecimal numbers"
  | .blockIndicators => "chomping or indentation indicators"
  | .hexEscape digits => "escape sequence of " ++ toString digits ++ " hexadecimal numbers"

inductive Problem where
  | missingColon
  | sequenceEntryNotAllowed
  | mappingKeyNotAllowed
  | mappingValueNotAllowed
  | noTokenStart (found : Char)
  | unexpected (expected : Expected) (found : Char)
  | undecodableUri (fault : Text.Utf8.Fault)
  | zeroIndentation
  | unknownEscape (found : Char)
  | unexpectedEnd
  | unexpectedSeparator
  | noDocumentStart (found : TokenKind)
  | noBlockEnd (found : TokenKind)
  | noFlowSequenceItem (found : TokenKind)
  | noFlowMappingItem (found : TokenKind)
  | noContent (found : TokenKind)
  | repeatedVersion
  | incompatibleVersion
  | repeatedHandle (handle : String)
  | undefinedHandle (handle : String)
  | undefinedAlias (name : String)
  | secondAnchor
  | anotherDocument
  | unhashableKey
  | undefinedTag (tag : String)
  | wrongNode (wanted found : NodeKind)
  | noMappingToMerge (found : NodeKind)
  | nothingToMerge (found : NodeKind)
  | noSequence (found : NodeKind)
  | noSinglePair (found : NodeKind)
  | severalPairs (count : Nat)
  | notAscii (fault : Text.EncodingFault)
  | undecodableBase64 (fault : Base64.Fault)
deriving DecidableEq, Repr

def Problem.message : Problem → String
  | .missingColon => "could not find expected ':'"
  | .sequenceEntryNotAllowed => "sequence entries are not allowed here"
  | .mappingKeyNotAllowed => "mapping keys are not allowed here"
  | .mappingValueNotAllowed => "mapping values are not allowed here"
  | .noTokenStart found =>
      "found character " ++ Text.quotedChar found ++ " that cannot start any token"
  | .unexpected expected found =>
      "expected " ++ expected.message ++ ", but found " ++ Text.quotedChar found
  | .undecodableUri fault => fault.message
  | .zeroIndentation => "expected indentation indicator in the range 1-9, but found 0"
  | .unknownEscape found => "found unknown escape character " ++ Text.quotedChar found
  | .unexpectedEnd => "found unexpected end of stream"
  | .unexpectedSeparator => "found unexpected document separator"
  | .noDocumentStart found =>
      "expected '<document start>', but found " ++ Text.quoted found.label
  | .noBlockEnd found => "expected <block end>, but found " ++ Text.quoted found.label
  | .noFlowSequenceItem found => "expected ',' or ']', but got " ++ Text.quoted found.label
  | .noFlowMappingItem found => "expected ',' or '\x7d', but got " ++ Text.quoted found.label
  | .noContent found => "expected the node content, but found " ++ Text.quoted found.label
  | .repeatedVersion => "found duplicate YAML directive"
  | .incompatibleVersion => "found incompatible YAML document (version 1.* is required)"
  | .repeatedHandle handle => "duplicate tag handle " ++ Text.quoted handle
  | .undefinedHandle handle => "found undefined tag handle " ++ Text.quoted handle
  | .undefinedAlias name => "found undefined alias " ++ Text.quoted name
  | .secondAnchor => "second occurrence"
  | .anotherDocument => "but found another document"
  | .unhashableKey => "found unhashable key"
  | .undefinedTag tag => "could not determine a constructor for the tag " ++ Text.quoted tag
  | .wrongNode wanted found =>
      "expected a " ++ wanted.label ++ " node, but found " ++ found.label
  | .noMappingToMerge found => "expected a mapping for merging, but found " ++ found.label
  | .nothingToMerge found =>
      "expected a mapping or list of mappings for merging, but found " ++ found.label
  | .noSequence found => "expected a sequence, but found " ++ found.label
  | .noSinglePair found => "expected a mapping of length 1, but found " ++ found.label
  | .severalPairs count =>
      "expected a single mapping item, but found " ++ toString count ++ " items"
  | .notAscii fault => "failed to convert base64 data into ascii: " ++ fault.message
  | .undecodableBase64 fault => "failed to decode base64 data: " ++ fault.message

/-- A problem at a mark, with what was being read and where that began. -/
structure LocatedFault where
  activity : Option Activity := none
  began : Option Mark := none
  problem : Problem
  mark : Mark
deriving DecidableEq, Repr

/-- The account of a fault: what was being read, where it began unless the
problem is at the same place, the problem, and where it is. -/
def LocatedFault.message (source : String) (fault : LocatedFault) : String :=
  let activity := fault.activity.toList.map Activity.message
  let began := (fault.began.filter fun mark => !mark.samePlace fault.mark).toList.map
    (Mark.text source)
  "\n".intercalate (activity ++ began ++ [fault.problem.message, fault.mark.text source])

inductive ScalarFault where
  | numeral (fault : Number.NumeralFault)
  | emptyNumeral
  | calendar (fault : Calendar.Fault)
  | noTimestamp
  | noBoolean (text : String)
  | noTimestampText
  | tooManySixties
  | endless
  | codePastLast
  | codeTooLarge
deriving DecidableEq, Repr

def ScalarFault.message : ScalarFault → String
  | .numeral fault => fault.message
  | .emptyNumeral => "string index out of range"
  | .calendar fault => fault.message
  | .noTimestamp => "'NoneType' object has no attribute 'groupdict'"
  | .noBoolean text => Text.quoted text
  | .noTimestampText => "expected string or bytes-like object, got 'list'"
  | .tooManySixties => "int too large to convert to float"
  | .endless => "maximum recursion depth exceeded"
  | .codePastLast => "chr() arg not in range(0x110000)"
  | .codeTooLarge => "Python int too large to convert to C int"

/-- What in a text can end the reading of a document. Collections may be nested to any depth: a
limit on the depth of calls, which an interpreter that composes nodes by recursion meets at some
hundreds of levels, is outside the model. -/
inductive Fault where
  | located (fault : LocatedFault)
  | source (fault : SourceFault)
  | scalar (fault : ScalarFault)
deriving DecidableEq, Repr

end InstructionSet.Yaml
