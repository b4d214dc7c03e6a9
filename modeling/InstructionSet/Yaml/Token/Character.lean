/-!
# Classes of characters

The end of a text reads as the null character, which no acceptable text holds, so
a class may say whether the end belongs to it.
-/

set_option autoImplicit false

namespace InstructionSet.Yaml

/-- What is read behind the last character. -/
def endOfText : Char := '\x00'

def isBreak (c : Char) : Bool :=
  c == '\n' || c == '\r' || c == '\x85' || c == '\u2028' || c == '\u2029'

def isBreakOrEnd (c : Char) : Bool := c == endOfText || isBreak c

def isSpaceOrEnd (c : Char) : Bool := c == ' ' || isBreakOrEnd c

/-- Line breaks, the end, the space and the tab. -/
def isGapOrEnd (c : Char) : Bool := c == '\t' || isSpaceOrEnd c

def isSpaceOrTab (c : Char) : Bool := c == ' ' || c == '\t'

def isDigit (c : Char) : Bool := '0' ≤ c && c ≤ '9'

/-- ASCII letters and digits, the hyphen and the underscore. -/
def isNameCharacter (c : Char) : Bool :=
  isDigit c || ('A' ≤ c && c ≤ 'Z') || ('a' ≤ c && c ≤ 'z') || c == '-' || c == '_'

/-- The other characters that may stand in the address of a tag. -/
def uriMarks : List Char := "-;/?:@&=+$,_.!~*\x27()[]%".toList

/-- The characters that may stand in the address of a tag. -/
def isUriCharacter (c : Char) : Bool := isNameCharacter c || uriMarks.contains c

/-- The characters that do not begin a plain scalar, the end and gaps apart. -/
def indicators : List Char := "-?:,[]\x7b\x7d#&*!|>\x27\x22%@\x60".toList

/-- The characters that may follow the name of an anchor, the end and gaps apart. -/
def afterAnchor : List Char := "?:,]\x7d%@\x60".toList

/-- The characters that end a plain scalar inside a flow collection. -/
def flowIndicators : List Char := ",?[]\x7b\x7d".toList

/-- The characters that make a colon before them end a plain scalar inside a flow
collection. -/
def afterFlowColon : List Char := ",[]\x7b\x7d".toList

end InstructionSet.Yaml
