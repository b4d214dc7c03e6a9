/-!
# Tokens

The smallest units of a text with their kinds and places. A place is told by a mark,
which counts the characters before it, the line breaks among them, and the characters
since the last one. A tag is kept as its handle, if it has one, and its suffix.
-/

set_option autoImplicit false

namespace InstructionSet.Yaml

structure Mark where
  index : Nat := 0
  line : Nat := 0
  column : Nat := 0
deriving DecidableEq, Repr, Inhabited

def Mark.samePlace (left right : Mark) : Bool :=
  left.line == right.line && left.column == right.column

def Mark.text (source : String) (mark : Mark) : String :=
  "  in \"" ++ source ++ "\", line " ++ toString (mark.line + 1) ++ ", column " ++
    toString (mark.column + 1)

structure TagName where
  handle : Option String
  suffix : String
deriving DecidableEq, Repr

/-- What a directive says: the version, a handle's expansion, or anything else. -/
inductive Directive where
  | version (major minor : Nat)
  | tag (handle expansion : String)
  | reserved
deriving DecidableEq, Repr

inductive TokenKind where
  | directive (value : Directive)
  | documentStart
  | documentEnd
  | streamStart
  | streamEnd
  | blockSequenceStart
  | blockMappingStart
  | blockEnd
  | flowSequenceStart
  | flowMappingStart
  | flowSequenceEnd
  | flowMappingEnd
  | key
  | value
  | blockEntry
  | flowEntry
  | alias (name : String)
  | anchor (name : String)
  | tag (name : TagName)
  | scalar (value : String) (plain : Bool)
deriving DecidableEq, Repr

def TokenKind.label : TokenKind → String
  | .directive _ => "<directive>"
  | .documentStart => "<document start>"
  | .documentEnd => "<document end>"
  | .streamStart => "<stream start>"
  | .streamEnd => "<stream end>"
  | .blockSequenceStart => "<block sequence start>"
  | .blockMappingStart => "<block mapping start>"
  | .blockEnd => "<block end>"
  | .flowSequenceStart => "["
  | .flowMappingStart => "\x7b"
  | .flowSequenceEnd => "]"
  | .flowMappingEnd => "\x7d"
  | .key => "?"
  | .value => ":"
  | .blockEntry => "-"
  | .flowEntry => ","
  | .alias _ => "<alias>"
  | .anchor _ => "<anchor>"
  | .tag _ => "<tag>"
  | .scalar _ _ => "<scalar>"

structure Token where
  kind : TokenKind
  start : Mark
  stop : Mark
deriving DecidableEq, Repr

end InstructionSet.Yaml
