import InstructionSet.Yaml.Token.Lexer

/-!
# Tags, anchors and directives

The tokens that name something: an anchor or an alias, the tag of a node, and the
directives in front of a document.
-/

set_option autoImplicit false

namespace InstructionSet.Yaml.Scan

def anchorName (activity : Activity) : Scan String := do
  let start ← here
  advance
  let name ← takeWhile isNameCharacter
  if name.isEmpty then failIn activity start (.unexpected .nameCharacter (← peek))
  let next ← peek
  if !(isGapOrEnd next || afterAnchor.contains next) then
    failIn activity start (.unexpected .nameCharacter next)
  return String.ofList name

def uriByte (activity : Activity) (start : Mark) : Scan UInt8 := do
  advance
  let digit (ahead : Nat) : Scan Nat := do
    let c ← peekAt ahead
    match Text.hexDigit? c with
    | some value => return value
    | none => failIn activity start (.unexpected .uriEscape c)
  let high ← digit 0
  let low ← digit 1
  advance 2
  return (high * 16 + low).toUInt8

def uriBytes (activity : Activity) (start : Mark) : Nat → Scan (List UInt8)
  | 0 => return []
  | bound + 1 => do
      if (← peek) == '%' then
        let byte ← uriByte activity start
        return byte :: (← uriBytes activity start bound)
      else return []

/-- Reads the characters that a run of percent-encoded bytes stands for. -/
def uriEscapes (activity : Activity) (start : Mark) : Scan (List Char) := do
  let mark ← here
  let bytes ← uriBytes activity start (← get).bound
  match Text.Utf8.decodeWhole bytes with
  | .ok chars => return chars
  | .error fault =>
      throw (.located { activity, began := start, problem := .undecodableUri fault, mark })

def uriCharacters (activity : Activity) (start : Mark) : Nat → Scan (List Char)
  | 0 => return []
  | bound + 1 => do
      let plain ← takeWhile fun c => isUriCharacter c && c != '%'
      if (← peek) == '%' then
        let escaped ← uriEscapes activity start
        return plain ++ escaped ++ (← uriCharacters activity start bound)
      else return plain

/-- Reads the address of a tag, which has at least one character. `inDirective`
says whose address it is. -/
def tagUri (inDirective : Bool) (start : Mark) : Scan String := do
  let scanning := if inDirective then Activity.directive else Activity.tag
  let parsing := if inDirective then Activity.directiveUri else Activity.tagUri
  let first ← peek
  let chars ← uriCharacters scanning start (← get).bound
  if !isUriCharacter first then failIn parsing start (.unexpected .uri first)
  return Text.ofPlain chars

/-- Reads the handle of a tag: one exclamation mark, or a name between two. -/
def tagHandle (inDirective : Bool) (start : Mark) : Scan String := do
  let activity := if inDirective then Activity.directive else Activity.tag
  let first ← peek
  if first != '!' then failIn activity start (.unexpected .exclamation first)
  let next ← peekAt 1
  if next == ' ' then
    advance
    return "!"
  else
    let behind := (← get).rest.drop 1
    let name := behind.takeWhile isNameCharacter
    let close ← peekAt (name.length + 1)
    if close != '!' then
      advance (name.length + 1)
      failIn activity start (.unexpected .exclamation close)
    advance (name.length + 2)
    return "!" ++ String.ofList name ++ "!"

/-- Whether a handle stands in front of a tag's suffix: an exclamation mark comes
before the next space, line break or end. -/
def hasHandle (rest : List Char) : Bool :=
  (rest.takeWhile fun c => !isSpaceOrEnd c).contains '!'

def tagToken : Scan Unit := do
  let start ← here
  let next ← peekAt 1
  let name ← do
    if next == '<' then
      advance 2
      let suffix ← tagUri false start
      let close ← peek
      if close != '>' then failIn .tagUri start (.unexpected .closingAngle close)
      advance
      pure (⟨none, suffix⟩ : TagName)
    else if isGapOrEnd next then
      advance
      pure ⟨none, "!"⟩
    else
      let behind := (← get).rest.drop 1
      if !hasHandle behind then
        let _ ← peekAt (1 + (behind.takeWhile fun c => !isSpaceOrEnd c).length)
      let handle ← if hasHandle behind then tagHandle false start else do
        advance
        pure "!"
      let suffix ← tagUri false start
      pure ⟨some handle, suffix⟩
  let close ← peek
  if !isSpaceOrEnd close then failIn .tag start (.unexpected .space close)
  emit (.tag name) start (← here)

def versionNumber (start : Mark) : Scan Nat := do
  let first ← peek
  if !isDigit first then failIn .directive start (.unexpected .digit first)
  match Number.readWhole 10 (← takeWhile isDigit) with
  | .ok number => return number.toNat
  | .error fault => throw (.scalar (.numeral fault))

def versionDirective (start : Mark) : Scan Directive := do
  skipSpaces
  let major ← versionNumber start
  let point ← peek
  if point != '.' then failIn .directive start (.unexpected .digitOrPoint point)
  advance
  let minor ← versionNumber start
  let close ← peek
  if !isSpaceOrEnd close then failIn .directive start (.unexpected .digitOrSpace close)
  return .version major minor

def tagDirective (start : Mark) : Scan Directive := do
  skipSpaces
  let handle ← tagHandle true start
  let close ← peek
  if close != ' ' then failIn .directive start (.unexpected .space close)
  skipSpaces
  let expansion ← tagUri true start
  let close ← peek
  if !isSpaceOrEnd close then failIn .directive start (.unexpected .space close)
  return .tag handle expansion

/-- Reads what may follow on the line of a directive or of a block scalar's
header: spaces, a comment, and the line break. -/
def restOfLine (activity : Activity) (start : Mark) : Scan Unit := do
  skipSpaces
  if (← peek) == '#' then skipLine
  let close ← peek
  if !isBreakOrEnd close then failIn activity start (.unexpected .commentOrBreak close)
  let _ ← lineBreak

def directiveToken : Scan Unit := do
  let start ← here
  advance
  let name ← takeWhile isNameCharacter
  let close ← peek
  if name.isEmpty || !isSpaceOrEnd close then
    failIn .directive start (.unexpected .nameCharacter close)
  let value ←
    if name == "YAML".toList then versionDirective start
    else if name == "TAG".toList then tagDirective start
    else pure .reserved
  let stop ← here
  if value == .reserved then skipLine
  restOfLine .directive start
  emit (.directive value) start stop

end InstructionSet.Yaml.Scan
