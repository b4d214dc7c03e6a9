import InstructionSet.Command.Setting
import InstructionSet.Text.Digit
import InstructionSet.Text.Quoted

/-!
# Words

The words of a command line. A word that begins with a hyphen is a setting when it
is one of the spellings, a beginning of exactly one long spelling, or a short
spelling with more behind it; a long spelling may have a value behind an equals
sign. Negative numbers and unknown words with blanks are plain texts, and so is
everything behind two hyphens.
-/

set_option autoImplicit false

namespace InstructionSet.Command

inductive LineProblem where
  | ambiguous (word : String) (spellings : List String)
  | unexpectedValue (setting : Setting) (value : List Char)
  | missingValue (setting : Setting)
  | conflict (mode other : Mode)
  | unknownChoice (value : String) (choices : List String)
  | unrecognized (words : List String)
deriving DecidableEq, Repr

namespace LineProblem

/-- A problem with a setting is shown behind its spellings. -/
def about (setting : Setting) (account : String) : String :=
  "argument " ++ setting.title ++ ": " ++ account

def message : LineProblem → String
  | .ambiguous word spellings =>
      "ambiguous option: " ++ word ++ " could match " ++ ", ".intercalate spellings
  | .unexpectedValue setting value =>
      about setting ("ignored explicit argument " ++ Text.quotedChars value)
  | .missingValue setting => about setting "expected one argument"
  | .conflict mode other =>
      about (.mode mode) ("not allowed with argument " ++ (Setting.mode other).title)
  | .unknownChoice value choices =>
      about .duplicates
        ("invalid choice: " ++ Text.quoted value ++ " (choose from " ++
          ", ".intercalate (choices.map Text.quoted) ++ ")")
  | .unrecognized words => "unrecognized arguments: " ++ " ".intercalate words

end LineProblem

/-- A setting as it was spelled, and what was attached to the spelling. -/
structure SpelledSetting where
  spelling : String
  setting : Setting
  attached : Option (List Char) := none
deriving DecidableEq, Repr

inductive Word where
  | text (text : String)
  | separator
  | setting (spelled : SpelledSetting)
  | unknown (text : String)
deriving DecidableEq, Repr

namespace Word

/-- The text before the first equals sign, and the text behind it. -/
def cutAtEquals (chars : List Char) : List Char × Option (List Char) :=
  (chars.takeWhile (· != '='),
    match chars.dropWhile (· != '=') with
    | [] => none
    | _ :: value => some value)

/-- The settings that a word may stand for when it is no spelling itself. -/
def readings (chars : List Char) : List SpelledSetting :=
  match chars with
  | '-' :: '-' :: _ =>
      let (stem, value) := cutAtEquals chars
      Setting.spellings.filterMap fun (spelling, meant) =>
        if stem.isPrefixOf spelling.toList then some ⟨spelling, meant, value⟩ else none
  | '-' :: letter :: rest =>
      Setting.spellings.filterMap fun (spelling, meant) =>
        if spelling.toList == ['-', letter] then some ⟨spelling, meant, some rest⟩ else none
  | _ => []

/-- Whether a word is a negative number, which a line feed may follow. -/
def isNegativeNumber (chars : List Char) : Bool :=
  let isDigit (c : Char) : Bool := (Text.decimalDigit? c).isSome
  match (if chars.getLast? == some '\n' then chars.dropLast else chars) with
  | '-' :: number =>
      match number.dropWhile isDigit with
      | [] => !number.isEmpty
      | '.' :: fraction => !fraction.isEmpty && fraction.all isDigit
      | _ => false
  | _ => false

/-- What a word is, unless it is the separator or stands behind it. -/
def ofText (text : String) : Except LineProblem Word :=
  let chars := text.toList
  if chars.head? != some '-' || chars == ['-'] then .ok (.text text)
  else
    let spelled? (stem : List Char) (value : Option (List Char)) : Option SpelledSetting :=
      (Setting.ofSpelling? stem).map fun meant => ⟨String.ofList stem, meant, value⟩
    let (stem, value) := cutAtEquals chars
    match spelled? chars none <|> (if value.isSome then spelled? stem value else none) with
    | some spelled => .ok (.setting spelled)
    | none =>
        match readings chars with
        | [spelled] => .ok (.setting spelled)
        | [] =>
            if isNegativeNumber chars || chars.contains ' ' then .ok (.text text)
            else .ok (.unknown text)
        | several => .error (.ambiguous text (several.map SpelledSetting.spelling))

def ofTexts : List String → Except LineProblem (List Word)
  | [] => .ok []
  | written :: rest =>
      if written == "--" then .ok (.separator :: rest.map .text)
      else do
        let word ← ofText written
        return word :: (← ofTexts rest)

end Word

end InstructionSet.Command
