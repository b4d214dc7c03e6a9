import InstructionSet.Artifact.Basic
import InstructionSet.Proofs.Reading.Tokens

/-!
# Readers

Readers of what generated text says about constructors. They know nothing of how the
artifacts are written.
-/

set_option autoImplicit false

namespace InstructionSet.Reading

structure Application where
  constructor : String
  arguments : List String
deriving DecidableEq, Repr

/-- A case that lowers a node: what it matches, what it passes on, and the opcode. -/
structure LoweringCase where
  node : Application
  passed : List String
  opcode : Application
deriving DecidableEq, Repr

/-- A function that builds a node from the names that it binds. -/
structure Wrapper where
  function : String
  bound : List String
  node : Application
deriving DecidableEq, Repr

def namesBy (between : Char) : List Token → List String × List Token
  | .name first :: .mark mark :: rest =>
      if mark = between then
        let more := namesBy between rest
        (first :: more.1, more.2)
      else ([first], .mark mark :: rest)
  | .name first :: rest => ([first], rest)
  | rest => ([], rest)

def namesInRow : List Token → List String × List Token
  | .name first :: rest =>
      let more := namesInRow rest
      (first :: more.1, more.2)
  | rest => ([], rest)

def application? : List Token → Option (Application × List Token)
  | .name constructor :: .mark '(' :: rest =>
      match namesBy ',' rest with
      | (arguments, .mark ')' :: rest) => some (⟨constructor, arguments⟩, rest)
      | _ => none
  | .name constructor :: rest => some (⟨constructor, []⟩, rest)
  | _ => none

/-- The constructor and the types of a variant whose types are names. -/
def variant? : List Token → Option (String × List String)
  | [.mark '|', .name constructor] => some (constructor, [])
  | .mark '|' :: .name constructor :: .name "of" :: rest =>
      match namesBy '*' rest with
      | (types, []) => some (constructor, types)
      | _ => none
  | _ => none

/-- What a case matches, whatever it does then. -/
def caseHead? : List Token → Option Application
  | .mark '|' :: rest =>
      match application? rest with
      | some (head, .mark '-' :: .mark '>' :: _) => some head
      | _ => none
  | _ => none

def loweringCase? : List Token → Option LoweringCase
  | .mark '|' :: rest =>
      match application? rest with
      | some (node, .mark '-' :: .mark '>' :: .name _ :: .name _ :: .mark '[' :: rest) =>
          match namesBy ';' rest with
          | (passed, .mark ']' :: rest) =>
              match application? rest with
              | some (opcode, []) => some ⟨node, passed, opcode⟩
              | _ => none
          | _ => none
      | _ => none
  | _ => none

def wrapper? : List Token → Option Wrapper
  | .name function :: .mark '(' :: rest =>
      let (bound, body) :=
        match namesInRow rest with
        | (keyword :: bound, .mark '-' :: .mark '>' :: body) =>
            if keyword = "fun" then (bound, body) else ([], rest)
        | _ => ([], rest)
      match application? body with
      | some (node, [.mark ')']) => some ⟨function, bound, node⟩
      | _ => none
  | _ => none

/-- A line of a text that ends with a line feed, counted from the last one. -/
def lineFromEnd? (index : Nat) (text : String) : Option String :=
  ((text.toList.splitOn '\n').reverse[index + 1]?).map String.ofList

/-! ## Names -/

theorem isName_append {first second : String} (valid : isName first = true)
    (more : second.toList.all isNameCharacter = true) : isName (first ++ second) = true := by
  obtain ⟨written, characters⟩ := Bool.and_eq_true_iff.mp valid
  have nonempty : first ≠ "" := by
    simpa using written
  refine Bool.and_eq_true_iff.mpr ⟨?_, ?_⟩
  · simp [nonempty]
  · rw [String.toList_append, List.all_append, characters, more]
    rfl

theorem all_isNameCharacter_toString (number : Nat) :
    (toString number).toList.all isNameCharacter = true := by
  rw [Nat.toString_eq_repr, Nat.toList_repr, List.all_eq_true]
  intro character member
  have digit := Nat.isDigit_of_mem_toDigits (by decide) (by decide) member
  simp [isNameCharacter, Char.isAlphanum, digit]

theorem isName_indexed {stem : String} (valid : isName stem = true) (index : Nat) :
    isName (indexed stem index) = true :=
  isName_append valid (all_isNameCharacter_toString index)

theorem isName_of_mem_numbered {stem : String} (valid : isName stem = true) {first count : Nat}
    {name : String} (member : name ∈ numbered stem first count) : isName name = true := by
  obtain ⟨index, -, rfl⟩ := List.mem_map.mp member
  exact isName_indexed valid index

/-! ## Lists of names -/

theorem namesBy_separated (between : Char) (names : List String) {rest : List Token}
    (ended : ∀ token ∈ rest.head?, ∃ character, token = .mark character ∧ character ≠ between) :
    namesBy between (separated [.mark between] names ++ rest) = (names, rest) := by
  induction names with
  | nil =>
      cases rest with
      | nil => rfl
      | cons token rest =>
          obtain ⟨character, rfl, -⟩ := ended token rfl
          rfl
  | cons name names ih =>
      cases names with
      | nil =>
          cases rest with
          | nil => rfl
          | cons token rest =>
              obtain ⟨character, rfl, other⟩ := ended token rfl
              simp [separated, namesBy, other]
      | cons other names => simp [separated, namesBy, ih]

theorem namesInRow_separated (names : List String) {rest : List Token}
    (ended : ∀ token ∈ rest.head?, ∃ character, token = .mark character) :
    namesInRow (separated [] names ++ rest) = (names, rest) := by
  induction names with
  | nil =>
      cases rest with
      | nil => rfl
      | cons token rest =>
          obtain ⟨character, rfl⟩ := ended token rfl
          rfl
  | cons name names ih =>
      cases names with
      | nil =>
          rw [separated, List.nil_append] at ih
          simp [separated, namesInRow, ih]
      | cons other names => simp [separated, namesInRow, ih]

/-! ## Applications -/

def Application.tokens (application : Application) : List Token :=
  .name application.constructor ::
    if application.arguments.isEmpty then []
    else .mark '(' :: separated [.mark ','] application.arguments ++ [.mark ')']

theorem application?_tokens (application : Application) {rest : List Token}
    (ended : rest.head? ≠ some (.mark '(')) :
    application? (application.tokens ++ rest) = some (application, rest) := by
  obtain ⟨constructor, arguments⟩ := application
  cases arguments with
  | nil =>
      cases rest with
      | nil => rfl
      | cons token rest =>
          cases token with
          | name text => rfl
          | mark character =>
              have other : character ≠ '(' := by
                simpa using ended
              simp [Application.tokens, application?, other]
  | cons argument arguments =>
      have names : namesBy ',' (separated [.mark ','] (argument :: arguments) ++
          .mark ')' :: rest) = (argument :: arguments, .mark ')' :: rest) :=
        namesBy_separated ',' _ (by simp)
      simp [Application.tokens, application?, names]

theorem spells_applied {constructor : String} {arguments : List String}
    (named : isName constructor = true) (valid : ∀ name ∈ arguments, isName name = true) :
    Spells (applied constructor arguments)
      (Application.tokens ⟨constructor, arguments⟩) := by
  cases arguments with
  | nil => exact spells_name named
  | cons argument arguments =>
      have opened : Reads "(" [.mark '('] := fun _ => rfl
      have comma : Reads ", " [.mark ','] := fun _ => rfl
      have closed : Reads ")" [.mark ')'] := fun _ => rfl
      have names := spells_intercalate comma (by decide) (by decide) valid
      have head := (spells_name named).append opened (by decide) (by decide)
      have whole := (head.append_spells names).append closed (by decide) (by decide)
      simpa [applied, Application.tokens] using whole.spells

/-! ## Lines -/

theorem feed_not_mem_of_all {text : String} (valid : text.toList.all isNameCharacter = true) :
    '\n' ∉ text.toList := by
  intro member
  exact absurd (List.all_eq_true.mp valid _ member) (by decide)

theorem feed_not_mem_of_isName {text : String} (valid : isName text = true) :
    '\n' ∉ text.toList :=
  feed_not_mem_of_all (Bool.and_eq_true_iff.mp valid).2

theorem feed_not_mem_append {first second : String} (left : '\n' ∉ first.toList)
    (right : '\n' ∉ second.toList) : '\n' ∉ (first ++ second).toList := by
  rw [String.toList_append, List.mem_append, not_or]
  exact ⟨left, right⟩

theorem feed_not_mem_intercalate {separator : String} (between : '\n' ∉ separator.toList)
    {names : List String} (valid : ∀ name ∈ names, isName name = true) :
    '\n' ∉ (separator.intercalate names).toList := by
  induction names with
  | nil => simp
  | cons name names ih =>
      have head := feed_not_mem_of_isName (valid name List.mem_cons_self)
      have tail := ih fun other member => valid other (List.mem_cons_of_mem _ member)
      cases names with
      | nil => rwa [String.intercalate_singleton]
      | cons other names =>
          rw [String.intercalate_cons_cons]
          exact feed_not_mem_append (feed_not_mem_append head between) tail

theorem feed_not_mem_applied {constructor : String} {arguments : List String}
    (named : isName constructor = true) (valid : ∀ name ∈ arguments, isName name = true) :
    '\n' ∉ (applied constructor arguments).toList := by
  unfold applied
  split
  · exact feed_not_mem_of_isName named
  · exact feed_not_mem_append (feed_not_mem_append
      (feed_not_mem_append (feed_not_mem_of_isName named) (by decide))
      (feed_not_mem_intercalate (by decide) valid)) (by decide)

theorem lineFromEnd?_rows {front : List Row} (written : front ≠ []) (depth lastDepth : Nat)
    {text last : String} (unbroken : '\n' ∉ text.toList) (lastUnbroken : '\n' ∉ last.toList) :
    lineFromEnd? 1 (Row.renderAll "  " (front ++ [⟨depth, text⟩, ⟨lastDepth, last⟩])) =
      some (Printer.indentation "  " depth ++ text) := by
  obtain ⟨earlier, feed⟩ := Row.exists_renderAll_eq_append_lineFeed "  " written
  have spaces (level : Int) : '\n' ∉ (Printer.indentation "  " level).toList :=
    Printer.feed_not_mem_indentation (by decide) level
  have line := feed_not_mem_append (spaces depth) unbroken
  have lastLine := feed_not_mem_append (spaces lastDepth) lastUnbroken
  have whole : (Row.renderAll "  " (front ++ [⟨depth, text⟩, ⟨lastDepth, last⟩])).toList =
      earlier.toList ++ '\n' :: ((Printer.indentation "  " depth ++ text).toList ++ '\n' ::
        ((Printer.indentation "  " lastDepth ++ last).toList ++ ['\n'])) := by
    rw [Row.renderAll_append, feed]
    simp [Row.renderAll_cons, Row.render]
  rw [lineFromEnd?, whole, List.splitOn_append_cons_self,
    List.splitOn_append_cons_self_of_not_mem line,
    List.splitOn_append_cons_self_of_not_mem lastLine, List.splitOn_nil]
  simp

end InstructionSet.Reading
