import Mathlib.Data.List.Nodup
import InstructionSet.Proofs.Rows

/-!
# Reading of generated text

Generated text is a sequence of names and marks, with blanks wherever they do not join
two names. A text reads as tokens if it does so whatever follows; it spells them if it
does so where no name goes on behind it.
-/

set_option autoImplicit false

namespace InstructionSet

inductive Token where
  | name (text : String)
  | mark (character : Char)
deriving DecidableEq, Repr

namespace Reading

/-- Letters, digits, underscores and primes, and all characters beyond ASCII. -/
def isNameCharacter (character : Char) : Bool :=
  character.isAlphanum || character == '_' || character.toNat == 39 || 128 ≤ character.toNat

def isName (text : String) : Bool := !text.isEmpty && text.toList.all isNameCharacter

def isGap (character : Char) : Bool := character == ' ' || character == '\n'

/-- The token of the characters of a name, if there are any. -/
def word (characters : List Char) : List Token :=
  if characters.isEmpty then [] else [.name (String.ofList characters)]

def scan : List Char → List Char → List Token
  | pending, [] => word pending
  | pending, character :: rest =>
      if isNameCharacter character then scan (pending ++ [character]) rest
      else word pending ++ (if isGap character then [] else [.mark character]) ++ scan [] rest

def tokens (text : String) : List Token := scan [] text.toList

def isFresh (characters : List Char) : Bool :=
  characters.head?.all fun character => !isNameCharacter character

def Reads (text : String) (read : List Token) : Prop :=
  ∀ rest, scan [] (text.toList ++ rest) = read ++ scan [] rest

def Spells (text : String) (read : List Token) : Prop :=
  ∀ rest, isFresh rest = true → scan [] (text.toList ++ rest) = read ++ scan [] rest

theorem scan_name (pending : List Char) {name : List Char}
    (valid : ∀ character ∈ name, isNameCharacter character = true) (rest : List Char) :
    scan pending (name ++ rest) = scan (pending ++ name) rest := by
  induction name generalizing pending with
  | nil => rw [List.nil_append, List.append_nil]
  | cons character name ih =>
      have first := valid character List.mem_cons_self
      rw [List.cons_append, scan, if_pos first,
        ih _ fun other member => valid other (List.mem_cons_of_mem _ member),
        List.append_assoc, List.singleton_append]

theorem scan_fresh (pending : List Char) {rest : List Char} (fresh : isFresh rest = true) :
    scan pending rest = word pending ++ scan [] rest := by
  cases rest with
  | nil => rw [scan, scan, word, word, List.isEmpty_nil, if_pos rfl, List.append_nil]
  | cons character rest =>
      have other : isNameCharacter character = false := by
        simpa [isFresh] using fresh
      simp [scan, other, word]

theorem spells_name {name : String} (valid : isName name = true) : Spells name [.name name] := by
  intro rest fresh
  obtain ⟨written, characters⟩ := Bool.and_eq_true_iff.mp valid
  have nonempty : name.toList.isEmpty = false := by
    simpa using written
  rw [scan_name [] (List.all_eq_true.mp characters), scan_fresh _ fresh, List.nil_append, word,
    nonempty, if_neg Bool.false_ne_true, String.ofList_toList]

variable {first second : String} {read more : List Token}

theorem Reads.spells (reads : Reads first read) : Spells first read := fun rest _ => reads rest

theorem Reads.append (reads : Reads first read) (next : Reads second more) :
    Reads (first ++ second) (read ++ more) := by
  intro rest
  rw [String.toList_append, List.append_assoc, reads, next, List.append_assoc]

theorem Reads.append_spells (reads : Reads first read) (next : Spells second more) :
    Spells (first ++ second) (read ++ more) := by
  intro rest fresh
  rw [String.toList_append, List.append_assoc, reads, next rest fresh, List.append_assoc]

theorem isFresh_append {characters : List Char} (fresh : isFresh characters = true)
    {rest : List Char} (freshRest : isFresh rest = true) :
    isFresh (characters ++ rest) = true := by
  cases characters with
  | nil => exact freshRest
  | cons character characters => exact fresh

/-- A name ends where other text starts. -/
theorem Spells.append (spells : Spells first read) (next : Reads second more)
    (written : second.toList ≠ []) (fresh : isFresh second.toList = true) :
    Reads (first ++ second) (read ++ more) := by
  intro rest
  have freshRest : isFresh (second.toList ++ rest) = true := by
    cases characters : second.toList with
    | nil => exact absurd characters written
    | cons character characters =>
        rw [characters] at fresh
        exact fresh
  rw [String.toList_append, List.append_assoc, spells _ freshRest, next, List.append_assoc]

theorem Spells.append_spells (spells : Spells first read) (next : Spells second more)
    (fresh : isFresh second.toList = true) : Spells (first ++ second) (read ++ more) := by
  intro rest freshRest
  rw [String.toList_append, List.append_assoc, spells _ (isFresh_append fresh freshRest),
    next rest freshRest, List.append_assoc]

theorem Spells.tokens_eq (spells : Spells first read) : tokens first = read := by
  have whole := spells [] rfl
  rw [List.append_nil] at whole
  exact whole.trans (List.append_nil read)

theorem Reads.tokens_append (reads : Reads first read) (rest : String) :
    tokens (first ++ rest) = read ++ tokens rest := by
  rw [tokens, String.toList_append, reads]
  rfl

/-! ## Names in a row -/

def separated (between : List Token) : List String → List Token
  | [] => []
  | [name] => [.name name]
  | name :: names => .name name :: between ++ separated between names

theorem spells_intercalate {separator : String} {between : List Token}
    (reads : Reads separator between) (written : separator.toList ≠ [])
    (fresh : isFresh separator.toList = true) {names : List String}
    (valid : ∀ name ∈ names, isName name = true) :
    Spells (separator.intercalate names) (separated between names) := by
  induction names with
  | nil => exact fun rest _ => by rw [String.intercalate_nil]; rfl
  | cons name names ih =>
      have head := spells_name (valid name List.mem_cons_self)
      have tail := ih fun other member => valid other (List.mem_cons_of_mem _ member)
      cases names with
      | nil => rwa [String.intercalate_singleton]
      | cons other names =>
          rw [String.intercalate_cons_cons]
          exact (head.append reads written fresh).append_spells tail

/-! ## Rows -/

theorem reads_indentation (level : Int) : Reads (Printer.indentation "  " level) [] := by
  intro rest
  have units : ∀ count : Nat,
      scan [] ((String.join (List.replicate count "  ")).toList ++ rest) = scan [] rest := by
    intro count
    induction count with
    | zero => rfl
    | succ count ih =>
        rw [List.replicate_succ, String.join_cons, String.toList_append, List.append_assoc]
        exact ih
  exact units level.toNat

theorem reads_render (depth : Nat) (spells : Spells first read) :
    Reads (Row.render "  " ⟨depth, first⟩) read := by
  have feed : Reads "\n" [] := fun _ => rfl
  have line := (reads_indentation depth).append_spells spells
  have whole := line.append feed (by decide) (by decide)
  simpa [Row.render] using whole

theorem tokens_renderAll_cons (depth : Nat) (spells : Spells first read) (rows : List Row) :
    tokens (Row.renderAll "  " (⟨depth, first⟩ :: rows)) =
      read ++ tokens (Row.renderAll "  " rows) := by
  rw [Row.renderAll_cons, (reads_render depth spells).tokens_append]

end Reading

end InstructionSet
