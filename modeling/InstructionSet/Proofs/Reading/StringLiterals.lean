import InstructionSet.Proofs.Text.Utf8
import InstructionSet.Text.Digit

/-!
# Reading of string literals

The body of a string literal ends at the first double quote that is not part of an escape. A
backslash starts an escape, and a literal with a backslash that starts none is not read. Every
other character stands for itself. A literal stands for bytes.

An escape is longer than what it stands for, so a literal stands for just the text that is written
in it exactly if there are no escapes (`read?_eq_some_iff`).
-/

set_option autoImplicit false

namespace InstructionSet.Reading

/-! ## Escapes -/

/-- What an escape stands for, and how many characters it has behind its backslash. -/
structure Escape where
  bytes : List UInt8
  width : Nat
  length_le : bytes.length ≤ width

namespace Escape

def ofByte (byte : UInt8) (rest : Nat) : Escape := ⟨[byte], rest + 1, by simp⟩

/-- The characters that stand for one byte. -/
def letters : List (Char × UInt8) :=
  [('\x5c', 92), ('\x22', 34), ('\x27', 39), ('n', 10), ('t', 9), ('b', 8), ('r', 13), (' ', 32)]

/-- The value of the digits of a base, of which there may be some before. -/
def valueFrom? (base : Nat) : Nat → List Char → Option Nat
  | value, [] => some value
  | value, c :: rest =>
      match Text.hexDigit? c with
      | some digit => if digit < base then valueFrom? base (value * base + digit) rest else none
      | none => none

/-- The byte that a text starts with, written in a number of digits of a base. -/
def byte? (base count : Nat) (chars : List Char) : Option UInt8 :=
  if chars.length < count then none
  else
    match valueFrom? base 0 (chars.take count) with
    | some value => if value < 256 then some (UInt8.ofNat value) else none
    | none => none

/-- The character of a number in braces, as its bytes. -/
def scalar? (chars : List Char) : Option Escape :=
  match chars with
  | '\x7b' :: inside =>
      let digits := inside.takeWhile (· != '\x7d')
      match valueFrom? 16 0 digits with
      | some value =>
          if written : 1 ≤ digits.length ∧ digits.length ≤ 6 then
            if value.isValidChar ∧ digits.length < inside.length then
              some ⟨String.utf8EncodeChar (Char.ofNat value), digits.length + 3, by
                have most := (Char.ofNat value).utf8Size_le_four
                rw [String.length_utf8EncodeChar]
                omega⟩
            else none
          else none
      | none => none
  | _ => none

/-- A line break and the blanks behind it stand for nothing. -/
def lineBreak? (chars : List Char) : Option Escape :=
  let returns := chars.takeWhile (· == '\x0d')
  match chars.drop returns.length with
  | '\n' :: rest =>
      let blanks := rest.takeWhile fun c => c == ' ' || c == '\t'
      some ⟨[], returns.length + 1 + blanks.length, Nat.zero_le _⟩
  | _ => none

/-- The escape that a text behind a backslash starts with. -/
def ofChars? : List Char → Option Escape
  | [] => none
  | c :: rest =>
      match letters.lookup c with
      | some byte => some (ofByte byte 0)
      | none =>
          if c = 'x' then (byte? 16 2 rest).map (ofByte · 2)
          else if c = 'o' then (byte? 8 3 rest).map (ofByte · 3)
          else if c = 'u' then
            (scalar? rest).map fun escape => { escape with
              width := escape.width + 1
              length_le := Nat.le_succ_of_le escape.length_le }
          else ((byte? 10 3 (c :: rest)).map (ofByte · 2)).or (lineBreak? (c :: rest))

end Escape

/-! ## Literals -/

/-- Reads the body of a literal of which some characters still belong to an escape, and what
stands behind its closing quote. -/
def readFrom? : Nat → List Char → Option (List UInt8 × List Char)
  | _, [] => none
  | inEscape + 1, _ :: rest => readFrom? inEscape rest
  | 0, c :: rest =>
      if c = '\x22' then some ([], rest)
      else if c = '\x5c' then
        match Escape.ofChars? rest with
        | some escape =>
            (readFrom? escape.width rest).map fun (bytes, behind) => (escape.bytes ++ bytes, behind)
        | none => none
      else
        (readFrom? 0 rest).map fun (bytes, behind) => (String.utf8EncodeChar c ++ bytes, behind)

def read? : List Char → Option (List UInt8 × List Char) := readFrom? 0

/-- A text without quotes and backslashes. -/
def Plain (chars : List Char) : Prop := ∀ c ∈ chars, c ≠ '\x22' ∧ c ≠ '\x5c'

-- The characters are looked at one by one.
instance (chars : List Char) : Decidable (Plain chars) :=
  List.decidableBAll (fun c => c ≠ '\x22' ∧ c ≠ '\x5c') chars

variable {chars behind : List Char} {bytes : List UInt8}

theorem read?_of_plain {text : List Char} (plain : Plain text) (behind : List Char) :
    read? (text ++ '\x22' :: behind) = some (Text.Utf8.encode text, behind) := by
  induction text with
  | nil => rfl
  | cons c text ih =>
      obtain ⟨⟨noQuote, noBackslash⟩, plainText⟩ := List.forall_mem_cons.mp plain
      have readText := ih plainText
      rw [read?] at readText ⊢
      rw [List.cons_append, readFrom?, if_neg noQuote, if_neg noBackslash, readText,
        Text.Utf8.encode_cons]
      rfl

/-- What the first character of a literal is: the closing quote, the start of an escape, or a
character that stands for itself. -/
theorem readFrom?_cons {c : Char} (read : readFrom? 0 (c :: chars) = some (bytes, behind)) :
    (c = '\x22' ∧ bytes = [] ∧ behind = chars) ∨
    (∃ (escape : Escape) (more : List UInt8), readFrom? escape.width chars = some (more, behind) ∧
        bytes = escape.bytes ++ more) ∨
    (c ≠ '\x22' ∧ c ≠ '\x5c' ∧ ∃ more, readFrom? 0 chars = some (more, behind) ∧
      bytes = String.utf8EncodeChar c ++ more) := by
  rw [readFrom?] at read
  by_cases quote : c = '\x22'
  · obtain ⟨rfl, rfl⟩ := Prod.mk.inj (Option.some.inj ((if_pos quote).symm.trans read))
    exact .inl ⟨quote, rfl, rfl⟩
  rw [if_neg quote] at read
  by_cases backslash : c = '\x5c'
  · rw [if_pos backslash] at read
    cases starts : Escape.ofChars? chars with
    | none => simp [starts] at read
    | some escape =>
        simp only [starts, Option.map_eq_some_iff] at read
        obtain ⟨⟨more, _⟩, readMore, same⟩ := read
        obtain ⟨rfl, rfl⟩ := Prod.mk.inj same
        exact .inr (.inl ⟨escape, more, readMore, rfl⟩)
  · rw [if_neg backslash, Option.map_eq_some_iff] at read
    obtain ⟨⟨more, _⟩, readMore, same⟩ := read
    obtain ⟨rfl, rfl⟩ := Prod.mk.inj same
    exact .inr (.inr ⟨quote, backslash, more, readMore, rfl⟩)

/-- A body that begins inside an escape is longer than what it stands for by at least what is left
of the escape. -/
structure Body (inEscape : Nat) (body : List Char) (bytes : List UInt8) : Prop where
  length_le : bytes.length + inEscape ≤ (Text.Utf8.encode body).length
  plain : inEscape = 0 → bytes.length = (Text.Utf8.encode body).length → Plain body

namespace Body

variable {body : List Char} {inEscape : Nat} (c : Char)

theorem length_encode_cons :
    (Text.Utf8.encode (c :: body)).length =
      (String.utf8EncodeChar c).length + (Text.Utf8.encode body).length := by
  rw [Text.Utf8.encode_cons, List.length_append]

theorem length_utf8EncodeChar_pos : 0 < (String.utf8EncodeChar c).length := by
  rw [String.length_utf8EncodeChar]
  exact c.utf8Size_pos

theorem skip (rest : Body inEscape body bytes) : Body (inEscape + 1) (c :: body) bytes := by
  have shorter := rest.length_le
  have written := length_utf8EncodeChar_pos c
  refine ⟨?_, nofun⟩
  rw [length_encode_cons]
  omega

theorem escape (escape : Escape) (rest : Body escape.width body bytes) :
    Body 0 (c :: body) (escape.bytes ++ bytes) := by
  have shorter := rest.length_le
  have written := length_utf8EncodeChar_pos c
  have escapeShorter := escape.length_le
  have total : (escape.bytes ++ bytes).length < (Text.Utf8.encode (c :: body)).length := by
    rw [length_encode_cons, List.length_append]
    omega
  exact ⟨Nat.le_of_lt total, fun _ same => absurd same (Nat.ne_of_lt total)⟩

theorem character (noQuote : c ≠ '\x22') (noBackslash : c ≠ '\x5c') (rest : Body 0 body bytes) :
    Body 0 (c :: body) (String.utf8EncodeChar c ++ bytes) := by
  have shorter := rest.length_le
  constructor
  · rw [length_encode_cons, List.length_append]
    omega
  · intro outside same
    rw [length_encode_cons, List.length_append] at same
    exact List.forall_mem_cons.mpr ⟨⟨noQuote, noBackslash⟩, rest.plain rfl (by omega)⟩

end Body

/-- What is read is a body that is cut out of the text at a quote. -/
theorem exists_body {inEscape : Nat} (read : readFrom? inEscape chars = some (bytes, behind)) :
    ∃ body, chars = body ++ '\x22' :: behind ∧ Body inEscape body bytes := by
  -- An escape is passed character by character, so its width goes down along the induction.
  induction chars generalizing inEscape bytes with
  | nil => cases inEscape <;> cases read
  | cons c rest ih =>
      cases inEscape with
      | succ inEscape =>
          obtain ⟨body, rfl, stands⟩ := ih read
          exact ⟨c :: body, rfl, stands.skip c⟩
      | zero =>
          rcases readFrom?_cons read with ⟨rfl, rfl, rfl⟩ | ⟨escape, more, readMore, rfl⟩ |
            ⟨noQuote, noBackslash, more, readMore, rfl⟩
          · exact ⟨[], rfl, Nat.le_refl 0, fun _ _ => List.forall_mem_nil _⟩
          · obtain ⟨body, rfl, stands⟩ := ih readMore
            exact ⟨c :: body, rfl, stands.escape c escape⟩
          · obtain ⟨body, rfl, stands⟩ := ih readMore
            exact ⟨c :: body, rfl, stands.character c noQuote noBackslash⟩

/-- A literal whose body is a text and that ends behind it stands for the text exactly if the text
is plain. -/
theorem read?_eq_some_iff {text : List Char} :
    read? (text ++ '\x22' :: behind) = some (Text.Utf8.encode text, behind) ↔ Plain text := by
  constructor
  · intro read
    obtain ⟨body, split, stands⟩ := exists_body read
    obtain rfl := List.append_cancel_right split
    exact stands.plain rfl rfl
  · intro plain
    exact read?_of_plain plain behind

end InstructionSet.Reading
