import Mathlib.Data.List.Basic
import Mathlib.Tactic.SplitIfs
import InstructionSet.Text.Utf8

/-!
# Encoded texts

A text that has been encoded is read back whole. Of the bytes of a text that have come
so far, those that complete a character are read, and the others are left over.
-/

set_option autoImplicit false

namespace InstructionSet.Text.Utf8

def encode (chars : List Char) : List UInt8 := chars.flatMap String.utf8EncodeChar

/-! ## Bytes of a character -/

/-- The bytes of a character, told by the numbers that they hold besides what marks their
kind. -/
inductive Encoded : Char → List UInt8 → Prop where
  | one {lead : UInt8} {a : Nat} : lead.toNat = a → a < 128 → Encoded (Char.ofNat a) [lead]
  | two {lead second : UInt8} {a b : Nat} :
      lead.toNat = a + 192 → second.toNat = b + 128 → 2 ≤ a → a < 32 → b < 64 →
      Encoded (Char.ofNat (a * 64 + b)) [lead, second]
  | three {lead second third : UInt8} {a b c : Nat} :
      lead.toNat = a + 224 → second.toNat = b + 128 → third.toNat = c + 128 →
      a < 16 → b < 64 → c < 64 → (a = 0 → 32 ≤ b) → (a = 13 → b < 32) →
      Encoded (Char.ofNat ((a * 64 + b) * 64 + c)) [lead, second, third]
  | four {lead second third fourth : UInt8} {a b c d : Nat} :
      lead.toNat = a + 240 → second.toNat = b + 128 → third.toNat = c + 128 →
      fourth.toNat = d + 128 →
      a < 5 → b < 64 → c < 64 → d < 64 → (a = 0 → 16 ≤ b) → (a = 4 → b < 16) →
      Encoded (Char.ofNat (((a * 64 + b) * 64 + c) * 64 + d)) [lead, second, third, fourth]

theorem encoded_utf8EncodeChar (c : Char) : Encoded c (String.utf8EncodeChar c) := by
  have valid : c.toNat.isValidChar := c.valid
  have whole : Char.ofNat c.toNat = c := Char.ofNat_toNat c
  have value : c.val.toNat = c.toNat := rfl
  have toNat {n : Nat} (byte : n < 256) : (UInt8.ofNat n).toNat = n := UInt8.toNat_ofNat_of_lt' byte
  unfold String.utf8EncodeChar
  simp only [value]
  generalize c.toNat = v at valid whole
  simp only [Nat.isValidChar] at valid
  subst whole
  split_ifs
  · exact .one (toNat (by omega)) (by omega)
  · have split : Char.ofNat v = Char.ofNat (v / 64 % 32 * 64 + v % 64) :=
      congrArg Char.ofNat (by omega)
    rw [split]
    exact .two (toNat (by omega)) (toNat (by omega)) (by omega) (by omega) (by omega)
  · have split : Char.ofNat v = Char.ofNat ((v / 4096 % 16 * 64 + v / 64 % 64) * 64 + v % 64) :=
      congrArg Char.ofNat (by omega)
    rw [split]
    exact .three (toNat (by omega)) (toNat (by omega)) (toNat (by omega)) (by omega) (by omega)
      (by omega) (by omega) (by omega)
  · have split : Char.ofNat v = Char.ofNat
        (((v / 262144 % 8 * 64 + v / 4096 % 64) * 64 + v / 64 % 64) * 64 + v % 64) :=
      congrArg Char.ofNat (by omega)
    rw [split]
    exact .four (toNat (by omega)) (toNat (by omega)) (toNat (by omega)) (toNat (by omega))
      (by omega) (by omega) (by omega) (by omega) (by omega) (by omega)

/-! ## Reading a character -/

theorem isContinuation_iff {byte : UInt8} :
    isContinuation byte = true ↔ 128 ≤ byte.toNat ∧ byte.toNat < 192 := by
  have marked : ∀ n < 256, (n &&& 192 = 128 ↔ 128 ≤ n ∧ n < 192) := by decide +kernel
  rw [isContinuation, beq_iff_eq, ← UInt8.toNat_inj, UInt8.toNat_and]
  exact marked byte.toNat byte.toNat_lt

theorem isContinuation_of_eq {byte : UInt8} {n : Nat} (held : byte.toNat = n + 128)
    (small : n < 64) : isContinuation byte = true := by
  rw [isContinuation_iff]
  omega

/-- The low bits of a byte. -/
theorem toNat_and_mask (byte : UInt8) :
    (byte &&& 0x3f).toNat = byte.toNat % 64 ∧ (byte &&& 0x1f).toNat = byte.toNat % 32 ∧
      (byte &&& 0x0f).toNat = byte.toNat % 16 ∧ (byte &&& 0x07).toNat = byte.toNat % 8 := by
  simp only [UInt8.toNat_and]
  exact ⟨Nat.and_two_pow_sub_one_eq_mod _ 6, Nat.and_two_pow_sub_one_eq_mod _ 5,
    Nat.and_two_pow_sub_one_eq_mod _ 4, Nat.and_two_pow_sub_one_eq_mod _ 3⟩

theorem extend_of_eq (code : Nat) {byte : UInt8} {n : Nat} (held : byte.toNat = n + 128)
    (small : n < 64) : extend code byte = code * 64 + n := by
  rw [extend, (toNat_and_mask byte).1]
  omega

theorem isSecond_of_eq {lead byte : UInt8} {n : Nat} (held : byte.toNat = n + 128) (small : n < 64)
    (notShort : lead.toNat = 0xe0 → 32 ≤ n) (noSurrogate : lead.toNat = 0xed → n < 32)
    (notShortToo : lead.toNat = 0xf0 → 16 ≤ n) (noLater : lead.toNat = 0xf4 → n < 16) :
    isSecond lead byte = true := by
  simp only [isSecond, isContinuation_of_eq held small, UInt8.lt_iff_toNat_lt,
    UInt8.le_iff_toNat_le, ← UInt8.toNat_inj, held, Bool.true_and, Bool.and_eq_true,
    Bool.not_eq_true', Bool.and_eq_false_iff, beq_eq_false_iff_ne, decide_eq_false_iff_not,
    UInt8.toNat_ofNat, Nat.reducePow, Nat.reduceMod, ne_eq]
  omega

section Sequences

variable {lead second third fourth : UInt8}

/-- The first byte of a character of more than one byte. -/
structure Leads (lead : UInt8) : Prop where
  least : 194 ≤ lead.toNat
  most : lead.toNat < 245

theorem Leads.bounds (leads : Leads lead) : ¬ lead < 0x80 ∧ ¬ lead < 0xc2 ∧ ¬ 0xf5 ≤ lead := by
  obtain ⟨least, most⟩ := leads
  simp only [UInt8.lt_iff_toNat_lt, UInt8.le_iff_toNat_le, UInt8.toNat_ofNat]
  omega

theorem sequence_one (ascii : lead.toNat < 128) (rest : List UInt8) :
    sequence lead rest = .character (Char.ofNat lead.toNat) 1 rest := by
  have small : lead < 0x80 := ascii
  rw [sequence.eq_def, if_pos small]

theorem sequence_nil (leads : Leads lead) : sequence lead [] = .incomplete := by
  simp [sequence, leads.bounds]

variable (leads : Leads lead) (fits : isSecond lead second = true)

include leads fits

theorem sequence_two (short : lead.toNat < 224) (rest : List UInt8) :
    sequence lead (second :: rest) =
      .character (Char.ofNat (extend (lead.toNat % 32) second)) 2 rest := by
  have two : lead < 0xe0 := short
  have masked := (toNat_and_mask lead).2.1
  simp [sequence, leads.bounds, fits, two, masked]

variable (long : 224 ≤ lead.toNat)

include long

theorem sequence_second : sequence lead [second] = .incomplete := by
  have more : ¬ lead < 0xe0 := Nat.not_lt.mpr long
  simp [sequence, leads.bounds, fits, more]

variable (continues : isContinuation third = true)

include continues

theorem sequence_three (short : lead.toNat < 240) (rest : List UInt8) :
    sequence lead (second :: third :: rest) =
      .character (Char.ofNat (extend (extend (lead.toNat % 16) second) third)) 3 rest := by
  have more : ¬ lead < 0xe0 := Nat.not_lt.mpr long
  have three : lead < 0xf0 := short
  have masked := (toNat_and_mask lead).2.2.1
  simp [sequence, leads.bounds, fits, more, continues, three, masked]

theorem sequence_third (longer : 240 ≤ lead.toNat) :
    sequence lead [second, third] = .incomplete := by
  have more : ¬ lead < 0xe0 := Nat.not_lt.mpr long
  have four : ¬ lead < 0xf0 := Nat.not_lt.mpr longer
  simp [sequence, leads.bounds, fits, more, continues, four]

theorem sequence_four (longer : 240 ≤ lead.toNat) (ends : isContinuation fourth = true)
    (rest : List UInt8) :
    sequence lead (second :: third :: fourth :: rest) =
      .character (Char.ofNat (extend (extend (extend (lead.toNat % 8) second) third) fourth)) 4
        rest := by
  have more : ¬ lead < 0xe0 := Nat.not_lt.mpr long
  have four : ¬ lead < 0xf0 := Nat.not_lt.mpr longer
  have masked := (toNat_and_mask lead).2.2.2
  simp [sequence, leads.bounds, fits, more, continues, four, ends, masked]

end Sequences

section Characters

variable {c : Char} {lead : UInt8} {tail : List UInt8}

theorem Encoded.leads {second : UInt8} (form : Encoded c (lead :: second :: tail)) :
    Leads lead ∧ isSecond lead second = true := by
  cases form with
  | two held heldSecond least small smallSecond =>
      exact ⟨⟨by omega, by omega⟩,
        isSecond_of_eq heldSecond smallSecond (by omega) (by omega) (by omega) (by omega)⟩
  | three held heldSecond heldThird small smallSecond smallThird least most =>
      exact ⟨⟨by omega, by omega⟩,
        isSecond_of_eq heldSecond smallSecond (by omega) (by omega) (by omega) (by omega)⟩
  | four held heldSecond heldThird heldFourth small smallSecond smallThird smallFourth least most =>
      exact ⟨⟨by omega, by omega⟩,
        isSecond_of_eq heldSecond smallSecond (by omega) (by omega) (by omega) (by omega)⟩

theorem Encoded.sequence_append (form : Encoded c (lead :: tail)) (rest : List UInt8) :
    sequence lead (tail ++ rest) = .character c (tail.length + 1) rest := by
  have starts {second : UInt8} {others : List UInt8} (more : tail = second :: others) :
      Leads lead ∧ isSecond lead second = true := (more ▸ form).leads
  cases form with
  | one held small =>
      subst held
      exact sequence_one small rest
  | @two _ second a b held heldSecond least small smallSecond =>
      obtain ⟨leads, fits⟩ := starts rfl
      have code : extend (lead.toNat % 32) second = a * 64 + b := by
        rw [extend_of_eq _ heldSecond smallSecond]
        omega
      have read := sequence_two leads fits (by omega) rest
      rwa [code] at read
  | @three _ second third a b c held heldSecond heldThird small smallSecond smallThird =>
      obtain ⟨leads, fits⟩ := starts rfl
      have continues := isContinuation_of_eq heldThird smallThird
      have code : extend (extend (lead.toNat % 16) second) third = (a * 64 + b) * 64 + c := by
        rw [extend_of_eq _ heldThird smallThird, extend_of_eq _ heldSecond smallSecond]
        omega
      have read := sequence_three leads fits (by omega) continues (by omega) rest
      rwa [code] at read
  | @four _ second third fourth a b c d held heldSecond heldThird heldFourth small smallSecond
        smallThird smallFourth =>
      obtain ⟨leads, fits⟩ := starts rfl
      have continues := isContinuation_of_eq heldThird smallThird
      have ends := isContinuation_of_eq heldFourth smallFourth
      have code : extend (extend (extend (lead.toNat % 8) second) third) fourth =
          ((a * 64 + b) * 64 + c) * 64 + d := by
        rw [extend_of_eq _ heldFourth smallFourth, extend_of_eq _ heldThird smallThird,
          extend_of_eq _ heldSecond smallSecond]
        omega
      have read := sequence_four leads fits (by omega) continues (by omega) ends rest
      rwa [code] at read

/-- A part of the bytes of a character is waiting for the others. -/
theorem Encoded.sequence_of_part {part more : List UInt8} (form : Encoded c (lead :: (part ++ more)))
    (proper : more ≠ []) : sequence lead part = .incomplete := by
  -- The cases of the form need a variable for the bytes behind the first.
  generalize whole : part ++ more = tail at form
  have starts {second : UInt8} {others : List UInt8} (more : tail = second :: others) :
      Leads lead ∧ isSecond lead second = true := (more ▸ form).leads
  have shorter : part.length < tail.length := by
    have := List.length_pos_of_ne_nil proper
    rw [← whole, List.length_append]
    omega
  cases form with
  | one => simp at shorter
  | two =>
      obtain ⟨leads, -⟩ := starts rfl
      obtain rfl : part = [] := by simpa using shorter
      exact sequence_nil leads
  | three held =>
      obtain ⟨leads, fits⟩ := starts rfl
      match part with
      | [] => exact sequence_nil leads
      | [_] =>
          obtain ⟨rfl, -⟩ := List.cons.inj whole
          exact sequence_second leads fits (by omega)
      | _ :: _ :: _ =>
          simp only [List.length_cons, List.length_nil] at shorter
          omega
  | four held heldSecond heldThird heldFourth small smallSecond smallThird =>
      obtain ⟨leads, fits⟩ := starts rfl
      have continues := isContinuation_of_eq heldThird smallThird
      match part with
      | [] => exact sequence_nil leads
      | [_] =>
          obtain ⟨rfl, -⟩ := List.cons.inj whole
          exact sequence_second leads fits (by omega)
      | [_, _] =>
          simp only [List.cons_append, List.cons.injEq] at whole
          obtain ⟨rfl, rfl, -⟩ := whole
          exact sequence_third leads fits (by omega) continues (by omega)
      | _ :: _ :: _ :: _ =>
          simp only [List.length_cons, List.length_nil] at shorter
          omega

end Characters

/-! ## Reading a text -/

theorem encode_cons (c : Char) (chars : List Char) :
    encode (c :: chars) = String.utf8EncodeChar c ++ encode chars := List.flatMap_cons

/-- The first byte of a text is that of its first character. -/
theorem exists_encoded_of_encode (c : Char) (chars : List Char) :
    ∃ lead tail, Encoded c (lead :: tail) ∧ encode (c :: chars) = lead :: (tail ++ encode chars) := by
  obtain ⟨lead, tail, bytes⟩ := List.exists_cons_of_ne_nil (String.utf8EncodeChar_ne_nil (c := c))
  refine ⟨lead, tail, bytes ▸ encoded_utf8EncodeChar c, ?_⟩
  rw [encode_cons, bytes, List.cons_append]

/-- A text is read whole, whether more bytes may follow or not. -/
theorem decodeFrom_encode (final : Bool) {bound : Nat} (position : Nat) (done chars : List Char)
    (enough : (encode chars).length ≤ bound) :
    decodeFrom final bound position done (encode chars) = .ok ⟨done.reverse ++ chars, []⟩ := by
  induction chars generalizing bound position done with
  | nil => cases bound <;> simp [encode, decodeFrom]
  | cons c rest ih =>
      obtain ⟨lead, tail, form, bytes⟩ := exists_encoded_of_encode c rest
      rw [bytes] at enough ⊢
      simp only [List.length_cons, List.length_append] at enough
      cases bound with
      | zero => omega
      | succ bound =>
          simp only [decodeFrom, form.sequence_append]
          rw [ih _ _ (by omega)]
          simp

/-- Of a text that has come in part, the characters that are complete are read, and the bytes
left over begin the rest of the text. -/
theorem decodeFrom_of_part {bound : Nat} (position : Nat) (done : List Char) {chars : List Char}
    {part more : List UInt8} (whole : part ++ more = encode chars) (enough : part.length ≤ bound) :
    ∃ read left unread, chars = read ++ left ∧ unread ++ more = encode left ∧
      decodeFrom false bound position done part = .ok ⟨done.reverse ++ read, unread⟩ := by
  induction chars generalizing bound position done part with
  | nil =>
      obtain ⟨rfl, rfl⟩ := List.append_eq_nil_iff.mp whole
      refine ⟨[], [], [], rfl, rfl, ?_⟩
      cases bound <;> simp [decodeFrom]
  | cons c rest ih =>
      obtain ⟨lead, tail, form, bytes⟩ := exists_encoded_of_encode c rest
      rw [bytes] at whole
      match part, bound with
      | [], bound =>
          refine ⟨[], c :: rest, [], rfl, by simpa [bytes] using whole, ?_⟩
          cases bound <;> simp [decodeFrom]
      | first :: behind, bound + 1 =>
          simp only [List.cons_append, List.cons.injEq] at whole
          obtain ⟨rfl, whole⟩ := whole
          by_cases complete : tail.length ≤ behind.length
          · obtain ⟨further, rfl⟩ : tail <+: behind :=
              List.prefix_of_prefix_length_le ⟨_, whole.symm⟩ ⟨_, rfl⟩ complete
            rw [List.append_assoc, List.append_cancel_left_eq] at whole
            simp only [List.length_cons, List.length_append] at enough
            have fits : further.length ≤ bound := by omega
            obtain ⟨read, left, unread, rfl, same, decoded⟩ :=
              ih (position + (tail.length + 1)) (c :: done) whole fits
            refine ⟨c :: read, left, unread, rfl, same, ?_⟩
            simp only [decodeFrom, form.sequence_append, decoded]
            simp
          · obtain ⟨missing, rfl⟩ : behind <+: tail :=
              List.prefix_of_prefix_length_le ⟨_, whole⟩ ⟨_, rfl⟩ (by omega)
            have proper : missing ≠ [] := by
              rintro rfl
              simp at complete
            refine ⟨[], c :: rest, first :: behind, rfl, ?_, ?_⟩
            · rw [bytes, ← whole, List.cons_append]
            · simp [decodeFrom, form.sequence_of_part proper]

theorem decode_encode (final : Bool) (chars : List Char) :
    decode final (encode chars) = .ok ⟨chars, []⟩ :=
  decodeFrom_encode final 0 [] chars (Nat.le_refl _)

theorem encode_injective : Function.Injective encode := by
  intro chars others same
  have read := decode_encode true chars
  rw [same, decode_encode true others] at read
  cases read
  rfl

theorem decode_of_part {chars : List Char} {part more : List UInt8}
    (whole : part ++ more = encode chars) :
    ∃ read left unread, chars = read ++ left ∧ unread ++ more = encode left ∧
      decode false part = .ok ⟨read, unread⟩ :=
  decodeFrom_of_part 0 [] whole (Nat.le_refl _)

end InstructionSet.Text.Utf8
