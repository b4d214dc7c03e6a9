import InstructionSet.Proofs.Text.Boundaries
import InstructionSet.Proofs.Text.Utf8
import InstructionSet.Text.Blocks

/-!
# Blocks of an encoded text

A file that holds a text without carriage returns is read to the end, however its blocks
cut the bytes of a character. Its lines are those of the text.
-/

set_option autoImplicit false

namespace InstructionSet.Text

namespace BlockReader

variable {reader : BlockReader} {rest : List Char}

/-- What an open file still has to hand out: the bytes left over from the last block and those
not read yet are the bytes of a text. -/
structure Ahead (reader : BlockReader) (rest : List Char) : Prop where
  noneHeld : reader.heldReturn = false
  bytes : reader.carry ++ reader.bytes = Utf8.encode rest
  noReturn : '\r' ∉ rest

theorem nextSize_zero (reader : BlockReader) : reader.nextSize 0 = blockSize := by
  simp [nextSize, blockSize]

theorem splitHeldReturn_of_not_mem {chars : List Char} (noReturn : '\r' ∉ chars) :
    splitHeldReturn chars = (chars, false) := by
  unfold splitHeldReturn
  split
  · rename_i front reversed
    exact absurd (List.mem_reverse.mp (reversed ▸ List.mem_cons_self)) noReturn
  · rfl

/-- A block takes some of the text and leaves the rest ahead. -/
theorem Ahead.readBlock (ahead : Ahead reader rest) (further : reader.bytes ≠ []) :
    ∃ read left next, rest = read ++ left ∧ reader.readBlock 0 = .ok (next, true) ∧
      next.ready = reader.ready ++ read ∧ next.bytes.length < reader.bytes.length ∧
      Ahead next left := by
  obtain ⟨noneHeld, bytes, noReturn⟩ := ahead
  have whole : (reader.carry ++ reader.bytes.take blockSize) ++ reader.bytes.drop blockSize =
      Utf8.encode rest := by
    rw [List.append_assoc, List.take_append_drop, bytes]
  obtain ⟨read, left, unread, rfl, remaining, decoded⟩ := Utf8.decode_of_part whole
  simp only [List.mem_append, not_or] at noReturn
  obtain ⟨noReturn, noReturnLeft⟩ := noReturn
  have more : (reader.bytes.take blockSize).isEmpty = false := by simp [blockSize, further]
  have step : reader.readBlock 0 = .ok
      ({ bytes := reader.bytes.drop blockSize, carry := unread, heldReturn := false,
         ready := reader.ready ++ read, lastBytes := (reader.bytes.take blockSize).length,
         lastChars := read.length }, true) := by
    simp [BlockReader.readBlock, bind, Except.bind, pure, Except.pure, nextSize_zero, more, decoded,
      noneHeld, splitHeldReturn_of_not_mem noReturn, normalizeNewlines_of_not_mem noReturn]
  have positive : 0 < reader.bytes.length := List.length_pos_of_ne_nil further
  have shorter : (reader.bytes.drop blockSize).length < reader.bytes.length := by
    rw [List.length_drop]
    exact Nat.sub_lt positive (by decide)
  exact ⟨read, left, _, rfl, step, rfl, shorter, ⟨rfl, remaining, noReturnLeft⟩⟩

/-- At the end of the file the text is read. -/
theorem Ahead.readBlock_of_end (ahead : Ahead reader rest) (ended : reader.bytes = []) :
    ∃ next, reader.readBlock 0 = .ok (next, !rest.isEmpty) ∧
      next.ready = reader.ready ++ rest ∧ next.bytes = [] ∧ Ahead next [] := by
  obtain ⟨noneHeld, bytes, noReturn⟩ := ahead
  rw [ended, List.append_nil] at bytes
  have step : reader.readBlock 0 = .ok
      ({ bytes := [], carry := [], heldReturn := false,
         ready := reader.ready ++ rest, lastBytes := 0, lastChars := rest.length },
        !rest.isEmpty) := by
    simp [BlockReader.readBlock, bind, Except.bind, pure, Except.pure, nextSize_zero, ended, bytes,
      Utf8.decode_encode, noneHeld, normalizeNewlines_of_not_mem noReturn]
  exact ⟨_, step, rfl, rfl, ⟨rfl, rfl, List.not_mem_nil⟩⟩

end BlockReader

open BlockReader (Ahead)

theorem decodedBlocks_of_end {reader : BlockReader} (ahead : Ahead reader [])
    (ended : reader.bytes = []) (bound : Nat) :
    decodedBlocks bound reader = (reader.ready, none) := by
  cases bound with
  | zero => rfl
  | succ bound =>
      obtain ⟨next, step, ready, -⟩ := ahead.readBlock_of_end ended
      simp [decodedBlocks, step, ready]

theorem decodedBlocks_of_ahead {reader : BlockReader} {rest : List Char} {bound : Nat}
    (ahead : Ahead reader rest) (enough : reader.bytes.length < bound) :
    decodedBlocks bound reader = (reader.ready ++ rest, none) := by
  induction bound generalizing reader rest with
  | zero => exact absurd enough (Nat.not_lt_zero _)
  | succ bound ih =>
      by_cases ended : reader.bytes = []
      · -- Another block is tried behind the one that found the end.
        obtain ⟨next, step, ready, endedNext, aheadNext⟩ := ahead.readBlock_of_end ended
        simp only [decodedBlocks, step, decodedBlocks_of_end aheadNext endedNext, ready, ite_self]
      · obtain ⟨read, left, next, rfl, step, ready, shorter, aheadNext⟩ := ahead.readBlock ended
        simp only [decodedBlocks, step, if_true]
        rw [ih aheadNext (by omega), ready, List.append_assoc]

theorem fileLines_encode {chars : List Char} (noReturn : '\r' ∉ chars) :
    fileLines (Utf8.encode chars) = ((feedLines chars).map ofPlain, none) := by
  have ahead : Ahead { bytes := Utf8.encode chars } chars := ⟨rfl, rfl, noReturn⟩
  have blocks := decodedBlocks_of_ahead ahead (Nat.lt_add_of_pos_right (Nat.succ_pos 2))
  simp only [fileLines, BlockReader.bound]
  rw [blocks]
  rfl

end InstructionSet.Text
