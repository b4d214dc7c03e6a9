import Mathlib.Data.List.TakeWhile
import InstructionSet.Text.Digit

/-!
# Marks between texts

A text without a mark ends where the mark stands that begins what is behind it, so the whole has
both. Numbers in base ten have no marks but their digits, and as many of these as they need.
-/

set_option autoImplicit false

namespace InstructionSet.Text

section Marks

variable {mark : Char} {front other rest more : List Char}

theorem takeWhile_append_of_mark (lacks : mark ∉ front) (opens : ∀ c ∈ rest.head?, c = mark) :
    (front ++ rest).takeWhile (· != mark) = front := by
  have passed : ∀ c ∈ front, (c != mark) = true := fun c member =>
    bne_iff_ne.mpr (ne_of_mem_of_not_mem member lacks)
  rw [List.takeWhile_append_of_pos passed]
  cases rest with
  | nil => simp
  | cons c rest => simp [opens c rfl]

/-- What is behind either text is nothing, or begins with the mark. -/
theorem append_inj_of_mark (lacks : mark ∉ front) (opens : ∀ c ∈ rest.head?, c = mark)
    (lacksToo : mark ∉ other) (opensToo : ∀ c ∈ more.head?, c = mark)
    (same : front ++ rest = other ++ more) : front = other ∧ rest = more := by
  have fronts : front = other := by
    rw [← takeWhile_append_of_mark lacks opens, same, takeWhile_append_of_mark lacksToo opensToo]
  subst fronts
  exact ⟨rfl, List.append_cancel_left same⟩

theorem split_inj_of_first_mark (lacks : mark ∉ front) (lacksToo : mark ∉ other)
    (same : front ++ mark :: rest = other ++ mark :: more) : front = other ∧ rest = more := by
  obtain ⟨fronts, rests⟩ := append_inj_of_mark lacks (by simp) lacksToo (by simp) same
  exact ⟨fronts, List.tail_eq_of_cons_eq rests⟩

end Marks

theorem string_append_inj_of_mark {mark : Char} {front other rest more : String}
    (lacks : mark ∉ front.toList) (opens : ∀ c ∈ rest.toList.head?, c = mark)
    (lacksToo : mark ∉ other.toList) (opensToo : ∀ c ∈ more.toList.head?, c = mark)
    (same : front ++ rest = other ++ more) : front = other ∧ rest = more := by
  rw [← String.toList_inj, String.toList_append, String.toList_append] at same
  obtain ⟨fronts, rests⟩ := append_inj_of_mark lacks opens lacksToo opensToo same
  exact ⟨String.toList_inj.mp fronts, String.toList_inj.mp rests⟩

/-! ## Numbers in base ten -/

section Numbers

variable {mark : Char}

theorem not_mem_toDigits (noDigit : mark.isDigit = false) (n : Nat) : mark ∉ Nat.toDigits 10 n := by
  intro member
  have digit := Nat.isDigit_of_mem_toDigits (by decide) (by decide) member
  rw [noDigit] at digit
  contradiction

theorem not_mem_paddedDecimal (noDigit : mark.isDigit = false) (width n : Nat) :
    mark ∉ (paddedDecimal width n).toList := by
  simp only [paddedDecimal, String.toList_ofList, List.mem_append, List.mem_replicate]
  rintro (⟨-, rfl⟩ | member)
  · exact absurd noDigit (by decide)
  · exact not_mem_toDigits noDigit n member

/-- The zeros in front add nothing to the number. -/
theorem ofDigitChars_paddedDecimal (width n : Nat) :
    Nat.ofDigitChars 10 (paddedDecimal width n).toList 0 = n := by
  simp [paddedDecimal, Nat.ofDigitChars_append, Nat.ofDigitChars_replicate_zero]

theorem paddedDecimal_injective (width : Nat) : Function.Injective (paddedDecimal width) := by
  intro first second same
  rw [← ofDigitChars_paddedDecimal width first, same, ofDigitChars_paddedDecimal]

theorem toString_of_nonneg {number : Int} (counted : 0 ≤ number) :
    toString number = paddedDecimal 0 number.toNat := by
  rw [Int.toString_eq_repr, Int.repr_eq_if, if_pos counted, Nat.repr_eq_ofList_toDigits,
    paddedDecimal, Nat.zero_sub, List.replicate_zero, List.nil_append]

theorem not_mem_toString (noDigit : mark.isDigit = false) {number : Int} (counted : 0 ≤ number) :
    mark ∉ (toString number).toList := by
  rw [toString_of_nonneg counted]
  exact not_mem_paddedDecimal noDigit 0 number.toNat

theorem eq_of_toString_eq {first second : Int} (counted : 0 ≤ first) (countedToo : 0 ≤ second)
    (same : toString first = toString second) : first = second := by
  rw [toString_of_nonneg counted, toString_of_nonneg countedToo] at same
  have sizes : first.toNat = second.toNat := paddedDecimal_injective 0 same
  omega

end Numbers

end InstructionSet.Text
