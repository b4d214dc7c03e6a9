import Mathlib.Data.List.Nodup
import InstructionSet.Artifact.Dispatch
import InstructionSet.Artifact.Cases

/-!
# Generated names

Names with different numbers are different, and a name that starts otherwise is none
of them.
-/

set_option autoImplicit false

namespace InstructionSet

theorem indexed_injective (stem : String) : Function.Injective (indexed stem) := by
  intro first second same
  have digits : Nat.toDigits 10 first = Nat.toDigits 10 second := by
    have whole : (indexed stem first).toList = (indexed stem second).toList := by rw [same]
    simpa [indexed, Nat.toString_eq_ofList_toDigits] using whole
  rw [← Nat.ofDigitChars_ten_toDigits (n := first), digits, Nat.ofDigitChars_ten_toDigits]

@[simp] theorem length_numbered (stem : String) (first count : Nat) :
    (numbered stem first count).length = count := by
  simp [numbered]

theorem numbered_succ (stem : String) (first count : Nat) :
    numbered stem first (count + 1) = indexed stem first :: numbered stem (first + 1) count := by
  rw [numbered, List.range'_succ, List.map_cons]
  rfl

theorem numbered_nodup (stem : String) (first count : Nat) : (numbered stem first count).Nodup :=
  List.Nodup.map (indexed_injective stem) List.nodup_range'

theorem ne_indexed {name stem : String} {first : Char} (starts : stem.toList.head? = some first)
    (other : name.toList.head? ≠ some first) (index : Nat) : name ≠ indexed stem index := by
  rintro rfl
  apply other
  rw [indexed, String.toList_append, List.head?_append, starts]
  rfl

theorem Dispatch.ne_temporary {name : String} (plain : name.toList.head? ≠ some '_') (index : Nat) :
    name ≠ temporary index :=
  ne_indexed (by decide) plain index

namespace Interpreter

theorem ne_subterm {name : String} (plain : name.toList.head? ≠ some '_') (index : Nat) :
    name ≠ subterm index :=
  ne_indexed (by decide) plain index

@[simp] theorem length_subterms (arity : Nat) : (subterms arity).length = arity := by
  simp [subterms]

theorem subterms_nodup (arity : Nat) : (subterms arity).Nodup :=
  List.nodup_range.map (indexed_injective "_ast")

end Interpreter

end InstructionSet
