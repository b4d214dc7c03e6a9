import Mathlib.Algebra.GroupWithZero.Nat
import InstructionSet.Proofs.Reading.Readers

/-!
# Components of types

A type written behind a constructor is taken apart at the stars outside of brackets. An
arrow closes no bracket, nor does the mark behind the bracket of a row type open or
close one.
-/

set_option autoImplicit false

namespace InstructionSet.Reading

/-- Where a reader of a type stands: the brackets that are open, the character before, and
the number of stars outside of brackets so far. -/
structure Nesting where
  opened : List Char := []
  previous : Char := ' '
  stars : Nat := 0
deriving DecidableEq, Repr

def closedBy? : Char → Option Char
  | ')' => some '('
  | ']' => some '['
  | '}' => some '{'
  | '>' => some '<'
  | _ => none

def opens (previous character : Char) : Bool :=
  character == '(' || character == '[' || character == '{' ||
    (character == '<' && previous != '[')

namespace Nesting

def step (nesting : Nesting) (character : Char) : Nesting where
  opened :=
    if opens nesting.previous character then character :: nesting.opened
    else if character = '>' ∧ nesting.previous = '-' then nesting.opened
    else if closedBy? character = nesting.opened.head? then nesting.opened.tail
    else nesting.opened
  previous := character
  stars := if character = '*' ∧ nesting.opened = [] then nesting.stars + 1 else nesting.stars

def past (nesting : Nesting) (characters : List Char) : Nesting := characters.foldl step nesting

theorem stars_past (opened : List Char) (previous : Char) (stars : Nat) (characters : List Char) :
    (past ⟨opened, previous, stars⟩ characters).stars =
      stars + (past ⟨opened, previous, 0⟩ characters).stars := by
  induction characters generalizing opened previous stars with
  | nil => rfl
  | cons character characters ih =>
      change (past (step _ character) characters).stars =
        stars + (past (step _ character) characters).stars
      simp only [step]
      rw [ih, ih _ _ (if character = '*' ∧ opened = [] then 0 + 1 else 0)]
      split <;> omega

theorem past_append (nesting : Nesting) (first second : List Char) :
    nesting.past (first ++ second) = (nesting.past first).past second :=
  List.foldl_append

end Nesting

def components (type : String) : Nat := (Nesting.past {} type.toList).stars + 1

def isClosed (type : String) : Bool := (Nesting.past {} type.toList).opened.isEmpty

theorem components_append {type : String} (closed : isClosed type = true) (more : String) :
    components (type ++ " * " ++ more) = components type + components more := by
  have front : Nesting.past {} (type.toList ++ " * ".toList) =
      ⟨[], ' ', (Nesting.past {} type.toList).stars + 1⟩ := by
    rw [Nesting.past_append]
    generalize reached : Nesting.past {} type.toList = nesting
    rw [isClosed, reached] at closed
    obtain ⟨opened, previous, stars⟩ := nesting
    obtain rfl : opened = [] := List.isEmpty_iff.mp closed
    simp [Nesting.past, Nesting.step, opens, closedBy?]
  unfold components
  rw [String.toList_append, String.toList_append, Nesting.past_append, front, Nesting.stars_past]
  omega

theorem components_intercalate {types : List String} (written : types ≠ [])
    (closed : ∀ type ∈ types, isClosed type = true) :
    components (" * ".intercalate types) = (types.map components).sum := by
  induction types with
  | nil => exact absurd rfl written
  | cons type types ih =>
      cases types with
      | nil => simp
      | cons other types =>
          have tail := ih (List.cons_ne_nil _ _) fun later member =>
            closed later (List.mem_cons_of_mem _ member)
          rw [String.intercalate_cons_cons, components_append (closed type List.mem_cons_self), tail]
          simp

example : components "int * (int * bool) list" = 2 := by decide

theorem length_le_sum_components (types : List String) :
    types.length ≤ (types.map components).sum := by
  induction types with
  | nil => exact Nat.le_refl 0
  | cons type types ih =>
      rw [List.length_cons, List.map_cons, List.sum_cons, components]
      omega

/-- No type has less than one component, so the sum is the length only if none has more. -/
theorem sum_components_eq_length_iff (types : List String) :
    types.length = (types.map components).sum ↔ ∀ type ∈ types, components type = 1 := by
  induction types with
  | nil => simp
  | cons type types ih =>
      have least := length_le_sum_components types
      rw [List.map_cons, List.sum_cons, List.length_cons, List.forall_mem_cons, ← ih, components]
      omega

/-- The constructor that a declaration declares, with the number of its arguments. -/
def declaredOpcode? (declaration : String) : Option (String × Nat) :=
  match declaration.toList with
  | '|' :: ' ' :: rest =>
      let constructor := String.ofList (rest.takeWhile isNameCharacter)
      match rest.dropWhile isNameCharacter with
      | [] => some (constructor, 0)
      | ' ' :: 'o' :: 'f' :: ' ' :: type => some (constructor, components (String.ofList type))
      | _ => none
  | _ => none

end InstructionSet.Reading
