import Mathlib.Data.List.Nodup
import Mathlib.Logic.Function.Basic
import InstructionSet.Syntax

/-!
# Evaluation of bindings and patterns

What the patterns and bindings of generated code do to a scope. The values are those
of any machine on which functions are applied, constructors taken apart and stacks
pushed and popped. A later binding hides an earlier one of its name, so bindings that
read none of the names they bind may stand in any order (`Scope.bind_of_mem`).
-/

set_option autoImplicit false

namespace InstructionSet

/-- The values that generated code works on, as far as it takes them apart. Applying a
function may give no value. -/
structure Machine (Value : Type) where
  apply : Value → Value → Option Value
  construct : String → Value → Value
  argument? : String → Value → Option Value
  push : Value → Value → Value
  pop? : Value → Option (Value × Value)
  argument?_construct (constructor : String) (argument : Value) :
    argument? constructor (construct constructor argument) = some argument
  pop?_push (cell stack : Value) : pop? (push cell stack) = some (cell, stack)

abbrev Scope (Value : Type) := String → Option Value

variable {Value : Type}

namespace Expression

def names : Expression → List String
  | .identifier name => [name]
  | .apply function argument => function.names ++ argument.names

def value? (machine : Machine Value) (scope : Scope Value) : Expression → Option Value
  | .identifier name => scope name
  | .apply function argument =>
      (function.value? machine scope).bind fun function =>
        (argument.value? machine scope).bind (machine.apply function)

/-- Only the names that an expression reads matter to its value. -/
theorem value?_congr (machine : Machine Value) {scope other : Scope Value}
    {expression : Expression} (same : ∀ name ∈ expression.names, scope name = other name) :
    expression.value? machine scope = expression.value? machine other := by
  induction expression with
  | identifier name => exact same name List.mem_cons_self
  | apply function argument functionIH argumentIH =>
      have functionSame := functionIH fun name member =>
        same name (List.mem_append_left _ member)
      have argumentSame := argumentIH fun name member =>
        same name (List.mem_append_right _ member)
      simp only [value?, functionSame, argumentSame]

end Expression

namespace Scope

/-- The scope behind bindings, each of which sees those before it. -/
def bind (machine : Machine Value) (scope : Scope Value) (bindings : List Binding) :
    Scope Value :=
  bindings.foldl
    (fun scope binding =>
      Function.update scope binding.name (binding.value.value? machine scope)) scope

def capture (scope : Scope Value) (captured : List (String × Value)) : Scope Value :=
  captured.foldl (fun scope bound => Function.update scope bound.1 (some bound.2)) scope

section Bind

variable (machine : Machine Value) (scope : Scope Value)

theorem bind_append (first second : List Binding) :
    scope.bind machine (first ++ second) = (scope.bind machine first).bind machine second :=
  List.foldl_append

theorem bind_of_not_mem {bindings : List Binding} {name : String}
    (absent : name ∉ bindings.map Binding.name) : scope.bind machine bindings name = scope name := by
  induction bindings generalizing scope with
  | nil => rfl
  | cons binding bindings ih =>
      rw [List.map_cons, List.mem_cons, not_or] at absent
      change Scope.bind machine (Function.update scope binding.name _) bindings name = _
      rw [ih _ absent.2, Function.update_of_ne absent.1]

/-- Bindings of different names that read none of these names: each has the value that it
has in front of all of them. -/
theorem bind_of_mem {bindings : List Binding} (distinct : (bindings.map Binding.name).Nodup)
    (independent : ∀ binding ∈ bindings, ∀ name ∈ binding.value.names,
      name ∉ bindings.map Binding.name)
    {binding : Binding} (member : binding ∈ bindings) :
    scope.bind machine bindings binding.name = binding.value.value? machine scope := by
  induction bindings generalizing scope with
  | nil => simp at member
  | cons first bindings ih =>
      obtain ⟨fresh, distinct⟩ := List.nodup_cons.mp distinct
      change Scope.bind machine (Function.update scope first.name _) bindings binding.name = _
      rcases List.mem_cons.mp member with rfl | later
      · rw [bind_of_not_mem _ _ fresh, Function.update_self]
      · have rest : ∀ binding ∈ bindings, ∀ name ∈ binding.value.names,
            name ∉ bindings.map Binding.name := by
          intro other otherMember name read bound
          exact independent other (List.mem_cons_of_mem _ otherMember) name read
            (List.mem_cons_of_mem _ bound)
        rw [ih _ distinct rest later]
        apply Expression.value?_congr
        intro name read
        apply Function.update_of_ne
        intro same
        exact independent binding member name read (same ▸ List.mem_cons_self)

/-- A binding whose name is not bound again has the value that it had where it stands, if nothing
in front of it binds what it reads. -/
theorem bind_of_split {before after : List Binding} {binding : Binding}
    (fresh : binding.name ∉ after.map Binding.name)
    (unhidden : ∀ name ∈ binding.value.names, name ∉ before.map Binding.name) :
    scope.bind machine (before ++ binding :: after) binding.name =
      binding.value.value? machine scope := by
  rw [bind_append]
  change Scope.bind machine (Function.update _ binding.name _) after binding.name = _
  rw [bind_of_not_mem _ _ fresh, Function.update_self]
  exact Expression.value?_congr machine fun name read =>
    bind_of_not_mem machine scope (unhidden name read)

end Bind

section Capture

variable (scope : Scope Value)

theorem capture_of_not_mem {captured : List (String × Value)} {name : String}
    (absent : name ∉ captured.map Prod.fst) : scope.capture captured name = scope name := by
  induction captured generalizing scope with
  | nil => rfl
  | cons bound captured ih =>
      rw [List.map_cons, List.mem_cons, not_or] at absent
      change Scope.capture (Function.update scope bound.1 _) captured name = _
      rw [ih _ absent.2, Function.update_of_ne absent.1]

theorem capture_of_mem {captured : List (String × Value)}
    (distinct : (captured.map Prod.fst).Nodup) {name : String} {value : Value}
    (member : (name, value) ∈ captured) : scope.capture captured name = some value := by
  induction captured generalizing scope with
  | nil => simp at member
  | cons bound captured ih =>
      obtain ⟨fresh, distinct⟩ := List.nodup_cons.mp distinct
      change Scope.capture (Function.update scope bound.1 _) captured name = _
      rcases List.mem_cons.mp member with rfl | later
      · rw [capture_of_not_mem _ fresh, Function.update_self]
      · exact ih _ distinct later

variable {captured : List (String × Value)} {stack : String} (below : Value)

/-- What a pattern captures does not depend on the order if it captures different names. -/
theorem capture_matched_of_mem (distinct : (captured.map Prod.fst).Nodup)
    (fresh : stack ∉ captured.map Prod.fst) {name : String} {value : Value}
    (member : (name, value) ∈ captured) :
    scope.capture (captured.reverse ++ [(stack, below)]) name = some value := by
  apply capture_of_mem
  · rw [List.map_append, List.map_reverse, List.map_singleton]
    refine List.Nodup.append (List.nodup_reverse.mpr distinct) (List.nodup_singleton _) ?_
    rw [List.disjoint_singleton, List.mem_reverse]
    exact fresh
  · exact List.mem_append_left _ (List.mem_reverse.mpr member)

theorem capture_matched_stack :
    scope.capture (captured ++ [(stack, below)]) stack = some below := by
  simp [capture, List.foldl_append]

theorem capture_matched_of_not_mem {name : String} (other : name ≠ stack)
    (absent : name ∉ captured.map Prod.fst) :
    scope.capture (captured.reverse ++ [(stack, below)]) name = scope name := by
  apply capture_of_not_mem
  rw [List.map_append, List.map_reverse, List.mem_append, List.mem_reverse, not_or]
  exact ⟨absent, fun same => other (List.mem_singleton.mp same)⟩

end Capture

end Scope

namespace Machine

variable (machine : Machine Value)

/-- Pushes cells in order, so that the last is on top. -/
def pushAll (stack : Value) (cells : List Value) : Value :=
  cells.foldl (fun stack cell => machine.push cell stack) stack

def capture? : Pattern → Value → Option (String × Value)
  | .whole name, cell => some (name, cell)
  | .constructed constructor name, cell =>
      (machine.argument? constructor cell).map fun argument => (name, argument)

/-- Matches patterns against the cells of a stack from the top: what they capture, and
the stack below. -/
def popAll? : List Pattern → Value → Option (List (String × Value) × Value)
  | [], stack => some ([], stack)
  | pattern :: patterns, stack =>
      (machine.pop? stack).bind fun (cell, below) =>
        (machine.capture? pattern cell).bind fun bound =>
          (popAll? patterns below).map fun (captured, rest) => (bound :: captured, rest)

inductive Captures : List Pattern → List Value → List (String × Value) → Prop where
  | nil : Captures [] [] []
  | cons {pattern : Pattern} {patterns : List Pattern} {cell : Value} {cells : List Value}
      {bound : String × Value} {captured : List (String × Value)} :
      machine.capture? pattern cell = some bound → Captures patterns cells captured →
      Captures (pattern :: patterns) (cell :: cells) (bound :: captured)

variable {machine}

theorem capture?_name {pattern : Pattern} {cell : Value} {bound : String × Value}
    (success : machine.capture? pattern cell = some bound) : bound.1 = pattern.name := by
  cases pattern with
  | whole name =>
      cases success
      rfl
  | constructed constructor name =>
      obtain ⟨argument, -, rfl⟩ := Option.map_eq_some_iff.mp success
      rfl

theorem Captures.exists_mem_of_zip {patterns : List Pattern} {cells : List Value}
    {captured : List (String × Value)} (captures : machine.Captures patterns cells captured)
    {pattern : Pattern} {cell : Value} (member : (pattern, cell) ∈ patterns.zip cells) :
    ∃ bound ∈ captured, machine.capture? pattern cell = some bound := by
  induction captures with
  | nil => cases member
  | cons success _ ih =>
      rcases List.mem_cons.mp member with same | later
      · cases same
        exact ⟨_, List.mem_cons_self, success⟩
      · obtain ⟨bound, found, captured⟩ := ih later
        exact ⟨bound, List.mem_cons_of_mem _ found, captured⟩

theorem Captures.names {patterns : List Pattern} {cells : List Value}
    {captured : List (String × Value)} (captures : machine.Captures patterns cells captured) :
    captured.map Prod.fst = patterns.map Pattern.name := by
  induction captures with
  | nil => rfl
  | cons success _ ih => rw [List.map_cons, List.map_cons, capture?_name success, ih]

theorem exists_captures_iff {patterns : List Pattern} {cells : List Value} :
    (∃ captured, machine.Captures patterns cells captured) ↔
      List.Forall₂ (fun pattern cell => (machine.capture? pattern cell).isSome) patterns cells := by
  constructor
  · rintro ⟨captured, captures⟩
    induction captures with
    | nil => exact .nil
    | cons success _ ih => exact .cons (success ▸ rfl) ih
  · intro each
    induction each with
    | nil => exact ⟨[], .nil⟩
    | cons success _ ih =>
        obtain ⟨bound, captured⟩ := Option.isSome_iff_exists.mp success
        obtain ⟨rest, captures⟩ := ih
        exact ⟨bound :: rest, .cons captured captures⟩

theorem popAll?_append (first second : List Pattern) (stack : Value) :
    machine.popAll? (first ++ second) stack =
      (machine.popAll? first stack).bind fun (captured, below) =>
        (machine.popAll? second below).map fun (more, rest) => (captured ++ more, rest) := by
  induction first generalizing stack with
  | nil => simp [popAll?]
  | cons pattern patterns ih =>
      simp only [List.cons_append, popAll?, ih]
      cases machine.pop? stack with
      | none => rfl
      | some popped =>
          simp only [Option.bind_some]
          cases machine.capture? pattern popped.1 with
          | none => rfl
          | some bound =>
              simp only [Option.bind_some]
              cases machine.popAll? patterns popped.2 with
              | none => rfl
              | some result =>
                  simp [Option.map_map, Function.comp_def]

/-- Patterns in reverse take the cells off a stack that were pushed in order. -/
theorem Captures.popAll?_reverse {patterns : List Pattern} {cells : List Value}
    {captured : List (String × Value)} (captures : machine.Captures patterns cells captured)
    (stack : Value) :
    machine.popAll? patterns.reverse (machine.pushAll stack cells) =
      some (captured.reverse, stack) := by
  induction captures generalizing stack with
  | nil => rfl
  | @cons pattern patterns cell cells bound captured success _ ih =>
      have top : machine.popAll? [pattern] (machine.push cell stack) = some ([bound], stack) := by
        simp [popAll?, machine.pop?_push, success]
      change machine.popAll? _ (machine.pushAll (machine.push cell stack) cells) = _
      rw [List.reverse_cons, popAll?_append, ih]
      simp [top]

/-- Nothing else matches than cells of which each matches the pattern in its place. -/
theorem exists_captures_of_popAll? {patterns : List Pattern} {cells : List Value}
    (oneEach : patterns.length = cells.length) {stack : Value} {result : List (String × Value) × Value}
    (matched : machine.popAll? patterns.reverse (machine.pushAll stack cells) = some result) :
    ∃ captured, machine.Captures patterns cells captured := by
  induction patterns generalizing cells stack result with
  | nil =>
      obtain rfl := List.length_eq_zero_iff.mp oneEach.symm
      exact ⟨[], .nil⟩
  | cons pattern patterns ih =>
      cases cells with
      | nil => cases oneEach
      | cons cell cells =>
          change machine.popAll? _ (machine.pushAll (machine.push cell stack) cells) = _ at matched
          rw [List.reverse_cons, popAll?_append] at matched
          obtain ⟨above, matchedAbove, matchedHere⟩ := Option.bind_eq_some_iff.mp matched
          obtain ⟨captured, captures⟩ := ih (Nat.succ.inj oneEach) matchedAbove
          rw [captures.popAll?_reverse, Option.some.injEq] at matchedAbove
          subst matchedAbove
          simp only [popAll?, machine.pop?_push, Option.bind_some] at matchedHere
          cases success : machine.capture? pattern cell with
          | none => simp [success] at matchedHere
          | some bound => exact ⟨bound :: captured, .cons success captures⟩

end Machine

/-! ## Terms -/

/-- Values that only record what was done with them, apart from an evaluator that gives back
the tree it is applied to and selectors that take their constructors off. -/
inductive Term where
  | atom (name : String)
  | evaluator
  | selector (constructor : String)
  | applied (function argument : Term)
  | constructed (constructor : String) (argument : Term)
  | pushed (cell stack : Term)
deriving DecidableEq, Repr

namespace Term

def argument? (constructor : String) : Term → Option Term
  | .constructed found argument => if found = constructor then some argument else none
  | _ => none

def apply : Term → Term → Term
  | .applied .evaluator _, tree => tree
  | .selector constructor, cell =>
      (argument? constructor cell).getD (.applied (.selector constructor) cell)
  | function, argument => .applied function argument

def pop? : Term → Option (Term × Term)
  | .pushed cell stack => some (cell, stack)
  | _ => none

def machine : Machine Term where
  apply function argument := some (function.apply argument)
  construct := .constructed
  argument? := argument?
  push := .pushed
  pop? := pop?
  argument?_construct constructor argument := by simp [argument?]
  pop?_push _ _ := rfl

end Term

end InstructionSet
