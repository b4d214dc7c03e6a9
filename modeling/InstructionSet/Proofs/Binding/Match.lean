import InstructionSet.Proofs.Binding.Call

/-!
# The match of an arm

An arm matches the last parameter first and numbers only those that it converts. Two facts about the
two lists that a record is destructured into carry the rest: they are put together as the parameters
are (`Dispatch.destructureFrom_append`), and the names that the pattern binds are those of the
parameters that it matches directly and the temporaries (`Dispatch.cell_names_perm`). The inductions
are on the parameters, with the number of temporaries in front of them.
-/

set_option autoImplicit false

namespace InstructionSet

namespace Dispatch

/-- The pattern that matches a parameter without a temporary, if there is one. -/
def direct? (rules : RuleTable) : Parameter → Option Pattern
  | .value name => some (.whole name)
  | .typed name tag => rules.cell? tag name

section Destructure

variable (config : Config) {rules : RuleTable} (used : Nat) {parameter : Parameter}
variable (rest : List Parameter)

theorem direct?_name {pattern : Pattern} (direct : direct? rules parameter = some pattern) :
    pattern.name = parameter.name := by
  cases parameter with
  | value name =>
      cases direct
      rfl
  | typed name tag =>
      obtain ⟨constructor, -, rfl⟩ := Option.map_eq_some_iff.mp direct
      rfl

theorem destructureFrom_direct {pattern : Pattern}
    (direct : direct? rules parameter = some pattern) :
    destructureFrom config rules used (parameter :: rest) =
      ⟨pattern :: (destructureFrom config rules used rest).cells,
        (destructureFrom config rules used rest).deferred⟩ := by
  cases parameter with
  | value name =>
      cases direct
      rfl
  | typed name tag =>
      have found : rules.cell? tag name = some pattern := direct
      simp only [destructureFrom, found]

theorem destructureFrom_deferred (deferred : direct? rules parameter = none) :
    ∃ name tag, parameter = .typed name tag ∧
      destructureFrom config rules used (parameter :: rest) =
        ⟨.whole (temporary used) :: (destructureFrom config rules (used + 1) rest).cells,
          ⟨name, config.accessor tag, temporary used⟩ ::
            (destructureFrom config rules (used + 1) rest).deferred⟩ := by
  cases parameter with
  | value name => cases deferred
  | typed name tag =>
      have missing : rules.cell? tag name = none := deferred
      exact ⟨name, tag, rfl, by simp only [destructureFrom, missing]⟩

end Destructure

/-- The name and the tag of a typed parameter whose tag has no rule. -/
def unruled? (rules : RuleTable) : Parameter → Option (String × String)
  | .value _ => none
  | .typed name tag => if (rules.lookup tag).isNone then some (name, tag) else none

def unruled (rules : RuleTable) (parameters : List Parameter) : List (String × String) :=
  parameters.filterMap (unruled? rules)

/-- The temporaries of an arm, in the order in which they are given out. -/
def temporaries (rules : RuleTable) (record : Record) : List String :=
  numbered "_tmp" 0 (unruled rules record.parameters).length

/-- The conversion for a typed parameter that gets a temporary. -/
def conversion (config : Config) (typed : (String × String) × Nat) : Conversion :=
  ⟨typed.1.1, config.accessor typed.1.2, temporary typed.2⟩

/-- The pattern of a parameter that is declared behind others. -/
def patternBehind (rules : RuleTable) (before : List Parameter) (parameter : Parameter) : Pattern :=
  (direct? rules parameter).getD (.whole (temporary (unruled rules before).length))

section Shape

variable (config : Config) {rules : RuleTable} {parameter : Parameter}

theorem unruled?_of_direct {pattern : Pattern} (direct : direct? rules parameter = some pattern) :
    unruled? rules parameter = none := by
  cases parameter with
  | value name => rfl
  | typed name tag =>
      obtain ⟨constructor, found, -⟩ := Option.map_eq_some_iff.mp direct
      simp [unruled?, found]

theorem unruled_cons_of_direct {pattern : Pattern} (rest : List Parameter)
    (direct : direct? rules parameter = some pattern) :
    unruled rules (parameter :: rest) = unruled rules rest :=
  List.filterMap_cons_none (unruled?_of_direct direct)

/-- A parameter that no pattern matches directly is typed, and has the next temporary. -/
theorem destructureFrom_unruled (used : Nat) (rest : List Parameter)
    (deferred : direct? rules parameter = none) :
    ∃ name tag, parameter = .typed name tag ∧ rules.lookup tag = none ∧
      unruled rules (parameter :: rest) = (name, tag) :: unruled rules rest ∧
      destructureFrom config rules used (parameter :: rest) =
        ⟨.whole (temporary used) :: (destructureFrom config rules (used + 1) rest).cells,
          ⟨name, config.accessor tag, temporary used⟩ ::
            (destructureFrom config rules (used + 1) rest).deferred⟩ := by
  obtain ⟨name, tag, rfl, parts⟩ := destructureFrom_deferred config used rest deferred
  have missing : rules.lookup tag = none := Option.map_eq_none_iff.mp deferred
  exact ⟨name, tag, rfl, missing, List.filterMap_cons_some (by simp [unruled?, missing]), parts⟩

variable (rules)

/-- What parameters in a row are destructured into is put together of what the first of them and
the others are. -/
theorem destructureFrom_append (used : Nat) (first next : List Parameter) :
    destructureFrom config rules used (first ++ next) =
      ⟨(destructureFrom config rules used first).cells ++
          (destructureFrom config rules (used + (unruled rules first).length) next).cells,
        (destructureFrom config rules used first).deferred ++
          (destructureFrom config rules (used + (unruled rules first).length) next).deferred⟩ := by
  induction first generalizing used with
  | nil => rfl
  | cons parameter rest ih =>
      rw [List.cons_append]
      cases direct : direct? rules parameter with
      | some pattern =>
          rw [destructureFrom_direct config used _ direct, destructureFrom_direct config used _ direct,
            ih, unruled_cons_of_direct rest direct]
          rfl
      | none =>
          obtain ⟨name, tag, rfl, -, one, parts⟩ := destructureFrom_unruled config used rest direct
          obtain ⟨_, _, same, -, -, whole⟩ :=
            destructureFrom_unruled config used (rest ++ next) direct
          cases same
          have count : used + 1 + (unruled rules rest).length =
              used + ((unruled rules rest).length + 1) := by omega
          rw [whole, parts, ih, one, List.length_cons, count]
          rfl

/-- The conversions are those of the typed parameters without a rule, with the temporaries in
declared order. -/
theorem deferred_eq (used : Nat) (parameters : List Parameter) :
    (destructureFrom config rules used parameters).deferred =
      ((unruled rules parameters).zipIdx used).map (conversion config) := by
  induction parameters generalizing used with
  | nil => rfl
  | cons parameter rest ih =>
      cases direct : direct? rules parameter with
      | some pattern =>
          rw [destructureFrom_direct config used rest direct, unruled_cons_of_direct rest direct]
          exact ih used
      | none =>
          obtain ⟨name, tag, rfl, -, one, parts⟩ := destructureFrom_unruled config used rest direct
          rw [parts, one, List.zipIdx_cons, List.map_cons, ih]
          rfl

theorem map_name_conversions (typed : List (String × String)) (used : Nat) :
    ((typed.zipIdx used).map (conversion config)).map Conversion.name = typed.map Prod.fst := by
  rw [List.map_map]
  change (typed.zipIdx used).map (Prod.fst ∘ Prod.fst) = _
  rw [← List.map_map, List.zipIdx_map_fst]

/-- The names that the pattern binds: those of the parameters that are matched directly, and the
temporaries. -/
theorem cell_names_perm (used : Nat) (parameters : List Parameter) :
    ((destructureFrom config rules used parameters).cells.map Pattern.name).Perm
      ((parameters.filterMap (direct? rules)).map Pattern.name ++
        numbered "_tmp" used (unruled rules parameters).length) := by
  induction parameters generalizing used with
  | nil => exact .nil
  | cons parameter rest ih =>
      cases direct : direct? rules parameter with
      | some pattern =>
          rw [destructureFrom_direct config used rest direct, unruled_cons_of_direct rest direct,
            List.filterMap_cons_some direct]
          exact (ih used).cons _
      | none =>
          obtain ⟨name, tag, rfl, -, one, parts⟩ := destructureFrom_unruled config used rest direct
          rw [parts, one, List.filterMap_cons_none direct, List.length_cons,
            numbered_succ, List.map_cons]
          exact ((ih (used + 1)).cons _).trans List.perm_middle.symm

theorem length_cells (used : Nat) (parameters : List Parameter) :
    (destructureFrom config rules used parameters).cells.length = parameters.length := by
  induction parameters generalizing used with
  | nil => rfl
  | cons parameter rest ih =>
      cases direct : direct? rules parameter with
      | some pattern =>
          rw [destructureFrom_direct config used rest direct]
          exact congrArg Nat.succ (ih used)
      | none =>
          obtain ⟨name, tag, rfl, parts⟩ := destructureFrom_deferred config used rest direct
          rw [parts]
          exact congrArg Nat.succ (ih (used + 1))

/-- Every parameter has its pattern at its own place. -/
theorem cells_behind (before : List Parameter) (parameter : Parameter) (after : List Parameter) :
    (destructureFrom config rules 0 (before ++ parameter :: after)).cells[before.length]? =
      some (patternBehind rules before parameter) := by
  rw [destructureFrom_append, List.getElem?_append_right (Nat.le_of_eq (length_cells ..)), length_cells,
    Nat.sub_self, Nat.zero_add, patternBehind]
  cases direct : direct? rules parameter with
  | some pattern => simp [destructureFrom_direct config _ after direct]
  | none =>
      obtain ⟨name, tag, rfl, parts⟩ :=
        destructureFrom_deferred config (unruled rules before).length after direct
      simp [parts]

end Shape

theorem unruled_append (rules : RuleTable) (first next : List Parameter) :
    unruled rules (first ++ next) = unruled rules first ++ unruled rules next :=
  List.filterMap_append

theorem unruled_names_sublist (rules : RuleTable) (parameters : List Parameter) :
    ((unruled rules parameters).map Prod.fst).Sublist (parameters.map Parameter.name) := by
  induction parameters with
  | nil => exact List.Sublist.slnil
  | cons parameter rest ih =>
      cases direct : direct? rules parameter with
      | some pattern =>
          rw [unruled_cons_of_direct rest direct]
          exact ih.cons _
      | none =>
          obtain ⟨name, tag, rfl, -, one, -⟩ := destructureFrom_unruled {} 0 rest direct
          rw [one]
          exact ih.cons_cons _

theorem direct_names_sublist (rules : RuleTable) (parameters : List Parameter) :
    ((parameters.filterMap (direct? rules)).map Pattern.name).Sublist
      (parameters.map Parameter.name) := by
  induction parameters with
  | nil => exact List.Sublist.slnil
  | cons parameter rest ih =>
      cases direct : direct? rules parameter with
      | some pattern =>
          rw [List.filterMap_cons_some direct, List.map_cons, direct?_name direct]
          exact ih.cons_cons _
      | none =>
          rw [List.filterMap_cons_none direct]
          exact ih.cons _

/-- The pattern binds different names unless a parameter that it matches directly is named like one
of its temporaries. -/
theorem cell_names_nodup_iff (config : Config) (rules : RuleTable) (used : Nat)
    {parameters : List Parameter} (distinct : (parameters.map Parameter.name).Nodup) :
    ((destructureFrom config rules used parameters).cells.map Pattern.name).Nodup ↔
      ∀ name ∈ (parameters.filterMap (direct? rules)).map Pattern.name,
        name ∉ numbered "_tmp" used (unruled rules parameters).length := by
  rw [(cell_names_perm config rules used parameters).nodup_iff, List.nodup_append']
  constructor
  · rintro ⟨-, -, apart⟩ name direct temporary
    exact apart direct temporary
  · intro apart
    exact ⟨distinct.sublist (direct_names_sublist rules parameters), numbered_nodup _ _ _,
      fun name direct temporary => apart name direct temporary⟩

theorem mem_of_mem_unruled {rules : RuleTable} {parameters : List Parameter} {name tag : String}
    (member : (name, tag) ∈ unruled rules parameters) : .typed name tag ∈ parameters := by
  obtain ⟨parameter, declared, missing⟩ := List.mem_filterMap.mp member
  cases parameter with
  | value _ => cases missing
  | typed _ _ =>
      obtain ⟨-, same⟩ := Option.ite_none_right_eq_some.mp missing
      cases same
      exact declared

section Match

variable {Value : Type} {machine : Machine Value} {config : Config} {rules : RuleTable}
variable {record : Record} {outer : Scope Value} {cells : List Value}
variable {below : Value} (stacked : outer config.stack = some (machine.pushAll below cells))

include stacked

/-- The scope behind the match has what the pattern captures, and the stack below the cells. -/
theorem matched?_eq {captured : List (String × Value)}
    (captures : machine.Captures (destructure config rules record).cells cells captured) :
    matched? machine config rules record outer =
      some (outer.capture (captured.reverse ++ [(config.stack, below)])) := by
  unfold matched?
  cases patterns : (destructure config rules record).cells with
  | nil =>
      rw [patterns] at captures
      cases captures
      have settled : outer.capture [(config.stack, below)] = outer :=
        Function.update_eq_iff.mpr ⟨stacked.symm, fun _ _ => rfl⟩
      simp [settled]
  | cons pattern rest =>
      rw [patterns] at captures
      simp only [List.isEmpty_cons, Bool.false_eq_true, if_false, stacked, Option.bind_some,
        captures.popAll?_reverse, Option.map_some]

end Match

end Dispatch

end InstructionSet
