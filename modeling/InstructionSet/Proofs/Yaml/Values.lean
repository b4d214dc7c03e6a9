import InstructionSet.Yaml.Value

/-!
# Values and their literals

A value has no literal exactly because of the whole numbers in it: one of them has more digits than
a whole number may be written with. `Overlong` says so without writing anything. Loops are opened
by `opened`; a key has no loops in it, and a document opens all of its own.

The entries of a mapping are put in one by one, and no two of them get the same text as their key.
-/

set_option autoImplicit false

namespace InstructionSet

theorem Number.wholeText?_eq_none_iff (number : Int) :
    wholeText? number = none ↔ Nat.pow 10 digitLimit ≤ number.natAbs := by
  simp [wholeText?]

@[simp] theorem bind_some_eq_none_iff {α β : Type} (value? : Option α) (next : α → β) :
    (value?.bind fun value => some (next value)) = none ↔ value? = none := by
  cases value? <;> simp

namespace Yaml

namespace Value

/-- A whole number that is too long to be written occurs in a value. -/
inductive Overlong (opened : Nat → Option Value) : Value → Prop where
  | int {number : Int} : Number.wholeText? number = none → Overlong opened (.int number)
  | item {items : List Value} {value : Value} :
      value ∈ items → Overlong opened value → Overlong opened (.list items)
  | member {members : List Value} {value : Value} :
      value ∈ members → Overlong opened value → Overlong opened (.set members)
  | first {first second : Value} : Overlong opened first → Overlong opened (.pair first second)
  | second {first second : Value} : Overlong opened second → Overlong opened (.pair first second)
  | key {entries : List (Value × Value)} {entry : Value × Value} :
      entry ∈ entries → Overlong opened entry.1 → Overlong opened (.mapping entries)
  | value {entries : List (Value × Value)} {entry : Value × Value} :
      entry ∈ entries → Overlong opened entry.2 → Overlong opened (.mapping entries)
  | loop {label : Nat} {value : Value} :
      opened label = some value → Overlong opened value → Overlong opened (.loop label)

section Literals

variable {loopLiteral : Nat → Option String}

theorem literalsWith_eq_none_iff (values : List Value) :
    literalsWith loopLiteral values = none ↔
      ∃ value ∈ values, value.literalWith loopLiteral = none := by
  induction values with
  | nil => simp [literalsWith]
  | cons value rest ih =>
      cases written : value.literalWith loopLiteral with
      | none => simp [literalsWith, written]
      | some literal => simp [literalsWith, written, ← ih, -Option.bind_eq_none_iff]

theorem entryLiteralsWith_eq_none_iff (entries : List (Value × Value)) :
    entryLiteralsWith loopLiteral entries = none ↔
      ∃ entry ∈ entries, entry.1.literalWith loopLiteral = none ∨
        entry.2.literalWith loopLiteral = none := by
  induction entries with
  | nil => simp [entryLiteralsWith]
  | cons entry rest ih =>
      obtain ⟨key, value⟩ := entry
      cases writtenKey : key.literalWith loopLiteral with
      | none => simp [entryLiteralsWith, writtenKey]
      | some keyLiteral =>
          cases written : value.literalWith loopLiteral with
          | none => simp [entryLiteralsWith, writtenKey, written]
          | some literal =>
              simp [entryLiteralsWith, writtenKey, written, ← ih, -Option.bind_eq_none_iff]

theorem literalWith_list_eq_none_iff (items : List Value) :
    (Value.list items).literalWith loopLiteral = none ↔
      ∃ value ∈ items, value.literalWith loopLiteral = none := by
  rw [← literalsWith_eq_none_iff]
  simp [literalWith, -Option.bind_eq_none_iff]

theorem literalWith_set_eq_none_iff (members : List Value) :
    (Value.set members).literalWith loopLiteral = none ↔
      ∃ value ∈ members, value.literalWith loopLiteral = none := by
  cases members with
  | nil => simp [literalWith]
  | cons first rest =>
      rw [← literalsWith_eq_none_iff]
      simp [literalWith, -Option.bind_eq_none_iff]

theorem literalWith_mapping_eq_none_iff (entries : List (Value × Value)) :
    (Value.mapping entries).literalWith loopLiteral = none ↔
      ∃ entry ∈ entries, entry.1.literalWith loopLiteral = none ∨
        entry.2.literalWith loopLiteral = none := by
  rw [← entryLiteralsWith_eq_none_iff]
  simp [literalWith, -Option.bind_eq_none_iff]

theorem literalWith_pair_eq_none_iff (first second : Value) :
    (Value.pair first second).literalWith loopLiteral = none ↔
      first.literalWith loopLiteral = none ∨ second.literalWith loopLiteral = none := by
  cases writtenFirst : first.literalWith loopLiteral with
  | none => simp [literalWith, writtenFirst]
  | some firstLiteral => simp [literalWith, writtenFirst, -Option.bind_eq_none_iff]

variable {opened : Nat → Option Value}

theorem overlong_of_literalWith
    (loops : ∀ label, loopLiteral label = none → Overlong opened (.loop label)) (value : Value)
    (unwritten : value.literalWith loopLiteral = none) : value.Overlong opened := by
  cases value with
  | int number =>
      rw [literalWith] at unwritten
      exact .int unwritten
  | list items =>
      obtain ⟨item, member, inner⟩ := (literalWith_list_eq_none_iff items).mp unwritten
      exact .item member (overlong_of_literalWith loops item inner)
  | set members =>
      obtain ⟨value, member, inner⟩ := (literalWith_set_eq_none_iff members).mp unwritten
      exact .member member (overlong_of_literalWith loops value inner)
  | pair first second =>
      rcases (literalWith_pair_eq_none_iff first second).mp unwritten with inner | inner
      · exact .first (overlong_of_literalWith loops first inner)
      · exact .second (overlong_of_literalWith loops second inner)
  | mapping entries =>
      obtain ⟨⟨key, value⟩, member, inner⟩ :=
        (literalWith_mapping_eq_none_iff entries).mp unwritten
      rcases inner with inner | inner
      · exact .key member (overlong_of_literalWith loops key inner)
      · exact .value member (overlong_of_literalWith loops value inner)
  | loop label =>
      rw [literalWith] at unwritten
      exact loops label unwritten
  | null | bool | float | undefined | text | bytes | date | moment =>
      simp [literalWith] at unwritten
termination_by sizeOf value
decreasing_by
  all_goals subst_vars; simp_wf
  all_goals first
    | omega
    | have smaller := List.sizeOf_lt_of_mem member
      omega
    | have smaller := List.sizeOf_lt_of_mem member
      simp only [Prod.mk.sizeOf_spec] at smaller
      omega

theorem literalWith_of_overlong {value : Value} (overlong : value.Overlong fun _ => none) :
    value.literalWith loopLiteral = none := by
  induction overlong with
  | int long =>
      rw [literalWith]
      exact long
  | item member _ ih => exact (literalWith_list_eq_none_iff _).mpr ⟨_, member, ih⟩
  | member member _ ih => exact (literalWith_set_eq_none_iff _).mpr ⟨_, member, ih⟩
  | first _ ih => exact (literalWith_pair_eq_none_iff _ _).mpr (.inl ih)
  | second _ ih => exact (literalWith_pair_eq_none_iff _ _).mpr (.inr ih)
  | key member _ ih => exact (literalWith_mapping_eq_none_iff _).mpr ⟨_, member, .inl ih⟩
  | value member _ ih => exact (literalWith_mapping_eq_none_iff _).mpr ⟨_, member, .inr ih⟩
  | loop found => cases found -- Nothing is opened here.

end Literals

theorem Overlong.mono {opened wider : Nat → Option Value} {value : Value}
    (wide : ∀ label value, opened label = some value → wider label = some value)
    (overlong : value.Overlong opened) : value.Overlong wider := by
  induction overlong with
  | int long => exact .int long
  | item member _ ih => exact .item member ih
  | member member _ ih => exact .member member ih
  | first _ ih => exact .first ih
  | second _ ih => exact .second ih
  | key member _ ih => exact .key member ih
  | value member _ ih => exact .value member ih
  | loop found _ ih => exact .loop (wide _ _ found) ih

/-- A key has no text in a message exactly when a whole number in it is too long. -/
theorem keyText?_eq_none_iff (key : Value) :
    key.keyText? = none ↔ key.Overlong fun _ => none := by
  have literal : key.literalWith (fun _ => some "") = none ↔ key.Overlong fun _ => none :=
    ⟨overlong_of_literalWith (by simp) key, literalWith_of_overlong⟩
  -- Texts, dates and moments are written plainly, all other keys as their literals.
  cases key with
  | text | date | moment =>
      simp only [keyText?, reduceCtorEq, false_iff]
      nofun
  | _ => exact literal

end Value

namespace Document

variable (document : Document)

/-- A whole number that is too long to be written occurs in a value of a document. -/
def Overlong (value : Value) : Prop :=
  value.Overlong fun label => some (document.resolve (.loop label))

variable {document}

theorem overlong_of_resolve {value : Value}
    (overlong : document.Overlong (document.resolve value)) : document.Overlong value := by
  cases value with
  | loop label => exact .loop rfl overlong
  | _ => exact overlong

theorem overlong_of_loopLiteral (bound : Nat) (seen : List Nat) (label : Nat)
    (unwritten : document.loopLiteral bound seen label = none) :
    document.Overlong (.loop label) := by
  induction bound generalizing seen label with
  | zero => cases unwritten
  | succ bound ih =>
      unfold loopLiteral at unwritten
      simp only at unwritten
      split at unwritten
      · cases unwritten
      · exact .loop rfl (Value.overlong_of_literalWith (ih (label :: seen)) _ unwritten)

/-- Whatever has no literal holds a whole number that is too long. -/
theorem overlong_of_literal? {value : Value} (unwritten : document.literal? value = none) :
    document.Overlong value :=
  Value.overlong_of_literalWith (overlong_of_loopLiteral _ []) value unwritten

theorem overlong_of_keyText? {key : Value} (unwritten : key.keyText? = none) :
    document.Overlong key :=
  ((Value.keyText?_eq_none_iff key).mp unwritten).mono (by simp)

end Document

/-! ## Keys -/

/-- No text is the key of two entries. -/
def KeysDiffer {α : Type} (entries : List (Value × α)) : Prop :=
  entries.Pairwise fun left right => ∀ text, left.1 = .text text → right.1 ≠ .text text

@[grind .] theorem KeysDiffer.nil {α : Type} : KeysDiffer ([] : List (Value × α)) :=
  List.Pairwise.nil

theorem KeysDiffer.map {α β : Type} {entries : List (Value × α)} (differ : KeysDiffer entries)
    (change : α → β) : KeysDiffer (entries.map fun entry => (entry.1, change entry.2)) :=
  List.pairwise_map.mpr differ

theorem KeysDiffer.perm {α : Type} {entries others : List (Value × α)}
    (differ : KeysDiffer entries) (perm : entries.Perm others) : KeysDiffer others :=
  perm.pairwise differ fun apart text right left => apart text left right

theorem Value.key_of_mem_insertEntry {α : Type} {key : Value} {value : α}
    {entries : List (Value × α)} {entry : Value × α}
    (member : entry ∈ insertEntry key value entries) :
    (∃ other ∈ entries, other.1 = entry.1) ∨ entry.1 = key := by
  induction entries with
  | nil => exact .inr (by rw [List.mem_singleton.mp member])
  | cons first rest ih =>
    unfold insertEntry at member
    split at member
    · rcases List.mem_cons.mp member with rfl | later
      · exact .inl ⟨first, List.mem_cons_self, rfl⟩
      · exact .inl ⟨entry, List.mem_cons_of_mem _ later, rfl⟩
    · rcases List.mem_cons.mp member with rfl | later
      · exact .inl ⟨first, List.mem_cons_self, rfl⟩
      · exact (ih later).imp_left fun ⟨other, found, same⟩ =>
          ⟨other, List.mem_cons_of_mem _ found, same⟩

theorem KeysDiffer.insertEntry {α : Type} {entries : List (Value × α)}
    (differ : KeysDiffer entries) (key : Value) (value : α) :
    KeysDiffer (Value.insertEntry key value entries) := by
  induction entries with
  | nil => exact List.pairwise_singleton _ _
  | cons first rest ih =>
    obtain ⟨apart, differ⟩ := List.pairwise_cons.mp differ
    unfold Value.insertEntry
    split
    · exact List.pairwise_cons.mpr ⟨apart, differ⟩
    · next other =>
      refine List.pairwise_cons.mpr ⟨fun entry member text left right => ?_, ih differ⟩
      rcases Value.key_of_mem_insertEntry member with ⟨old, found, same⟩ | rfl
      · exact apart old found text left (same.trans right)
      · simp only at left right
        simp [left, right, Value.sameKey, Value.wholeNumber?] at other
end Yaml

end InstructionSet
