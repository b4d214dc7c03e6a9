import InstructionSet.Proofs.Record.Schema
import InstructionSet.Proofs.Yaml.Parsing

/-!
# Rewording of records

A mapping may be reworded in three ways: its entries may be put into another order, entries with
null may come and go, and so may entries with keys that are not known. None of them changes what
the mapping says under a known key, and so none changes the record.

A document whose root is on a loop can meet its own root again, reworded as well. No parameter and
no field is ever the root, since the root has an entry with a list.
-/

set_option autoImplicit false

namespace InstructionSet

namespace Yaml.Document

/-- A document with other entries in the mapping at its root. -/
def withEntries (document : Document) (entries : List (Value × Value)) : Document :=
  match document.root with
  | .loop label => { document with loops := (label, .mapping entries) :: document.loops }
  | _ => { document with root := .mapping entries }

theorem resolve_root_withEntries (document : Document) (entries : List (Value × Value)) :
    (document.withEntries entries).resolve (document.withEntries entries).root =
      .mapping entries := by
  unfold withEntries
  cases document.root <;> simp [resolve]

end Yaml.Document

namespace Record

open Yaml (Value Document KeysDiffer)

/-- Mappings that differ in the order of their entries, in entries with null and in entries with
keys that are not known. -/
inductive Reworded : List (Value × Value) → List (Value × Value) → Prop where
  | permuted {entries others : List (Value × Value)} :
      entries.Perm others → Reworded entries others
  | null (key : Value) (entries : List (Value × Value)) :
      Reworded ((key, .null) :: entries) entries
  | unknown {key : Value} (value : Value) (entries : List (Value × Value)) :
      isKnownKey key = false → Reworded ((key, value) :: entries) entries
  | symm {entries others : List (Value × Value)} :
      Reworded entries others → Reworded others entries
  | trans {entries others further : List (Value × Value)} :
      Reworded entries others → Reworded others further → Reworded entries further

theorem Reworded.says_iff {entries others : List (Value × Value)}
    (reworded : Reworded entries others) {key : String}
    (known : isKnownKey (.text key) = true) (value : Value) :
    Says entries key value ↔ Says others key value := by
  induction reworded with
  | permuted same => simp [Says, same.mem_iff]
  | null key entries =>
      simp only [Says, List.mem_cons, Prod.mk.injEq]
      constructor
      · rintro ⟨⟨-, null⟩ | member, said⟩
        · exact absurd null said
        · exact ⟨member, said⟩
      · rintro ⟨member, said⟩
        exact ⟨.inr member, said⟩
  | @unknown unknownKey value entries unknown =>
      have other : Value.text key ≠ unknownKey := fun same => by
        rw [same, unknown] at known
        cases known
      simp [Says, other]
  | symm _ ih => exact ih.symm
  | trans _ _ first second => exact first.trans second

theorem isKnownKey_text (key : TextKey) : isKnownKey (.text key.spelling) = true := by
  cases key <;> rfl

theorem isKnownKey_flag (flag : Flag) : isKnownKey (.text flag.spelling) = true := by
  cases flag <;> rfl

section Alike

variable {document other : Document} {entries others : List (Value × Value)}

/-- Documents in which every value stands for the same, except that the entries of one mapping
are reworded. -/
def Alike (document other : Document) (entries others : List (Value × Value)) : Prop :=
  ∀ value, document.resolve value = other.resolve value ∨
    document.resolve value = .mapping entries ∧ other.resolve value = .mapping others

theorem alike_withEntries (mapping : document.resolve document.root = .mapping entries)
    (others : List (Value × Value)) :
    Alike document (document.withEntries others) entries others := by
  intro value
  unfold Document.withEntries
  cases root : document.root with
  | loop label =>
      cases value with
      | loop other =>
          by_cases same : other = label
          · subst same
            exact .inr ⟨root ▸ mapping, by simp [Document.resolve]⟩
          · have apart : (other == label) = false := by simpa using same
            exact .inl (by simp [Document.resolve, List.lookup_cons, apart])
      | _ => exact .inl rfl
  | _ => exact .inl (by cases value <;> rfl)

theorem Alike.symm (alike : Alike document other entries others) :
    Alike other document others entries := fun value =>
  (alike value).imp Eq.symm And.symm

theorem Alike.list (alike : Alike document other entries others) {value : Value}
    {items : List Value} (listed : document.resolve value = .list items) :
    other.resolve value = .list items := by
  rcases alike value with same | ⟨mapping, -⟩
  · exact same ▸ listed
  · rw [listed] at mapping
    cases mapping

/-- The reworded mapping says something with a list, so it is no mapping of one text. -/
theorem Alike.single (alike : Alike document other entries others) {key : String}
    {value item : Value} {items : List Value} (said : Says entries key value)
    (listed : document.resolve value = .list items) {name text : String}
    (single : document.resolve item = .mapping [(.text name, .text text)]) :
    other.resolve item = .mapping [(.text name, .text text)] := by
  rcases alike item with same | ⟨mapping, -⟩
  · exact same ▸ single
  · rw [single] at mapping
    cases mapping
    obtain ⟨-, rfl⟩ := Prod.mk.inj (List.mem_singleton.mp said.1)
    cases listed

theorem conforms_of_alike (alike : Alike document other entries others)
    (reworded : Reworded entries others) {span : Span} {record : Record}
    (conforms : Conforms document span entries record) : Conforms other span others record := by
  have sameSaid (key : String) (known : isKnownKey (.text key) = true) (value : Value) :
      Says others key value ↔ Says entries key value := (reworded.says_iff known value).symm
  obtain ⟨texts, flags, parameters, fields, same⟩ := conforms
  refine ⟨fun key => ?_, fun flag => ?_, ?_, ?_, same⟩
  · simpa only [sameSaid _ (isKnownKey_text key)] using texts key
  · simpa only [sameSaid _ (isKnownKey_flag flag)] using flags flag
  · simp only [sameSaid "params" rfl]
    refine ⟨fun value said => ?_, parameters.2⟩
    obtain ⟨items, listed, decoded⟩ := parameters.1 value said
    refine ⟨items, alike.list listed, decoded.imp ?_⟩
    rintro item parameter (name | single)
    · exact .value name
    · exact .typed (alike.single said listed single)
  · simp only [sameSaid "fields" rfl]
    refine ⟨fun value said => ?_, fields.2⟩
    obtain ⟨items, fields, listed, written, same, decoded⟩ := fields.1 value said
    exact ⟨items, fields, alike.list listed, written, same,
      decoded.imp fun item field => alike.single said listed⟩

end Alike

theorem decodes_withEntries_iff {document : Document} {span : Span}
    {entries others : List (Value × Value)}
    (mapping : document.resolve document.root = .mapping entries) (differ : KeysDiffer entries)
    (reworded : Reworded entries others) (differToo : KeysDiffer others)
    (notable : Notable entries) (notableToo : Notable others) (record : Record) :
    Decodes (document.withEntries others) span record ↔ Decodes document span record := by
  have alike := alike_withEntries mapping others
  rw [decodes_iff differToo (document.resolve_root_withEntries others),
    decodes_iff differ mapping, and_iff_left notable, and_iff_left notableToo]
  exact ⟨conforms_of_alike alike.symm reworded.symm, conforms_of_alike alike reworded⟩

theorem notable_of_not_overlong {document : Document} {entries : List (Value × Value)}
    (mapping : document.resolve document.root = .mapping entries)
    (short : ¬ document.Overlong document.root) : Notable entries := by
  intro entry member _ overlong
  refine short (Document.overlong_of_resolve ?_)
  rw [mapping]
  exact .key member (overlong.mono (by simp))

/-- Every document that is read has keys that differ. Such a document is decoded into a record
exactly when it is a mapping that is that record and whose unknown keys can be noted; whether it is
one for some record is a matter of its schema alone. What is not decoded is refused for a fault of
the record, or for a whole number in the document that is too long to be written. Rewording the
mapping at the root does not change the record. -/
theorem ofDocument_schema (document : Document) (span : Span) :
    (∀ source : Yaml.Source, ∀ placed ∈ (Yaml.readDocuments source).documents,
      placed.document.KeysDiffer) ∧
    (document.KeysDiffer →
      (∀ entries, document.resolve document.root = .mapping entries →
        (∀ record, Decodes document span record ↔
          Conforms document span entries record ∧ Notable entries) ∧
        ((∃ record, Conforms document span entries record) ↔ Admissible document entries) ∧
        (¬ document.Overlong document.root → Notable entries) ∧
        ∀ others, Reworded entries others → Yaml.KeysDiffer others →
          Notable entries → Notable others → ∀ record,
            Decodes (document.withEntries others) span record ↔
              Decodes document span record) ∧
      ((∀ entries, document.resolve document.root ≠ .mapping entries) →
        ∀ record, ¬ Decodes document span record) ∧
      ∀ failure, ofDocument document span = .error failure →
        Refused document span document.root failure) := by
  refine ⟨fun source => (Yaml.readDocuments_sound source).2, fun differ =>
    ⟨fun entries mapping => ?_, not_decodes, fun failure => refused_of_ofDocument⟩⟩
  have differ := differ entries mapping
  exact ⟨decodes_iff differ mapping, (admissible_iff_conforms differ).symm,
    notable_of_not_overlong mapping,
    fun others reworded differToo notable notableToo =>
      decodes_withEntries_iff mapping differ reworded differToo notable notableToo⟩

/-- The parameters of an addition, one of each kind. -/
def addParameters : Value × Value :=
  (.text "params", .list [.text "x", .mapping [(.text "y", .text "int")]])

/-- A null and an entry that is not known may go, and the identifier may come last. -/
theorem ofDocument_schema_add :
    let entries := [(.text "inst", .text "Add"), (.text "name", .null), (.bool true, .list []),
      addParameters]
    let others := [addParameters, (.text "inst", .text "Add")]
    let record : Record := { inst := some "Add", parameters := [.value "x", .typed "y" "int"] }
    Admissible { root := .mapping entries } entries ∧
      Decodes { root := .mapping entries } {} record ∧
      Decodes { root := .mapping others } {} record := by
  intro entries others record
  have differ : Yaml.KeysDiffer entries := by simp [Yaml.KeysDiffer, entries, addParameters]
  have differToo : Yaml.KeysDiffer others := by simp [Yaml.KeysDiffer, others, addParameters]
  have reworded : Reworded entries others :=
    .trans (.permuted (List.perm_append_singleton _ [_, _, _]).symm)
      (.trans (.null _ _) (.unknown _ _ rfl))
  obtain ⟨-, schema⟩ := ofDocument_schema { root := .mapping entries } {}
  obtain ⟨decodes, conforms, notable, rewording⟩ :=
    (schema (by intro found same; cases same; exact differ)).1 entries rfl
  have decoded : Decodes { root := .mapping entries } {} record :=
    ⟨[⟨.debug, .schema, "<input>: ignoring unknown key(s) True"⟩], by cbv⟩
  have conforming := (decodes record).mp decoded
  have notableToo : Notable others := by
    intro entry member unknown
    simp only [others, List.mem_cons, List.not_mem_nil, or_false] at member
    rcases member with rfl | rfl <;> cases unknown
  exact ⟨conforms.mp ⟨record, conforming.1⟩, decoded,
    (rewording others reworded differToo conforming.2 notableToo record).mpr decoded⟩

theorem unwritten_power : Number.wholeText? (10 ^ Number.digitLimit) = none := by
  rw [Number.wholeText?_eq_none_iff, Int.natAbs_pow]
  -- The power is compared for any number of digits and never written out.
  generalize Number.digitLimit = digits
  exact Nat.pow_le_pow_left (by decide) digits

/-- A flag that is a whole number too long to be shown. -/
theorem ofDocument_flag_of_unwritten {number : Int} (unwritten : Number.wholeText? number = none)
    (span : Span) :
    ofDocument { root := .mapping [(.text "is-primitive", .int number)] } span =
      .error unshown := by
  have literal (document : Document) : document.literal? (.int number) = none := by
    rw [Document.literal?, Value.literalWith]
    exact unwritten
  simp [ofDocument, entries?, Document.resolve, ofEntries, decodeText, decodeFlag, lookup?,
    TextKey.spelling, Flag.spelling, refuse, literal]
  rfl

theorem ofDocument_of_unwritten {number : Int} (unwritten : Number.wholeText? number = none) :
    let entries : List (Value × Value) := [(.text "inst", .text "Add"), (.int number, .null)]
    Admissible { root := .mapping entries } entries ∧
      ofDocument { root := .mapping entries } = .error unshown ∧
      ofDocument { root := .mapping [(.text "is-primitive", .int number)] } = .error unshown := by
  intro entries
  have keyText : (Value.int number).keyText? = none := by
    rw [Value.keyText?_eq_none_iff]
    exact .int unwritten
  refine ⟨⟨fun key value said => ?_, fun flag value said => ?_, fun value said => ?_,
    fun value said => ?_⟩, ?_, ?_⟩
  · simp [Says, entries] at said
    exact ⟨_, said.1.2⟩
  · cases flag <;> simp [Says, entries, Flag.spelling] at said
  · simp [Says, entries] at said
  · simp [Says, entries] at said
  · have decoded : ofEntries { root := .mapping entries } {} entries =
        .ok { inst := some "Add" } := rfl
    have unknown : unknownKeys entries = .error unshown := by
      change sortedKeys [.int number] = _
      simp [sortedKeys, keyText]
    change (ofEntries _ _ entries >>= fun record => unknownKeys entries >>= _) = _
    rw [decoded, unknown]
    rfl
  · exact ofDocument_flag_of_unwritten unwritten {}

/-- A whole number of more than 4300 digits as a key that is not known, or where a flag should
be. -/
theorem ofDocument_overlong :
    let long : Value := .int (10 ^ Number.digitLimit)
    let entries : List (Value × Value) := [(.text "inst", .text "Add"), (long, .null)]
    Admissible { root := .mapping entries } entries ∧
      ofDocument { root := .mapping entries } = .error unshown ∧
      ofDocument { root := .mapping [(.text "is-primitive", long)] } = .error unshown :=
  ofDocument_of_unwritten unwritten_power

end Record

end InstructionSet
