import InstructionSet.Proofs.Decoding
import InstructionSet.Proofs.Yaml.Values

/-!
# The schema of records

`Admissible` says which mappings are records, and `Conforms` which record a mapping is; neither
decodes anything. A mapping is decoded exactly when it is admissible, unless a key that is not
known has no text to be noted with.

What a mapping is depends on what it says under its known keys alone, so it may be reworded: its
entries may be put into another order, entries with null may come and go, and so may entries with
keys that are not known.
-/

set_option autoImplicit false

namespace InstructionSet

namespace Record

open Yaml (Value Document KeysDiffer)

/-! ## What a mapping says -/

/-- What a mapping says under a text. Null says nothing. -/
def Says (entries : List (Value × Value)) (key : String) (value : Value) : Prop :=
  (Value.text key, value) ∈ entries ∧ value ≠ .null

theorem says_iff_lookup? {entries : List (Value × Value)} (differ : KeysDiffer entries)
    (key : String) (value : Value) :
    Says entries key value ↔ lookup? entries key = some value := by
  induction entries with
  | nil => simp [Says, lookup?]
  | cons entry entries ih =>
      obtain ⟨first, rest⟩ := List.pairwise_cons.mp differ
      obtain ⟨other, said⟩ := entry
      by_cases same : other = .text key
      · subst same
        have once : (Value.text key, value) ∉ entries := fun member =>
          first _ member key rfl rfl
        cases said <;> simp_all [Says, lookup?, eq_comm]
      · have skipped : lookup? ((other, said) :: entries) key = lookup? entries key := by
          cases other <;> simp_all [lookup?]
        have unsaid : Says ((other, said) :: entries) key value ↔ Says entries key value := by
          simp [Says, Ne.symm same]
        rw [skipped, unsaid, ih rest]

/-! ## The schema -/

/-- A parameter as a document writes it: its name, or a mapping from its name to its tag. -/
inductive IsParameter (document : Document) : Value → Parameter → Prop where
  | value (name : String) : IsParameter document (.text name) (.value name)
  | typed {value : Value} {name tag : String} :
      document.resolve value = .mapping [(.text name, .text tag)] →
      IsParameter document value (.typed name tag)

/-- A field as a document writes it: a mapping from its name to its type. -/
def IsField (document : Document) (value : Value) (field : Field) : Prop :=
  document.resolve value = .mapping [(.text field.name, .text field.type)]

/-- The mappings that are records. -/
structure Admissible (document : Document) (entries : List (Value × Value)) : Prop where
  texts : ∀ key : TextKey, ∀ value, Says entries key.spelling value →
    ∃ text, value = .text text
  flags : ∀ flag : Flag, ∀ value, Says entries flag.spelling value → ∃ set, value = .bool set
  parameters : ∀ value, Says entries "params" value → ∃ items,
    document.resolve value = .list items ∧
    ∀ item ∈ items, ∃ parameter, IsParameter document item parameter
  fields : ∀ value, Says entries "fields" value → ∃ items,
    document.resolve value = .list items ∧ items ≠ [] ∧
    ∀ item ∈ items, ∃ field, IsField document item field

/-- The record that a mapping is: it has what the mapping says, and nothing where that says
nothing. -/
structure Conforms (document : Document) (span : Span) (entries : List (Value × Value))
    (record : Record) : Prop where
  texts : ∀ key : TextKey, ∀ value,
    Says entries key.spelling value ↔ (record.text? key).map Value.text = some value
  flags : ∀ flag : Flag,
    (∀ value, Says entries flag.spelling value → ∃ set, value = .bool set) ∧
    (record.flag flag = true ↔ Says entries flag.spelling (.bool true))
  parameters : (∀ value, Says entries "params" value → ∃ items,
      document.resolve value = .list items ∧
      List.Forall₂ (IsParameter document) items record.parameters) ∧
    ((∀ value, ¬ Says entries "params" value) → record.parameters = [])
  fields : (∀ value, Says entries "fields" value → ∃ items fields,
      document.resolve value = .list items ∧ items ≠ [] ∧ record.fields = some fields ∧
      List.Forall₂ (IsField document) items fields) ∧
    ((∀ value, ¬ Says entries "fields" value) → record.fields = none)
  span : record.span = span

/-- Every key that is not known can be noted: no whole number in it is too long. -/
def Notable (entries : List (Value × Value)) : Prop :=
  ∀ entry ∈ entries, isKnownKey entry.1 = false → ¬ entry.1.Overlong fun _ => none

/-! ## Decoding -/

section Decoding

variable {document : Document} {span : Span} {entries : List (Value × Value)}

theorem refuse_ne_ok {α : Type} {fault : String → RecordFault} {value : Value} {result : α} :
    refuse document span fault value ≠ .ok result := by
  unfold refuse
  split <;> nofun

theorem singleEntry?_eq_some_iff (value : Value) (entry : Value × Value) :
    singleEntry? document value = some entry ↔ document.resolve value = .mapping [entry] := by
  unfold singleEntry? entries?
  cases document.resolve value with
  | mapping entries =>
      match entries with
      | [] | [_] | _ :: _ :: _ => simp
  | _ => simp

theorem items?_eq_some_iff (value : Value) (items : List Value) :
    items? document value = some items ↔ document.resolve value = .list items := by
  unfold items?
  cases document.resolve value <;> simp

theorem entries?_eq_some_iff (value : Value) (entries : List (Value × Value)) :
    entries? document value = some entries ↔ document.resolve value = .mapping entries := by
  unfold entries?
  cases document.resolve value <;> simp

theorem decodeParameter_eq_ok_iff (value : Value) (parameter : Parameter) :
    decodeParameter document span value = .ok parameter ↔
      IsParameter document value parameter := by
  by_cases text : ∃ name, value = .text name
  · obtain ⟨name, rfl⟩ := text
    constructor
    · intro decoded
      cases decoded
      exact .value name
    · rintro (_ | mapping)
      · rfl
      · cases mapping
  · have typed : IsParameter document value parameter ↔ ∃ name tag,
        singleEntry? document value = some (.text name, .text tag) ∧
          parameter = .typed name tag := by
      simp only [singleEntry?_eq_some_iff]
      constructor
      · rintro (name | mapping)
        · exact absurd ⟨name, rfl⟩ text
        · exact ⟨_, _, mapping, rfl⟩
      · rintro ⟨name, tag, mapping, rfl⟩
        exact .typed mapping
    rw [typed]
    unfold decodeParameter
    split
    · exact absurd ⟨_, rfl⟩ text
    · split
      · next none => simp [none, refuse_ne_ok]
      · next name tag single => simp [single, eq_comm]
      · next entry other single =>
          have unlike (name tag : String) : entry ≠ (.text name, .text tag) := other name tag
          simp [single, refuse_ne_ok, unlike]

theorem decodeField_eq_ok_iff (value : Value) (field : Field) :
    decodeField document span value = .ok field ↔ IsField document value field := by
  obtain ⟨name, type⟩ := field
  rw [IsField, ← singleEntry?_eq_some_iff]
  unfold decodeField
  cases singleEntry? document value with
  | none => simp [refuse_ne_ok]
  | some entry =>
      obtain ⟨key, said⟩ := entry
      cases key <;> cases said <;> simp [refuse_ne_ok]

theorem decodeText_eq_ok_iff (differ : KeysDiffer entries) (key : TextKey)
    (text? : Option String) :
    decodeText document span entries key = .ok text? ↔
      ∀ value, Says entries key.spelling value ↔ text?.map Value.text = some value := by
  simp only [says_iff_lookup? differ]
  unfold decodeText
  cases lookup? entries key.spelling with
  | none => cases text? <;> simp
  | some value =>
    cases value with
    | text text => cases text? <;> simp
    | _ =>
      refine iff_of_false refuse_ne_ok fun said => ?_
      have text := (said _).mp rfl
      cases text? <;> cases text

theorem decodeFlag_eq_ok_iff (differ : KeysDiffer entries) (flag : Flag) (set : Bool) :
    decodeFlag document span entries flag = .ok set ↔
      (∀ value, Says entries flag.spelling value → ∃ set, value = .bool set) ∧
        (set = true ↔ Says entries flag.spelling (.bool true)) := by
  simp only [says_iff_lookup? differ]
  unfold decodeFlag
  cases lookup? entries flag.spelling with
  | none => cases set <;> simp
  | some value =>
    cases value with
    | bool value => cases set <;> cases value <;> simp
    | _ => simp [refuse_ne_ok]

theorem decodeParameters_eq_ok_iff (differ : KeysDiffer entries) (parameters : List Parameter) :
    decodeParameters document span entries = .ok parameters ↔
      (∀ value, Says entries "params" value → ∃ items, document.resolve value = .list items ∧
        List.Forall₂ (IsParameter document) items parameters) ∧
      ((∀ value, ¬ Says entries "params" value) → parameters = []) := by
  simp only [says_iff_lookup? differ]
  unfold decodeParameters
  cases lookup? entries "params" with
  | none => simp [eq_comm]
  | some value =>
    simp only [← items?_eq_some_iff]
    cases listed : items? document value with
    | none => simp [refuseUnseen, listed]
    | some items => simp [mapM_eq_ok_iff, decodeParameter_eq_ok_iff, listed]

theorem decodeFields_eq_ok_iff (differ : KeysDiffer entries) (fields? : Option (List Field)) :
    decodeFields document span entries = .ok fields? ↔
      (∀ value, Says entries "fields" value → ∃ items fields,
        document.resolve value = .list items ∧ items ≠ [] ∧ fields? = some fields ∧
        List.Forall₂ (IsField document) items fields) ∧
      ((∀ value, ¬ Says entries "fields" value) → fields? = none) := by
  simp only [says_iff_lookup? differ]
  unfold decodeFields
  cases lookup? entries "fields" with
  | none => simp [eq_comm]
  | some value =>
    simp only [← items?_eq_some_iff]
    cases listed : items? document value with
    | none => simp [refuseUnseen, listed]
    | some items =>
      cases items with
      | nil => simp [refuseUnseen, listed]
      | cons item items =>
        simp only [map_eq_ok_iff, mapM_eq_ok_iff, decodeField_eq_ok_iff]
        simp [listed, and_comm, eq_comm]

theorem ofEntries_eq_ok_iff (differ : KeysDiffer entries) (record : Record) :
    ofEntries document span entries = .ok record ↔ Conforms document span entries record := by
  unfold ofEntries
  simp only [bind_eq_ok_iff, decodeText_eq_ok_iff differ, decodeFlag_eq_ok_iff differ,
    decodeParameters_eq_ok_iff differ, decodeFields_eq_ok_iff differ]
  constructor
  · rintro ⟨_, name, _, inst, _, type, _, code, _, codeInterp, _, customPrinter,
      _, isPrimitive, _, noInterp, _, noIrCode, _, needsReducef, _, separated,
      _, suppressPrinter, _, parameters, _, fields, same⟩
    cases same
    exact ⟨by rintro (_ | _) <;> assumption, by rintro (_ | _) <;> assumption, parameters, fields,
      rfl⟩
  · rintro ⟨texts, flags, parameters, fields, rfl⟩
    exact ⟨_, texts .name, _, texts .inst, _, texts .type, _, texts .code, _, texts .codeInterp,
      _, texts .customPrinter, _, flags .isPrimitive, _, flags .noInterp, _, flags .noIrCode,
      _, flags .needsReducef, _, flags .separated, _, flags .suppressPrinter, _, parameters,
      _, fields, rfl⟩

/-! ## Faults -/

/-- What decoding fails with: a fault of the record, or a whole number that is too long for the
fault to be shown. -/
def Refused (document : Document) (span : Span) (value : Value) (failure : Failure) : Prop :=
  (∃ fault, failure = .ofCause span (.record fault)) ∨
    failure = unshown ∧ document.Overlong value

theorem refused_of_refuse {α : Type} {fault : String → RecordFault} {value : Value}
    {failure : Failure} (failed : refuse (α := α) document span fault value = .error failure) :
    Refused document span value failure := by
  unfold refuse at failed
  split at failed
  · next unwritten =>
      cases failed
      exact .inr ⟨rfl, Document.overlong_of_literal? unwritten⟩
  · cases failed
    exact .inl ⟨_, rfl⟩

theorem Refused.mono {value larger : Value} {failure : Failure}
    (within : document.Overlong value → document.Overlong larger)
    (refused : Refused document span value failure) : Refused document span larger failure :=
  refused.imp_right fun ⟨same, overlong⟩ => ⟨same, within overlong⟩

theorem mem_of_lookup? {key : String} {value : Value} (found : lookup? entries key = some value) :
    (Value.text key, value) ∈ entries := by
  simp only [lookup?] at found
  split at found
  · cases found
  · cases found
  · next key' _ _ first =>
      cases found
      have keyed := List.find?_some first
      have member := List.mem_of_find?_eq_some first
      cases key' <;> simp_all

theorem refused_of_decodeText {key : TextKey} {failure : Failure}
    (failed : decodeText document span entries key = .error failure) :
    Refused document span (.mapping entries) failure := by
  unfold decodeText at failed
  split at failed
  · cases failed
  · cases failed
  · next _ found => exact (refused_of_refuse failed).mono (.value (mem_of_lookup? found))

theorem refused_of_decodeFlag {flag : Flag} {failure : Failure}
    (failed : decodeFlag document span entries flag = .error failure) :
    Refused document span (.mapping entries) failure := by
  unfold decodeFlag at failed
  split at failed
  · cases failed
  · cases failed
  · next _ found => exact (refused_of_refuse failed).mono (.value (mem_of_lookup? found))

theorem refused_of_decodeParameter {value : Value} {failure : Failure}
    (failed : decodeParameter document span value = .error failure) :
    Refused document span value failure := by
  unfold decodeParameter at failed
  split at failed
  · cases failed
  · split at failed
    · exact refused_of_refuse failed
    · cases failed
    · exact refused_of_refuse failed

theorem refused_of_decodeField {value : Value} {failure : Failure}
    (failed : decodeField document span value = .error failure) :
    Refused document span value failure := by
  unfold decodeField at failed
  split at failed
  · exact refused_of_refuse failed
  · cases failed
  · exact refused_of_refuse failed

/-- An item of a list that a mapping says something with is a part of the mapping. -/
theorem overlong_of_item {key : String} {value item : Value} {items : List Value}
    (found : lookup? entries key = some value) (listed : items? document value = some items)
    (member : item ∈ items) (overlong : document.Overlong item) :
    document.Overlong (.mapping entries) := by
  refine .value (mem_of_lookup? found) (Document.overlong_of_resolve ?_)
  rw [(items?_eq_some_iff value items).mp listed]
  exact .item member overlong

theorem refused_of_decodeParameters {failure : Failure}
    (failed : decodeParameters document span entries = .error failure) :
    Refused document span (.mapping entries) failure := by
  unfold decodeParameters at failed
  split at failed
  · cases failed
  · next found =>
    split at failed
    · cases failed
      exact .inl ⟨_, rfl⟩
    · next listed =>
      obtain ⟨item, member, failed⟩ := mapM_error failed
      exact (refused_of_decodeParameter failed).mono (overlong_of_item found listed member)

theorem refused_of_decodeFields {failure : Failure}
    (failed : decodeFields document span entries = .error failure) :
    Refused document span (.mapping entries) failure := by
  unfold decodeFields at failed
  split at failed
  · cases failed
  · next found =>
    split at failed
    · cases failed
      exact .inl ⟨_, rfl⟩
    · cases failed
      exact .inl ⟨_, rfl⟩
    · next listed =>
      obtain ⟨item, member, failed⟩ := mapM_error (map_error failed)
      exact (refused_of_decodeField failed).mono (overlong_of_item found listed member)

theorem refused_of_ofEntries {failure : Failure}
    (failed : ofEntries document span entries = .error failure) :
    Refused document span (.mapping entries) failure := by
  unfold ofEntries at failed
  -- Six texts and six flags are decoded before the parameters and the fields.
  iterate 6
    obtain failed | ⟨_, -, failed⟩ := bind_error failed
    · exact refused_of_decodeText failed
  iterate 6
    obtain failed | ⟨_, -, failed⟩ := bind_error failed
    · exact refused_of_decodeFlag failed
  obtain failed | ⟨_, -, failed⟩ := bind_error failed
  · exact refused_of_decodeParameters failed
  obtain failed | ⟨_, -, failed⟩ := bind_error failed
  · exact refused_of_decodeFields failed
  · cases failed

/-! ## Admission -/

theorem exists_text (differ : KeysDiffer entries) {key : String}
    (texts : ∀ value, Says entries key value → ∃ text, value = .text text) :
    ∃ text? : Option String, ∀ value,
      Says entries key value ↔ text?.map Value.text = some value := by
  simp only [says_iff_lookup? differ] at texts ⊢
  cases found : lookup? entries key with
  | none => exact ⟨none, by simp⟩
  | some value =>
      obtain ⟨text, rfl⟩ := texts value found
      exact ⟨some text, by simp⟩

theorem exists_flag {key : String}
    (flags : ∀ value, Says entries key value → ∃ set, value = .bool set) :
    ∃ set : Bool, (∀ value, Says entries key value → ∃ set, value = .bool set) ∧
      (set = true ↔ Says entries key (.bool true)) := by
  by_cases said : Says entries key (.bool true)
  · exact ⟨true, flags, by simp [said]⟩
  · exact ⟨false, flags, by simp [said]⟩

theorem exists_parameters (differ : KeysDiffer entries)
    (admitted : ∀ value, Says entries "params" value → ∃ items,
      document.resolve value = .list items ∧
      ∀ item ∈ items, ∃ parameter, IsParameter document item parameter) :
    ∃ parameters, (∀ value, Says entries "params" value → ∃ items,
        document.resolve value = .list items ∧
        List.Forall₂ (IsParameter document) items parameters) ∧
      ((∀ value, ¬ Says entries "params" value) → parameters = []) := by
  simp only [says_iff_lookup? differ] at admitted ⊢
  cases found : lookup? entries "params" with
  | none => exact ⟨[], by simp⟩
  | some value =>
      obtain ⟨items, listed, parameters⟩ := admitted value found
      obtain ⟨parameters, decoded⟩ := (exists_forall₂_iff _ items).mpr parameters
      exact ⟨parameters, by simpa using ⟨items, listed, decoded⟩, by simp⟩

theorem exists_fields (differ : KeysDiffer entries)
    (admitted : ∀ value, Says entries "fields" value → ∃ items,
      document.resolve value = .list items ∧ items ≠ [] ∧
      ∀ item ∈ items, ∃ field, IsField document item field) :
    ∃ fields? : Option (List Field), (∀ value, Says entries "fields" value → ∃ items fields,
        document.resolve value = .list items ∧ items ≠ [] ∧ fields? = some fields ∧
        List.Forall₂ (IsField document) items fields) ∧
      ((∀ value, ¬ Says entries "fields" value) → fields? = none) := by
  simp only [says_iff_lookup? differ] at admitted ⊢
  cases found : lookup? entries "fields" with
  | none => exact ⟨none, by simp⟩
  | some value =>
      obtain ⟨items, listed, written, fields⟩ := admitted value found
      obtain ⟨fields, decoded⟩ := (exists_forall₂_iff _ items).mpr fields
      exact ⟨some fields, by simpa using ⟨items, listed, written, decoded⟩, by simp⟩

theorem admissible_iff_conforms (differ : KeysDiffer entries) :
    Admissible document entries ↔ ∃ record, Conforms document span entries record := by
  constructor
  · intro admissible
    choose text texts using fun key => exists_text differ (admissible.texts key)
    choose set flags using fun flag => exists_flag (admissible.flags flag)
    obtain ⟨parameters, decodedParameters⟩ := exists_parameters differ admissible.parameters
    obtain ⟨fields, decodedFields⟩ := exists_fields differ admissible.fields
    refine ⟨{
      name := text .name, inst := text .inst, type := text .type
      code := text .code, codeInterp := text .codeInterp, customPrinter := text .customPrinter
      isPrimitive := set .isPrimitive, noInterp := set .noInterp, noIrCode := set .noIrCode
      needsReducef := set .needsReducef, separated := set .separated
      suppressPrinter := set .suppressPrinter, parameters, fields, span }, ?_⟩
    exact ⟨by rintro (_ | _) <;> exact texts _, by rintro (_ | _) <;> exact flags _,
      decodedParameters, decodedFields, rfl⟩
  · rintro ⟨record, conforms⟩
    refine ⟨fun key value said => ?_, fun flag => (conforms.flags flag).1,
      fun value said => ?_, fun value said => ?_⟩
    · have text := (conforms.texts key value).mp said
      obtain ⟨text, -, same⟩ := Option.map_eq_some_iff.mp text
      exact ⟨text, same.symm⟩
    · obtain ⟨items, listed, decoded⟩ := conforms.parameters.1 value said
      exact ⟨items, listed, (exists_forall₂_iff _ items).mp ⟨_, decoded⟩⟩
    · obtain ⟨items, fields, listed, written, -, decoded⟩ := conforms.fields.1 value said
      exact ⟨items, listed, written, (exists_forall₂_iff _ items).mp ⟨_, decoded⟩⟩

theorem sortedKeys_eq_ok_iff (keys : List Value) :
    (∃ texts, sortedKeys keys = .ok texts) ↔ ∀ key ∈ keys, key.keyText? ≠ none := by
  unfold sortedKeys
  induction keys with
  | nil => simp
  | cons key keys ih =>
      cases written : key.keyText? with
      | none => simp [written]
      | some text =>
          cases rest : keys.mapM Value.keyText? <;> simp_all

theorem sortedKeys_failure {keys : List Value} {failure : Failure}
    (failed : sortedKeys keys = .error failure) :
    failure = unshown ∧ ∃ key ∈ keys, key.keyText? = none := by
  constructor
  · unfold sortedKeys at failed
    split at failed <;> cases failed
    rfl
  · by_contra written
    obtain ⟨texts, sorted⟩ := (sortedKeys_eq_ok_iff keys).mpr (by simpa using written)
    rw [failed] at sorted
    cases sorted

theorem unknownKeys_eq_ok_iff :
    (∃ texts, unknownKeys entries = .ok texts) ↔ Notable entries := by
  unfold unknownKeys Notable
  rw [sortedKeys_eq_ok_iff]
  simp only [ne_eq, Value.keyText?_eq_none_iff]
  simp

/-- The keys of a mapping that are picked out cannot be sorted if one of them has no text. -/
theorem overlong_of_sortedKeys {picked : Value → Bool} {failure : Failure}
    (failed : sortedKeys ((entries.map Prod.fst).filter picked) = .error failure) :
    failure = unshown ∧ document.Overlong (.mapping entries) := by
  obtain ⟨same, key, member, unwritten⟩ := sortedKeys_failure failed
  obtain ⟨entry, inside, rfl⟩ := List.mem_map.mp (List.mem_filter.mp member).1
  exact ⟨same, .key inside (Document.overlong_of_keyText? unwritten)⟩

theorem refused_of_unknownKeys {failure : Failure} (failed : unknownKeys entries = .error failure) :
    Refused document span (.mapping entries) failure :=
  .inr (overlong_of_sortedKeys failed)

def Decodes (document : Document) (span : Span) (record : Record) : Prop :=
  ∃ notes, ofDocument document span = .ok (record, notes)

theorem decodes_iff (differ : KeysDiffer entries)
    (mapping : document.resolve document.root = .mapping entries) (record : Record) :
    Decodes document span record ↔ Conforms document span entries record ∧ Notable entries := by
  rw [← ofEntries_eq_ok_iff differ, ← unknownKeys_eq_ok_iff]
  unfold Decodes ofDocument
  simp only [(entries?_eq_some_iff _ _).mpr mapping, bind_eq_ok_iff]
  constructor
  · rintro ⟨notes, other, decoded, keys, noted, last⟩
    split at last <;> cases last <;> exact ⟨decoded, keys, noted⟩
  · rintro ⟨decoded, keys, noted⟩
    cases unwritten : keys.isEmpty with
    | false => exact ⟨_, record, decoded, keys, noted, by rw [unwritten]; rfl⟩
    | true => exact ⟨_, record, decoded, keys, noted, by rw [unwritten]; rfl⟩

theorem not_decodes (unmapped : ∀ entries, document.resolve document.root ≠ .mapping entries)
    (record : Record) : ¬ Decodes document span record := by
  rintro ⟨notes, decoded⟩
  unfold ofDocument at decoded
  split at decoded
  · cases decoded
  · next mapping => exact unmapped _ ((entries?_eq_some_iff _ _).mp mapping)

theorem refused_of_ofDocument {failure : Failure}
    (failed : ofDocument document span = .error failure) :
    Refused document span document.root failure := by
  unfold ofDocument at failed
  split at failed
  · cases failed
    exact .inl ⟨_, rfl⟩
  · next mapping =>
      have within (overlong : document.Overlong (.mapping _)) : document.Overlong document.root :=
        Document.overlong_of_resolve ((entries?_eq_some_iff _ _).mp mapping ▸ overlong)
      obtain failed | ⟨record, -, failed⟩ := bind_error failed
      · exact (refused_of_ofEntries failed).mono within
      obtain failed | ⟨keys, -, failed⟩ := bind_error failed
      · exact (refused_of_unknownKeys failed).mono within
      split at failed <;> cases failed

end Decoding

end Record

end InstructionSet
