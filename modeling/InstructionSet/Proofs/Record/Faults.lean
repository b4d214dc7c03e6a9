import InstructionSet.Proofs.Record.Schema

/-!
# The faults of a mapping

Which keys of a mapping have values that violate the schema, and what is reported of each. Of all
the keys at fault the first in the order of the checks is reported, with the first item at fault of
a list (`ofDocument_rejects`). The code of the report names that key, except for a field that is one
entry but not of texts.
-/

set_option autoImplicit false

namespace InstructionSet

namespace Record

open Yaml (Value Document KeysDiffer)

/-! ## Faults and reports -/

inductive SchemaKey where
  | text (key : TextKey)
  | flag (flag : Flag)
  | parameters
  | fields
deriving DecidableEq, Repr

namespace SchemaKey

/-- The keys in the order in which their values are checked. -/
def inOrder : List SchemaKey := TextKey.all.map text ++ Flag.all.map flag ++ [parameters, fields]

def spelling : SchemaKey → String
  | .text key => key.spelling
  | .flag key => key.spelling
  | .parameters => "params"
  | .fields => "fields"

/-- The code of a violation under a key. -/
def code : SchemaKey → Code
  | .text _ => .invalidRecord
  | .flag _ => .invalidFlag
  | .parameters => .invalidParameter
  | .fields => .invalidField

theorem mem_inOrder (key : SchemaKey) : key ∈ inOrder := by
  rcases key with ⟨_ | _⟩ | ⟨_ | _⟩ | _ | _ <;> decide

end SchemaKey

/-- What is reported of a violation, and the value that is shown in it if one is. -/
structure Report where
  fault : String → RecordFault
  shown? : Option Value

/-- A report fails at the place of the record, or because its value cannot be shown. -/
def Report.failure (report : Report) (document : Document) (span : Span) : Failure :=
  match report.shown? with
  | none => .ofCause span (.record (report.fault ""))
  | some value =>
      match document.literal? value with
      | none => unshown
      | some literal => .ofCause span (.record (report.fault literal))

/-- How an item is no mapping from one text to another. -/
inductive EntryFault (document : Document) (notSingle notText : String → RecordFault)
    (item : Value) : Report → Prop where
  | single : (∀ entry, document.resolve item ≠ .mapping [entry]) →
      EntryFault document notSingle notText item ⟨notSingle, some item⟩
  | text {entry : Value × Value} : document.resolve item = .mapping [entry] →
      (∀ name type, entry ≠ (.text name, .text type)) →
      EntryFault document notSingle notText item ⟨notText, some item⟩

/-- How an item is no parameter: it is not just a name, either. -/
def ParameterFault (document : Document) (item : Value) (report : Report) : Prop :=
  (∀ name, item ≠ .text name) ∧
    EntryFault document .parameterNotSingle .parameterNotText item report

/-- How an item is no field. -/
def FieldFault (document : Document) : Value → Report → Prop :=
  EntryFault document .fieldNotSingle .fieldNotText

/-- How a value violates the schema under a key. Of a list, the first item at fault is reported. -/
inductive Violates (document : Document) : SchemaKey → Value → Report → Prop where
  | text {key : TextKey} {value : Value} : (∀ text, value ≠ .text text) →
      Violates document (.text key) value
        ⟨.notText key.spelling (document.typeName value), some value⟩
  | flag {flag : Flag} {value : Value} : (∀ set, value ≠ .bool set) →
      Violates document (.flag flag) value ⟨.notFlag flag.spelling, some value⟩
  | parameters {value : Value} : (∀ items, document.resolve value ≠ .list items) →
      Violates document .parameters value
        ⟨fun _ => .parametersNotList (document.typeName value), none⟩
  | parameter {value item : Value} {items : List Value} {report : Report} :
      document.resolve value = .list items →
      Foremost (ParameterFault document) items item report →
      Violates document .parameters value report
  | fields {value : Value} : (∀ items, document.resolve value = .list items → items = []) →
      Violates document .fields value ⟨fun _ => .fieldsNotList, none⟩
  | field {value item : Value} {items : List Value} {report : Report} :
      document.resolve value = .list items → Foremost (FieldFault document) items item report →
      Violates document .fields value report

/-- What a mapping has under a key violates the schema. -/
def AtFault (document : Document) (entries : List (Value × Value)) (key : SchemaKey)
    (report : Report) : Prop :=
  ∃ value, Says entries key.spelling value ∧ Violates document key value report

/-! ## What decoding fails with -/

section Decoding

variable {document : Document} {span : Span} {entries : List (Value × Value)}

theorem error?_refuse {α : Type} (fault : String → RecordFault) (value : Value) :
    error? (refuse (α := α) document span fault value) =
      some ((Report.mk fault (some value)).failure document span) := by
  unfold refuse
  cases shown : document.literal? value <;> simp [Report.failure, shown, error?]

theorem error?_refuseUnseen {α : Type} (document : Document) (fault : RecordFault) :
    error? (refuseUnseen (α := α) span fault) =
      some ((Report.mk (fun _ => fault) none).failure document span) := rfl

theorem items?_eq_none_iff (value : Value) :
    items? document value = none ↔ ∀ items, document.resolve value ≠ .list items := by
  simp only [Option.eq_none_iff_forall_ne_some, ne_eq, items?_eq_some_iff]

theorem singleEntry?_eq_none_iff (value : Value) :
    singleEntry? document value = none ↔ ∀ entry, document.resolve value ≠ .mapping [entry] := by
  simp only [Option.eq_none_iff_forall_ne_some, ne_eq, singleEntry?_eq_some_iff]

theorem reported_iff {faulty : Report → Prop} {report : Report}
    (only : ∀ other, faulty other ↔ other = report) (failure : Failure) :
    some (report.failure document span) = some failure ↔
      ∃ report, faulty report ∧ failure = report.failure document span := by
  simp [only, eq_comm]

theorem unreported_iff {faulty : Report → Prop} (faultless : ∀ report, ¬faulty report)
    (failure : Failure) :
    none = some failure ↔ ∃ report, faulty report ∧ failure = report.failure document span := by
  simp [faultless]

theorem error?_singleEntry?_iff {α : Type} (notSingle notText : String → RecordFault)
    (decoded : String → String → α) (item : Value) (failure : Failure) :
    error? (match singleEntry? document item with
      | none => refuse document span notSingle item
      | some (.text name, .text type) => .ok (decoded name type)
      | some _ => refuse document span notText item) = some failure ↔
      ∃ report, EntryFault document notSingle notText item report ∧
        failure = report.failure document span := by
  split
  · next unsingle =>
      rw [singleEntry?_eq_none_iff] at unsingle
      rw [error?_refuse]
      refine reported_iff (fun report => ⟨fun faulty => ?_, ?_⟩) failure
      · cases faulty with
        | single => rfl
        | text mapping => exact absurd mapping (unsingle _)
      · rintro rfl
        exact .single unsingle
  · next name type single =>
      rw [singleEntry?_eq_some_iff] at single
      refine unreported_iff (fun report faulty => ?_) failure
      cases faulty with
      | single unsingle => exact unsingle _ single
      | text mapping untyped =>
          rw [single] at mapping
          cases mapping
          exact untyped name type rfl
  · next entry other single =>
      rw [singleEntry?_eq_some_iff] at single
      rw [error?_refuse]
      refine reported_iff (fun report => ⟨fun faulty => ?_, ?_⟩) failure
      · cases faulty with
        | single unsingle => exact absurd single (unsingle _)
        | text => rfl
      · rintro rfl
        exact .text single other

theorem error?_decodeField_iff (item : Value) (failure : Failure) :
    error? (decodeField document span item) = some failure ↔
      ∃ report, FieldFault document item report ∧ failure = report.failure document span :=
  error?_singleEntry?_iff .fieldNotSingle .fieldNotText Field.mk item failure

theorem error?_decodeParameter_iff (item : Value) (failure : Failure) :
    error? (decodeParameter document span item) = some failure ↔
      ∃ report, ParameterFault document item report ∧ failure = report.failure document span := by
  by_cases named : ∃ name, item = .text name
  · obtain ⟨name, rfl⟩ := named
    exact unreported_iff (fun report faulty => faulty.1 name rfl) failure
  · have unnamed (name : String) : item ≠ .text name := fun same => named ⟨name, same⟩
    simp only [ParameterFault, unnamed, ne_eq, not_false_eq_true, implies_true, true_and]
    refine Iff.trans (iff_of_eq ?_) (error?_singleEntry?_iff .parameterNotSingle .parameterNotText
      Parameter.typed item failure)
    unfold decodeParameter
    split
    · exact absurd rfl (unnamed _)
    · rfl

/-- What is wrong under a key. -/
def keyFailure? (document : Document) (span : Span) (entries : List (Value × Value)) :
    SchemaKey → Option Failure
  | .text key => error? (decodeText document span entries key)
  | .flag flag => error? (decodeFlag document span entries flag)
  | .parameters => error? (decodeParameters document span entries)
  | .fields => error? (decodeFields document span entries)

/-- Of a list, the first item at fault is reported. -/
theorem error?_mapM_iff {α : Type} {decode : Value → Except Failure α}
    {faulty : Value → Report → Prop}
    (decodes : ∀ item failure, error? (decode item) = some failure ↔
      ∃ report, faulty item report ∧ failure = report.failure document span)
    (items : List Value) (failure : Failure) :
    error? (items.mapM decode) = some failure ↔
      ∃ report, (∃ item, Foremost faulty items item report) ∧
        failure = report.failure document span := by
  rw [error?_mapM, findSome?_eq_some_iff_foremost decodes]
  simp only [foremost_image_iff fun _ (report : Report) => report.failure document span]
  constructor
  · rintro ⟨item, report, foremost, rfl⟩
    exact ⟨report, ⟨item, foremost⟩, rfl⟩
  · rintro ⟨report, ⟨item, foremost⟩, rfl⟩
    exact ⟨item, report, foremost, rfl⟩

theorem keyFailure?_of_unsaid {key : SchemaKey} (unsaid : lookup? entries key.spelling = none) :
    keyFailure? document span entries key = none := by
  cases key <;> simp only [SchemaKey.spelling] at unsaid <;>
    simp [keyFailure?, decodeText, decodeFlag, decodeParameters, decodeFields, unsaid, error?]

section Said

variable {value : Value} (failure : Failure)

theorem error?_decodeText_iff {key : TextKey} (said : lookup? entries key.spelling = some value) :
    error? (decodeText document span entries key) = some failure ↔
      ∃ report, Violates document (.text key) value report ∧
        failure = report.failure document span := by
  simp only [decodeText, said]
  split
  · next none => cases none
  · next text same =>
      cases same
      refine unreported_iff (fun report violates => ?_) failure
      cases violates with
      | text untold => exact untold text rfl
  · next other untold same =>
      cases same
      rw [error?_refuse]
      refine reported_iff (fun report => ⟨fun violates => ?_, ?_⟩) failure
      · cases violates
        rfl
      · rintro rfl
        exact .text untold

theorem error?_decodeFlag_iff {flag : Flag} (said : lookup? entries flag.spelling = some value) :
    error? (decodeFlag document span entries flag) = some failure ↔
      ∃ report, Violates document (.flag flag) value report ∧
        failure = report.failure document span := by
  simp only [decodeFlag, said]
  split
  · next none => cases none
  · next set same =>
      cases same
      refine unreported_iff (fun report violates => ?_) failure
      cases violates with
      | flag unset => exact unset set rfl
  · next other unset same =>
      cases same
      rw [error?_refuse]
      refine reported_iff (fun report => ⟨fun violates => ?_, ?_⟩) failure
      · cases violates
        rfl
      · rintro rfl
        exact .flag unset

theorem error?_decodeParameters_iff (said : lookup? entries "params" = some value) :
    error? (decodeParameters document span entries) = some failure ↔
      ∃ report, Violates document .parameters value report ∧
        failure = report.failure document span := by
  simp only [decodeParameters, said]
  split
  · next unlisted =>
      rw [items?_eq_none_iff] at unlisted
      rw [error?_refuseUnseen document]
      refine reported_iff (fun report => ⟨fun violates => ?_, ?_⟩) failure
      · cases violates with
        | parameters => rfl
        | parameter listed => exact absurd listed (unlisted _)
      · rintro rfl
        exact .parameters unlisted
  · next items listed =>
      rw [items?_eq_some_iff] at listed
      have violates (report : Report) : Violates document .parameters value report ↔
          ∃ item, Foremost (ParameterFault document) items item report := by
        constructor
        · intro violates
          cases violates with
          | parameters unlisted => exact absurd listed (unlisted items)
          | parameter same foremost =>
              rw [listed] at same
              cases same
              exact ⟨_, foremost⟩
        · rintro ⟨item, foremost⟩
          exact .parameter listed foremost
      simp only [violates]
      exact error?_mapM_iff error?_decodeParameter_iff items failure

theorem error?_fieldsNotList_iff {α : Type}
    (empty : ∀ items, document.resolve value = .list items → items = []) :
    error? (refuseUnseen (α := α) span .fieldsNotList) = some failure ↔
      ∃ report, Violates document .fields value report ∧
        failure = report.failure document span := by
  rw [error?_refuseUnseen document]
  refine reported_iff (fun report => ⟨fun violates => ?_, ?_⟩) failure
  · cases violates with
    | fields => rfl
    | field listed foremost =>
        cases empty _ listed
        cases foremost.mem
  · rintro rfl
    exact .fields empty

theorem error?_decodeFields_iff (said : lookup? entries "fields" = some value) :
    error? (decodeFields document span entries) = some failure ↔
      ∃ report, Violates document .fields value report ∧
        failure = report.failure document span := by
  simp only [decodeFields, said]
  cases listed : items? document value with
  | none =>
      rw [items?_eq_none_iff] at listed
      exact error?_fieldsNotList_iff failure fun items same => absurd same (listed items)
  | some items =>
      rw [items?_eq_some_iff] at listed
      cases items with
      | nil =>
          refine error?_fieldsNotList_iff failure fun items same => ?_
          rw [listed] at same
          cases same
          rfl
      | cons item items =>
          have violates (report : Report) : Violates document .fields value report ↔
              ∃ other, Foremost (FieldFault document) (item :: items) other report := by
            constructor
            · intro violates
              cases violates with
              | fields empty => cases empty _ listed
              | field same foremost =>
                  rw [listed] at same
                  cases same
                  exact ⟨_, foremost⟩
            · rintro ⟨other, foremost⟩
              exact .field listed foremost
          simp only [violates, error?_map]
          exact error?_mapM_iff error?_decodeField_iff (item :: items) failure

end Said

/-- What is wrong under a key is what the schema says of the value there. -/
theorem keyFailure?_eq_some_iff (differ : KeysDiffer entries) (key : SchemaKey)
    (failure : Failure) :
    keyFailure? document span entries key = some failure ↔
      ∃ report, AtFault document entries key report ∧
        failure = report.failure document span := by
  simp only [AtFault, says_iff_lookup? differ]
  cases said : lookup? entries key.spelling with
  | none => simp [keyFailure?_of_unsaid said]
  | some value =>
      simp only [Option.some.injEq, exists_eq_left']
      cases key with
      | text key => exact error?_decodeText_iff failure said
      | flag flag => exact error?_decodeFlag_iff failure said
      | parameters => exact error?_decodeParameters_iff failure said
      | fields => exact error?_decodeFields_iff failure said

theorem error?_ofEntries :
    error? (ofEntries document span entries) =
      SchemaKey.inOrder.findSome? (keyFailure? document span entries) := by
  unfold ofEntries
  simp only [SchemaKey.inOrder, TextKey.all, Flag.all, List.map_cons, List.map_nil,
    List.cons_append, List.nil_append, findSome?_cons_eq_or, List.findSome?_nil, keyFailure?]
  iterate 14 refine error?_bind _ fun _ => ?_
  rfl

theorem error?_ofEntries_iff (differ : KeysDiffer entries) (failure : Failure) :
    error? (ofEntries document span entries) = some failure ↔
      ∃ key report, Foremost (AtFault document entries) SchemaKey.inOrder key report ∧
        failure = report.failure document span := by
  rw [error?_ofEntries, findSome?_eq_some_iff_foremost (keyFailure?_eq_some_iff differ)]
  simp only [foremost_image_iff fun _ (report : Report) => report.failure document span]

theorem error?_ofEntries_eq_none_iff (differ : KeysDiffer entries) :
    error? (ofEntries document span entries) = none ↔ Admissible document entries := by
  have conforms : Admissible document entries ↔ ∃ record, Conforms document span entries record :=
    admissible_iff_conforms differ
  rw [conforms, error?_eq_none_iff]
  simp only [ofEntries_eq_ok_iff differ]

theorem admissible_iff_unfaulty (differ : KeysDiffer entries) :
    Admissible document entries ↔ ∀ key report, ¬AtFault document entries key report := by
  have decodes : error? (ofEntries document {} entries) = none ↔ Admissible document entries :=
    error?_ofEntries_eq_none_iff differ
  rw [← decodes, error?_ofEntries,
    findSome?_eq_none_iff_unrelated (keyFailure?_eq_some_iff differ)]
  constructor
  · intro unrelated key report faulty
    exact unrelated key key.mem_inOrder _ ⟨report, faulty, rfl⟩
  · rintro unfaulty key - failure ⟨report, faulty, rfl⟩
    exact unfaulty key report faulty

/-- A mapping is rejected for its known keys, or else because its other keys cannot be noted. -/
theorem ofDocument_eq_error_iff (mapping : document.resolve document.root = .mapping entries)
    (failure : Failure) :
    ofDocument document span = .error failure ↔
      error? (ofEntries document span entries) = some failure ∨
        error? (ofEntries document span entries) = none ∧ failure = unshown ∧ ¬Notable entries := by
  unfold ofDocument
  simp only [(entries?_eq_some_iff _ _).mpr mapping]
  cases decoded : ofEntries document span entries with
  | error other => simp [error?, bind, Except.bind]
  | ok record =>
      rw [← unknownKeys_eq_ok_iff]
      cases noted : unknownKeys entries with
      | error other =>
          obtain ⟨rfl, -⟩ := sortedKeys_failure noted
          simp [error?, bind, Except.bind, eq_comm]
      | ok keys =>
          by_cases unwritten : keys.isEmpty = true <;>
            simp [error?, bind, Except.bind, pure, Except.pure, unwritten]

/-- A report is a fault of the record, unless the value to show has no literal. -/
theorem Report.failure_cases (report : Report) (document : Document) (span : Span) :
    (∃ literal, report.failure document span = .ofCause span (.record (report.fault literal))) ∨
      report.failure document span = unshown ∧
        ∃ value, report.shown? = some value ∧ document.literal? value = none := by
  unfold Report.failure
  split
  · exact .inl ⟨"", rfl⟩
  · next value shown =>
      cases unwritten : document.literal? value with
      | none => exact .inr ⟨rfl, value, shown, unwritten⟩
      | some literal => exact .inl ⟨literal, rfl⟩

/-- The code of a report is that of the key at fault, except for a field that is written as one entry
but not of texts. -/
theorem code_of_violates {key : SchemaKey} {value : Value} {report : Report}
    (violates : Violates document key value report) (literal : String) :
    ((report.fault literal).code = key.code ∧ report.fault literal ≠ .fieldNotText literal) ∨
      key = .fields ∧ (report.fault literal).code = .invalidParameter ∧
        report.fault literal = .fieldNotText literal := by
  cases violates with
  | text | flag | parameters | fields => exact .inl ⟨rfl, nofun⟩
  | parameter listed foremost =>
      obtain ⟨-, entry⟩ := foremost.holds
      cases entry <;> exact .inl ⟨rfl, nofun⟩
  | field listed foremost =>
      cases foremost.holds with
      | single => exact .inl ⟨rfl, nofun⟩
      | text => exact .inr ⟨rfl, rfl, rfl⟩

end Decoding

/-- A mapping that violates the schema is rejected with what is at fault under the first of the keys,
in the order of the checks, whatever else is wrong. The code names the key, except for a field that
is written as one entry but not of texts, which has the code of a parameter. Otherwise a mapping is
only rejected if a whole number in a key that is not known is too long to be shown. -/
theorem ofDocument_rejects {document : Document} {entries : List (Value × Value)}
    (mapping : document.resolve document.root = .mapping entries) (differ : KeysDiffer entries)
    (span : Span) :
    (Admissible document entries ↔ ∀ key report, ¬AtFault document entries key report) ∧
    (∀ key report, Foremost (AtFault document entries) SchemaKey.inOrder key report →
      ofDocument document span = .error (report.failure document span) ∧
      ((∃ literal, report.failure document span = .ofCause span (.record (report.fault literal)) ∧
          ((report.fault literal).code = key.code ∧ report.fault literal ≠ .fieldNotText literal ∨
            key = .fields ∧ (report.fault literal).code = .invalidParameter ∧
              report.fault literal = .fieldNotText literal)) ∨
        report.failure document span = unshown ∧
          ∃ value, report.shown? = some value ∧ document.literal? value = none)) ∧
    ∀ failure, ofDocument document span = .error failure →
      (∃ key report, Foremost (AtFault document entries) SchemaKey.inOrder key report ∧
        failure = report.failure document span) ∨
      Admissible document entries ∧ failure = unshown ∧ ¬Notable entries := by
  refine ⟨admissible_iff_unfaulty differ, fun key report foremost => ⟨?_, ?_⟩,
    fun failure failed => ?_⟩
  · rw [ofDocument_eq_error_iff mapping, error?_ofEntries_iff differ]
    exact .inl ⟨key, report, foremost, rfl⟩
  · obtain ⟨value, -, violates⟩ := foremost.holds
    obtain ⟨literal, shown⟩ | unshown := report.failure_cases document span
    · exact .inl ⟨literal, shown, code_of_violates violates literal⟩
    · exact .inr unshown
  · rw [ofDocument_eq_error_iff mapping, error?_ofEntries_iff differ,
      error?_ofEntries_eq_none_iff differ] at failed
    exact failed

/-- Parameters that are no list are reported, whatever the fields are. -/
theorem ofDocument_rejects_unlisted :
    let entries : List (Value × Value) := [(.text "fields", .list []), (.text "params", .bool true)]
    ofDocument { root := .mapping entries } =
        .error (.ofCause {} (.record (.parametersNotList "bool"))) ∧
      (RecordFault.parametersNotList "bool").code = SchemaKey.parameters.code := by
  intro entries
  let document : Document := { root := .mapping entries }
  have differ : KeysDiffer entries := by simp [KeysDiffer, entries]
  have foremost : Foremost (AtFault document entries) SchemaKey.inOrder .parameters
      ⟨fun _ => .parametersNotList "bool", none⟩ := by
    refine ⟨⟨SchemaKey.inOrder.take 12, [.fields], rfl, ?_⟩, .bool true, by simp [Says, entries,
      SchemaKey.spelling], .parameters nofun⟩
    rintro other member report ⟨value, ⟨written, -⟩, -⟩
    have unwritten : ∀ other ∈ SchemaKey.inOrder.take 12,
        other.spelling ≠ "fields" ∧ other.spelling ≠ "params" := by decide
    simp [entries, unwritten other member] at written
  have mapping : document.resolve document.root = .mapping entries := rfl
  obtain ⟨-, rejects, -⟩ := ofDocument_rejects mapping differ {}
  exact ⟨(rejects _ _ foremost).1, rfl⟩

/-- The value of a field is no text. That is reported as if it were a parameter. -/
theorem field_reported_as_parameter :
    let entries : List (Value × Value) :=
      [(.text "fields", .list [.mapping [(.text "x", .bool true)]])]
    let document : Document := { root := .mapping entries }
    (∃ report, Foremost (AtFault document entries) SchemaKey.inOrder .fields report) ∧
    (∃ fault, ofDocument document = .error (.ofCause {} (.record fault))) ∧
    ∀ fault, ofDocument document = .error (.ofCause {} (.record fault)) →
      fault.code ≠ SchemaKey.fields.code := by
  intro entries document
  have failed : ofDocument document =
      .error (.ofCause {} (.record (.fieldNotText "\x7b'x': True\x7d"))) := rfl
  refine ⟨⟨⟨.fieldNotText, some (.mapping [(.text "x", .bool true)])⟩,
    ⟨SchemaKey.inOrder.take 13, [], rfl, ?_⟩, .list [.mapping [(.text "x", .bool true)]], ?_, ?_⟩,
    ⟨_, failed⟩, ?_⟩
  · rintro other member report ⟨value, ⟨written, -⟩, -⟩
    have unwritten : ∀ other ∈ SchemaKey.inOrder.take 13, other.spelling ≠ "fields" := by decide
    simp [entries, unwritten other member] at written
  · simp [Says, entries, SchemaKey.spelling]
  · exact .field rfl ⟨⟨[], [], rfl, by simp⟩, .text rfl (by simp)⟩
  · intro fault same
    rw [failed] at same
    cases same
    decide

end Record

end InstructionSet
