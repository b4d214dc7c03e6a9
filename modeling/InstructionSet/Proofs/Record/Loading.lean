import InstructionSet.Proofs.Admission
import InstructionSet.Proofs.Record.Schema
import InstructionSet.Proofs.Yaml.Parsing
import InstructionSet.Record.Load

/-!
# How a stream of records ends

The documents of a source become records in order, up to the first that is broken. A broken document
is reported with the source and its number. Three kinds of faults are passed on without them: bytes
that are no characters, scalars without a value, and whole numbers too long to be shown.

A source is not opened at all if a character that may not stand in a text is met on opening. That
fault is passed on, too, although it is reported where the reader meets it later.
-/

set_option autoImplicit false

namespace InstructionSet

namespace Yaml.Source

/-! ## Opening a source -/

/-- Code points that may all stand in a text. -/
def Acceptable (codes : List Nat) : Prop := ∀ code ∈ codes, isAcceptable code = true

theorem firstUnacceptable?_eq_none_iff (position : Nat) (codes : List Nat) :
    firstUnacceptable? position codes = none ↔ Acceptable codes := by
  unfold Acceptable
  induction codes generalizing position with
  | nil => simp [firstUnacceptable?]
  | cons code rest ih =>
      rw [firstUnacceptable?, List.forall_mem_cons]
      cases acceptable : isAcceptable code with
      | false => simp
      | true => simp [ih]

theorem check_eq_none_iff (name : String) (position : Nat) (piece : List Nat) :
    check name position piece = none ↔ Acceptable piece := by
  rw [check, Option.map_eq_none_iff, firstUnacceptable?_eq_none_iff]

theorem check_eq_some {name : String} {position : Nat} {piece : List Nat} {fault : SourceFault}
    (failed : check name position piece = some fault) :
    ¬ Acceptable piece ∧ ∃ code place, fault = .unacceptable code name place := by
  refine ⟨fun acceptable => ?_, ?_⟩
  · rw [(check_eq_none_iff name position piece).mpr acceptable] at failed
    cases failed
  · obtain ⟨⟨code, place⟩, -, same⟩ := Option.map_eq_some_iff.mp failed
    exact ⟨code, place, same.symm⟩

/-- How a text is opened: it has no fault, or a character that may not stand there. -/
theorem ofText_cases (text : String) :
    (Acceptable (Text.codes text.toList) ∧
      ∃ opened, ofText text = .ok opened ∧ opened.fault = none) ∨
    (¬ Acceptable (Text.codes text.toList) ∧
      ∃ code place, ofText text = .error (.unacceptable code textName place)) := by
  unfold ofText
  cases checked : check textName 0 (Text.codes text.toList) with
  | none => exact .inl ⟨(check_eq_none_iff _ _ _).mp checked, _, by simp only [checked]; rfl, rfl⟩
  | some fault =>
      obtain ⟨unacceptable, code, place, rfl⟩ := check_eq_some checked
      exact .inr ⟨unacceptable, code, place, by simp only [checked]⟩

theorem undecodable_of_readable {name : String} {end_ : Option SourceFault} {position : Nat}
    {pieces : List (List Nat)} {fault : Text.Utf8.Fault}
    (ended : (readable name end_ position pieces).2 = some (.undecodable fault)) :
    end_ = some (.undecodable fault) := by
  induction pieces generalizing position with
  | nil => exact ended
  | cons piece rest ih =>
      unfold readable at ended
      split at ended
      · next failed =>
          obtain ⟨-, code, place, rfl⟩ := check_eq_some failed
          cases ended
      · exact ih ended

/-- How a text in pieces is opened: its first two pieces can be read, or they cannot because of a
character or because of the bytes. -/
theorem ofPieces_cases (name : String) (pieces : Text.Pieces) :
    (Acceptable (pieces.texts.take 2).flatten ∧ ∃ opened, ofPieces name pieces = .ok opened ∧
      ∀ fault, opened.fault = some (.undecodable fault) → pieces.fault = some fault) ∨
    (¬ Acceptable (pieces.texts.take 2).flatten ∧
      ∃ code place, ofPieces name pieces = .error (.unacceptable code name place)) ∨
    pieces.texts.length < 2 ∧
      ∃ fault, pieces.fault = some fault ∧ ofPieces name pieces = .error (.undecodable fault) := by
  unfold ofPieces
  cases early : (if pieces.texts.length < 2 then pieces.fault.map SourceFault.undecodable
    else none) with
  | some held =>
      split at early
      · next short =>
          obtain ⟨fault, met, rfl⟩ := Option.map_eq_some_iff.mp early
          exact .inr (.inr ⟨short, fault, met, by simp only [short, if_true, met, Option.map_some]⟩)
      · cases early
  | none =>
      cases checked : check name 0 (pieces.texts.take 2).flatten with
      | some fault =>
          obtain ⟨unacceptable, code, place, rfl⟩ := check_eq_some checked
          exact .inr (.inl ⟨unacceptable, code, place, by simp only [early, checked]⟩)
      | none =>
          refine .inl
            ⟨(check_eq_none_iff _ _ _).mp checked, _, by simp only [early, checked]; rfl, ?_⟩
          intro fault ended
          obtain ⟨same, met, inj⟩ := Option.map_eq_some_iff.mp (undecodable_of_readable ended)
          cases inj
          exact met

theorem undecodable_of_ofPieces {name : String} {pieces : Text.Pieces} {fault : Text.Utf8.Fault}
    (met : ofPieces name pieces = .error (.undecodable fault) ∨
      ∃ opened, ofPieces name pieces = .ok opened ∧ opened.fault = some (.undecodable fault)) :
    pieces.fault = some fault := by
  obtain ⟨-, opened, opens, late⟩ | ⟨-, code, place, closed⟩ | ⟨-, held, early, closed⟩ :=
    ofPieces_cases name pieces
  · rw [opens] at met
    obtain failed | ⟨other, same, ended⟩ := met
    · cases failed
    · cases same
      exact late fault ended
  · rw [closed] at met
    obtain failed | ⟨other, succeeded, -⟩ := met
    · cases failed
    · cases succeeded
  · rw [closed] at met
    obtain failed | ⟨other, succeeded, -⟩ := met
    · cases failed
      exact early
    · cases succeeded

end Yaml.Source

namespace Record

open Yaml (Document Documents PlacedDocument Source readDocuments)
open Yaml.Source (Acceptable)

/-! ## What ends a stream -/

/-- Documents that are passed, numbered from `index`, and the records that they give. -/
inductive Passed (source : String) : Nat → List PlacedDocument → List Record → Prop where
  | nil (index : Nat) : Passed source index [] []
  | empty {index : Nat} {placed : PlacedDocument} {rest : List PlacedDocument}
      {records : List Record} :
      placed.document.root = .null → Passed source (index + 1) rest records →
      Passed source index (placed :: rest) records
  | record {index : Nat} {placed : PlacedDocument} {rest : List PlacedDocument} {record : Record}
      {records : List Record} :
      Decodes placed.document (spanOf source index placed.line) record →
      Passed source (index + 1) rest records →
      Passed source index (placed :: rest) (record :: records)

/-- What is reported of a broken document: its value is no record, or the text behind the documents
before it is at fault. The span has the source and the number of the document. -/
inductive Broken (source : String) (documents : Documents) (index : Nat) : Failure → Prop where
  | schema {placed : PlacedDocument} {fault : RecordFault} :
      documents.documents[index]? = some placed →
      (∀ record, ¬ Decodes placed.document (spanOf source index placed.line) record) →
      Broken source documents index
        (.ofCause { file := source, line := placed.line + 1, document := index } (.record fault))
  | located {fault : Yaml.LocatedFault} :
      documents.documents.length = index → documents.fault = some (.located fault) →
      Broken source documents index
        (.ofCause
          { file := source, line := fault.mark.line + 1, column := fault.mark.column + 1
            document := index }
          (.malformedDocument fault.problem.message))
  | character {code place : Nat} {name : String} :
      documents.documents.length = index →
      documents.fault = some (.source (.unacceptable code name place)) →
      Broken source documents index
        (.ofCause { file := source, document := index }
          (.malformedDocument (Yaml.SourceFault.unacceptable code name place).message))

/-- What is passed on at a document: the bytes of the text are no characters, a scalar has no value,
or a whole number is too long to be shown. -/
inductive PassedOn (documents : Documents) (index : Nat) : Failure → Prop where
  | bytes {fault : Text.Utf8.Fault} :
      documents.documents.length = index →
      documents.fault = some (.source (.undecodable fault)) →
      PassedOn documents index (.source (.undecodable fault))
  | scalar {fault : Yaml.ScalarFault} :
      documents.documents.length = index → documents.fault = some (.scalar fault) →
      PassedOn documents index (.scalar fault)
  | number {placed : PlacedDocument} :
      documents.documents[index]? = some placed →
      placed.document.Overlong placed.document.root → PassedOn documents index unshown

/-- How the records of documents end: behind the last document, at one that is broken, or at one
where a failure is passed on. -/
inductive Loads (source : String) (documents : Documents) :
    List Record → Option Failure → Prop where
  | all {records : List Record} :
      documents.fault = none → Passed source 0 documents.documents records →
      Loads source documents records none
  | broken {records : List Record} {index : Nat} {failure : Failure} :
      Passed source 0 (documents.documents.take index) records →
      Broken source documents index failure → Loads source documents records (some failure)
  | passedOn {records : List Record} {index : Nat} {failure : Failure} :
      Passed source 0 (documents.documents.take index) records →
      PassedOn documents index failure → Loads source documents records (some failure)

/-! ## The documents of a stream, one by one -/

section Documents

variable {source : String} (end_ : Nat → Trace Record)

theorem content_decodeThen {document : Document} {span : Span} {record : Record}
    {notes : List Note} (decoded : ofDocument document span = .ok (record, notes))
    (rest : Trace Record) :
    (decodeThen document span rest).content = (record :: rest.content.1, rest.content.2) := by
  simp only [decodeThen, decoded]
  exact Trace.content_withNotes notes _

/-- A document ends the stream, or is passed and adds its record to those that follow. -/
theorem ofDocuments_cons (index : Nat) (placed : PlacedDocument) (rest : List PlacedDocument) :
    (∃ failure, placed.document.root ≠ .null ∧
      ofDocument placed.document (spanOf source index placed.line) = .error failure ∧
      ofDocuments source end_ index (placed :: rest) = .failed failure) ∨
    ∃ given,
      (∀ later records, Passed source (index + 1) later records →
        Passed source index (placed :: later) (given ++ records)) ∧
      (ofDocuments source end_ index (placed :: rest)).content =
        (given ++ (ofDocuments source end_ (index + 1) rest).content.1,
          (ofDocuments source end_ (index + 1) rest).content.2) := by
  by_cases empty : placed.document.root = .null
  · refine .inr ⟨[], fun later records => .empty empty, ?_⟩
    simp only [ofDocuments, empty]
    rfl
  · have step : ofDocuments source end_ index (placed :: rest) =
        decodeThen placed.document (spanOf source index placed.line)
          (ofDocuments source end_ (index + 1) rest) := by
      rw [ofDocuments]
      split
      · next root => exact absurd root empty
      · rfl
    rw [step]
    cases decoded : ofDocument placed.document (spanOf source index placed.line) with
    | error failure => exact .inl ⟨failure, empty, rfl, by simp only [decodeThen, decoded]⟩
    | ok result =>
        exact .inr ⟨[result.1], fun later records => .record ⟨result.2, decoded⟩,
          content_decodeThen decoded _⟩

theorem ofDocuments_cases (index : Nat) (documents : List PlacedDocument) :
    (∃ records, Passed source index documents records ∧
      (ofDocuments source end_ index documents).content =
        (records ++ (end_ (index + documents.length)).items,
          (end_ (index + documents.length)).failure?)) ∨
    ∃ before placed after records failure, documents = before ++ placed :: after ∧
      Passed source index before records ∧ placed.document.root ≠ .null ∧
      ofDocument placed.document (spanOf source (index + before.length) placed.line) =
        .error failure ∧
      (ofDocuments source end_ index documents).content = (records, some failure) := by
  induction documents generalizing index with
  | nil => exact .inl ⟨[], .nil index, rfl⟩
  | cons placed rest ih =>
      obtain ⟨failure, written, refused, ended⟩ | ⟨given, passed, content⟩ :=
        ofDocuments_cons end_ index placed rest
      · exact .inr
          ⟨[], placed, rest, [], failure, rfl, .nil index, written, refused, by rw [ended]; rfl⟩
      · -- The document adds what it gives in front, whatever happens behind it.
        rw [content]
        rcases ih (index + 1) with ⟨records, all, behind⟩ |
          ⟨before, found, after, records, failure, rfl, passedBefore, written, refused, behind⟩
        · refine .inl ⟨given ++ records, passed rest records all, ?_⟩
          rw [behind, List.length_cons, Nat.add_right_comm index 1, List.append_assoc]
          rfl
        · refine .inr ⟨placed :: before, found, after, given ++ records, failure, rfl,
            passed before records passedBefore, written, ?_, by rw [behind]⟩
          rw [List.length_cons, ← refused, Nat.add_right_comm index 1]
          rfl

end Documents

theorem broken_or_passedOn {source : String} {documents : Documents} {index : Nat}
    {placed : PlacedDocument} {failure : Failure}
    (found : documents.documents[index]? = some placed)
    (refused : ofDocument placed.document (spanOf source index placed.line) = .error failure) :
    Broken source documents index failure ∨ PassedOn documents index failure := by
  obtain ⟨fault, rfl⟩ | ⟨rfl, overlong⟩ := refused_of_ofDocument refused
  · refine .inl (.schema found ?_)
    rintro record ⟨notes, decoded⟩
    rw [refused] at decoded
    cases decoded
  · exact .inr (.number found overlong)

theorem broken_or_passedOn_failureOf (source : String) {documents : Documents} {index : Nat}
    (behind : documents.documents.length = index) {fault : Yaml.Fault}
    (ended : documents.fault = some fault) :
    Broken source documents index (failureOf source index fault) ∨
      PassedOn documents index (failureOf source index fault) := by
  cases fault with
  | located fault => exact .inl (.located behind ended)
  | scalar fault => exact .inr (.scalar behind ended)
  | source fault =>
      cases fault with
      | unacceptable code name place => exact .inl (.character behind ended)
      | undecodable fault => exact .inr (.bytes behind ended)

/-- What stands behind the last document of a stream. -/
def ending (source : String) (documents : Documents) (index : Nat) : Trace Record :=
  match documents.fault with
  | none => .done
  | some fault => .failed (failureOf source index fault)

/-- A stream stops behind the first `count` of its documents: there are no more, or the next one is
broken or a failure is passed on there. Empty documents stop nothing. -/
structure StopsBehind (source : String) (documents : Documents) (count : Nat)
    (failure? : Option Failure) : Prop where
  within : count ≤ documents.documents.length
  written : ∀ placed, documents.documents[count]? = some placed → placed.document.root ≠ .null
  reason : (count = documents.documents.length ∧ documents.fault = none ∧ failure? = none) ∨
    ∃ failure, failure? = some failure ∧
      (Broken source documents count failure ∨ PassedOn documents count failure)

theorem ofStream_stops (source : String) (documents : Documents) :
    ∃ count,
      Passed source 0 (documents.documents.take count) (ofStream source documents).items ∧
      StopsBehind source documents count (ofStream source documents).failure? := by
  have same : ofStream source documents =
      ofDocuments source (ending source documents) 0 documents.documents := rfl
  rw [same]
  obtain ⟨records, all, content⟩ | ⟨before, placed, after, records, failure, order, passed, written,
      refused, content⟩ := ofDocuments_cases (ending source documents) 0 documents.documents
  · -- All documents are passed, so the end is the one behind them.
    obtain ⟨items, failure⟩ := Prod.mk.inj content
    have unfailing : (ending source documents (0 + documents.documents.length)).items = [] := by
      unfold ending
      split <;> rfl
    rw [items, failure, unfailing, List.append_nil, Nat.zero_add]
    refine ⟨documents.documents.length, List.take_length.symm ▸ all, Nat.le_refl _, by simp, ?_⟩
    unfold ending
    cases ended : documents.fault with
    | none => exact .inl ⟨rfl, rfl, rfl⟩
    | some fault => exact .inr ⟨_, rfl, broken_or_passedOn_failureOf source rfl ended⟩
  · -- The document that is refused has the number of those before it.
    obtain ⟨items, failure⟩ := Prod.mk.inj content
    have front : documents.documents.take before.length = before := by
      rw [order, List.take_left]
    have found : documents.documents[before.length]? = some placed := by
      rw [order]
      simp
    rw [items, failure]
    rw [Nat.zero_add] at refused
    refine ⟨before.length, front.symm ▸ passed, by simp [order], ?_,
      .inr ⟨_, rfl, broken_or_passedOn found refused⟩⟩
    rintro other same
    rw [found] at same
    cases same
    exact written

theorem ofStream_loads (source : String) (documents : Documents) :
    Loads source documents (ofStream source documents).items
      (ofStream source documents).failure? := by
  obtain ⟨count, passed, -, -, ⟨rfl, ended, finished⟩ | ⟨failure, failed, broken | passedOn⟩⟩ :=
    ofStream_stops source documents
  · rw [List.take_length] at passed
    rw [finished]
    exact .all ended passed
  · rw [failed]
    exact .broken passed broken
  · rw [failed]
    exact .passedOn passed passedOn

/-! ## Texts and pieces -/

theorem load_cases (text source : String) :
    (Acceptable (Text.codes text.toList) ∧ ∃ opened, Source.ofText text = .ok opened ∧
      (∀ held, (readDocuments opened).fault ≠ some (.source held)) ∧
      Loads source (readDocuments opened) (load text source).items (load text source).failure?) ∨
    (¬ Acceptable (Text.codes text.toList) ∧
      ∃ code place,
        load text source = .failed (.source (.unacceptable code Source.textName place))) := by
  obtain ⟨acceptable, opened, opens, faultless⟩ | ⟨unacceptable, code, place, closed⟩ :=
    Source.ofText_cases text
  · refine .inl ⟨acceptable, opened, opens, fun held ended => ?_, ?_⟩
    · -- A reader can only hand on the fault of its source, and a text as a whole has none.
      have within := (Yaml.readDocuments_sound opened).1 _ ended
      rw [faultless] at within
      cases within
    · rw [load, opens]
      exact ofStream_loads source (readDocuments opened)
  · exact .inr ⟨unacceptable, code, place, by rw [load, closed]; rfl⟩

theorem loadPieces_cases (name : String) (pieces : Text.Pieces) (source : String) :
    (Acceptable (pieces.texts.take 2).flatten ∧ ∃ opened, Source.ofPieces name pieces = .ok opened ∧
      (∀ fault, (readDocuments opened).fault = some (.source (.undecodable fault)) →
        pieces.fault = some fault) ∧
      Loads source (readDocuments opened) (loadPieces name pieces source).items
        (loadPieces name pieces source).failure?) ∨
    (¬ Acceptable (pieces.texts.take 2).flatten ∧ ∃ code place,
      loadPieces name pieces source = .failed (.source (.unacceptable code name place))) ∨
    ∃ fault, pieces.fault = some fault ∧
      loadPieces name pieces source = .failed (.source (.undecodable fault)) := by
  obtain ⟨acceptable, opened, opens, bytes⟩ | ⟨unacceptable, code, place, closed⟩ |
      ⟨-, fault, met, closed⟩ := Source.ofPieces_cases name pieces
  · refine .inl ⟨acceptable, opened, opens, fun fault ended => ?_, ?_⟩
    · exact bytes fault ((Yaml.readDocuments_sound opened).1 _ ended)
    · rw [loadPieces, opens]
      exact ofStream_loads source (readDocuments opened)
  · exact .inr (.inl ⟨unacceptable, code, place, by rw [loadPieces, closed]; rfl⟩)
  · exact .inr (.inr ⟨fault, met, by rw [loadPieces, closed]; rfl⟩)

/-- How the records of a text end, whether it is given as a whole or in pieces. If its characters
may stand in a text, the documents up to the end or to the first broken one are decoded, and a
broken one is reported with the source and its number, unless its fault is one of those that are
passed on. A text given as a whole has none in its bytes. A character that may not stand in a text,
or bytes that are no characters, met on opening are passed on before anything is read. The depth to
which collections may be nested has no limit in the model (`Yaml.Fault`). -/
theorem load_ends (source : String) :
    (∀ text : String,
      (Acceptable (Text.codes text.toList) ∧ ∃ opened, Source.ofText text = .ok opened ∧
        (∀ held, (readDocuments opened).fault ≠ some (.source held)) ∧
        Loads source (readDocuments opened) (load text source).items
          (load text source).failure?) ∨
      (¬ Acceptable (Text.codes text.toList) ∧ ∃ code place,
        load text source = .failed (.source (.unacceptable code Source.textName place)))) ∧
    ∀ (name : String) (pieces : Text.Pieces),
      (Acceptable (pieces.texts.take 2).flatten ∧ ∃ opened,
        Source.ofPieces name pieces = .ok opened ∧
        (∀ fault, (readDocuments opened).fault = some (.source (.undecodable fault)) →
          pieces.fault = some fault) ∧
        Loads source (readDocuments opened) (loadPieces name pieces source).items
          (loadPieces name pieces source).failure?) ∨
      (¬ Acceptable (pieces.texts.take 2).flatten ∧ ∃ code place,
        loadPieces name pieces source = .failed (.source (.unacceptable code name place))) ∨
      ∃ fault, pieces.fault = some fault ∧
        loadPieces name pieces source = .failed (.source (.undecodable fault)) :=
  ⟨fun text => load_cases text source, fun name pieces => loadPieces_cases name pieces source⟩

/-- The second of two documents ends inside a list. -/
theorem load_ends_unclosed :
    ∃ opened, Source.ofText "inst: A\n---\ninst: [\n" = .ok opened ∧
      Loads standardInput (readDocuments opened)
        [{ inst := some "A", span := { file := standardInput, line := 1, document := 0 } }]
        (some (.ofCause { file := standardInput, line := 4, column := 1, document := 1 }
          (.malformedDocument "expected the node content, but found '<stream end>'"))) := by
  have items : (load "inst: A\n---\ninst: [\n").items =
      [{ inst := some "A", span := { file := standardInput, line := 1, document := 0 } }] := by
    decide +kernel
  have failure : (load "inst: A\n---\ninst: [\n").failure? =
      some (.ofCause { file := standardInput, line := 4, column := 1, document := 1 }
        (.malformedDocument "expected the node content, but found '<stream end>'")) := by
    decide +kernel
  obtain ⟨-, opened, opens, -, loads⟩ | ⟨-, code, place, unopened⟩ :=
    (load_ends standardInput).1 "inst: A\n---\ninst: [\n"
  · exact ⟨opened, opens, items ▸ failure ▸ loads⟩
  · rw [unopened] at failure
    cases failure

/-- A character that may not stand in a text, and a date in a thirteenth month. -/
theorem load_passes_on :
    (load "\x01").failure? = some (.source (.unacceptable 1 Source.textName 0)) ∧
      (load "inst: 2001-13-01\n").failure? = some (.scalar (.calendar .month)) ∧
      ∀ text ∈ ["\x01", "inst: 2001-13-01\n"], ∀ span cause,
        (load text).failure? ≠ some (.ofCause span cause) := by
  have character : (load "\x01").failure? = some (.source (.unacceptable 1 Source.textName 0)) := by
    decide +kernel
  have date : (load "inst: 2001-13-01\n").failure? = some (.scalar (.calendar .month)) := by
    decide +kernel
  refine ⟨character, date, List.forall_mem_cons.mpr ⟨?_, List.forall_mem_singleton.mpr ?_⟩⟩
  · rw [character]
    nofun
  · rw [date]
    nofun

end Record

end InstructionSet
