import InstructionSet.Proofs.Decoding
import InstructionSet.Proofs.Record.Loading
import InstructionSet.Proofs.Record.Rewording

/-!
# Positions in a stream

Documents are numbered in the order in which they are presented, empty ones included, and a record
has the number and the line of its document. So the numbers of the records increase, and what ends
a stream is reported under the number of the document where it ends (`ofSource_positions`).
-/

set_option autoImplicit false

namespace InstructionSet

def Yaml.PlacedDocument.isEmpty (placed : Yaml.PlacedDocument) : Bool :=
  match placed.document.root with
  | .null => true
  | _ => false

theorem Yaml.PlacedDocument.isEmpty_iff (placed : Yaml.PlacedDocument) :
    placed.isEmpty = true ↔ placed.document.root = .null := by
  unfold isEmpty
  split <;> simp_all

namespace Record

open Yaml (Document Documents PlacedDocument Source Value readDocuments)

section Span

variable {document : Document} {span : Span} {record : Record}

theorem span_of_ofEntries {entries : List (Value × Value)}
    (decoded : ofEntries document span entries = .ok record) : record.span = span := by
  unfold ofEntries at decoded
  iterate 14 obtain ⟨_, -, decoded⟩ := bind_ok decoded
  cases decoded
  rfl

theorem Decodes.span_eq (decodes : Decodes document span record) : record.span = span := by
  obtain ⟨notes, decoded⟩ := decodes
  unfold ofDocument at decoded
  split at decoded
  · cases decoded
  · obtain ⟨other, read, decoded⟩ := bind_ok decoded
    obtain ⟨keys, -, decoded⟩ := bind_ok decoded
    have placed := span_of_ofEntries read
    split at decoded
    · cases decoded
      exact placed
    · cases decoded
      exact placed

theorem Decodes.root_ne_null (decodes : Decodes document span record) :
    document.root ≠ .null := by
  intro empty
  refine not_decodes (fun entries mapping => ?_) record decodes
  rw [empty] at mapping
  cases mapping

end Span

/-- Documents with their numbers, counted from `index`, except for the empty ones. -/
def numberedFrom (index : Nat) (documents : List PlacedDocument) : List (PlacedDocument × Nat) :=
  (documents.zipIdx index).filter fun numbered => !numbered.1.isEmpty

/-- The record of a document with a number, at the place of the document. -/
structure DecodedAt (source : String) (numbered : PlacedDocument × Nat) (record : Record) :
    Prop where
  decoded : Decodes numbered.1.document (spanOf source numbered.2 numbered.1.line) record
  placed : record.span =
    { file := source, line := numbered.1.line + 1, document := numbered.2 }

variable {source : String}

theorem Passed.decodedAt {index : Nat} {documents : List PlacedDocument} {records : List Record}
    (passed : Passed source index documents records) :
    List.Forall₂ (DecodedAt source) (numberedFrom index documents) records := by
  induction passed with
  | nil => exact .nil
  | @empty _ placed _ _ empty _ ih =>
      have skipped := placed.isEmpty_iff.mpr empty
      rw [numberedFrom, List.zipIdx_cons, List.filter_cons_of_neg (by simp [skipped])]
      exact ih
  | @record _ placed _ _ _ decodes _ ih =>
      have kept : placed.isEmpty = false :=
        Bool.eq_false_iff.mpr fun empty => decodes.root_ne_null (placed.isEmpty_iff.mp empty)
      rw [numberedFrom, List.zipIdx_cons, List.filter_cons_of_pos (by simp [kept])]
      exact .cons ⟨decodes, decodes.span_eq⟩ ih

theorem numberedFrom_increasing (index : Nat) (documents : List PlacedDocument) :
    ((numberedFrom index documents).map Prod.snd).Pairwise (· < ·) := by
  have ordered : ((documents.zipIdx index).map Prod.snd).Pairwise (· < ·) := by
    rw [List.zipIdx_map_snd]
    exact List.pairwise_lt_range'
  exact ordered.sublist (List.filter_sublist.map Prod.snd)

theorem documents_of_decodedAt {numbered : List (PlacedDocument × Nat)} {records : List Record}
    (decoded : List.Forall₂ (DecodedAt source) numbered records) :
    records.map (fun record => record.span.document) =
      numbered.map fun numbered => (numbered.2 : Int) := by
  induction decoded with
  | nil => rfl
  | cons here _ ih => rw [List.map_cons, List.map_cons, ih, here.placed]

/-- The records of a stream are those of its documents up to the one where it ends, without the empty
ones, each at the place of its document, so their numbers increase. A source that is not opened has
none. -/
theorem ofSource_positions (source : String) :
    (∀ fault, ofSource source (.error fault) = .failed (.source fault)) ∧
    (∀ opened, ofSource source (.ok opened) = ofStream source (readDocuments opened)) ∧
    ∀ documents : Documents,
      let loaded := ofStream source documents
      (loaded.items.map fun record => record.span.document).Pairwise (· < ·) ∧
      ∃ count,
        List.Forall₂ (DecodedAt source) (numberedFrom 0 (documents.documents.take count))
          loaded.items ∧
        StopsBehind source documents count loaded.failure? := by
  refine ⟨fun _ => rfl, fun _ => rfl, fun documents => ?_⟩
  obtain ⟨count, passed, stops⟩ := ofStream_stops source documents
  refine ⟨?_, count, passed.decodedAt, stops⟩
  have increasing := numberedFrom_increasing 0 (documents.documents.take count)
  rw [documents_of_decodedAt passed.decodedAt]
  rw [List.pairwise_map] at increasing ⊢
  exact increasing.imp Int.ofNat_lt.mpr

/-- A record, and behind it a flag that is a whole number too long to be shown. -/
def unshownFlag (number : Int) : Documents where
  documents := [⟨0, { root := .mapping [(.text "inst", .text "A")] }⟩,
    ⟨2, { root := .mapping [(.text "is-primitive", .int number)] }⟩]

theorem failure?_unshownFlag {number : Int} (unwritten : Number.wholeText? number = none) :
    (ofStream standardInput (unshownFlag number)).failure? = some unshown := by
  have first : ofDocument { root := .mapping [(.text "inst", .text "A")] }
      (spanOf standardInput 0 0) =
        .ok ({ inst := some "A", span := spanOf standardInput 0 0 }, []) := by cbv
  have second := ofDocument_flag_of_unwritten unwritten (spanOf standardInput 1 2)
  simp only [ofStream, unshownFlag, ofDocuments, decodeThen, Nat.zero_add, first, second]
  rfl

/-- A character that may not stand in a text is met on opening, and a flag is too long to be shown.
Neither failure has a place. -/
theorem stream_ends_unplaced :
    let long := unshownFlag (10 ^ Number.digitLimit)
    (load "inst: \x07\n").failure? = some (.source (.unacceptable 7 Source.textName 6)) ∧
      (ofStream standardInput long).failure? = some unshown ∧
      ∀ span cause, (load "inst: \x07\n").failure? ≠ some (.ofCause span cause) ∧
        (ofStream standardInput long).failure? ≠ some (.ofCause span cause) := by
  intro long
  have character : (load "inst: \x07\n").failure? =
      some (.source (.unacceptable 7 Source.textName 6)) := by
    decide +kernel
  have number : (ofStream standardInput long).failure? = some unshown :=
    failure?_unshownFlag unwritten_power
  exact ⟨character, number, fun span cause => by rw [character, number]; exact ⟨nofun, nofun⟩⟩

end Record

end InstructionSet
