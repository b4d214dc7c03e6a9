import InstructionSet.Record.Decode
import InstructionSet.Proofs.Results

/-!
# Decoding of records

What is known of a record because it has been decoded from a document.
-/

set_option autoImplicit false

namespace InstructionSet

namespace Record

open Yaml (Value Document)

variable {document : Document} {span : Span} {entries : List (Value × Value)}

theorem decodeFields_ne_nil {fields : Option (List Field)}
    (decoded : decodeFields document span entries = .ok fields) : fields ≠ some [] := by
  unfold decodeFields at decoded
  cases found : lookup? entries "fields" with
  | none =>
      simp only [found] at decoded
      cases decoded
      nofun
  | some value =>
      simp only [found] at decoded
      cases listed : items? document value with
      | none => simp [listed, refuseUnseen] at decoded
      | some items =>
          cases items with
          | nil => simp [listed, refuseUnseen] at decoded
          | cons item items =>
              simp only [listed] at decoded
              cases read : (item :: items).mapM (decodeField document span) with
              | error failure =>
                  rw [read] at decoded
                  cases decoded
              | ok fields =>
                  rw [read] at decoded
                  cases decoded
                  have nonempty := mapM_ne_nil read (List.cons_ne_nil item items)
                  simpa using nonempty

theorem decodeFields_of_ofEntries {record : Record}
    (decoded : ofEntries document span entries = .ok record) :
    decodeFields document span entries = .ok record.fields := by
  unfold ofEntries at decoded
  -- The fields are decoded last, behind the texts, the flags and the parameters.
  iterate 13 obtain ⟨_, -, decoded⟩ := bind_ok decoded
  obtain ⟨fields, found, decoded⟩ := bind_ok decoded
  cases decoded
  exact found

theorem fields_ne_nil_of_ofDocument {record : Record} {notes : List Note}
    (decoded : ofDocument document span = .ok (record, notes)) : record.fields ≠ some [] := by
  unfold ofDocument at decoded
  cases found : entries? document document.root with
  | none => simp [found, refuseUnseen] at decoded
  | some entries =>
      simp only [found] at decoded
      obtain ⟨other, read, decoded⟩ := bind_ok decoded
      obtain ⟨keys, -, decoded⟩ := bind_ok decoded
      have fields := decodeFields_ne_nil (decodeFields_of_ofEntries read)
      split at decoded
      · cases decoded
        exact fields
      · cases decoded
        exact fields

end Record

end InstructionSet
