import InstructionSet.Proofs.Emission
import InstructionSet.Proofs.Reading.StringLiterals

/-!
# Public names

An entry of the table of primitives publishes the name of its record in a string literal. The name
stands there as it is, so what the literal publishes is the name only if nothing in the name means
something else there.
-/

set_option autoImplicit false

namespace InstructionSet

open Text.Utf8 (encode)
open Reading (Plain)

namespace PrimitiveTable

/-- What an entry begins with, up to the quote that opens its literal. -/
def opening (unit : String) : String := Printer.indentation unit 4 ++ "(\x22"

/-- What the literal of an entry stands for, and what stands behind the literal. -/
def published? (unit chunk : String) : Option (List UInt8 × List Char) :=
  if (opening unit).toList.isPrefixOf chunk.toList then
    Reading.read? (chunk.toList.drop (opening unit).toList.length)
  else none

/-- A chunk is an entry of a record if it has the name of the record between the quotes of its
literal. The literal is read as the name up to these quotes exactly if the name is plain. -/
def Entry (unit : String) (record : Record) (chunk : String) : Prop :=
  ∃ name behind, record.name = some name ∧ name ≠ "" ∧
    chunk = opening unit ++ name ++ "\x22,\n" ++ behind ∧
    (published? unit chunk = some (encode name.toList, (",\n" ++ behind).toList) ↔
      Plain name.toList)

theorem published?_opening (unit text : String) :
    published? unit (opening unit ++ text) = Reading.read? text.toList := by
  simp [published?]

theorem name_of_selects {record : Record}
    (selected : Artifact.primitiveTable.selects record = true) :
    ∃ name, record.name = some name ∧ name ≠ "" := by
  obtain ⟨-, tracked⟩ := Bool.and_eq_true_iff.mp selected
  obtain ⟨name, given⟩ := Option.isSome_iff_exists.mp tracked
  obtain ⟨named, written⟩ := Option.filter_eq_some_iff.mp given
  exact ⟨name, named, by simpa using written⟩

/-- The text of a record that lacks nothing is an entry of it. -/
theorem entry_text {pass : Pass} (writes : pass.artifact = some .primitiveTable) {record : Record}
    (selected : Artifact.primitiveTable.selects record = true)
    (complete : Artifact.primitiveTable.lacks? record = none) :
    Entry pass.config.indent record (pass.text record) := by
  obtain ⟨⟨inst, node, -⟩, spliced⟩ := Artifact.present_of_lacks? complete
  obtain ⟨signature, present⟩ := spliced .type rfl
  obtain ⟨name, named, written⟩ := name_of_selects selected
  let others : List Row := ⟨5, "begin"⟩ :: (Text.lines signature).map (Row.mk 6) ++
    [⟨5, "end,"⟩, ⟨5, wrapperOf inst record.arity⟩, ⟨4, ");"⟩]
  -- The first row ends the literal, so the rest of it and all other rows are behind.
  let behind := Row.renderAll pass.config.indent others
  have rows : ((pass.layout record).sheet 0).rows =
      ⟨4, "(\x22" ++ publicName record ++ "\x22,"⟩ :: others := by
    simp only [Pass.layout, writes, sheet_entry node present]
    rfl
  have split : pass.text record = opening pass.config.indent ++ name ++ "\x22,\n" ++ behind := by
    simp [Pass.text, rows, behind, Row.renderAll_cons, Row.render, opening, publicName, named,
      String.append_assoc]
  refine ⟨name, behind, named, written, split, ?_⟩
  have quoted : opening pass.config.indent ++ name ++ "\x22,\n" ++ behind =
      opening pass.config.indent ++ (name ++ ("\x22,\n" ++ behind)) := by
    simp only [String.append_assoc]
  have closed : ("\x22,\n" ++ behind).toList = '\x22' :: (",\n" ++ behind).toList := by
    rw [String.toList_append, String.toList_append]
    rfl
  rw [split, quoted, published?_opening, String.toList_append, closed]
  exact Reading.read?_eq_some_iff

theorem name_eq_of_published {unit other : String} {first second : Record} {chunk more : String}
    (entry : Entry unit first chunk) (entryToo : Entry other second more)
    (plain : ∀ name ∈ first.name, Plain name.toList)
    (plainToo : ∀ name ∈ second.name, Plain name.toList)
    (same : (published? unit chunk).map Prod.fst = (published? other more).map Prod.fst) :
    first.name = second.name := by
  obtain ⟨name, behind, named, -, -, reads⟩ := entry
  obtain ⟨otherName, otherBehind, namedToo, -, -, readsToo⟩ := entryToo
  rw [reads.mpr (plain name named), readsToo.mpr (plainToo otherName namedToo)] at same
  have spelled := Text.Utf8.encode_injective (Option.some.inj same)
  rw [named, namedToo, String.toList_inj.mp spelled]

end PrimitiveTable

/-- The entries of the table of primitives have the names of their records between the quotes of
their literals, as they are. Such a literal is read as the name exactly if the name has no double
quote and no backslash. So entries of records whose names have neither publish the same primitive
only if the names are equal. -/
theorem primitive_names_published (config : Config) (duplicates : DuplicatePolicy)
    (rules : RuleTable) (records : Trace Record) :
    let pass : Pass := { artifact := some .primitiveTable, config, duplicates, rules }
    let selected := records.items.filter Artifact.primitiveTable.selects
    (∃ written, written <+: selected ∧
      ((pass.emit records).failure? = none → written = selected) ∧
      List.Forall₂ (PrimitiveTable.Entry config.indent) written (pass.emit records).items) ∧
    ∀ (unit other : String) (first second : Record) (chunk more : String),
      PrimitiveTable.Entry unit first chunk → PrimitiveTable.Entry other second more →
      (∀ name ∈ first.name, Plain name.toList) → (∀ name ∈ second.name, Plain name.toList) →
      (PrimitiveTable.published? unit chunk).map Prod.fst =
        (PrimitiveTable.published? other more).map Prod.fst →
      first.name = second.name := by
  intro pass selected
  have writes : pass.artifact = some .primitiveTable := rfl
  let accepted := (Artifact.primitiveTable.stop? duplicates).accept records.failure? [] selected
  have front : accepted.1 <+: selected :=
    (Artifact.primitiveTable.stop? duplicates).accept_isPrefix records.failure? [] selected
  refine ⟨⟨accepted.1, front, ?_, ?_⟩, ?_⟩
  · intro finished
    rw [Pass.failure?_emit writes] at finished
    exact (Guard.ending_of_accept_eq_none finished).2
  · rw [Pass.items_emit_of_ne writes (by decide), List.forall₂_map_right_iff, List.forall₂_same]
    intro record member
    have selects := (List.mem_filter.mp (front.subset member)).2
    exact PrimitiveTable.entry_text writes selects (Artifact.complete_of_mem_accept member)
  · intro unit other first second chunk more entry entryToo plain plainToo same
    exact PrimitiveTable.name_eq_of_published entry entryToo plain plainToo same

/-- Two records may have one name. -/
theorem primitive_name_published_twice :
    let pass : Pass := { artifact := some .primitiveTable }
    let first : Record :=
      { inst := some "Add", name := some "add", isPrimitive := true, type := some "int" }
    let second : Record := { first with inst := some "Plus" }
    ∃ chunk more, (pass.emit (Record.inOrder [first, second])).items = [chunk, more] ∧
      PrimitiveTable.Entry "  " first chunk ∧ PrimitiveTable.Entry "  " second more ∧
      first.name = second.name := by
  intro pass first second
  obtain ⟨⟨written, -, whole, entries⟩, unique⟩ :=
    primitive_names_published {} .warn .standard (Record.inOrder [first, second])
  have finished : (pass.emit (Record.inOrder [first, second])).failure? = none := by
    decide +kernel
  obtain rfl : written = [first, second] := whole finished
  obtain ⟨chunk, others, entry, behind, items⟩ := List.forall₂_cons_left_iff.mp entries
  obtain ⟨more, nothing, entryToo, last, rfl⟩ := List.forall₂_cons_left_iff.mp behind
  obtain rfl := List.forall₂_nil_left_iff.mp last
  have plain : ∀ name ∈ some "add", Plain name.toList := by
    intro name named
    cases named
    decide
  have published {record : Record} {chunk : String} (entry : PrimitiveTable.Entry "  " record chunk)
      (named : record.name = some "add") :
      (PrimitiveTable.published? "  " chunk).map Prod.fst = some (encode "add".toList) := by
    obtain ⟨name, behind, given, -, -, reads⟩ := entry
    obtain rfl : "add" = name := Option.some.inj (named.symm.trans given)
    rw [reads.mpr (plain "add" rfl)]
    rfl
  have same := (published entry rfl).trans (published entryToo rfl).symm
  exact ⟨chunk, more, items, entry, entryToo,
    unique "  " "  " first second chunk more entry entryToo plain plain same⟩

/-- A name with an escape publishes what the escape stands for, as another name does. -/
theorem escape_published :
    let pass : Pass := { artifact := some .primitiveTable }
    let first : Record :=
      { inst := some "A", name := some "\x5cx61", isPrimitive := true, type := some "int" }
    let second : Record := { first with inst := some "B", name := some "a" }
    ((pass.emit (Record.inOrder [first, second])).items.map fun chunk =>
        (PrimitiveTable.published? "  " chunk).map Prod.fst) =
      [some (encode "a".toList), some (encode "a".toList)] ∧
    encode "\x5cx61".toList ≠ encode "a".toList ∧ first.name ≠ second.name := by
  decide +kernel

end InstructionSet
