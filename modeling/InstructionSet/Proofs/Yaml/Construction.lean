import InstructionSet.Yaml.Value.Construction
import InstructionSet.Proofs.Results
import InstructionSet.Proofs.Yaml.Scanning
import InstructionSet.Proofs.Yaml.Values

/-!
# What construction builds

The collections that have been filled are mappings whose keys differ, lists and sets; and no step of
construction fails with a fault of a source, since none reads any more.
-/

set_option autoImplicit false
set_option mvcgen.warning false

open Std.Do

namespace InstructionSet.Yaml

/-! ## Scalars -/

theorem Value.isCollection_ofFloat (node : Option Nat) (result : Float) :
    (ofFloat node result).isCollection = false := by
  unfold ofFloat
  split <;> rfl

namespace ScalarValue

variable {value : Value}

theorem isCollection_bool {text : String} (read : bool text = .ok value) :
    value.isCollection = false := by
  unfold bool at read
  simp only at read
  split at read
  · cases read
    rfl
  · split at read
    · cases read
      rfl
    · cases read

theorem isCollection_int {chars : List Char} (read : int chars = .ok value) :
    value.isCollection = false := by
  unfold int at read
  obtain ⟨⟨negative, unsigned⟩, -, read⟩ := bind_ok read
  obtain ⟨number, -, read⟩ := bind_ok read
  cases read
  rfl

theorem isCollection_float {node : Nat} {chars : List Char} (read : float node chars = .ok value) :
    value.isCollection = false := by
  unfold float at read
  obtain ⟨⟨negative, unsigned⟩, -, read⟩ := bind_ok read
  simp only at read
  split at read
  · cases read
    rfl
  · obtain ⟨number, -, read⟩ := bind_ok read
    cases read
    exact Value.isCollection_ofFloat _ _

theorem isCollection_timestamp {chars : List Char} (read : timestamp chars = .ok value) :
    value.isCollection = false := by
  unfold timestamp at read
  split at read
  · cases read
  · simp only at read
    split at read
    · obtain ⟨date, -, read⟩ := bind_ok read
      cases read
      rfl
    · obtain ⟨offset, -, read⟩ := bind_ok read
      obtain ⟨moment, -, read⟩ := bind_ok read
      cases read
      rfl

end ScalarValue

/-! ## Steps -/

/-- An item that is a value at once is no collection. -/
def Item.Plain : Item → Prop
  | .value scalar => scalar.isCollection = false
  | .collection _ => True

def Filled.KeysDiffer : Filled → Prop
  | .mapping entries => Yaml.KeysDiffer entries
  | .list _ | .pairs _ | .set _ => True

/-- The items met and the collections filled so far are well-formed. -/
structure Construction.Sound (state : Construction) : Prop where
  plain : ∀ entry ∈ state.items, entry.2.Plain
  differ : ∀ entry ∈ state.filled, entry.2.KeysDiffer

@[grind =] theorem Construction.sound_iff (state : Construction) :
    state.Sound ↔ (∀ entry ∈ state.items, entry.2.Plain) ∧
      ∀ entry ∈ state.filled, entry.2.KeysDiffer :=
  ⟨fun ⟨plain, differ⟩ => ⟨plain, differ⟩, fun ⟨plain, differ⟩ => ⟨plain, differ⟩⟩

theorem mem_of_lookup {α : Type} {id : NodeId} {value : α} {entries : List (NodeId × α)}
    (found : entries.lookup id = some value) : (id, value) ∈ entries := by
  obtain ⟨before, after, rfl, -⟩ := List.lookup_eq_some_iff.mp found
  simp

namespace Construct

abbrev Held : Assertion (.arg Construction (.except Fault .pure)) :=
  fun state => ⌜state.Sound⌝

/-- The step gives a value with a property and keeps the state well-formed. -/
abbrev Gives {α : Type} (holds : α → Prop) : PostCond α (.arg Construction (.except Fault .pure)) :=
  post⟨fun value state => ⌜holds value ∧ state.Sound⌝, fun fault => ⌜fault.Within none⌝⟩

abbrev Kept {α : Type} : PostCond α (.arg Construction (.except Fault .pure)) :=
  post⟨fun _ state => ⌜state.Sound⌝, fun fault => ⌜fault.Within none⌝⟩

abbrev Failed {α : Type} : PostCond α (.arg Construction (.except Fault .pure)) :=
  post⟨fun _ _ => ⌜False⌝, fun fault => ⌜fault.Within none⌝⟩

@[spec high] theorem throw_keeps {α : Type} {fault : Fault} (within : fault.Within none) :
    ⦃Held⦄ (throw fault : Construct α) ⦃Failed⦄ := by
  intro state _
  exact within

@[spec] theorem node_keeps (id : NodeId) :
    ⦃Held⦄ node id ⦃Kept⦄ := by
  mvcgen [node]

@[spec] theorem fail_keeps {α : Type} (mark : Mark) (problem : Problem) :
    ⦃Held⦄ fail (α := α) mark problem ⦃Failed⦄ := by
  mvcgen [fail]
  grind

@[spec] theorem failIn_keeps {α : Type} (activity : Activity) (began mark : Mark)
    (problem : Problem) :
    ⦃Held⦄ failIn (α := α) activity began mark problem ⦃Failed⦄ := by
  mvcgen [failIn]
  grind

@[spec] theorem scalarText_keeps (bound : Nat) (id : NodeId) :
    ⦃Held⦄ scalarText bound id ⦃Kept⦄ := by
  induction bound generalizing id with
  | zero => mvcgen [scalarText] <;> grind
  | succ bound ih => mvcgen [scalarText, ih] <;> grind

@[spec] theorem orFail_keeps {result : Except ScalarFault Value}
    (plain : ∀ value, result = .ok value → value.isCollection = false) :
    ⦃Held⦄ orFail result ⦃Gives (·.isCollection = false)⦄ := by
  mvcgen [orFail] <;> grind

@[spec] theorem binary_keeps (text : String) (mark : Mark) :
    ⦃Held⦄ binary text mark ⦃Gives (·.isCollection = false)⦄ := by
  mvcgen [binary] <;> grind [Value.isCollection]

@[spec] theorem scalar_keeps (tag : StandardTag) (id : NodeId) :
    ⦃Held⦄ scalar tag id ⦃Gives (·.isCollection = false)⦄ := by
  mvcgen [scalar] <;> grind [Value.isCollection, ScalarValue.isCollection_bool,
    ScalarValue.isCollection_int, ScalarValue.isCollection_float,
    ScalarValue.isCollection_timestamp]

@[spec] theorem remember_keeps (id : NodeId) {item : Item} (plain : item.Plain) :
    ⦃Held⦄ remember id item ⦃Gives Item.Plain⦄ := by
  mvcgen [remember]
  grind

@[spec] theorem item_keeps (id : NodeId) :
    ⦃Held⦄ item id ⦃Gives Item.Plain⦄ := by
  mvcgen [item] <;> grind [Item.Plain, → mem_of_lookup]

@[spec] theorem setEntries_keeps (id : NodeId) (entries : List (NodeId × NodeId)) :
    ⦃Held⦄ setEntries id entries ⦃Kept⦄ := by
  mvcgen [setEntries]
  grind

@[spec] theorem entries_keeps (id : NodeId) :
    ⦃Held⦄ entries id ⦃Kept⦄ := by
  mvcgen [entries]

@[spec] theorem flattenWith_keeps (bound : Nat) (id : NodeId) (merged : List (NodeId × NodeId)) :
    ⦃Held⦄ flattenWith bound id merged ⦃Kept⦄ := by
  -- The loop over the merged mappings keeps what a call on one of them keeps.
  induction bound generalizing id merged with
  | zero => mvcgen [flattenWith]
  | succ bound ih =>
      mvcgen [flattenWith, ih] invariants
      · post⟨fun _ state => ⌜state.Sound⌝, fun fault => ⌜fault.Within none⌝⟩
      with grind

@[spec] theorem mapM_keeps {α β : Type} {step : α → Construct β}
    (keeps : ∀ value, ⦃Held⦄ step value ⦃Kept⦄) (values : List α) :
    ⦃Held⦄ values.mapM step ⦃Kept⦄ := by
  induction values with
  | nil => mvcgen [List.mapM_nil]
  | cons value values ih =>
      rw [List.mapM_cons]
      mvcgen [keeps, ih]

@[spec] theorem fillEntries_keeps (start : Mark) (entries : List (NodeId × NodeId))
    {done : List (Value × Item)} (differ : KeysDiffer done) :
    ⦃Held⦄ fillEntries start entries done ⦃Gives KeysDiffer⦄ := by
  induction entries generalizing done with
  | nil => mvcgen [fillEntries]
  | cons entry entries ih => mvcgen [fillEntries, ih] <;> grind [KeysDiffer.insertEntry]

@[spec] theorem fillMapping_keeps (id : NodeId) :
    ⦃Held⦄ fillMapping id ⦃Gives KeysDiffer⦄ := by
  mvcgen [fillMapping] <;> grind

@[spec] theorem fillPairs_keeps (activity : Activity) (id : NodeId) :
    ⦃Held⦄ fillPairs activity id ⦃Kept⦄ := by
  mvcgen [fillPairs] <;> grind

@[spec] theorem fill_keeps (id : NodeId) :
    ⦃Held⦄ fill id ⦃Gives Filled.KeysDiffer⦄ := by
  mvcgen [fill] <;> grind [Filled.KeysDiffer]

@[spec] theorem fillAll_keeps (bound : Nat) :
    ⦃Held⦄ fillAll bound ⦃Kept⦄ := by
  induction bound with
  | zero => mvcgen [fillAll]
  | succ bound ih => mvcgen [fillAll, ih] <;> grind

end Construct

/-! ## Documents -/

/-- The keys of the mapping at the root differ, if there is one. -/
def Document.KeysDiffer (document : Document) : Prop :=
  ∀ entries, document.resolve document.root = .mapping entries → Yaml.KeysDiffer entries

namespace Construction

/-- A collection that is written out is no reference to a loop. -/
theorem resolve_valueOf (document : Document) (state : Construction) (loops : List NodeId)
    (bound : Nat) (id : NodeId) :
    document.resolve (state.valueOf loops bound id) = state.valueOf loops bound id := by
  cases bound with
  | zero => rfl
  | succ bound =>
      unfold valueOf
      split
      · rfl
      · next filled _ => cases filled <;> rfl

variable {state : Construction} (sound : state.Sound)

include sound

theorem Sound.keysDiffer_valueOf {loops : List NodeId} {bound : Nat} {id : NodeId}
    {entries : List (Value × Value)} (mapping : state.valueOf loops bound id = .mapping entries) :
    KeysDiffer entries := by
  cases bound with
  | zero => cases mapping
  | succ bound =>
      unfold valueOf at mapping
      split at mapping
      · cases mapping
      · next filled found =>
          have differ := sound.differ _ (mem_of_lookup found)
          cases filled with
          | mapping filledEntries =>
              simp only [Filled.value, Value.mapping.injEq] at mapping
              subst mapping
              exact differ.map _
          | list | pairs | set => cases mapping

theorem Sound.keysDiffer_document {root : Item} (plain : root.Plain) :
    (state.document root).KeysDiffer := by
  intro entries mapping
  cases root with
  | value scalar => cases scalar <;> cases plain <;> cases mapping
  | collection id =>
      simp only [document] at mapping
      split at mapping
      · simp only [Document.resolve] at mapping
        cases found : (state.loops.map fun id =>
            (id, state.valueOf state.loops (state.filled.length + 1) id)).lookup id with
        | none =>
            rw [found] at mapping
            cases mapping
        | some value =>
            rw [found] at mapping
            obtain ⟨other, -, same⟩ := List.mem_map.mp (mem_of_lookup found)
            cases same
            exact sound.keysDiffer_valueOf mapping
      · rw [resolve_valueOf] at mapping
        exact sound.keysDiffer_valueOf mapping

end Construction

/-- What a graph is built into: a document whose keys differ, or a fault that is none of a
source. -/
theorem Graph.document_ends (graph : Graph) :
    match graph.document with
    | .ok document => document.KeysDiffer
    | .error fault => fault.Within none := by
  have steps : ⦃Construct.Held⦄
      (do
        let root ← Construct.item graph.root
        Construct.fillAll (graph.nodes.size + 1)
        return root : Construct Item)
      ⦃Construct.Gives Item.Plain⦄ := by
    mvcgen <;> grind
  have ends := triple_iff.mp steps { graph } ⟨nofun, nofun⟩
  unfold document
  simp only [StateT.run]
  split
  · next document ok =>
    obtain ⟨⟨root, state⟩, ran, built⟩ := bind_ok ok
    rw [ran] at ends
    cases built
    exact ends.2.keysDiffer_document ends.1
  · next fault error =>
    rcases bind_error error with failed | ⟨_, -, built⟩
    · rw [failed] at ends
      exact ends
    · cases built

end InstructionSet.Yaml
