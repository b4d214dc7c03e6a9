import InstructionSet.Config.Load
import InstructionSet.Proofs.Record.Rewording
import InstructionSet.Proofs.Yaml.Parsing

/-!
# Configurations

`Judged` says what becomes of a document that should be a configuration, and decodes nothing: it is
one exactly if it is a mapping from known keys to texts, and which one is a matter of what the
mapping has under the keys. Otherwise there is one fault that is reported, and unknown keys are
reported before all values. That is what `Config.ofSource` does (`ofSource_judged`), and it follows
when there is a configuration and with which code it is refused.
-/

set_option autoImplicit false

namespace InstructionSet

/-! ## Sorted texts -/

namespace Text

theorem sort_perm (texts : List String) : (sort texts).Perm texts := List.mergeSort_perm _ _

theorem pairwise_sort (texts : List String) :
    (sort texts).Pairwise fun left right => precedes right left = false := by
  have sorted : (sort texts).Pairwise fun left right => (!precedes right left) = true := by
    refine List.pairwise_mergeSort ?_ ?_ texts
    · intro first second third
      simp only [precedes, Bool.not_eq_true', decide_eq_false_iff_not, List.not_lt]
      exact List.le_trans
    · intro left right
      simp only [precedes, Bool.or_eq_true, Bool.not_eq_true', decide_eq_false_iff_not,
        List.not_lt]
      exact List.le_total _ _
  exact sorted.imp (by simp)

end Text

namespace Config

open Yaml (Value Document KeysDiffer)

/-! ## What a mapping overrides -/

/-- A key of a mapping that is one of the keys of configurations. -/
def Known (key : Value) : Prop := ∃ known : ConfigKey, key = .text known.spelling

/-- A mapping from known keys to texts. -/
structure Honourable (entries : List (Value × Value)) : Prop where
  known : ∀ entry ∈ entries, Known entry.1
  texts : ∀ entry ∈ entries, ∃ text, entry.2 = .text text

/-- A configuration has what a mapping gives, and keeps the rest of another. -/
structure Overrides (base : Config) (entries : List (Value × Value)) (config : Config) : Prop where
  given : ∀ (key : ConfigKey) (text : String),
    (Value.text key.spelling, Value.text text) ∈ entries → config.get key = text
  kept : ∀ key : ConfigKey, (∀ entry ∈ entries, entry.1 ≠ .text key.spelling) →
    config.get key = base.get key

/-- Under a known key there is no text. -/
def NotText (entry : Value × Value) (key : ConfigKey) : Prop :=
  entry.1 = .text key.spelling ∧ ∀ text, entry.2 ≠ .text text

theorem keyOf?_eq_some_iff (key : Value) (known : ConfigKey) :
    keyOf? key = some known ↔ key = .text known.spelling := by
  constructor
  · intro found
    unfold keyOf? at found
    split at found
    · next spelling =>
      have same := List.find?_some found
      rw [beq_iff_eq.mp same]
    · cases found
  · rintro rfl
    cases known <;> rfl

theorem isSome_keyOf?_iff (key : Value) : (keyOf? key).isSome = true ↔ Known key := by
  simp only [Option.isSome_iff_exists, keyOf?_eq_some_iff, Known]

instance (key : Value) : Decidable (Known key) := decidable_of_iff _ (isSome_keyOf?_iff key)

/-- The keys that are not known. -/
def unknown (entries : List (Value × Value)) : List Value :=
  (entries.map Prod.fst).filter fun key => ¬ Known key

theorem unknown_eq_nil_iff (entries : List (Value × Value)) :
    unknown entries = [] ↔ ∀ entry ∈ entries, Known entry.1 := by
  simp [unknown]

/-! ## Judgements -/

/-- A refusal cites the source, but no place in it. -/
def refusal (source : String) (fault : ConfigFault) : Failure :=
  .diagnostic { cause := .config fault, span := { file := source } }

/-- What becomes of a document that should be a configuration. -/
inductive Judged (document : Document) (source : String) : Except Failure Config → Prop where
  | accepted {entries : List (Value × Value)} {config : Config} :
      document.resolve document.root = .mapping entries → Honourable entries →
      Overrides {} entries config → Judged document source (.ok config)
  | notMapping : (∀ entries, document.resolve document.root ≠ .mapping entries) →
      Judged document source
        (.error (refusal source (.notMapping (document.resolve document.root).typeName)))
  | unknownKeys {entries : List (Value × Value)} {texts sorted : List String} :
      document.resolve document.root = .mapping entries →
      unknown entries ≠ [] →
      List.Forall₂ (fun key text => key.keyText? = some text) (unknown entries) texts →
      sorted.Perm texts →
      (sorted.Pairwise fun left right => Text.precedes right left = false) →
      Judged document source (.error (refusal source (.unknownKeys sorted validKeys)))
  | unshown {entries : List (Value × Value)} {key : Value} :
      document.resolve document.root = .mapping entries → key ∈ unknown entries →
      (key.Overlong fun _ => none) → Judged document source (.error Record.unshown)
  | notText {entries : List (Value × Value)} {entry : Value × Value} {key : ConfigKey} :
      document.resolve document.root = .mapping entries → unknown entries = [] →
      Foremost NotText entries entry key →
      Judged document source (.error (refusal source (.notString key.spelling)))

/-! ## Overriding -/

theorem ext_get {config other : Config} (same : ∀ key, config.get key = other.get key) :
    config = other := by
  obtain ⟨⟩ := config
  obtain ⟨⟩ := other
  simp only [mk.injEq]
  exact ⟨same .stack, same .environment, same .code, same .dump, same .vmExec, same .result,
    same .accessorStem, same .transformPrimitive, same .vmReducef, same .interpReducef,
    same .interpret, same .bugReporter, same .instructionType, same .astType, same .indent⟩

section Overriding

variable {entries : List (Value × Value)}

/-- A mapping that can be honoured gives or keeps every value. -/
theorem Overrides.unique {base config other : Config} (honourable : Honourable entries)
    (overrides : Overrides base entries config) (overridesToo : Overrides base entries other) :
    config = other := by
  refine ext_get fun key => ?_
  by_cases present : ∃ entry ∈ entries, entry.1 = .text key.spelling
  · obtain ⟨⟨_, value⟩, member, rfl⟩ := present
    obtain ⟨text, rfl⟩ : ∃ text, value = .text text := honourable.texts _ member
    rw [overrides.given key text member, overridesToo.given key text member]
  · have absent : ∀ entry ∈ entries, entry.1 ≠ .text key.spelling :=
      fun entry member same => present ⟨entry, member, same⟩
    rw [overrides.kept key absent, overridesToo.kept key absent]

theorem Overrides.perm {base config : Config} {others : List (Value × Value)}
    (overrides : Overrides base entries config) (perm : entries.Perm others) :
    Overrides base others config :=
  ⟨fun key text member => overrides.given key text (perm.mem_iff.mpr member),
    fun key absent => overrides.kept key fun entry member => absent entry (perm.mem_iff.mp member)⟩

theorem Honourable.perm {others : List (Value × Value)} (honourable : Honourable entries)
    (perm : entries.Perm others) : Honourable others :=
  ⟨fun entry member => honourable.known entry (perm.mem_iff.mpr member),
    fun entry member => honourable.texts entry (perm.mem_iff.mpr member)⟩

theorem Overrides.nil (base : Config) : Overrides base [] base := ⟨nofun, fun _ _ => rfl⟩

/-- A known key in front gives its text, for it does not come again. -/
theorem Overrides.cons {base config : Config} {known : ConfigKey} {text : String}
    (once : ∀ entry ∈ entries, entry.1 ≠ .text known.spelling)
    (overrides : Overrides (base.set known text) entries config) :
    Overrides base ((.text known.spelling, .text text) :: entries) config := by
  have spelling_injective {key : ConfigKey} (same : known.spelling = key.spelling) :
      known = key := by
    have found := (keyOf?_eq_some_iff (.text known.spelling) known).mpr rfl
    rw [(keyOf?_eq_some_iff _ key).mpr (congrArg Value.text same)] at found
    exact (Option.some.inj found).symm
  constructor
  · intro key other member
    rcases List.mem_cons.mp member with same | behind
    · obtain ⟨spelled, given⟩ := Prod.mk.inj same
      obtain rfl := spelling_injective (Value.text.inj spelled).symm
      obtain rfl := Value.text.inj given
      rw [overrides.kept known once, get_set_self]
    · exact overrides.given key other behind
  · intro key absent
    obtain ⟨differs, absentBehind⟩ := List.forall_mem_cons.mp absent
    rw [overrides.kept key absentBehind, get_set_of_ne]
    rintro rfl
    exact differs rfl

theorem knownEntries_cons (known : ConfigKey) (value : Value) :
    knownEntries ((.text known.spelling, value) :: entries) =
      (known, value) :: knownEntries entries := by
  simp [knownEntries, (keyOf?_eq_some_iff _ known).mpr rfl]

theorem override_notText {value : Value} (noText : ∀ text, value ≠ .text text) (key : ConfigKey)
    (rest : List (ConfigKey × Value)) (base : Config) :
    override ((key, value) :: rest) base = .error (.notString key.spelling) := by
  cases value with
  | text text => exact absurd rfl (noText text)
  | _ => rfl

/-- The values under known keys are put in one by one, up to the first that is no text. -/
theorem override_ends (known : ∀ entry ∈ entries, Known entry.1) (differ : KeysDiffer entries)
    (base : Config) :
    (∃ entry key, Foremost NotText entries entry key ∧
      override (knownEntries entries) base = .error (.notString key.spelling)) ∨
    (∀ entry ∈ entries, ∃ text, entry.2 = .text text) ∧
      ∃ config, override (knownEntries entries) base = .ok config ∧
        Overrides base entries config := by
  induction entries generalizing base with
  | nil => exact .inr ⟨nofun, base, rfl, .nil base⟩
  | cons entry entries ih =>
      obtain ⟨⟨key, spelled⟩, knownBehind⟩ := List.forall_mem_cons.mp known
      obtain ⟨apart, differBehind⟩ := List.pairwise_cons.mp differ
      obtain ⟨_, value⟩ := entry
      obtain rfl : _ = Value.text key.spelling := spelled
      rw [knownEntries_cons]
      by_cases text : ∃ text, value = .text text
      · obtain ⟨text, rfl⟩ := text
        -- No later entry can put another text over this one.
        have once : ∀ entry ∈ entries, entry.1 ≠ .text key.spelling :=
          fun entry member => apart entry member key.spelling rfl
        rcases ih knownBehind differBehind (base.set key text) with
          ⟨entry, other, foremost, failed⟩ | ⟨texts, config, succeeded, overrides⟩
        · refine .inl ⟨entry, other, foremost.cons ?_, failed⟩
          rintro _ ⟨-, noText⟩
          exact noText text rfl
        · refine .inr ⟨?_, config, succeeded, .cons once overrides⟩
          exact List.forall_mem_cons.mpr ⟨⟨text, rfl⟩, texts⟩
      · have noText : ∀ text, value ≠ .text text := fun other same => text ⟨other, same⟩
        exact .inl ⟨_, key, .head ⟨rfl, noText⟩, override_notText noText key _ base⟩

end Overriding

/-! ## What becomes of a document -/

theorem unknownKeys_eq (entries : List (Value × Value)) :
    unknownKeys entries = Record.sortedKeys (unknown entries) := by
  have unlike : (fun key => (keyOf? key).isNone) = fun key => decide (¬ Known key) := by
    funext key
    rw [Bool.eq_iff_iff, decide_eq_true_eq, ← isSome_keyOf?_iff]
    simp
  rw [unknownKeys, unlike, unknown]

theorem exists_texts_of_sortedKeys {keys : List Value} {sorted : List String}
    (noted : Record.sortedKeys keys = .ok sorted) :
    ∃ texts, List.Forall₂ (fun key text => key.keyText? = some text) keys texts ∧
      sorted = Text.sort texts := by
  unfold Record.sortedKeys at noted
  split at noted
  · cases noted
  · next texts written =>
    cases noted
    exact ⟨texts, forall₂_of_mapM written, rfl⟩

variable {document : Document} {entries : List (Value × Value)}

theorem ofSource_mapping (mapping : document.resolve document.root = .mapping entries)
    (source : String) :
    ofSource document source =
      (unknownKeys entries >>= fun unknown =>
        if unknown.isEmpty then (override (knownEntries entries) {}).mapError (refusal source)
        else .error (refusal source (.unknownKeys unknown validKeys))) := by
  simp only [ofSource, mapping]
  rfl

theorem judged_of_known (mapping : document.resolve document.root = .mapping entries)
    (differ : KeysDiffer entries) (known : unknown entries = []) (source : String) :
    Judged document source (ofSource document source) := by
  have noted : unknownKeys entries = .ok [] := by
    rw [unknownKeys_eq, known]
    simp [Record.sortedKeys, Text.sort]
  have allKnown := (unknown_eq_nil_iff entries).mp known
  rw [ofSource_mapping mapping, noted]
  change Judged document source ((override (knownEntries entries) {}).mapError (refusal source))
  rcases override_ends allKnown differ {} with
    ⟨entry, key, foremost, failed⟩ | ⟨texts, config, succeeded, overrides⟩
  · rw [failed]
    exact .notText mapping known foremost
  · rw [succeeded]
    exact .accepted mapping ⟨allKnown, texts⟩ overrides

theorem judged_of_unknown (mapping : document.resolve document.root = .mapping entries)
    (someUnknown : unknown entries ≠ []) (source : String) :
    Judged document source (ofSource document source) := by
  rw [ofSource_mapping mapping, unknownKeys_eq]
  cases noted : Record.sortedKeys (unknown entries) with
  | error failure =>
      obtain ⟨rfl, key, member, unwritten⟩ := Record.sortedKeys_failure noted
      exact .unshown mapping member ((Value.keyText?_eq_none_iff key).mp unwritten)
  | ok sorted =>
      obtain ⟨texts, written, rfl⟩ := exists_texts_of_sortedKeys noted
      have several : (Text.sort texts).isEmpty = false := by
        rw [List.isEmpty_eq_false_iff]
        intro empty
        have perm := Text.sort_perm texts
        rw [empty] at perm
        obtain rfl := perm.nil_eq
        exact someUnknown (List.forall₂_nil_right_iff.mp written)
      change Judged document source (if (Text.sort texts).isEmpty then _ else _)
      rw [several]
      exact .unknownKeys mapping someUnknown written (Text.sort_perm texts)
        (Text.pairwise_sort texts)

theorem ofSource_judged (differ : document.KeysDiffer) (source : String) :
    Judged document source (ofSource document source) := by
  by_cases mapping : ∃ entries, document.resolve document.root = .mapping entries
  · obtain ⟨entries, mapping⟩ := mapping
    by_cases known : unknown entries = []
    · exact judged_of_known mapping (differ entries mapping) known source
    · exact judged_of_unknown mapping known source
  · have notMapping : ∀ entries, document.resolve document.root ≠ .mapping entries :=
      fun entries same => mapping ⟨entries, same⟩
    have refused : ofSource document source =
        .error (refusal source (.notMapping (document.resolve document.root).typeName)) := by
      unfold ofSource
      split
      · next entries same => exact absurd same (notMapping entries)
      · rfl
    rw [refused]
    exact .notMapping notMapping

theorem accepted_iff (differ : document.KeysDiffer) (source : String) :
    (∃ config, ofSource document source = .ok config) ↔
      ∃ entries, document.resolve document.root = .mapping entries ∧ Honourable entries := by
  have judged := ofSource_judged differ source
  constructor
  · rintro ⟨config, accepted⟩
    rw [accepted] at judged
    cases judged with
    | accepted mapping honourable overrides => exact ⟨_, mapping, honourable⟩
  · rintro ⟨entries, mapping, honourable⟩
    have known := (unknown_eq_nil_iff entries).mpr honourable.known
    generalize ofSource document source = answer at judged
    cases judged with
    | accepted => exact ⟨_, rfl⟩
    | notMapping notMapping => exact absurd mapping (notMapping entries)
    | unknownKeys same someUnknown =>
        cases mapping.symm.trans same
        exact absurd known someUnknown
    | unshown same member =>
        cases mapping.symm.trans same
        rw [known] at member
        cases member
    | notText same _ foremost =>
        cases mapping.symm.trans same
        obtain ⟨text, given⟩ := honourable.texts _ foremost.mem
        exact absurd given (foremost.holds.2 text)

theorem overrides_of_accepted (differ : document.KeysDiffer) {source : String} {config : Config}
    (mapping : document.resolve document.root = .mapping entries)
    (accepted : ofSource document source = .ok config) :
    Honourable entries ∧ Overrides {} entries config := by
  have judged := ofSource_judged differ source
  rw [accepted] at judged
  cases judged with
  | accepted same honourable overrides =>
      cases mapping.symm.trans same
      exact ⟨honourable, overrides⟩

/-- The order of the entries does not matter. -/
theorem ofSource_perm (differ : document.KeysDiffer) {source : String} {config : Config}
    (mapping : document.resolve document.root = .mapping entries)
    (accepted : ofSource document source = .ok config) {others : List (Value × Value)}
    (perm : entries.Perm others) :
    ofSource (document.withEntries others) source = .ok config := by
  have mappingToo := document.resolve_root_withEntries others
  have differToo : (document.withEntries others).KeysDiffer := by
    intro found same
    cases mappingToo.symm.trans same
    exact (differ entries mapping).perm perm
  obtain ⟨honourable, overrides⟩ := overrides_of_accepted differ mapping accepted
  obtain ⟨other, acceptedToo⟩ :=
    (accepted_iff differToo source).mpr ⟨others, mappingToo, honourable.perm perm⟩
  obtain ⟨honourableToo, overridesToo⟩ := overrides_of_accepted differToo mappingToo acceptedToo
  -- Both have what the same entries give, so they are one.
  rw [acceptedToo, overridesToo.unique honourableToo (overrides.perm perm)]

/-- There is a key that is not known. -/
def HasUnknown (document : Document) : Prop :=
  ∃ entries, document.resolve document.root = .mapping entries ∧ unknown entries ≠ []

/-- A refusal has the code for unknown keys exactly if there are any. -/
theorem refused_of_error (differ : document.KeysDiffer) {source : String} {failure : Failure}
    (failed : ofSource document source = .error failure) :
    (∃ report, failure = .diagnostic report ∧ report.span = { file := source } ∧
      (report.code = .unknownConfigKey ∧ HasUnknown document ∨
        report.code = .invalidConfig ∧ ¬ HasUnknown document)) ∨
    failure = Record.unshown ∧ ∃ entries, document.resolve document.root = .mapping entries ∧
      ∃ key ∈ unknown entries, key.Overlong fun _ => none := by
  have judged := ofSource_judged differ source
  rw [failed] at judged
  cases judged with
  | notMapping notMapping =>
      refine .inl ⟨_, rfl, rfl, .inr ⟨rfl, ?_⟩⟩
      rintro ⟨entries, mapping, -⟩
      exact notMapping entries mapping
  | unknownKeys mapping someUnknown =>
      exact .inl ⟨_, rfl, rfl, .inl ⟨rfl, _, mapping, someUnknown⟩⟩
  | unshown mapping member overlong => exact .inr ⟨rfl, _, mapping, _, member, overlong⟩
  | notText mapping known =>
      refine .inl ⟨_, rfl, rfl, .inr ⟨rfl, ?_⟩⟩
      rintro ⟨entries, same, someUnknown⟩
      cases mapping.symm.trans same
      exact someUnknown known

theorem keysDiffer_of_document? {files : Files} {path : Path}
    (loaded : document? files path = .ok (some document)) : document.KeysDiffer := by
  unfold document? at loaded
  obtain ⟨bytes, -, loaded⟩ := bind_ok loaded
  obtain ⟨opened, -, loaded⟩ := bind_ok loaded
  obtain ⟨read?, read, loaded⟩ := bind_ok loaded
  split at loaded
  · cases loaded
  · cases loaded
  · cases loaded
    exact (Yaml.readSingle_sound opened).2 document (mapError_ok read)

/-- A document that is loaded has keys that differ. Such a document is judged as it should be. It is
a configuration exactly if it is a mapping from known keys to texts, in whatever order these come.
Otherwise its refusal cites the source, with the code for unknown keys exactly if there are any,
unless there is an unknown key with a whole number that is too long to be written. -/
theorem ofSource_overrides (document : Document) (source : String) :
    (∀ (files : Files) (path : Path), document? files path = .ok (some document) →
      document.KeysDiffer) ∧
    (document.KeysDiffer →
      Judged document source (ofSource document source) ∧
      ((∃ config, ofSource document source = .ok config) ↔
        ∃ entries, document.resolve document.root = .mapping entries ∧ Honourable entries) ∧
      (∀ entries config, document.resolve document.root = .mapping entries →
        ofSource document source = .ok config → ∀ others, entries.Perm others →
          ofSource (document.withEntries others) source = .ok config) ∧
      ∀ failure, ofSource document source = .error failure →
        (∃ report, failure = .diagnostic report ∧ report.span = { file := source } ∧
          (report.code = .unknownConfigKey ∧ HasUnknown document ∨
            report.code = .invalidConfig ∧ ¬ HasUnknown document)) ∨
        failure = Record.unshown ∧ ∃ entries,
          document.resolve document.root = .mapping entries ∧
            ∃ key ∈ unknown entries, key.Overlong fun _ => none) := by
  refine ⟨fun files path => keysDiffer_of_document?, fun differ => ⟨?_, ?_, ?_, ?_⟩⟩
  · exact ofSource_judged differ source
  · exact accepted_iff differ source
  · intro entries config mapping accepted others perm
    exact ofSource_perm differ mapping accepted perm
  · intro failure failed
    exact refused_of_error differ failed

/-- Two keys are given, in either order, and the other values are the defaults. -/
theorem ofSource_overrides_two :
    let entries := [(Value.text "indent", Value.text "\t"), (.text "vm_exec", .text "step")]
    let others := [(Value.text "vm_exec", Value.text "step"), (.text "indent", .text "\t")]
    let document : Document := { root := .mapping entries }
    Honourable entries ∧
      ofSource document "c.yaml" = .ok { vmExec := "step", indent := "\t" } ∧
      ofSource (document.withEntries others) "c.yaml" =
        .ok { vmExec := "step", indent := "\t" } := by
  intro entries others document
  have differ : document.KeysDiffer := by
    intro found same
    cases same
    simp [KeysDiffer, entries]
  obtain ⟨-, accepted, permuted, -⟩ := (ofSource_overrides document "c.yaml").2 differ
  have decoded : ofSource document "c.yaml" = .ok { vmExec := "step", indent := "\t" } := by cbv
  have perm : entries.Perm others := .swap _ _ []
  obtain ⟨found, same, honourable⟩ := accepted.mp ⟨_, decoded⟩
  cases same
  exact ⟨honourable, decoded, permuted entries _ rfl decoded others perm⟩

theorem ofSource_of_unwritten {number : Int} (unwritten : Number.wholeText? number = none) :
    let entries := [(Value.int number, Value.text "x")]
    HasUnknown { root := .mapping entries } ∧
      ofSource { root := .mapping entries } "c.yaml" = .error Record.unshown := by
  intro entries
  have unknowns : unknown entries = [.int number] := rfl
  have keyText : (Value.int number).keyText? = none := by
    rw [Value.keyText?_eq_none_iff]
    exact .int unwritten
  refine ⟨⟨entries, rfl, by simp [unknowns]⟩, ?_⟩
  rw [ofSource_mapping rfl, unknownKeys_eq, unknowns]
  simp [Record.sortedKeys, keyText]
  rfl

/-- A key that is a whole number of more than 4300 digits. -/
theorem ofSource_overlong :
    let entries := [(Value.int (10 ^ Number.digitLimit), Value.text "x")]
    HasUnknown { root := .mapping entries } ∧
      ofSource { root := .mapping entries } "c.yaml" = .error Record.unshown :=
  ofSource_of_unwritten Record.unwritten_power

end Config

end InstructionSet
