import InstructionSet.Yaml.Documents
import InstructionSet.Proofs.Yaml.Construction
import InstructionSet.Proofs.Yaml.Scanning

/-!
# Where the faults of a reader come from

A reader asks its lexer for tokens and keeps it otherwise as it is, so what holds of the lexer's
steps holds of the reader's. The documents of a source end without a fault, with a fault of the
text, or with the fault of the source itself. The keys of every mapping at a root differ.
-/

set_option autoImplicit false
set_option mvcgen.warning false

open Std.Do

namespace InstructionSet.Yaml

namespace Builder

theorem checkAnchor_within {builder : Builder} {properties : Properties} {mark : Mark}
    {fault : Fault} (failed : builder.checkAnchor properties mark = .error fault) :
    fault.Within none := by
  unfold checkAnchor at failed
  split at failed
  · cases failed
  · split at failed <;> cases failed
    trivial

theorem add_ne_error {builder : Builder} {properties : Properties} {mark : Mark} {tag : String}
    {content : Content} {fault : Fault} :
    builder.add properties mark tag content ≠ .error fault := by
  unfold add
  split <;> nofun

theorem begin_within {builder : Builder} {properties : Properties} {mark : Mark}
    {default : StandardTag} {content : Content} {frame : NodeId → Frame} {fault : Fault}
    (failed : builder.begin properties mark default content frame = .error fault) :
    fault.Within none := by
  unfold begin at failed
  obtain failed | ⟨_, -, failed⟩ := bind_error failed
  · exact checkAnchor_within failed
  · obtain failed | ⟨_, -, failed⟩ := bind_error failed
    · exact absurd failed add_ne_error
    · cases failed

/-- What an event has against the graph so far is a fault of the text. -/
theorem step_within {builder : Builder} {event : Event} {fault : Fault}
    (failed : builder.step event = .error fault) : fault.Within none := by
  unfold step at failed
  split at failed
  · split at failed
    · cases failed
      trivial
    · cases failed
  · obtain failed | ⟨_, -, failed⟩ := bind_error failed
    · exact checkAnchor_within failed
    · obtain failed | ⟨_, -, failed⟩ := bind_error failed
      · exact absurd failed add_ne_error
      · cases failed
  · obtain failed | ⟨_, -, failed⟩ := bind_error failed
    · exact begin_within failed
    · cases failed
  · obtain failed | ⟨_, -, failed⟩ := bind_error failed
    · exact begin_within failed
    · cases failed
  · cases failed
  · cases failed
  · cases failed

end Builder

namespace Parse

/-- The reader's lexer holds a fault of its source, or none. -/
abbrev Held (fault? : Option SourceFault) : Assertion (.arg Parser (.except Fault .pure)) :=
  fun parser => ⌜parser.lexer.fault = fault?⌝

/-- The lexer holds what it held, and a fault that ends the step is within it. -/
abbrev Kept {α : Type} (fault? : Option SourceFault) :
    PostCond α (.arg Parser (.except Fault .pure)) :=
  post⟨fun _ parser => ⌜parser.lexer.fault = fault?⌝, fun fault => ⌜fault.Within fault?⌝⟩

variable (fault? : Option SourceFault)

/-! ## Tokens -/

@[spec high] theorem throw_keeps {α : Type} {fault : Fault} (within : fault.Within fault?) :
    ⦃Held fault?⦄ (throw fault : Parse α)
      ⦃post⟨fun _ _ => ⌜False⌝, fun fault => ⌜fault.Within fault?⌝⟩⦄ := by
  intro parser held
  exact within

theorem scan_keeps {α : Type} {step : Scan α}
    (keeps : ⦃Scan.Held fault?⦄ step ⦃Scan.Kept fault?⦄) :
    ⦃Held fault?⦄ scan step ⦃Kept fault?⦄ := by
  refine triple_iff.mpr fun parser held => ?_
  have kept := triple_iff.mp keeps parser.lexer held
  unfold scan
  cases ran : step parser.lexer with
  | error fault =>
      rw [ran] at kept
      exact kept
  | ok result =>
      rw [ran] at kept
      exact kept

@[spec] theorem peek_keeps :
    ⦃Held fault?⦄ peek ⦃Kept fault?⦄ :=
  scan_keeps fault? (Scan.peekToken_keeps fault?)

@[spec] theorem peekKind_keeps :
    ⦃Held fault?⦄ peekKind ⦃Kept fault?⦄ := by
  mvcgen [peekKind] <;> grind

@[spec] theorem take_keeps :
    ⦃Held fault?⦄ take ⦃Kept fault?⦄ :=
  scan_keeps fault? (Scan.takeToken_keeps fault?)

@[spec] theorem expect_keeps (next : Expecting) :
    ⦃Held fault?⦄ expect next ⦃Kept fault?⦄ := by
  mvcgen [expect]

@[spec] theorem thenExpect_keeps (next : Expecting) :
    ⦃Held fault?⦄ thenExpect next ⦃Kept fault?⦄ := by
  mvcgen [thenExpect]

@[spec] theorem resume_keeps :
    ⦃Held fault?⦄ resume ⦃Kept fault?⦄ := by
  mvcgen [resume]

@[spec] theorem openMark_keeps (mark : Mark) :
    ⦃Held fault?⦄ openMark mark ⦃Kept fault?⦄ := by
  mvcgen [openMark]

@[spec] theorem failAt_keeps {α : Type} (token : Token) (problem : Problem)
    (activity : Option Activity) (began : Option Mark) :
    ⦃Held fault?⦄ failAt (α := α) token problem activity began ⦃Kept fault?⦄ := by
  mvcgen [failAt] <;> grind

@[spec] theorem failInside_keeps {α : Type} (activity : Activity) (problem : TokenKind → Problem) :
    ⦃Held fault?⦄ failInside (α := α) activity problem ⦃Kept fault?⦄ := by
  mvcgen [failInside] <;> grind

@[spec] theorem closeCollection_keeps (kind : EventKind) :
    ⦃Held fault?⦄ closeCollection kind ⦃Kept fault?⦄ := by
  mvcgen [closeCollection] <;> grind

@[spec] theorem leaveOut_keeps (next : Expecting) (mark : Mark) :
    ⦃Held fault?⦄ leaveOut next mark ⦃Kept fault?⦄ := by
  mvcgen [leaveOut] <;> grind

/-! ## Nodes -/

@[spec] theorem fullTag_keeps (name : TagName) (nodeStart tagStart : Mark) :
    ⦃Held fault?⦄ fullTag name nodeStart tagStart ⦃Kept fault?⦄ := by
  mvcgen [fullTag] <;> grind

@[spec] theorem properties_keeps :
    ⦃Held fault?⦄ properties ⦃Kept fault?⦄ := by
  mvcgen [properties] <;> grind

@[spec] theorem beginCollection_keeps (kind : EventKind) (start : Mark) (next : Expecting) :
    ⦃Held fault?⦄ beginCollection kind start next ⦃Kept fault?⦄ := by
  mvcgen [beginCollection] <;> grind

@[spec] theorem nodeContent_keeps (block indentless : Bool) (props : Properties)
    (start? : Option Mark) :
    ⦃Held fault?⦄ nodeContent block indentless props start? ⦃Kept fault?⦄ := by
  mvcgen [nodeContent] <;> grind

@[spec] theorem node_keeps (block indentless : Bool) :
    ⦃Held fault?⦄ node block indentless ⦃Kept fault?⦄ := by
  mvcgen [node] <;> grind

/-! ## Documents -/

@[spec] theorem directives_keeps (bound : Nat) (versioned : Bool) :
    ⦃Held fault?⦄ directives bound versioned ⦃Kept fault?⦄ := by
  induction bound generalizing versioned with
  | zero => mvcgen [directives]
  | succ bound ih => mvcgen [directives, ih] <;> grind

@[spec] theorem skipDocumentEnds_keeps (bound : Nat) :
    ⦃Held fault?⦄ skipDocumentEnds bound ⦃Kept fault?⦄ := by
  induction bound with
  | zero => mvcgen [skipDocumentEnds]
  | succ bound ih => mvcgen [skipDocumentEnds, ih] <;> grind

@[spec] theorem document_keeps :
    ⦃Held fault?⦄ document ⦃Kept fault?⦄ := by
  mvcgen [document] <;> grind

@[spec] theorem firstDocument_keeps :
    ⦃Held fault?⦄ firstDocument ⦃Kept fault?⦄ := by
  mvcgen [firstDocument] <;> grind

@[spec] theorem documentEnd_keeps :
    ⦃Held fault?⦄ documentEnd ⦃Kept fault?⦄ := by
  mvcgen [documentEnd] <;> grind

@[spec] theorem documentContent_keeps :
    ⦃Held fault?⦄ documentContent ⦃Kept fault?⦄ := by
  mvcgen [documentContent] <;> grind

/-! ## Collections -/

@[spec] theorem blockSequenceEntry_keeps :
    ⦃Held fault?⦄ blockSequenceEntry ⦃Kept fault?⦄ := by
  mvcgen [blockSequenceEntry] <;> grind

@[spec] theorem indentlessEntry_keeps :
    ⦃Held fault?⦄ indentlessEntry ⦃Kept fault?⦄ := by
  mvcgen [indentlessEntry] <;> grind

@[spec] theorem blockMappingKey_keeps :
    ⦃Held fault?⦄ blockMappingKey ⦃Kept fault?⦄ := by
  mvcgen [blockMappingKey] <;> grind

@[spec] theorem blockMappingValue_keeps :
    ⦃Held fault?⦄ blockMappingValue ⦃Kept fault?⦄ := by
  mvcgen [blockMappingValue] <;> grind

@[spec] theorem flowComma_keeps (first : Bool) (activity : Activity)
    (problem : TokenKind → Problem) :
    ⦃Held fault?⦄ flowComma first activity problem ⦃Kept fault?⦄ := by
  mvcgen [flowComma] <;> grind

@[spec] theorem flowSequenceEntry_keeps (first : Bool) :
    ⦃Held fault?⦄ flowSequenceEntry first ⦃Kept fault?⦄ := by
  mvcgen [flowSequenceEntry] <;> grind

@[spec] theorem flowPairKey_keeps :
    ⦃Held fault?⦄ flowPairKey ⦃Kept fault?⦄ := by
  mvcgen [flowPairKey] <;> grind

@[spec] theorem flowPairValue_keeps :
    ⦃Held fault?⦄ flowPairValue ⦃Kept fault?⦄ := by
  mvcgen [flowPairValue] <;> grind

@[spec] theorem flowPairEnd_keeps :
    ⦃Held fault?⦄ flowPairEnd ⦃Kept fault?⦄ := by
  mvcgen [flowPairEnd] <;> grind

@[spec] theorem flowMappingKey_keeps (first : Bool) :
    ⦃Held fault?⦄ flowMappingKey first ⦃Kept fault?⦄ := by
  mvcgen [flowMappingKey] <;> grind

@[spec] theorem flowMappingValue_keeps :
    ⦃Held fault?⦄ flowMappingValue ⦃Kept fault?⦄ := by
  mvcgen [flowMappingValue] <;> grind

@[spec] theorem enter_keeps :
    ⦃Held fault?⦄ enter ⦃Kept fault?⦄ := by
  mvcgen [enter] <;> grind

@[spec] theorem nextEvent_keeps :
    ⦃Held fault?⦄ nextEvent ⦃Kept fault?⦄ := by
  mvcgen [nextEvent] <;> grind

/-! ## Graphs -/

@[spec] theorem root_keeps (bound : Nat) (builder : Builder) :
    ⦃Held fault?⦄ root bound builder ⦃Kept fault?⦄ := by
  induction bound generalizing builder with
  | zero => mvcgen [root]
  | succ bound ih =>
      mvcgen [root, ih] <;> grind [Builder.step_within, Fault.Within.of_none]

@[spec] theorem eventBound_keeps :
    ⦃Held fault?⦄ eventBound ⦃Kept fault?⦄ := by
  mvcgen [eventBound]

@[spec] theorem graph_keeps :
    ⦃Held fault?⦄ graph ⦃Kept fault?⦄ := by
  mvcgen [graph] <;> grind

@[spec] theorem nextGraph?_keeps :
    ⦃Held fault?⦄ nextGraph? ⦃Kept fault?⦄ := by
  mvcgen [nextGraph?] <;> grind

@[spec] theorem singleGraph?_keeps :
    ⦃Held fault?⦄ singleGraph? ⦃Kept fault?⦄ := by
  mvcgen [singleGraph?] <;> grind

/-! ## Documents -/

/-- The step gives a document whose keys differ, if it gives one. -/
abbrev Builds (fault? : Option SourceFault) :
    PostCond (Option PlacedDocument) (.arg Parser (.except Fault .pure)) :=
  post⟨fun placed? parser =>
      ⌜(∀ placed, placed? = some placed → placed.document.KeysDiffer) ∧
        parser.lexer.fault = fault?⌝,
    fun fault => ⌜fault.Within fault?⌝⟩

@[spec] theorem build_keeps (graph : Graph) :
    ⦃Held fault?⦄ build graph
      ⦃post⟨fun placed parser => ⌜placed.document.KeysDiffer ∧ parser.lexer.fault = fault?⌝,
        fun fault => ⌜fault.Within fault?⌝⟩⦄ := by
  have ends := graph.document_ends
  mvcgen [build] <;> grind [Fault.Within.of_none]

@[spec] theorem nextDocument?_keeps :
    ⦃Held fault?⦄ nextDocument? ⦃Builds fault?⦄ := by
  mvcgen [nextDocument?] <;> grind

end Parse

theorem documentsFrom_sound {fault? : Option SourceFault} (bound : Nat) (parser : Parser)
    (held : parser.lexer.fault = fault?) :
    (∀ fault, (documentsFrom bound parser).fault = some fault → fault.Within fault?) ∧
      ∀ placed ∈ (documentsFrom bound parser).documents, placed.document.KeysDiffer := by
  induction bound generalizing parser with
  | zero => simp [documentsFrom]
  | succ bound ih =>
      have ends : Ends
          (fun placed? after => (∀ placed, placed? = some placed → placed.document.KeysDiffer) ∧
            after.lexer.fault = fault?)
          (fun fault => fault.Within fault?) (Parse.nextDocument? parser) :=
        triple_iff.mp (Parse.nextDocument?_keeps fault?) parser held
      unfold documentsFrom
      cases read : Parse.nextDocument? parser with
      | error fault =>
          rw [read] at ends
          exact ⟨fun _ same => Option.some.inj same ▸ ends, nofun⟩
      | ok result =>
          obtain ⟨placed?, after⟩ := result
          rw [read] at ends
          cases placed? with
          | none => simp
          | some placed =>
              obtain ⟨differ, held⟩ := ends
              obtain ⟨within, rest⟩ := ih after held
              exact ⟨within, List.forall_mem_cons.mpr ⟨differ placed rfl, rest⟩⟩

/-- The documents of a source have keys that differ, and a fault of a source that ends them is that
source's own. -/
theorem readDocuments_sound (source : Source) :
    (∀ fault, (readDocuments source).fault = some fault → fault.Within source.fault) ∧
      ∀ placed ∈ (readDocuments source).documents, placed.document.KeysDiffer := by
  have ends := triple_iff.mp (Parse.nextEvent_keeps source.fault) (Parser.ofSource source) rfl
  unfold readDocuments
  cases read : Parse.nextEvent (Parser.ofSource source) with
  | error fault =>
      rw [read] at ends
      exact ⟨fun _ same => Option.some.inj same ▸ ends, nofun⟩
  | ok result =>
      rw [read] at ends
      exact documentsFrom_sound _ _ ends

/-- The only document of a source has keys that differ, and a fault of a source that ends its
reading is that source's own. -/
theorem readSingle_sound (source : Source) :
    (∀ fault, readSingle source = .error fault → fault.Within source.fault) ∧
      ∀ document, readSingle source = .ok (some document) → document.KeysDiffer := by
  have sound {steps : Parse (Option Document)}
      (keeps : ⦃Parse.Held source.fault⦄ steps
        ⦃post⟨fun document? _ => ⌜∀ document, document? = some document → document.KeysDiffer⌝,
          fun fault => ⌜fault.Within source.fault⌝⟩⦄) :
      let read := do return (← steps.run (Parser.ofSource source)).1
      (∀ fault, read = .error fault → fault.Within source.fault) ∧
        ∀ document, read = .ok (some document) → document.KeysDiffer := by
    have ends := triple_iff.mp keeps
    constructor
    · intro fault failed
      obtain failed | ⟨_, -, failed⟩ := bind_error failed
      · exact (ends _ rfl).error failed
      · cases failed
    · intro document read
      obtain ⟨⟨document?, after⟩, ran, same⟩ := bind_ok read
      cases same
      exact (ends _ rfl).ok ran document rfl
  refine sound ?_
  mvcgen <;> grind

end InstructionSet.Yaml
