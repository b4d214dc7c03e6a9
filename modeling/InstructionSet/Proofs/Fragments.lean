import InstructionSet.Proofs.Emission
import InstructionSet.Proofs.Text.Boundaries
import InstructionSet.Proofs.Text.Marks

/-!
# Fragments

A fragment is cut at every boundary, and each of its lines is written behind the indentation with a
line feed at its end. Without the indentation that is the fragment with a line feed in place of
each boundary, so it is the fragment itself, completed by a last line feed, exactly if line feeds
are its only boundaries. This holds of the fragment that is spliced for a record, too.
-/

set_option autoImplicit false

namespace InstructionSet

namespace Text

/-- The only boundaries of a text are line feeds. -/
def OnlyFeeds (chars : List Char) : Prop := ∀ c ∈ chars, isLineBoundary c = true → c = '\n'

instance (chars : List Char) : Decidable (OnlyFeeds chars) :=
  List.decidableBAll (fun c => isLineBoundary c = true → c = '\n') chars

/-- A text with a line feed in place of each boundary, and at its end. -/
def refed (chars : List Char) : List Char :=
  (Line.cut chars).flatMap fun line => line.content ++ ['\n']

/-- Lines without line feeds in a row, each behind an indentation and with a line feed at its
end. -/
structure Indents (indentation : List Char) (lines : List (List Char)) (written : List Char) :
    Prop where
  noFeed : ∀ line ∈ lines, '\n' ∉ line
  inRow : written = lines.flatMap fun line => indentation ++ (line ++ ['\n'])

/-- What is left of a text when the indentation is removed from each of its lines. -/
def Unindents (indentation written rest : List Char) : Prop :=
  ∃ lines, Indents indentation lines written ∧ rest = lines.flatMap (· ++ ['\n'])

/-! ## Cutting at boundaries -/

theorem not_isLineBoundary_of_mem_content {chars : List Char} :
    ∀ line ∈ Line.cut chars, ∀ c ∈ line.content, isLineBoundary c = false := by
  fun_induction Line.cut chars with
  | case1 => simp
  | case2 rest ih => simpa using ih
  | case3 c rest _ boundary ih => simpa using ih
  | case4 c rest _ inside => simpa using inside
  | case5 c rest _ inside line lines cutRest ih =>
      rw [cutRest] at ih
      obtain ⟨here, behind⟩ := List.forall_mem_cons.mp ih
      refine List.forall_mem_cons.mpr ⟨?_, behind⟩
      exact List.forall_mem_cons.mpr ⟨by simpa using inside, here⟩

theorem onlyFeeds_refed (chars : List Char) : OnlyFeeds (refed chars) := by
  intro c member boundary
  obtain ⟨line, lineMember, member⟩ := List.mem_flatMap.mp member
  rcases List.mem_append.mp member with inContent | feed
  · rw [not_isLineBoundary_of_mem_content line lineMember c inContent] at boundary
    cases boundary
  · exact List.mem_singleton.mp feed

theorem mem_completed {chars : List Char} {c : Char} (member : c ∈ chars) :
    c ∈ completed chars := by
  unfold completed
  split
  · exact member
  · exact List.mem_append_left _ member

theorem ending_of_onlyFeeds {chars : List Char} (feeds : OnlyFeeds chars) :
    ∀ line ∈ Line.cut chars, line.ending = [] ∨ line.ending = ['\n'] := by
  fun_induction Line.cut chars with
  | case1 => simp
  | case2 rest ih => cases feeds '\r' List.mem_cons_self rfl
  | case3 c rest _ boundary ih =>
      obtain ⟨here, behind⟩ := List.forall_mem_cons.mp feeds
      obtain rfl := here boundary
      exact List.forall_mem_cons.mpr ⟨.inr rfl, ih behind⟩
  | case4 => simp
  | case5 c rest _ inside line lines cutRest ih =>
      have lineEnds := ih (List.forall_mem_cons.mp feeds).2
      rw [cutRest] at lineEnds
      exact List.forall_mem_cons.mpr (List.forall_mem_cons.mp lineEnds)

theorem completed_whole_of_onlyFeeds {chars : List Char} (feeds : OnlyFeeds chars)
    {line : Line} (member : line ∈ Line.cut chars) :
    completed line.whole = line.content ++ ['\n'] := by
  have written := Line.whole_ne_nil line member
  rcases ending_of_onlyFeeds feeds line member with unended | fed
  · have whole : line.whole = line.content := by simp [Line.whole, unended]
    rw [whole] at written ⊢
    have differs : line.content.getLast written ≠ '\n' := by
      intro feed
      have inside := not_isLineBoundary_of_mem_content line member _ (List.getLast_mem written)
      rw [feed] at inside
      cases inside
    simp [completed, List.getLast?_eq_some_getLast written, differs]
  · simp [completed, Line.whole, fed]

theorem refed_of_onlyFeeds {chars : List Char} (feeds : OnlyFeeds chars) :
    refed chars = completed chars := by
  have noReturn : '\r' ∉ chars := fun member => by cases feeds _ member rfl
  have inside : OnlyFeedsInside chars := fun c member => feeds c (List.dropLast_subset chars member)
  rw [← fed_eq_completed_iff.mpr inside, ← flatMap_completed_cut noReturn, refed]
  exact List.flatMap_congr fun line member => (completed_whole_of_onlyFeeds feeds member).symm

theorem refed_eq_completed_iff {chars : List Char} :
    refed chars = completed chars ↔ OnlyFeeds chars := by
  constructor
  · intro same c member
    exact onlyFeeds_refed chars c (same ▸ mem_completed member)
  · exact refed_of_onlyFeeds

/-! ## Removing the indentation -/

theorem Indents.unique {indentation written : List Char} {lines others : List (List Char)}
    (found : Indents indentation lines written) (again : Indents indentation others written) :
    lines = others := by
  obtain ⟨noFeed, inRow⟩ := found
  obtain ⟨noFeedOthers, inRowOthers⟩ := again
  have same := inRow.symm.trans inRowOthers
  clear inRow inRowOthers
  induction lines generalizing others with
  | nil =>
      cases others with
      | nil => rfl
      | cons other others => simp at same
  | cons line lines ih =>
      cases others with
      | nil => simp at same
      | cons other others =>
          rw [List.forall_mem_cons] at noFeed noFeedOthers
          simp only [List.flatMap_cons, List.append_assoc, List.singleton_append,
            List.append_cancel_left_eq] at same
          obtain ⟨rfl, behind⟩ := Text.split_inj_of_first_mark noFeed.1 noFeedOthers.1 same
          rw [ih noFeed.2 noFeedOthers.2 behind]

theorem Unindents.unique {indentation written rest other : List Char}
    (found : Unindents indentation written rest) (again : Unindents indentation written other) :
    rest = other := by
  obtain ⟨lines, indents, rfl⟩ := found
  obtain ⟨others, indentsAgain, rfl⟩ := again
  rw [indents.unique indentsAgain]

theorem feedLines_feed {front : List Char} (noFeed : '\n' ∉ front) (rest : List Char) :
    feedLines (front ++ '\n' :: rest) = (front ++ ['\n']) :: feedLines rest := by
  induction front with
  | nil => rfl
  | cons c front ih =>
      obtain ⟨differs, noFeedFront⟩ := List.ne_and_not_mem_of_not_mem_cons noFeed
      rw [List.cons_append, feedLines, ih noFeedFront]
      simp [differs.symm]

/-- Cutting at line feeds and dropping the indentation from each piece does it, if there is no line
feed in the indentation. -/
theorem Unindents.drop_feedLines {indentation written rest : List Char}
    (unindents : Unindents indentation written rest) (noFeed : '\n' ∉ indentation) :
    (feedLines written).flatMap (·.drop indentation.length) = rest := by
  obtain ⟨lines, ⟨noFeeds, rfl⟩, rfl⟩ := unindents
  induction lines with
  | nil => rfl
  | cons line lines ih =>
      obtain ⟨here, behind⟩ := List.forall_mem_cons.mp noFeeds
      have front : '\n' ∉ indentation ++ line := by simp [noFeed, here]
      have split : indentation ++ (line ++ ['\n']) ++
          lines.flatMap (fun line => indentation ++ (line ++ ['\n'])) =
          (indentation ++ line) ++
            '\n' :: lines.flatMap (fun line => indentation ++ (line ++ ['\n'])) := by
        simp
      rw [List.flatMap_cons, List.flatMap_cons, split, feedLines_feed front, List.flatMap_cons,
        ih behind, List.append_assoc, List.drop_left]

end Text

/-! ## What is written for a fragment -/

/-- What a printer of a unit writes for a fragment at a depth. -/
def Row.renderFragment (unit : String) (depth : Nat) (text : String) : String :=
  renderAll unit ((Text.lines text).map (mk depth))

section Written

open Text

variable (unit : String) (depth : Nat) (text : String)

theorem Row.toList_renderFragment :
    (renderFragment unit depth text).toList =
      (Line.cut text.toList).flatMap fun line =>
        (Printer.indentation unit depth).toList ++ (line.content ++ ['\n']) := by
  unfold renderFragment Text.lines
  induction Line.cut text.toList with
  | nil => rfl
  | cons line lines ih =>
      rw [List.map_cons, List.map_cons, renderAll_cons, String.toList_append, ih,
        List.flatMap_cons]
      simp [render]

theorem Row.unindents_renderFragment :
    Unindents (Printer.indentation unit depth).toList (renderFragment unit depth text).toList
      (refed text.toList) := by
  refine ⟨(Line.cut text.toList).map Line.content, ⟨?_, ?_⟩, ?_⟩
  · intro content member feed
    obtain ⟨line, lineMember, rfl⟩ := List.mem_map.mp member
    cases not_isLineBoundary_of_mem_content line lineMember _ feed
  · rw [toList_renderFragment, List.flatMap_map]
  · rw [refed, List.flatMap_map]

theorem Row.unindents_renderFragment_completed_iff :
    Unindents (Printer.indentation unit depth).toList (renderFragment unit depth text).toList
        (completed text.toList) ↔ OnlyFeeds text.toList := by
  have written := unindents_renderFragment unit depth text
  rw [← refed_eq_completed_iff]
  constructor
  · exact written.unique
  · intro same
    rwa [same] at written

end Written

/-! ## Fragments spliced for a record -/

/-- A line of an artifact's own. If it is blank it is an empty one at the margin. -/
def Row.Tidy (row : Row) : Prop := Text.allBlank row.text = true → row = ⟨0, ""⟩

instance (row : Row) : Decidable row.Tidy :=
  inferInstanceAs (Decidable (Text.allBlank row.text = true → row = ⟨0, ""⟩))

@[simp] theorem Row.tidy_binding (depth : Nat) (binding : Binding) :
    (Row.mk depth binding.line).Tidy := by
  simp [Tidy, Binding.line, Text.allBlank, Text.isBlank]

/-- The lines around a fragment, one level above it. -/
structure Bracket where
  depth : Nat
  opening : String
  closing : String

/-- A fragment between its lines, written in a unit of indentation. -/
def Bracket.around (bracket : Bracket) (unit text : String) : String :=
  (Row.mk bracket.depth bracket.opening).render unit ++
    Row.renderFragment unit (bracket.depth + 1) text ++
    (Row.mk bracket.depth bracket.closing).render unit

/-- Where an artifact splices the fragment of a record. -/
def Artifact.bracket? (config : Config) (record : Record) : Artifact → Option Bracket
  | .dispatch =>
      if record.isPrimitive then
        some ⟨6, "let " ++ config.result ++ " =",
          "in " ++ config.vmExec ++ " (" ++ config.result ++ " :: " ++ config.stack ++ ") " ++
            config.environment ++ " " ++ config.code ++ " " ++ config.dump⟩
      else some ⟨6, "begin", "end"⟩
  | .interpreter => some ⟨4, "begin", "end"⟩
  | .primitiveTable => some ⟨5, "begin", "end,"⟩
  | .opcodeType | .nodeType | .lowering => none

namespace Bracket

variable (bracket : Bracket)

def rows (text : String) : List Row :=
  ⟨bracket.depth, bracket.opening⟩ :: (Text.lines text).map (Row.mk (bracket.depth + 1)) ++
    [⟨bracket.depth, bracket.closing⟩]

/-- The rows without those of the fragment. -/
def edges : List Row := [⟨bracket.depth, bracket.opening⟩, ⟨bracket.depth, bracket.closing⟩]

theorem renderAll_rows (unit text : String) :
    Row.renderAll unit (bracket.rows text) = bracket.around unit text := by
  simp [rows, around, Row.renderFragment, Row.renderAll_cons, String.append_assoc]

end Bracket

/-- Rows with the fragment of a record in its bracket, between lines of the artifact's own. -/
def Artifact.Frames (artifact : Artifact) (config : Config) (record : Record) (text : String)
    (rows : List Row) : Prop :=
  ∃ bracket front back, artifact.bracket? config record = some bracket ∧
    (∀ row ∈ front ++ bracket.edges ++ back, row.Tidy) ∧ rows = front ++ bracket.rows text ++ back

theorem Dispatch.frames_armRows (config : Config) (rules : RuleTable) (record : Record)
    (opcode code : String) :
    Artifact.dispatch.Frames config record code (armRows config rules record opcode code) := by
  have body : ∃ bracket, Artifact.dispatch.bracket? config record = some bracket ∧
      (∀ row ∈ bracket.edges, row.Tidy) ∧ bodyRows config record code = bracket.rows code := by
    unfold Artifact.bracket? bodyRows
    cases record.isPrimitive with
    | true => exact ⟨_, rfl, by simp [Bracket.edges, Row.Tidy, Text.allBlank, Text.isBlank], rfl⟩
    | false => exact ⟨_, rfl, by simp [Bracket.edges, Row.Tidy, Text.allBlank, Text.isBlank], rfl⟩
  obtain ⟨bracket, bracketed, edges, rows⟩ := body
  let patterns := (destructure config rules record).patterns
  let front : List Row := [⟨1, headLine opcode record.fields⟩, ⟨3, "begin"⟩] ++
    openingRows config patterns ++
    (bindings config rules record).map fun binding => ⟨6, binding.line⟩
  let back : List Row := [⟨0, ""⟩] ++ mismatchRows config opcode patterns ++
    [⟨3, "end"⟩, ⟨0, ""⟩]
  have opened : ∀ row ∈ openingRows config patterns, row.Tidy := by
    unfold openingRows patternLine
    split <;> simp [Row.Tidy, Text.allBlank, Text.isBlank]
  have missed : ∀ row ∈ mismatchRows config opcode patterns, row.Tidy := by
    unfold mismatchRows
    split <;> simp [Row.Tidy, Text.allBlank, Text.isBlank]
  have head : (Row.mk 1 (headLine opcode record.fields)).Tidy := by
    simp [Row.Tidy, headLine, Text.allBlank, Text.isBlank]
  have fixed : (Row.mk 3 "begin").Tidy ∧ (Row.mk 0 "").Tidy ∧ (Row.mk 3 "end").Tidy := by decide
  refine ⟨bracket, front, back, bracketed, ?_, ?_⟩
  · simpa [front, back, or_imp, forall_and, head, fixed] using ⟨opened, edges, missed⟩
  · simp only [armRows, rows, front, back, patterns, List.append_assoc]

theorem Interpreter.frames_caseRows (config : Config) (record : Record) (node body : String) :
    Artifact.interpreter.Frames config record body (caseRows config record node body) := by
  let front : List Row := ⟨1, "| " ++ applied node (subterms record.arity) ++ " ->"⟩ ::
    (bindings config record).map fun binding => ⟨3, binding.line⟩
  have head : (Row.mk 1 ("| " ++ applied node (subterms record.arity) ++ " ->")).Tidy := by
    simp [Row.Tidy, Text.allBlank, Text.isBlank]
  have fixed : (Row.mk 4 "begin").Tidy ∧ (Row.mk 4 "end").Tidy ∧ (Row.mk 0 "").Tidy := by decide
  refine ⟨_, front, [⟨0, ""⟩], rfl, ?_, ?_⟩
  · simp [front, or_imp, forall_and, head, Bracket.edges, fixed]
  · simp [caseRows, Bracket.rows, front]

theorem PrimitiveTable.frames_entryRows (config : Config) (record : Record)
    (node signature : String) :
    Artifact.primitiveTable.Frames config record signature (entryRows record node signature) := by
  have named : (Row.mk 4 ("(\x22" ++ publicName record ++ "\x22,")).Tidy := by
    simp [Row.Tidy, Text.allBlank, Text.isBlank]
  have wrapped : (Row.mk 5 (wrapperOf node record.arity)).Tidy := by
    unfold wrapperOf
    split <;> simp [Row.Tidy, Text.allBlank, Text.isBlank]
  have fixed : (Row.mk 5 "begin").Tidy ∧ (Row.mk 5 "end,").Tidy ∧ (Row.mk 4 ");").Tidy := by decide
  refine ⟨_, [⟨4, "(\x22" ++ publicName record ++ "\x22,"⟩],
    [⟨5, wrapperOf node record.arity⟩, ⟨4, ");"⟩], rfl, ?_, ?_⟩
  · simp [Bracket.edges, named, wrapped, fixed]
  · simp [entryRows, Bracket.rows]

section Spliced

variable {artifact : Artifact} {config : Config} {duplicates : DuplicatePolicy} {rules : RuleTable}
variable {record : Record} {key : TextKey} {text inst : String}
variable (spliced : artifact.splicedKey? record = some key)
variable (present : record.require key = .ok text) (named : record.requireInst = .ok inst)

include spliced present named

theorem Pass.frames_rows :
    artifact.Frames config record text
      (((Pass.mk (some artifact) config duplicates rules).layout record).sheet 0).rows := by
  have opcode := Record.opcodeName_of_requireInst named
  have node : record.nodeName = .ok inst := named
  cases artifact with
  | dispatch =>
      obtain rfl : TextKey.code = key := Option.some.inj spliced
      simp only [Pass.layout, Dispatch.sheet_arm config rules record opcode present]
      exact Dispatch.frames_armRows config rules record ("Op" ++ inst) text
  | interpreter =>
      obtain rfl : record.interpKey = key := Option.some.inj spliced
      simp only [Pass.layout, Interpreter.sheet_case config node present]
      exact Interpreter.frames_caseRows config record inst text
  | primitiveTable =>
      obtain rfl : TextKey.type = key := Option.some.inj spliced
      simp only [Pass.layout, PrimitiveTable.sheet_entry node present]
      exact PrimitiveTable.frames_entryRows config record inst text
  | opcodeType | nodeType | lowering => cases spliced

/-- An artifact writes the fragment of a record in its bracket. -/
theorem Pass.writtenAlone_fragment :
    ∃ bracket front back, artifact.bracket? config record = some bracket ∧
      (Pass.mk (some artifact) config duplicates rules).writtenAlone record =
        .ok (Row.renderAll config.indent front ++ bracket.around config.indent text ++
          Row.renderAll config.indent back) := by
  have complete := Artifact.lacks?_of_present named spliced present
  have framed : artifact.Frames config record text
      (((Pass.mk (some artifact) config duplicates rules).layout record).sheet 0).rows :=
    frames_rows spliced present named
  obtain ⟨bracket, front, back, bracketed, -, rows⟩ := framed
  refine ⟨bracket, front, back, bracketed, ?_⟩
  rw [(writtenAlone_of_complete rfl complete).1, Pass.text, rows, Row.renderAll_append,
    Row.renderAll_append, bracket.renderAll_rows]

end Spliced

/-- A printer writes a fragment at its level, and an artifact between two lines and one level
deeper than these. Either way the text is left with a line feed in place of each boundary when the
indentation is removed from what is written. The completed text is left exactly if its only
boundaries are line feeds. -/
theorem fragment_verbatim_iff (text : String) :
    (∀ printer : Printer, printer.fragment text =
      printer.write (Row.renderFragment printer.unit printer.level.toNat text)) ∧
    (∀ (artifact : Artifact) (config : Config) (duplicates : DuplicatePolicy) (rules : RuleTable)
        (record : Record) (key : TextKey) (inst : String),
      artifact.splicedKey? record = some key → record.require key = .ok text →
      record.requireInst = .ok inst →
      ∃ bracket front back, artifact.bracket? config record = some bracket ∧
        (Pass.mk (some artifact) config duplicates rules).writtenAlone record =
          .ok (Row.renderAll config.indent front ++ bracket.around config.indent text ++
            Row.renderAll config.indent back)) ∧
    ∀ (unit : String) (depth : Nat),
      let indentation := (Printer.indentation unit depth).toList
      let written := (Row.renderFragment unit depth text).toList
      Text.Unindents indentation written (Text.refed text.toList) ∧
        (Text.Unindents indentation written (Text.completed text.toList) ↔
          Text.OnlyFeeds text.toList) ∧
        ('\n' ∉ unit.toList →
          (Text.feedLines written).flatMap (·.drop indentation.length) =
            Text.refed text.toList) := by
  refine ⟨?_, ?_, ?_⟩
  · intro printer
    exact printer.fragment_eq text
  · intro artifact config duplicates rules record key inst spliced present named
    exact Pass.writtenAlone_fragment spliced present named
  · intro unit depth indentation written
    have left := Row.unindents_renderFragment unit depth text
    refine ⟨left, Row.unindents_renderFragment_completed_iff unit depth text, ?_⟩
    intro noFeed
    exact left.drop_feedLines (Printer.feed_not_mem_indentation noFeed depth)

/-- A case whose code has an empty line and a line of its own depth. -/
theorem fragment_verbatim_case :
    let record : Record := { inst := some "A", isPrimitive := true, code := some "x\n\n  y" }
    (∃ bracket front back, Artifact.interpreter.bracket? {} record = some bracket ∧
      (Pass.mk (some .interpreter) {} .warn .standard).writtenAlone record =
        .ok (Row.renderAll "  " front ++ bracket.around "  " "x\n\n  y" ++
          Row.renderAll "  " back)) ∧
    Text.Unindents (Printer.indentation "  " 5).toList
      (Row.renderFragment "  " 5 "x\n\n  y").toList "x\n\n  y\n".toList := by
  intro record
  obtain ⟨-, spliced, written⟩ := fragment_verbatim_iff "x\n\n  y"
  refine ⟨spliced .interpreter {} .warn .standard record .code "A" rfl rfl rfl, ?_⟩
  have feeds : Text.OnlyFeeds "x\n\n  y".toList := by decide
  exact (written "  " 5).2.1.mpr feeds

/-- A form feed is lost. -/
theorem form_feed_cut :
    let printer : Printer := { level := 1 }
    let written := (printer.fragment "x\x0cy").pending
    written = "  x\n  y\n" ∧
      ¬ Text.Unindents (Printer.indentation printer.unit 1).toList written.toList
        (Text.completed "x\x0cy".toList) := by
  intro printer written
  refine ⟨by decide +kernel, ?_⟩
  intro left
  have same : written = Row.renderFragment "  " 1 "x\x0cy" := by decide +kernel
  rw [same] at left
  have feeds := (Row.unindents_renderFragment_completed_iff "  " 1 "x\x0cy").mp left
  cases feeds '\x0c' (by decide) rfl

end InstructionSet
