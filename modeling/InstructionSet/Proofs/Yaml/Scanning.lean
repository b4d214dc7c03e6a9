import Mathlib
import InstructionSet.Yaml.Token.Scanner

/-!
# Where the faults of the lexer come from

The lexer has two kinds of faults. Those of the text are its own and have a place. The other is the
fault that ends what the source could supply, which it has held from the start: no step changes it,
and a step that fails with a fault of a source fails with the one held.

`Held` and `Kept` say so of one step. There is one specification for each step, and each follows
from those of the steps it takes.
-/

set_option autoImplicit false
set_option mvcgen.warning false

open Std.Do

namespace InstructionSet.Yaml

/-- If a fault is one of a source, it is the one that was held. -/
def Fault.Within (fault? : Option SourceFault) : Fault → Prop
  | .source held => fault? = some held
  | .located _ | .scalar _ => True

@[simp, grind =] theorem Fault.within_source (fault? : Option SourceFault) (held : SourceFault) :
    (Fault.source held).Within fault? ↔ fault? = some held := Iff.rfl

@[simp, grind .] theorem Fault.within_located (fault? : Option SourceFault)
    (fault : LocatedFault) : (Fault.located fault).Within fault? := trivial

@[simp, grind .] theorem Fault.within_scalar (fault? : Option SourceFault) (fault : ScalarFault) :
    (Fault.scalar fault).Within fault? := trivial

theorem Fault.Within.of_none {fault : Fault} (within : fault.Within none)
    (fault? : Option SourceFault) : fault.Within fault? := by
  cases fault with
  | source held => cases within
  | located | scalar => trivial

/-- How a step ends: with a value and a state, or with a fault. -/
def Ends {σ α : Type} (after : α → σ → Prop) (fails : Fault → Prop) :
    Except Fault (α × σ) → Prop
  | .ok (value, state) => after value state
  | .error fault => fails fault

theorem Ends.error {σ α : Type} {after : α → σ → Prop} {fails : Fault → Prop}
    {result : Except Fault (α × σ)} (ends : Ends after fails result) {fault : Fault}
    (failed : result = .error fault) : fails fault := by
  rw [failed] at ends
  exact ends

theorem Ends.ok {σ α : Type} {after : α → σ → Prop} {fails : Fault → Prop}
    {result : Except Fault (α × σ)} (ends : Ends after fails result) {value : α} {state : σ}
    (succeeded : result = .ok (value, state)) : after value state := by
  rw [succeeded] at ends
  exact ends

/-- The specification of a step, read off its runs. -/
theorem triple_iff {σ α : Type} {step : StateT σ (Except Fault) α} {before : σ → Prop}
    {after : α → σ → Prop} {fails : Fault → Prop} :
    ⦃fun state => ⌜before state⌝⦄ step
      ⦃post⟨fun value state => ⌜after value state⌝, fun fault => ⌜fails fault⌝⟩⦄ ↔
    ∀ state, before state → Ends after fails (step state) := by
  have run (state : σ) :
      (wp⟦step⟧ (post⟨fun value state => ⌜after value state⌝, fun fault => ⌜fails fault⌝⟩)
        state).down ↔ Ends after fails (step state) := by
    simp only [wp, StateT.run, PredTrans.apply_pushArg]
    cases step state <;> exact Iff.rfl
  exact ⟨fun keeps state held => (run state).mp (keeps state held),
    fun keeps state held => (run state).mpr (keeps state held)⟩

namespace Scan

/-- The lexer holds a fault of its source, or none. -/
abbrev Held (fault? : Option SourceFault) : Assertion (.arg Lexer (.except Fault .pure)) :=
  fun lexer => ⌜lexer.fault = fault?⌝

/-- The lexer holds what it held, and a fault that ends the step is within it. -/
abbrev Kept {α : Type} (fault? : Option SourceFault) :
    PostCond α (.arg Lexer (.except Fault .pure)) :=
  post⟨fun _ lexer => ⌜lexer.fault = fault?⌝, fun fault => ⌜fault.Within fault?⌝⟩

variable (fault? : Option SourceFault)

/-! ## Characters -/

@[spec high] theorem throw_keeps {α : Type} {fault : Fault} (within : fault.Within fault?) :
    ⦃Held fault?⦄ (throw fault : Scan α) ⦃Kept fault?⦄ := by
  intro lexer held
  exact within

@[spec] theorem fail_keeps {α : Type} (problem : Problem) (activity : Option Activity)
    (began : Option Mark) :
    ⦃Held fault?⦄ fail (α := α) problem activity began ⦃Kept fault?⦄ := by
  mvcgen [fail]

@[spec] theorem reachEnd_keeps :
    ⦃Held fault?⦄ reachEnd ⦃Kept fault?⦄ := by
  mvcgen [reachEnd]
  grind

@[spec] theorem failIn_keeps {α : Type} (activity : Activity) (began : Mark) (problem : Problem) :
    ⦃Held fault?⦄ failIn (α := α) activity began problem ⦃Kept fault?⦄ := by
  mvcgen [failIn]

@[spec] theorem here_keeps :
    ⦃Held fault?⦄ here ⦃Kept fault?⦄ := by
  mvcgen [here]

@[spec] theorem peekAt_keeps (ahead : Nat) :
    ⦃Held fault?⦄ peekAt ahead ⦃Kept fault?⦄ := by
  mvcgen [peekAt] <;> grind

@[spec] theorem peek_keeps :
    ⦃Held fault?⦄ peek ⦃Kept fault?⦄ := by
  mvcgen [peek]

@[spec] theorem upcoming_keeps (count : Nat) :
    ⦃Held fault?⦄ upcoming count ⦃Kept fault?⦄ := by
  mvcgen [upcoming] <;> grind

@[spec] theorem advance_keeps (count : Nat) :
    ⦃Held fault?⦄ advance count ⦃Kept fault?⦄ := by
  mvcgen [advance]

@[spec] theorem takeWhile_keeps (inClass : Char → Bool) :
    ⦃Held fault?⦄ takeWhile inClass ⦃Kept fault?⦄ := by
  mvcgen [takeWhile] <;> grind

@[spec] theorem skipSpaces_keeps :
    ⦃Held fault?⦄ skipSpaces ⦃Kept fault?⦄ := by
  mvcgen [skipSpaces] <;> grind

@[spec] theorem skipLine_keeps :
    ⦃Held fault?⦄ skipLine ⦃Kept fault?⦄ := by
  mvcgen [skipLine] <;> grind

@[spec] theorem lineBreak_keeps :
    ⦃Held fault?⦄ lineBreak ⦃Kept fault?⦄ := by
  mvcgen [lineBreak] <;> grind

@[spec] theorem atSeparator_keeps :
    ⦃Held fault?⦄ atSeparator ⦃Kept fault?⦄ := by
  mvcgen [atSeparator] <;> grind

@[spec] theorem emit_keeps (kind : TokenKind) (start stop : Mark) :
    ⦃Held fault?⦄ emit kind start stop ⦃Kept fault?⦄ := by
  mvcgen [emit]

@[spec] theorem emitHere_keeps (kind : TokenKind) :
    ⦃Held fault?⦄ emitHere kind ⦃Kept fault?⦄ := by
  mvcgen [emitHere] <;> grind

@[spec] theorem emitAt_keeps (number : Nat) (kind : TokenKind) (mark : Mark) :
    ⦃Held fault?⦄ emitAt number kind mark ⦃Kept fault?⦄ := by
  mvcgen [emitAt]

@[spec] theorem emitIndicator_keeps (kind : TokenKind) (length : Nat) :
    ⦃Held fault?⦄ emitIndicator kind length ⦃Kept fault?⦄ := by
  mvcgen [emitIndicator] <;> grind

@[spec] theorem allowKey_keeps (allowed : Bool) :
    ⦃Held fault?⦄ allowKey allowed ⦃Kept fault?⦄ := by
  mvcgen [allowKey]

/-! ## Names -/

@[spec] theorem anchorName_keeps (activity : Activity) :
    ⦃Held fault?⦄ anchorName activity ⦃Kept fault?⦄ := by
  mvcgen [anchorName] <;> grind

@[spec] theorem uriByte_keeps (activity : Activity) (start : Mark) :
    ⦃Held fault?⦄ uriByte activity start ⦃Kept fault?⦄ := by
  mvcgen [uriByte] <;> grind

@[spec] theorem uriBytes_keeps (activity : Activity) (start : Mark) (bound : Nat) :
    ⦃Held fault?⦄ uriBytes activity start bound ⦃Kept fault?⦄ := by
  -- Where a step calls itself, the induction hypothesis is the specification of the call.
  induction bound with
  | zero => mvcgen [uriBytes]
  | succ bound ih => mvcgen [uriBytes, ih] <;> grind

@[spec] theorem uriEscapes_keeps (activity : Activity) (start : Mark) :
    ⦃Held fault?⦄ uriEscapes activity start ⦃Kept fault?⦄ := by
  mvcgen [uriEscapes] <;> grind

@[spec] theorem uriCharacters_keeps (activity : Activity) (start : Mark) (bound : Nat) :
    ⦃Held fault?⦄ uriCharacters activity start bound ⦃Kept fault?⦄ := by
  induction bound with
  | zero => mvcgen [uriCharacters]
  | succ bound ih => mvcgen [uriCharacters, ih] <;> grind

@[spec] theorem tagUri_keeps (inDirective : Bool) (start : Mark) :
    ⦃Held fault?⦄ tagUri inDirective start ⦃Kept fault?⦄ := by
  mvcgen [tagUri] <;> grind

@[spec] theorem tagHandle_keeps (inDirective : Bool) (start : Mark) :
    ⦃Held fault?⦄ tagHandle inDirective start ⦃Kept fault?⦄ := by
  mvcgen [tagHandle] <;> grind

@[spec] theorem tagToken_keeps :
    ⦃Held fault?⦄ tagToken ⦃Kept fault?⦄ := by
  mvcgen [tagToken] <;> grind

@[spec] theorem versionNumber_keeps (start : Mark) :
    ⦃Held fault?⦄ versionNumber start ⦃Kept fault?⦄ := by
  mvcgen [versionNumber] <;> grind

@[spec] theorem versionDirective_keeps (start : Mark) :
    ⦃Held fault?⦄ versionDirective start ⦃Kept fault?⦄ := by
  mvcgen [versionDirective] <;> grind

@[spec] theorem tagDirective_keeps (start : Mark) :
    ⦃Held fault?⦄ tagDirective start ⦃Kept fault?⦄ := by
  mvcgen [tagDirective] <;> grind

@[spec] theorem restOfLine_keeps (activity : Activity) (start : Mark) :
    ⦃Held fault?⦄ restOfLine activity start ⦃Kept fault?⦄ := by
  mvcgen [restOfLine] <;> grind

@[spec] theorem directiveToken_keeps :
    ⦃Held fault?⦄ directiveToken ⦃Kept fault?⦄ := by
  mvcgen [directiveToken] <;> grind

/-! ## Scalars -/

@[spec] theorem plainBreaks_keeps (bound : Nat) :
    ⦃Held fault?⦄ plainBreaks bound ⦃Kept fault?⦄ := by
  induction bound with
  | zero => mvcgen [plainBreaks]
  | succ bound ih => mvcgen [plainBreaks, ih] <;> grind

@[spec] theorem plainSpaces_keeps (bound : Nat) :
    ⦃Held fault?⦄ plainSpaces bound ⦃Kept fault?⦄ := by
  mvcgen [plainSpaces] <;> grind

@[spec] theorem plainWord_keeps :
    ⦃Held fault?⦄ plainWord ⦃Kept fault?⦄ := by
  mvcgen [plainWord] <;> grind

@[spec] theorem plainWords_keeps (indent : Int) (bound : Nat) (spaces : List Char) (stop : Mark) :
    ⦃Held fault?⦄ plainWords indent bound spaces stop ⦃Kept fault?⦄ := by
  induction bound generalizing spaces stop with
  | zero => mvcgen [plainWords]
  | succ bound ih => mvcgen [plainWords, ih] <;> grind

@[spec] theorem plainScalarToken_keeps :
    ⦃Held fault?⦄ plainScalarToken ⦃Kept fault?⦄ := by
  mvcgen [plainScalarToken] <;> grind

@[spec] theorem hexDigits_keeps (start : Mark) (width count : Nat) :
    ⦃Held fault?⦄ hexDigits start width count ⦃Kept fault?⦄ := by
  induction count with
  | zero => mvcgen [hexDigits]
  | succ count ih => mvcgen [hexDigits, ih] <;> grind

@[spec] theorem escapedCode_keeps (width code : Nat) :
    ⦃Held fault?⦄ escapedCode width code ⦃Kept fault?⦄ := by
  mvcgen [escapedCode] <;> grind

@[spec] theorem quotedBreaks_keeps (start : Mark) (bound : Nat) :
    ⦃Held fault?⦄ quotedBreaks start bound ⦃Kept fault?⦄ := by
  induction bound with
  | zero => mvcgen [quotedBreaks]
  | succ bound ih => mvcgen [quotedBreaks, ih] <;> grind

@[spec] theorem quotedEscape_keeps (start : Mark) (bound : Nat) :
    ⦃Held fault?⦄ quotedEscape start bound ⦃Kept fault?⦄ := by
  mvcgen [quotedEscape] <;> grind

@[spec] theorem quotedText_keeps (double : Bool) (start : Mark) (bound : Nat) :
    ⦃Held fault?⦄ quotedText double start bound ⦃Kept fault?⦄ := by
  induction bound with
  | zero => mvcgen [quotedText]
  | succ bound ih => mvcgen [quotedText, ih] <;> grind

@[spec] theorem quotedSpaces_keeps (start : Mark) (bound : Nat) :
    ⦃Held fault?⦄ quotedSpaces start bound ⦃Kept fault?⦄ := by
  mvcgen [quotedSpaces] <;> grind

@[spec] theorem quotedPieces_keeps (double : Bool) (start : Mark) (quote : Char) (bound : Nat) :
    ⦃Held fault?⦄ quotedPieces double start quote bound ⦃Kept fault?⦄ := by
  induction bound with
  | zero => mvcgen [quotedPieces]
  | succ bound ih => mvcgen [quotedPieces, ih] <;> grind

@[spec] theorem quotedScalarToken_keeps (double : Bool) :
    ⦃Held fault?⦄ quotedScalarToken double ⦃Kept fault?⦄ := by
  mvcgen [quotedScalarToken] <;> grind

@[spec] theorem chomping?_keeps :
    ⦃Held fault?⦄ chomping? ⦃Kept fault?⦄ := by
  mvcgen [chomping?] <;> grind

@[spec] theorem indentation?_keeps (start : Mark) :
    ⦃Held fault?⦄ indentation? start ⦃Kept fault?⦄ := by
  mvcgen [indentation?] <;> grind

@[spec] theorem blockIndicators_keeps (start : Mark) :
    ⦃Held fault?⦄ blockIndicators start ⦃Kept fault?⦄ := by
  mvcgen [blockIndicators] <;> grind

@[spec] theorem leadingBreaks_keeps (bound widest : Nat) :
    ⦃Held fault?⦄ leadingBreaks bound widest ⦃Kept fault?⦄ := by
  induction bound generalizing widest with
  | zero => mvcgen [leadingBreaks]
  | succ bound ih => mvcgen [leadingBreaks, ih] <;> grind

@[spec] theorem skipIndentation_keeps (indent : Int) (bound : Nat) :
    ⦃Held fault?⦄ skipIndentation indent bound ⦃Kept fault?⦄ := by
  induction bound with
  | zero => mvcgen [skipIndentation]
  | succ bound ih => mvcgen [skipIndentation, ih] <;> grind

@[spec] theorem blockBreaks_keeps (indent : Int) (bound : Nat) :
    ⦃Held fault?⦄ blockBreaks indent bound ⦃Kept fault?⦄ := by
  induction bound with
  | zero => mvcgen [blockBreaks]
  | succ bound ih => mvcgen [blockBreaks, ih] <;> grind

@[spec] theorem atBlockLine_keeps (indent : Int) :
    ⦃Held fault?⦄ atBlockLine indent ⦃Kept fault?⦄ := by
  mvcgen [atBlockLine] <;> grind

@[spec] theorem blockLines_keeps (folded : Bool) (indent : Int) (bound : Nat) (breaks : List Char) :
    ⦃Held fault?⦄ blockLines folded indent bound breaks ⦃Kept fault?⦄ := by
  induction bound generalizing breaks with
  | zero => mvcgen [blockLines]
  | succ bound ih => mvcgen [blockLines, ih] <;> grind

@[spec] theorem blockScalarToken_keeps (folded : Bool) :
    ⦃Held fault?⦄ blockScalarToken folded ⦃Kept fault?⦄ := by
  mvcgen [blockScalarToken] <;> grind

/-! ## Tokens -/

@[spec] theorem requireSettled_keeps (key : SimpleKey) :
    ⦃Held fault?⦄ requireSettled key ⦃Kept fault?⦄ := by
  mvcgen [requireSettled]

@[spec] theorem dropStaleKeys_keeps :
    ⦃Held fault?⦄ dropStaleKeys ⦃Kept fault?⦄ := by
  mvcgen [dropStaleKeys] invariants
  · post⟨fun _ lexer => ⌜lexer.fault = fault?⌝, fun fault => ⌜fault.Within fault?⌝⟩
  with grind

@[spec] theorem dropKey_keeps :
    ⦃Held fault?⦄ dropKey ⦃Kept fault?⦄ := by
  mvcgen [dropKey]
  grind

@[spec] theorem saveKey_keeps :
    ⦃Held fault?⦄ saveKey ⦃Kept fault?⦄ := by
  mvcgen [saveKey] <;> grind

@[spec] theorem unwind_keeps (column : Int) (bound : Nat) :
    ⦃Held fault?⦄ unwind column bound ⦃Kept fault?⦄ := by
  induction bound with
  | zero => mvcgen [unwind]
  | succ bound ih => mvcgen [unwind, ih] <;> grind

@[spec] theorem unwindTo_keeps (column : Int) :
    ⦃Held fault?⦄ unwindTo column ⦃Kept fault?⦄ := by
  mvcgen [unwindTo]

@[spec] theorem openAt_keeps (column : Int) :
    ⦃Held fault?⦄ openAt column ⦃Kept fault?⦄ := by
  mvcgen [openAt]

@[spec] theorem skipToToken_keeps (bound : Nat) :
    ⦃Held fault?⦄ skipToToken bound ⦃Kept fault?⦄ := by
  induction bound with
  | zero => mvcgen [skipToToken]
  | succ bound ih => mvcgen [skipToToken, ih] <;> grind

@[spec] theorem streamEndToken_keeps :
    ⦃Held fault?⦄ streamEndToken ⦃Kept fault?⦄ := by
  mvcgen [streamEndToken] <;> grind

@[spec] theorem leaveDocument_keeps :
    ⦃Held fault?⦄ leaveDocument ⦃Kept fault?⦄ := by
  mvcgen [leaveDocument] <;> grind

@[spec] theorem flowStartToken_keeps (kind : TokenKind) :
    ⦃Held fault?⦄ flowStartToken kind ⦃Kept fault?⦄ := by
  mvcgen [flowStartToken] <;> grind

@[spec] theorem flowEndToken_keeps (kind : TokenKind) :
    ⦃Held fault?⦄ flowEndToken kind ⦃Kept fault?⦄ := by
  mvcgen [flowEndToken] <;> grind

@[spec] theorem flowEntryToken_keeps :
    ⦃Held fault?⦄ flowEntryToken ⦃Kept fault?⦄ := by
  mvcgen [flowEntryToken] <;> grind

@[spec] theorem enterBlock_keeps (opening : TokenKind) (problem : Problem) :
    ⦃Held fault?⦄ enterBlock opening problem ⦃Kept fault?⦄ := by
  mvcgen [enterBlock] <;> grind

@[spec] theorem blockEntryToken_keeps :
    ⦃Held fault?⦄ blockEntryToken ⦃Kept fault?⦄ := by
  mvcgen [blockEntryToken] <;> grind

@[spec] theorem keyToken_keeps :
    ⦃Held fault?⦄ keyToken ⦃Kept fault?⦄ := by
  mvcgen [keyToken] <;> grind

@[spec] theorem valueToken_keeps :
    ⦃Held fault?⦄ valueToken ⦃Kept fault?⦄ := by
  mvcgen [valueToken] <;> grind

@[spec] theorem beginContent_keeps :
    ⦃Held fault?⦄ beginContent ⦃Kept fault?⦄ := by
  mvcgen [beginContent] <;> grind

@[spec] theorem anchorToken_keeps (isAlias : Bool) :
    ⦃Held fault?⦄ anchorToken isAlias ⦃Kept fault?⦄ := by
  mvcgen [anchorToken] <;> grind

@[spec] theorem gapFollows_keeps :
    ⦃Held fault?⦄ gapFollows ⦃Kept fault?⦄ := by
  mvcgen [gapFollows] <;> grind

@[spec] theorem separatorHere_keeps (c : Char) :
    ⦃Held fault?⦄ separatorHere c ⦃Kept fault?⦄ := by
  mvcgen [separatorHere] <;> grind

@[spec] theorem indicatorCounts_keeps :
    ⦃Held fault?⦄ indicatorCounts ⦃Kept fault?⦄ := by
  mvcgen [indicatorCounts]

@[spec] theorem beginsPlain_keeps (c : Char) :
    ⦃Held fault?⦄ beginsPlain c ⦃Kept fault?⦄ := by
  mvcgen [beginsPlain] <;> grind

@[spec] theorem contentToken_keeps (c : Char) :
    ⦃Held fault?⦄ contentToken c ⦃Kept fault?⦄ := by
  mvcgen [contentToken] <;> grind

@[spec] theorem indicatorOrContentToken_keeps (c : Char) :
    ⦃Held fault?⦄ indicatorOrContentToken c ⦃Kept fault?⦄ := by
  mvcgen [indicatorOrContentToken] <;> grind

@[spec] theorem tokenAt_keeps (c : Char) :
    ⦃Held fault?⦄ tokenAt c ⦃Kept fault?⦄ := by
  mvcgen [tokenAt] <;> grind

@[spec] theorem moreTokens_keeps :
    ⦃Held fault?⦄ moreTokens ⦃Kept fault?⦄ := by
  mvcgen [moreTokens] <;> grind

@[spec] theorem needsMore_keeps :
    ⦃Held fault?⦄ needsMore ⦃Kept fault?⦄ := by
  mvcgen [needsMore] <;> grind

@[spec] theorem readAhead_keeps (bound : Nat) :
    ⦃Held fault?⦄ readAhead bound ⦃Kept fault?⦄ := by
  induction bound with
  | zero => mvcgen [readAhead]
  | succ bound ih => mvcgen [readAhead, ih] <;> grind

@[spec] theorem peekToken_keeps :
    ⦃Held fault?⦄ peekToken ⦃Kept fault?⦄ := by
  mvcgen [peekToken] <;> grind

@[spec] theorem takeToken_keeps :
    ⦃Held fault?⦄ takeToken ⦃Kept fault?⦄ := by
  mvcgen [takeToken] <;> grind

end Scan

end InstructionSet.Yaml
