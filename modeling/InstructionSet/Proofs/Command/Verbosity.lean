import InstructionSet.Command.Run

/-!
# Verbosity

A command line may ask for more notes in front of everything else. It is read as before, except
that it is more verbose (`Invocation.ofArguments_verbose`).
-/

set_option autoImplicit false

namespace InstructionSet.Command

variable (count : Nat)

namespace Invocation

def louder (count : Nat) (invocation : Invocation) : Invocation :=
  { invocation with verbosity := invocation.verbosity + count }

theorem apply_louder (invocation : Invocation) (setting : Setting × Option String) :
    (invocation.louder count).apply setting = (invocation.apply setting).map (louder count) := by
  obtain ⟨setting, value⟩ := setting
  cases setting with
  | help | version | config => rfl
  | verbose =>
      simp only [apply, louder, Except.map, Nat.add_right_comm]
  | mode mode =>
      have same : (invocation.louder count).mode = invocation.mode := rfl
      simp only [apply, same]
      cases invocation.mode with
      | none => rfl
      | some other =>
          by_cases again : other = mode
          · simp only [again, if_true]
            rfl
          · simp only [again, if_false]
            rfl
  | duplicates =>
      simp only [apply]
      cases policyOf (value.getD "") <;> rfl

theorem foldlM_apply_louder (settings : List (Setting × Option String)) (invocation : Invocation) :
    settings.foldlM apply (invocation.louder count) =
      (settings.foldlM apply invocation).map (louder count) := by
  induction settings generalizing invocation with
  | nil => rfl
  | cons setting settings ih =>
      rw [List.foldlM_cons, List.foldlM_cons, apply_louder]
      cases invocation.apply setting with
      | error refusal => rfl
      | ok applied => exact ih applied

end Invocation

namespace Reading

def louder (count : Nat) (reading : Reading) : Reading :=
  { reading with invocation := reading.invocation.louder count }

theorem applyAll_louder (reading : Reading) (settings : List (Setting × Option String)) :
    (reading.louder count).applyAll settings = (reading.applyAll settings).map (louder count) := by
  have applied := Invocation.foldlM_apply_louder count settings reading.invocation
  simp only [applyAll]
  change (settings.foldlM Invocation.apply (reading.invocation.louder count) >>= _) = _
  rw [applied]
  cases settings.foldlM Invocation.apply reading.invocation <;> rfl

theorem addText_louder (reading : Reading) (text : String) :
    (reading.louder count).addText text = (reading.addText text).louder count := by
  obtain ⟨invocation, files, complete, unrecognized⟩ := reading
  cases complete <;> rfl

/-- What stands behind is read alike, however verbose a run is to be. -/
theorem consume_louder (words : List Word) (reading : Reading) :
    consume words (reading.louder count) = (consume words reading).map (louder count) := by
  fun_induction consume words reading with
  | case1 reading => rfl
  | case2 reading text rest ih => rw [consume, addText_louder, ih]
  | case3 reading rest ih => rw [consume, addText_louder, ih]
  | case4 reading text rest closed ih => exact ih
  | case5 spelled rest reading problem unread =>
      simp only [consume, unread]
      rfl
  | case6 spelled reading given read rest complete refusal refused =>
      simp only [consume, read, complete, applyAll_louder, refused]
      rfl
  | case7 spelled reading given read rest complete next applied ih =>
      simp only [consume, read, complete, applyAll_louder, applied]
      exact ih
  | case8 spelled reading given read setting value rest wanting refusal refused =>
      simp only [consume, read, wanting, applyAll_louder, refused]
      rfl
  | case9 spelled reading given read setting value rest wanting next applied ih =>
      simp only [consume, read, wanting, applyAll_louder, applied]
      exact ih
  | case10 spelled rest reading given read setting wanting noText =>
      have unread (reading : Reading) : consume (.setting spelled :: rest) reading =
          .error (.problem (.missingValue setting)) := by
        unfold consume
        simp only [read, wanting]
      exact unread _

theorem finish_louder (reading : Reading) :
    (reading.louder count).finish = reading.finish.map (Invocation.louder count) := by
  obtain ⟨invocation, files, complete, unrecognized⟩ := reading
  cases unrecognized <;> rfl

end Reading

/-- The word that asks for one note more. -/
def Word.verbose : Word := .setting ⟨"-v", .verbose, none⟩

theorem Word.ofTexts_verbose (arguments : List String) :
    ofTexts ("-v" :: arguments) = (ofTexts arguments).map (verbose :: ·) := by
  have read : ofText "-v" = .ok verbose := rfl
  have noSeparator : ("-v" == "--") = false := rfl
  simp only [ofTexts, noSeparator, read]
  cases ofTexts arguments <;> rfl

theorem Reading.consume_verbose (words : List Word) :
    consume (.verbose :: words) {} = consume words (louder 1 {}) := rfl

namespace Invocation

theorem ofArguments_verbose_cons (arguments : List String) :
    ofArguments ("-v" :: arguments) = (ofArguments arguments).map (louder 1) := by
  unfold ofArguments
  rw [Word.ofTexts_verbose]
  cases Word.ofTexts arguments with
  | error problem => rfl
  | ok words =>
      change (Reading.consume (.verbose :: words) {} >>= Reading.finish) =
        (Reading.consume words {} >>= Reading.finish).map (louder 1)
      rw [Reading.consume_verbose, Reading.consume_louder]
      cases Reading.consume words {} with
      | error refusal => rfl
      | ok reading => exact Reading.finish_louder 1 reading

/-- Asking for more notes in front of a command line makes it more verbose, and has no other
effect. -/
theorem ofArguments_verbose (arguments : List String) :
    ofArguments (List.replicate count "-v" ++ arguments) =
      (ofArguments arguments).map (louder count) := by
  induction count with
  | zero =>
      rw [List.replicate_zero, List.nil_append]
      cases ofArguments arguments <;> rfl
  | succ count ih =>
      rw [List.replicate_succ, List.cons_append, ofArguments_verbose_cons, ih]
      cases ofArguments arguments <;> rfl

end Invocation

end InstructionSet.Command
