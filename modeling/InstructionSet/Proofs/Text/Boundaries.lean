import Mathlib.Data.List.Basic
import InstructionSet.Text.Lines

/-!
# Boundaries that are no line feeds

Texts are cut into lines at every boundary, files at line feeds only. The lines are the
same exactly as far as no other boundary stands inside the text. Where one does, ending
each line with a line feed adds line feeds to the text.
-/

set_option autoImplicit false

namespace InstructionSet.Text

/-- No character but the last is a boundary other than a line feed. -/
def OnlyFeedsInside (chars : List Char) : Prop :=
  ∀ c ∈ chars.dropLast, isLineBoundary c = true → c = '\n'

-- The characters are looked at one by one; there are other ways to decide this.
instance (chars : List Char) : Decidable (OnlyFeedsInside chars) :=
  List.decidableBAll (fun c => isLineBoundary c = true → c = '\n') chars.dropLast

/-- A text with a line feed at its end, unless it is empty or ends with one. -/
def completed (chars : List Char) : List Char :=
  if chars.getLast?.all (· == '\n') then chars else chars ++ ['\n']

/-- A text with a line feed behind each line that does not end with one. -/
def fed : List Char → List Char
  | [] => []
  | c :: rest =>
      if c = '\n' then c :: fed rest
      else if isLineBoundary c || rest.isEmpty then c :: '\n' :: fed rest
      else c :: fed rest

theorem onlyFeedsInside_singleton (c : Char) : OnlyFeedsInside [c] := by
  simp [OnlyFeedsInside]

theorem onlyFeedsInside_cons {c next : Char} {rest : List Char} :
    OnlyFeedsInside (c :: next :: rest) ↔
      (isLineBoundary c = true → c = '\n') ∧ OnlyFeedsInside (next :: rest) := by
  simp [OnlyFeedsInside]

theorem OnlyFeedsInside.tail {c : Char} {rest : List Char} (inside : OnlyFeedsInside (c :: rest)) :
    OnlyFeedsInside rest := by
  cases rest with
  | nil => simp [OnlyFeedsInside]
  | cons next rest => exact (onlyFeedsInside_cons.mp inside).2

theorem completed_singleton (c : Char) : completed [c] = if c = '\n' then [c] else [c, '\n'] := by
  by_cases feed : c = '\n' <;> simp [completed, feed]

theorem completed_cons (c next : Char) (rest : List Char) :
    completed (c :: next :: rest) = c :: completed (next :: rest) := by
  simp only [completed, List.getLast?_cons_cons]
  split <;> rfl

theorem length_completed_le (chars : List Char) :
    (completed chars).length ≤ (fed chars).length := by
  induction chars with
  | nil => exact Nat.le_refl _
  | cons c rest ih =>
      cases rest with
      | nil =>
          rw [completed_singleton]
          by_cases feed : c = '\n' <;> simp [fed, feed]
      | cons next rest =>
          rw [completed_cons, fed]
          split_ifs <;> simp only [List.length_cons] <;> omega

theorem fed_eq_completed_iff {chars : List Char} :
    fed chars = completed chars ↔ OnlyFeedsInside chars := by
  induction chars with
  | nil => simp [fed, completed, OnlyFeedsInside]
  | cons c rest ih =>
      cases rest with
      | nil =>
          rw [completed_singleton]
          by_cases feed : c = '\n' <;> simp [fed, feed, onlyFeedsInside_singleton]
      | cons next rest =>
          rw [completed_cons, onlyFeedsInside_cons, ← ih, fed]
          by_cases feed : c = '\n'
          · simp [feed]
          · cases boundary : isLineBoundary c with
            | false => simp [feed]
            | true =>
                -- The line feed behind the boundary makes the text too long.
                have longer := length_completed_le (next :: rest)
                have differs : '\n' :: fed (next :: rest) ≠ completed (next :: rest) := by
                  intro same
                  rw [← same, List.length_cons] at longer
                  omega
                simp [feed, differs]

/-! ## Lines -/

section Lines

variable {chars : List Char}

theorem Line.whole_ne_nil : ∀ line ∈ Line.cut chars, line.whole ≠ [] := by
  fun_induction Line.cut chars with
  | case1 => simp
  | case2 rest ih => simpa [Line.whole] using ih
  | case3 c rest _ boundary ih => simpa [Line.whole] using ih
  | case4 => simp [Line.whole]
  | case5 c rest _ inside line lines cutRest ih =>
      rw [cutRest] at ih
      simp only [List.mem_cons, forall_eq_or_imp, Line.whole_push] at ih ⊢
      exact ⟨List.cons_ne_nil _ _, ih.2⟩

/-- One step of cutting a text without carriage returns. -/
theorem Line.cut_cons {c : Char} {rest : List Char} (noReturn : '\r' ∉ c :: rest) :
    Line.cut (c :: rest) =
      if isLineBoundary c then ⟨[], [c]⟩ :: Line.cut rest
      else match Line.cut rest with
        | [] => [⟨[c], []⟩]
        | line :: lines => line.push c :: lines := by
  have differs : c ≠ '\r' := by
    rintro rfl
    exact noReturn List.mem_cons_self
  rw [Line.cut.eq_def]
  split
  · contradiction
  · rename_i same
    exact absurd (List.cons.inj same).1 differs
  · rename_i same
    obtain ⟨rfl, rfl⟩ := List.cons.inj same
    rfl

theorem map_whole_cut (noReturn : '\r' ∉ chars) (inside : OnlyFeedsInside chars) :
    (Line.cut chars).map Line.whole = feedLines chars := by
  induction chars with
  | nil => rfl
  | cons c rest ih =>
      have lines := ih (fun member => noReturn (List.mem_cons_of_mem c member)) inside.tail
      rw [Line.cut_cons noReturn, feedLines, ← lines]
      by_cases feed : c = '\n'
      · subst feed
        rfl
      · cases boundary : isLineBoundary c with
        | true =>
            -- The boundary is the last character.
            cases rest with
            | nil => simp [Line.cut, Line.whole, feed]
            | cons next rest => exact absurd ((onlyFeedsInside_cons.mp inside).1 boundary) feed
        | false =>
            cases Line.cut rest with
            | nil => simp [feed, Line.whole]
            | cons line lines => simp [feed]

theorem flatMap_completed_cut (noReturn : '\r' ∉ chars) :
    (Line.cut chars).flatMap (fun line => completed line.whole) = fed chars := by
  induction chars with
  | nil => rfl
  | cons c rest ih =>
      have lines := ih fun member => noReturn (List.mem_cons_of_mem c member)
      rw [Line.cut_cons noReturn, fed, ← lines]
      by_cases feed : c = '\n'
      · subst feed
        rfl
      · cases boundary : isLineBoundary c with
        | true => simp [Line.whole, completed_singleton, feed]
        | false =>
            have rejoined := Line.flatMap_whole_cut rest
            cases cutRest : Line.cut rest with
            | nil =>
                obtain rfl : rest = [] := by simpa [cutRest] using rejoined.symm
                simp [Line.whole, completed_singleton, feed]
            | cons line lines =>
                have written := Line.whole_ne_nil line (cutRest ▸ List.mem_cons_self)
                obtain ⟨first, more, whole⟩ := List.exists_cons_of_ne_nil written
                have further : rest ≠ [] := by
                  rintro rfl
                  cases cutRest
                simp [feed, further, whole, completed_cons]

theorem not_mem_normalizeNewlines (chars : List Char) : '\r' ∉ normalizeNewlines chars := by
  fun_induction normalizeNewlines chars with
  | case1 => exact List.not_mem_nil
  | case2 rest ih => simpa using ih
  | case3 c rest _ ih =>
      refine List.not_mem_cons_of_ne_of_not_mem ?_ ih
      split
      · decide
      · rename_i differs
        exact fun same => differs (beq_iff_eq.mpr same.symm)

theorem normalizeNewlines_of_not_mem (noReturn : '\r' ∉ chars) :
    normalizeNewlines chars = chars := by
  fun_induction normalizeNewlines chars with
  | case1 => rfl
  | case2 rest ih => simp at noReturn
  | case3 c rest _ ih =>
      obtain ⟨differs, noReturnRest⟩ := List.ne_and_not_mem_of_not_mem_cons noReturn
      rw [ih noReturnRest]
      simp [differs.symm]

end Lines

end InstructionSet.Text
