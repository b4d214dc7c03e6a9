import Mathlib.Data.List.Basic
import InstructionSet.Include.Splice

/-!
# Files beside the source

The last component of a path text is the one behind which nothing is named any more. It is all that
counts of a text that is not absolute: the file has this name, in the directory of the source,
unless the component is a double dot, and the directory itself is meant where there is none.
-/

set_option autoImplicit false

namespace InstructionSet

namespace Path

/-- Slashes, and single dots behind them. -/
inductive NamesNothing : List Char → Prop where
  | nil : NamesNothing []
  | slash {rest : List Char} : NamesNothing rest → NamesNothing ('/' :: rest)
  | dot {rest : List Char} : NamesNothing rest → NamesNothing ('/' :: '.' :: rest)

structure LastComponent (text component : List Char) : Prop where
  noSlash : '/' ∉ component
  named : component ≠ [] ∧ component ≠ ['.']
  placed : ∃ front behind, text = front ++ (component ++ behind) ∧
    (front = [] ∨ ∃ directory, front = directory ++ ['/']) ∧ NamesNothing behind

theorem isName_iff (component : List Char) :
    isName component = true ↔ component ≠ [] ∧ component ≠ ['.'] := by
  simp [isName]

/-! ## Texts between slashes -/

theorem cutAtSlashes_ne_nil (chars : List Char) : cutAtSlashes chars ≠ [] := by
  cases chars with
  | nil => exact List.cons_ne_nil _ _
  | cons c rest =>
      rw [cutAtSlashes]
      split
      · exact List.cons_ne_nil _ _
      · split <;> exact List.cons_ne_nil _ _

theorem cutAtSlashes_append_slash (front rest : List Char) :
    cutAtSlashes (front ++ '/' :: rest) = cutAtSlashes front ++ cutAtSlashes rest := by
  induction front with
  | nil => rfl
  | cons c front ih =>
      rw [List.cons_append, cutAtSlashes, cutAtSlashes, ih]
      by_cases slash : c = '/'
      · simp [slash]
      · obtain ⟨name, names, cut⟩ := List.exists_cons_of_ne_nil (cutAtSlashes_ne_nil front)
        simp [slash, cut]

theorem cutAtSlashes_of_not_mem {component : List Char} (noSlash : '/' ∉ component) :
    cutAtSlashes component = [component] := by
  induction component with
  | nil => rfl
  | cons c rest ih =>
      obtain ⟨differs, noSlashRest⟩ := List.ne_and_not_mem_of_not_mem_cons noSlash
      rw [cutAtSlashes, ih noSlashRest]
      simp [differs.symm]

/-- Nothing is named behind the last component. -/
theorem filter_cutAtSlashes_append {behind : List Char} (nothing : NamesNothing behind)
    {component : List Char} (noSlash : '/' ∉ component) :
    (cutAtSlashes (component ++ behind)).filter isName = [component].filter isName := by
  induction nothing generalizing component with
  | nil => rw [List.append_nil, cutAtSlashes_of_not_mem noSlash]
  | @slash rest _ ih =>
      have further : (cutAtSlashes rest).filter isName = [] := ih List.not_mem_nil
      rw [cutAtSlashes_append_slash, cutAtSlashes_of_not_mem noSlash, List.filter_append, further,
        List.append_nil]
  | @dot rest _ ih =>
      have further : (cutAtSlashes ('.' :: rest)).filter isName = [] :=
        ih (show '/' ∉ ['.'] by decide)
      rw [cutAtSlashes_append_slash, cutAtSlashes_of_not_mem noSlash, List.filter_append, further,
        List.append_nil]

theorem filter_cutAtSlashes_of_nothing {text : List Char} (nothing : NamesNothing ('/' :: text)) :
    (cutAtSlashes text).filter isName = [] :=
  filter_cutAtSlashes_append nothing List.not_mem_nil

theorem LastComponent.exists_filter_eq {text component : List Char}
    (last : LastComponent text component) :
    ∃ others, (cutAtSlashes text).filter isName = others ++ [component] := by
  obtain ⟨noSlash, named, front, behind, rfl, beginning, nothing⟩ := last
  have here : (cutAtSlashes (component ++ behind)).filter isName = [component] := by
    rw [filter_cutAtSlashes_append nothing noSlash]
    exact List.filter_cons_of_pos ((isName_iff component).mpr named)
  rcases beginning with rfl | ⟨directory, rfl⟩
  · exact ⟨[], here⟩
  · refine ⟨(cutAtSlashes directory).filter isName, ?_⟩
    rw [List.append_assoc, List.singleton_append, cutAtSlashes_append_slash, List.filter_append,
      here]

/-! ## Texts with and without a last component -/

section Components

variable {c : Char} {rest component : List Char}

theorem LastComponent.behind_slash (last : LastComponent rest component) :
    LastComponent ('/' :: rest) component := by
  obtain ⟨noSlash, named, front, behind, rfl, beginning, nothing⟩ := last
  refine ⟨noSlash, named, '/' :: front, behind, rfl, .inr ?_, nothing⟩
  rcases beginning with rfl | ⟨directory, rfl⟩
  · exact ⟨[], rfl⟩
  · exact ⟨'/' :: directory, rfl⟩

theorem LastComponent.exists_cons (within : c ≠ '/') (last : LastComponent rest component) :
    ∃ other, LastComponent (c :: rest) other := by
  obtain ⟨noSlash, named, front, behind, rfl, beginning, nothing⟩ := last
  rcases beginning with rfl | ⟨directory, rfl⟩
  · -- The character is the first of the last component.
    refine ⟨c :: component, ?_, ⟨List.cons_ne_nil _ _, ?_⟩, [], behind, rfl, .inl rfl, nothing⟩
    · exact List.not_mem_cons_of_ne_of_not_mem within.symm noSlash
    · exact fun same => named.1 (List.cons.inj same).2
  · exact ⟨component, noSlash, named, c :: (directory ++ ['/']), behind, rfl,
      .inr ⟨c :: directory, rfl⟩, nothing⟩

/-- A character in front of nothing begins the only component there is, unless it is a dot alone. -/
theorem NamesNothing.exists_last_cons (within : c ≠ '/') (nothing : NamesNothing ('/' :: rest)) :
    (∃ component, LastComponent (c :: rest) component) ∨ NamesNothing ('/' :: c :: rest) := by
  cases nothing with
  | slash nothing =>
      by_cases dot : c = '.'
      · subst dot
        exact .inr (.dot nothing)
      · refine .inl ⟨[c], ?_, ⟨List.cons_ne_nil _ _, ?_⟩, [], rest, rfl, .inl rfl, nothing⟩
        · simpa using within.symm
        · simpa using dot
  | @dot behind nothing =>
      refine .inl ⟨[c, '.'], ?_, ⟨List.cons_ne_nil _ _, ?_⟩, [], behind, rfl, .inl rfl, nothing⟩
      · simpa using within.symm
      · simp

end Components

/-- Every text has a last component or names nothing. -/
theorem exists_lastComponent_or_nothing (text : List Char) :
    (∃ component, LastComponent text component) ∨ NamesNothing ('/' :: text) := by
  induction text with
  | nil => exact .inr (.slash .nil)
  | cons c rest ih =>
      by_cases slash : c = '/'
      · subst slash
        rcases ih with ⟨component, last⟩ | nothing
        · exact .inl ⟨component, last.behind_slash⟩
        · exact .inr (.slash nothing)
      · rcases ih with ⟨component, last⟩ | nothing
        · exact .inl (last.exists_cons slash)
        · exact nothing.exists_last_cons slash

/-! ## Names and roots -/

theorem name_ofText_of_last {text name : String} (last : LastComponent text.toList name.toList) :
    (ofText text).name = name := by
  obtain ⟨others, filtered⟩ := last.exists_filter_eq
  simp [Path.name, ofText, filtered]

theorem name_ofText_of_nothing {text : String} (nothing : NamesNothing ('/' :: text.toList)) :
    (ofText text).name = "" := by
  simp [Path.name, ofText, filter_cutAtSlashes_of_nothing nothing]

theorem isAbsolute_ofText (text : String) :
    (ofText text).isAbsolute = true ↔ text.toList.head? = some '/' := by
  unfold isAbsolute ofText rootOf
  cases text.toList with
  | nil => simp
  | cons c rest =>
      by_cases slash : c = '/'
      · subst slash
        simp only [List.takeWhile_cons_of_pos, beq_self_eq_true, List.length_cons, List.head?_cons]
        split <;> simp_all
      · simp [slash]

end Path

namespace Include

open InstructionSet.Path (LastComponent NamesNothing)

/-- A path leads one name further than a directory, and the name is no dot and no double dot. -/
structure EntryOf (directory : Path) (name : String) (path : Path) : Prop where
  further : path = { directory with names := directory.names ++ [name] }
  proper : name ≠ "." ∧ name ≠ ".."

section Resolution

variable {text name : String}

theorem resolve_of_absolute (base : Path) (absolute : text.toList.head? = some '/') :
    resolve base text = Path.ofText text := by
  rw [resolve, if_pos ((Path.isAbsolute_ofText text).mpr absolute)]

theorem resolve_of_relative (base : Path) (relative : text.toList.head? ≠ some '/') :
    resolve base text = base.enter (Path.ofText text).name := by
  rw [resolve, if_neg (mt (Path.isAbsolute_ofText text).mp relative)]

theorem resolve_of_last (base : Path) (relative : text.toList.head? ≠ some '/')
    (last : LastComponent text.toList name.toList) :
    resolve base text = { base with names := base.names ++ [name] } := by
  have written : name.isEmpty = false := by
    cases empty : name.isEmpty with
    | false => rfl
    | true => exact absurd (by rw [String.isEmpty_iff.mp empty]; rfl) last.named.1
  rw [resolve_of_relative base relative, Path.name_ofText_of_last last, Path.enter, written]
  rfl

theorem resolve_of_nothing (base : Path) (relative : text.toList.head? ≠ some '/')
    (nothing : NamesNothing ('/' :: text.toList)) : resolve base text = base := by
  rw [resolve_of_relative base relative, Path.name_ofText_of_nothing nothing]
  rfl

theorem exists_last_or_nothing (text : String) :
    (∃ name : String, LastComponent text.toList name.toList) ∨
      NamesNothing ('/' :: text.toList) := by
  rcases Path.exists_lastComponent_or_nothing text.toList with ⟨component, last⟩ | nothing
  · exact .inl ⟨String.ofList component, by rwa [String.toList_ofList]⟩
  · exact .inr nothing

end Resolution

/-- A text that is not absolute stands for the file in the directory of the source that has the name
of its last component, or for that directory if it has none. So the path names an entry of the
directory if and only if there is a last component other than a double dot. -/
theorem resolve_beside (base : Path) (text : String) :
    (text.toList.head? = some '/' → resolve base text = Path.ofText text) ∧
    (text.toList.head? ≠ some '/' →
      ((∃ name : String, LastComponent text.toList name.toList) ∨
        NamesNothing ('/' :: text.toList)) ∧
      (∀ name : String, LastComponent text.toList name.toList →
        resolve base text = { base with names := base.names ++ [name] }) ∧
      (NamesNothing ('/' :: text.toList) → resolve base text = base) ∧
      ((∃ name : String, LastComponent text.toList name.toList ∧
          EntryOf base name (resolve base text)) ↔
        ∃ name : String, LastComponent text.toList name.toList ∧ name ≠ "..")) := by
  refine ⟨resolve_of_absolute base, fun relative => ?_⟩
  refine ⟨exists_last_or_nothing text, fun name => resolve_of_last base relative,
    resolve_of_nothing base relative, ?_⟩
  constructor
  · intro beside
    obtain ⟨name, last, entry⟩ := beside
    exact ⟨name, last, entry.proper.2⟩
  · intro inside
    obtain ⟨name, last, differs⟩ := inside
    have proper : name ≠ "." := fun same => last.named.2 (by rw [same]; rfl)
    exact ⟨name, last, resolve_of_last base relative last, proper, differs⟩

/-- A double dot at the end leads out of the directory, and a dot alone stays at it. -/
theorem double_dot_resolved :
    directive? "(**** include: gen/.. ****)" = some "gen/.." ∧
      resolve (Path.ofText "src") "gen/.." = Path.ofText "src/.." ∧
      (∀ name, ¬ EntryOf (Path.ofText "src") name (resolve (Path.ofText "src") "gen/..")) ∧
      resolve (Path.ofText "src") "." = Path.ofText "src" := by
  have resolved : resolve (Path.ofText "src") "gen/.." = Path.ofText "src/.." := by
    decide +kernel
  refine ⟨by decide +kernel, resolved, ?_, by decide +kernel⟩
  intro name entry
  rw [resolved] at entry
  have names : ["src", ".."] = ["src"] ++ [name] :=
    (by decide +kernel : ["src", ".."] = (Path.ofText "src/..").names).trans
      (congrArg Path.names entry.further)
  exact entry.proper.2 (by simpa using names.symm)

end Include

end InstructionSet
