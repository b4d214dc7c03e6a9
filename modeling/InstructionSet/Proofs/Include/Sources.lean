import InstructionSet.Proofs.Include.Copies
import InstructionSet.Proofs.Text.Blocks

/-!
# Sources in files and in memory

A source in a file is cut into lines at line feeds, a source in memory at every boundary.
Without other boundaries inside, the two are processed alike. A source that has some, but
no directives, gets a line feed more for each of them when it is in memory.
-/

set_option autoImplicit false

namespace InstructionSet

namespace Text

theorem ofChars_cons (c : Char) (rest : List Char) :
    ofChars (c :: rest) = (if c = surrogateMark then [c, c] else [c]) ++ ofChars rest :=
  List.flatMap_cons

theorem feedLines_cons_feed (rest : List Char) :
    feedLines ('\n' :: rest) = ['\n'] :: feedLines rest :=
  rfl

theorem feedLines_cons {c : Char} (inside : c ≠ '\n') (rest : List Char) :
    feedLines (c :: rest) =
      match feedLines rest with
      | [] => [[c]]
      | line :: more => (c :: line) :: more :=
  if_neg (by simpa using inside)

theorem feedLines_ofChars (chars : List Char) :
    feedLines (ofChars chars) = (feedLines chars).map ofChars := by
  induction chars with
  | nil => rfl
  | cons c rest ih =>
      rw [ofChars_cons]
      by_cases feed : c = '\n'
      · subst feed
        exact congrArg (['\n'] :: ·) ih
      · rw [feedLines_cons feed]
        -- A mark is doubled within its line, where no cut is made.
        by_cases mark : c = surrogateMark
        · rw [if_pos mark, List.cons_append, List.singleton_append, feedLines_cons feed,
            feedLines_cons feed, ih]
          cases feedLines rest <;> simp [ofChars, mark]
        · rw [if_neg mark, List.singleton_append, feedLines_cons feed, ih]
          cases feedLines rest <;> simp [ofChars, mark]

theorem fileLines_of_noReturn {chars : List Char} (noReturn : '\r' ∉ chars) :
    fileLines (Utf8.encode chars) =
      ((feedLines (ofPlain chars).toList).map String.ofList, none) := by
  have marked : (ofPlain chars).toList = ofChars chars := String.toList_ofList
  rw [fileLines_encode noReturn, marked, feedLines_ofChars, List.map_map]
  rfl

theorem ne_nil_of_mem_feedLines {chars : List Char} : ∀ line ∈ feedLines chars, line ≠ [] := by
  induction chars with
  | nil => simp [feedLines]
  | cons c rest ih =>
      by_cases feed : c = '\n'
      · subst feed
        simpa [feedLines_cons_feed] using ih
      · rw [feedLines_cons feed]
        cases lines : feedLines rest with
        | nil => simp
        | cons line more =>
            rw [lines] at ih
            exact List.forall_mem_cons.mpr ⟨List.cons_ne_nil _ _, (List.forall_mem_cons.mp ih).2⟩

theorem flatMap_completed_feedLines (chars : List Char) :
    (feedLines chars).flatMap completed = completed chars := by
  induction chars with
  | nil => rfl
  | cons c rest ih =>
      have rejoined := flatten_feedLines rest
      by_cases feed : c = '\n'
      · subst feed
        rw [feedLines_cons_feed, List.flatMap_cons, ih]
        cases rest with
        | nil => rfl
        | cons next rest =>
            rw [completed_cons, completed_singleton, if_pos rfl, List.singleton_append]
      · rw [feedLines_cons feed]
        cases lines : feedLines rest with
        | nil =>
            obtain rfl : rest = [] := by simpa [lines] using rejoined.symm
            simp
        | cons line more =>
            have written := ne_nil_of_mem_feedLines line (lines ▸ List.mem_cons_self)
            obtain ⟨first, others, rfl⟩ := List.exists_cons_of_ne_nil written
            rw [lines, List.flatMap_cons] at ih
            rw [lines, List.flatten_cons] at rejoined
            rw [List.flatMap_cons, completed_cons, List.cons_append, ih, ← rejoined,
              List.cons_append, completed_cons]

end Text

namespace Include

open Text (fed completed OnlyFeedsInside)

section Sources

variable (files : Files) (base : Path) (source : String)

theorem items_spliceFrom_of_plain {lines : List String} (number : Nat)
    (plain : ∀ line ∈ lines, directive? line = none) :
    (spliceFrom files base source number lines).items = lines.map terminated := by
  induction lines generalizing number with
  | nil => rfl
  | cons line rest ih =>
      obtain ⟨here, behind⟩ := List.forall_mem_cons.mp plain
      simp only [spliceFrom, spliceLine, here, List.map_cons]
      exact congrArg (terminated line :: ·) (ih (number + 1) behind)

theorem join_ofLines_of_plain {lines : List (List Char)} (written : ∀ line ∈ lines, line ≠ [])
    (plain : ∀ line ∈ lines.map String.ofList, directive? line = none) :
    String.join (ofLines files base source (lines.map String.ofList)).items =
      String.join (banner.map (· ++ "\n")) ++ String.ofList (lines.flatMap completed) := by
  rw [items_ofLines, items_spliceFrom_of_plain files base source 1 plain, String.join_append,
    join_terminated written]

theorem join_ofText_of_plain {text : String} (noReturn : '\r' ∉ text.toList)
    (plain : ∀ line ∈ Text.linesWithEndings text, directive? line = none) :
    String.join (ofText files base source text).items =
      String.join (banner.map (· ++ "\n")) ++ String.ofList (fed text.toList) := by
  rw [linesWithEndings_eq] at plain
  rw [ofText, linesWithEndings_eq,
    join_ofLines_of_plain files base source (fun _ => whole_ne_nil_of_mem) plain, List.flatMap_map,
    Text.flatMap_completed_cut noReturn]

end Sources

/-- A source in a file and the same source in memory, processed with the directory and the name of
the file, are processed alike if the text has no boundaries inside but line feeds. A source
without directives is processed alike only then. -/
theorem ofFile_eq_ofText (files : Files) (directory : Path) {name : String} (named : name ≠ "")
    {chars : List Char} (noReturn : '\r' ∉ chars)
    (stored : files.read (directory.enter name) = .ok (Text.Utf8.encode chars)) :
    let path := directory.enter name
    let text := Text.ofPlain chars
    (OnlyFeedsInside text.toList →
      (ofFile files path).items = (ofText files directory path.text text).items ∧
        (ofFile files path).failure? = (ofText files directory path.text text).failure?) ∧
    ((∀ line ∈ (Text.fileLines (Text.Utf8.encode chars)).1 ++ Text.linesWithEndings text,
        directive? line = none) →
      (String.join (ofFile files path).items =
          String.join (ofText files directory path.text text).items ↔
        OnlyFeedsInside text.toList)) := by
  intro path text
  have noReturnText : '\r' ∉ text.toList := fun member => noReturn (mem_ofPlain_iff.mp member)
  have parent : path.parent = directory := by
    simp only [path, Path.parent, Path.names_enter_of_ne directory named, List.dropLast_concat]
    simp [Path.enter, String.isEmpty_iff, named]
  have lines : Text.fileLines (Text.Utf8.encode chars) =
      ((Text.feedLines text.toList).map String.ofList, none) := Text.fileLines_of_noReturn noReturn
  have opened : ofFile files path = .note ⟨.info, .inclusion, "preprocessing " ++ path.text⟩
      (ofLines files directory path.text ((Text.feedLines text.toList).map String.ofList)) := by
    simp only [ofFile, stored, path, lines, Trace.append_done]
    rw [parent]
  refine ⟨fun inside => ?_, fun plain => ?_⟩
  · have same := Text.map_whole_cut noReturnText inside
    rw [opened, ofText, linesWithEndings_eq, same]
    exact ⟨rfl, rfl⟩
  · -- Behind the banner, the file gives the text completed once, and the memory completed at each
    -- of its boundaries.
    rw [lines, List.forall_mem_append] at plain
    have copied :=
      join_ofLines_of_plain files directory path.text Text.ne_nil_of_mem_feedLines plain.1
    rw [opened, Trace.items, copied, join_ofText_of_plain _ _ _ noReturnText plain.2,
      Text.flatMap_completed_feedLines, ← Text.fed_eq_completed_iff]
    rw [String.append_right_inj, String.ofList_inj, eq_comm]

/-- A page that includes itself, and one without directives. -/
theorem ofFile_eq_ofText_page :
    (pageOf (Text.Utf8.encode pageLine.toList)).read (Path.enter {} "page") =
        .ok (Text.Utf8.encode pageLine.toList) ∧
      (ofFile (pageOf (Text.Utf8.encode pageLine.toList)) (Path.enter {} "page")).items =
        (ofText (pageOf (Text.Utf8.encode pageLine.toList)) {} "page" pageLine).items ∧
      String.join (ofFile (pageOf [120, 10, 121]) (Path.enter {} "page")).items =
        String.join (ofText (pageOf [120, 10, 121]) {} "page" "x\ny").items := by
  have stored : (pageOf (Text.Utf8.encode pageLine.toList)).read (Path.enter {} "page") =
      .ok (Text.Utf8.encode pageLine.toList) := by decide +kernel
  have alike := ofFile_eq_ofText (pageOf (Text.Utf8.encode pageLine.toList)) {} (by decide)
    (by decide +kernel) stored
  have short : (pageOf [120, 10, 121]).read (Path.enter {} "page") =
      .ok (Text.Utf8.encode ['x', '\n', 'y']) := by decide +kernel
  have shortAlike := ofFile_eq_ofText (pageOf [120, 10, 121]) {} (by decide) (by decide) short
  exact ⟨stored, (alike.1 (by decide +kernel)).1,
    (shortAlike.2 (by decide +kernel)).mpr (by decide +kernel)⟩

/-- A form feed is no end of a line in a file, and is one in memory. -/
theorem form_feed_read_apart :
    (pageOf [120, 12, 121, 10]).read (Path.enter {} "page") =
        .ok (Text.Utf8.encode "x\x0cy\n".toList) ∧
      (ofFile (pageOf [120, 12, 121, 10]) (Path.enter {} "page")).items =
        banner.map (· ++ "\n") ++ ["x\x0cy\n"] ∧
      (ofText (pageOf [120, 12, 121, 10]) {} "page" "x\x0cy\n").items =
        banner.map (· ++ "\n") ++ ["x\x0c\n", "y\n"] ∧
      String.join (ofFile (pageOf [120, 12, 121, 10]) (Path.enter {} "page")).items ≠
        String.join (ofText (pageOf [120, 12, 121, 10]) {} "page" "x\x0cy\n").items := by
  refine ⟨?_, ?_, ?_, ?_⟩
  · decide +kernel
  · decide +kernel
  · decide +kernel
  · decide +kernel

end Include

end InstructionSet
