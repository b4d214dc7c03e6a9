import Mathlib.Data.List.DropRight
import InstructionSet.Include.Directive
import InstructionSet.Proofs.Text.Patterns

/-!
# Places in a directive

A directive is described by the places of its parts: the first opener, behind it the last
word with a colon that a closer follows, and the first closer behind that colon. The row
of patterns matches a line exactly if there are such places, and they are the only ones.
-/

set_option autoImplicit false

namespace InstructionSet.Include

open Text.Pattern

/-- A marker stands at a place of a text. -/
def Occurs (marker chars : List Char) (place : Nat) : Prop := marker <+: chars.drop place

structure FirstFrom (marker chars : List Char) (start place : Nat) : Prop where
  notBefore : start ≤ place
  occurs : Occurs marker chars place
  first : ∀ earlier, start ≤ earlier → earlier < place → ¬ Occurs marker chars earlier

/-- The word stands at `start`, and behind it, or behind spaces that follow it, a colon
ends at `behind`. -/
def NamesAt (chars : List Char) (start behind : Nat) : Prop :=
  ∃ spaces, Occurs (keyword ++ (List.replicate spaces ' ' ++ [':'])) chars start ∧
    behind = start + keyword.length + spaces + 1

/-- A word with a colon that a closer follows. -/
def Closes (chars : List Char) (start : Nat) : Prop :=
  ∃ behind, NamesAt chars start behind ∧ ∃ place, behind ≤ place ∧ Occurs closer chars place

/-- The places of the parts of a directive. -/
structure Placed (chars : List Char) (opened start behind closed : Nat) : Prop where
  oneLine : '\n' ∉ chars
  opens : FirstFrom opener chars 0 opened
  inside : opened + opener.length ≤ start
  names : NamesAt chars start behind
  last : ∀ later, start < later → ¬ Closes chars later
  closes : FirstFrom closer chars behind closed

/-- A single line with an opener and, behind the first of them, a word with a colon that a
closer follows. -/
def HasParts (chars : List Char) : Prop :=
  '\n' ∉ chars ∧ ∃ opened, FirstFrom opener chars 0 opened ∧
    ∃ start, opened + opener.length ≤ start ∧ Closes chars start

/-! ## Places -/

section Places

variable {marker chars : List Char} {place : Nat}

theorem occurs_append {front back : List Char} :
    Occurs (front ++ back) chars place ↔
      Occurs front chars place ∧ Occurs back chars (place + front.length) := by
  unfold Occurs
  rw [← List.drop_drop]
  constructor
  · rintro ⟨rest, split⟩
    rw [← split]
    exact ⟨⟨back ++ rest, by simp⟩, ⟨rest, by simp⟩⟩
  · rintro ⟨⟨rest, split⟩, leads⟩
    rw [← split, List.drop_left] at leads
    rw [← split]
    exact (List.prefix_append_right_inj front).mpr leads

theorem occurs_replicate_iff {count : Nat} :
    Occurs (List.replicate count ' ') chars place ↔ count ≤ reach isSpace (chars.drop place) := by
  unfold Occurs
  generalize chars.drop place = rest
  induction count generalizing rest with
  | zero => simp
  | succ count ih =>
      cases rest with
      | nil => simp [List.replicate_succ, reach]
      | cons c rest =>
          rw [List.replicate_succ, List.cons_prefix_cons, ih]
          by_cases space : ' ' = c
          · subst space
            rw [reach_cons_of_pos rfl]
            simp
          · rw [reach_cons_of_neg (by simpa [isSpace] using fun same => space same.symm)]
            simp [space]

theorem Occurs.lt_length (occurs : Occurs marker chars place) (written : marker ≠ []) :
    place < chars.length := by
  by_contra beyond
  rw [Occurs, List.drop_eq_nil_of_le (Nat.le_of_not_lt beyond), List.prefix_nil] at occurs
  exact written occurs

/-- A marker does not begin inside a run that its first character could not be taken by. -/
theorem not_occurs_of_reach (member : Char → Bool) (start : Nat) {c : Char} {rest : List Char}
    (outside : member c = false) (notBefore : start ≤ place)
    (inside : place < start + reach member (chars.drop start)) :
    ¬ Occurs (c :: rest) chars place := by
  rintro ⟨more, split⟩
  obtain ⟨offset, rfl⟩ := Nat.exists_eq_add_of_le notBefore
  have reached : offset + 1 ≤ reach member (chars.drop start) := by omega
  have here : ((chars.drop start).take (offset + 1))[offset]? = some c := by
    rw [List.getElem?_take_of_lt (Nat.lt_succ_self _), List.getElem?_drop, ← List.head?_drop,
      ← split]
    rfl
  have taken := member_of_mem_take reached (List.mem_of_getElem? here)
  rw [outside] at taken
  cases taken

theorem FirstFrom.unique {start one other : Nat} (found : FirstFrom marker chars start one)
    (again : FirstFrom marker chars start other) : one = other := by
  rcases Nat.lt_trichotomy one other with earlier | same | later
  · exact absurd found.occurs (again.first one found.notBefore earlier)
  · exact same
  · exact absurd again.occurs (found.first other again.notBefore later)

theorem NamesAt.unique {start one other : Nat} (found : NamesAt chars start one)
    (again : NamesAt chars start other) : one = other := by
  -- The colon of one cannot be one of the spaces of the other.
  have notFewer {few more : Nat}
      (here : Occurs (keyword ++ (List.replicate few ' ' ++ [':'])) chars start)
      (there : Occurs (keyword ++ (List.replicate more ' ' ++ [':'])) chars start) :
      more ≤ few := by
    rw [occurs_append, occurs_append, List.length_replicate] at here there
    by_contra fewer
    have spaced := occurs_replicate_iff.mp there.2.1
    exact not_occurs_of_reach isSpace (start + keyword.length) rfl (by omega) (by omega) here.2.2
  obtain ⟨spaces, here, rfl⟩ := found
  obtain ⟨others, there, rfl⟩ := again
  have same : spaces = others := Nat.le_antisymm (notFewer there here) (notFewer here there)
  rw [same]

theorem Placed.unique {opened start behind closed opened' start' behind' closed' : Nat}
    (found : Placed chars opened start behind closed)
    (again : Placed chars opened' start' behind' closed') :
    opened = opened' ∧ start = start' ∧ behind = behind' ∧ closed = closed' := by
  have closes := found.closes
  have closesAgain := again.closes
  have sameStart : start = start' := by
    -- Both words close, and behind neither of them is another that does.
    rcases Nat.lt_trichotomy start start' with earlier | same | later
    · exact absurd ⟨_, again.names, _, closesAgain.notBefore, closesAgain.occurs⟩
        (found.last start' earlier)
    · exact same
    · exact absurd ⟨_, found.names, _, closes.notBefore, closes.occurs⟩ (again.last start later)
  subst sameStart
  obtain rfl := found.names.unique again.names
  exact ⟨found.opens.unique again.opens, rfl, rfl, closes.unique closesAgain⟩

end Places

/-! ## Matches -/

section Matches

variable {chars : List Char} {place : Nat} {kept : List Char} {found : Match}

theorem exists_of_literal {marker : List Char} {next : Match → Option Match}
    (matched : (Text.Pattern.literal marker).attempt next ⟨chars.drop place, kept⟩ = some found) :
    Occurs marker chars place ∧
      next ⟨chars.drop (place + marker.length), kept⟩ = some found := by
  rw [attempt_literal] at matched
  split at matched
  · rename_i leads
    exact ⟨List.isPrefixOf_iff_prefix.mp leads, matched⟩
  · cases matched

theorem attempt_of_occurs {marker : List Char} (occurs : Occurs marker chars place)
    (next : Match → Option Match) :
    (Text.Pattern.literal marker).attempt next ⟨chars.drop place, kept⟩ =
      next ⟨chars.drop (place + marker.length), kept⟩ := by
  rw [attempt_literal, if_pos (List.isPrefixOf_iff_prefix.mpr occurs)]

theorem attempt_ahead_eq_none_iff {marker : List Char} :
    (Text.Pattern.ahead (.literal marker)).attempt some ⟨chars.drop place, kept⟩ = none ↔
      ¬ Occurs marker chars place := by
  rw [attempt, attempt_literal, Occurs, ← List.isPrefixOf_iff_prefix]
  split <;> simp_all

theorem exists_of_ahead {marker : List Char}
    (matched : (Text.Pattern.ahead (.literal marker)).attempt some ⟨chars.drop place, kept⟩ =
      some found) :
    Occurs marker chars place ∧ found = ⟨chars.drop place, kept⟩ := by
  have occurs : Occurs marker chars place := by
    by_contra absent
    rw [attempt_ahead_eq_none_iff.mpr absent] at matched
    cases matched
  rw [attempt] at matched
  split at matched
  · exact ⟨occurs, (Option.some.inj matched).symm⟩
  · cases matched

theorem isBlank_of_isSpace {c : Char} (space : isSpace c = true) : Text.isBlank c = true := by
  obtain rfl : c = ' ' := by simpa [isSpace] using space
  rfl

/-- The spaces around a path take nothing from the marker of a closer, and the path ends as
soon as spaces and a closer follow, so the closer is the first one. -/
theorem exists_of_target
    (matched : Grammar.target.attempt some ⟨chars.drop place, kept⟩ = some found) :
    ∃ closed, FirstFrom closer chars place closed ∧ found.rest = chars.drop closed ∧
      Text.trim found.kept = Text.trim (between chars place closed) := by
  obtain ⟨front, notBefore, frontReached, matched, -⟩ := exists_of_greedy matched
  obtain ⟨inner, notBeforeInner, -, matched, earlier⟩ := exists_of_group_lazy matched
  obtain ⟨closed, notBeforeClosed, backReached, matched, -⟩ := exists_of_greedy matched
  obtain ⟨occurs, rfl⟩ := exists_of_ahead matched
  refine ⟨closed, ⟨by omega, occurs, fun other notBeforeOther sooner => ?_⟩, rfl, ?_⟩
  · -- A sooner closer would begin in the spaces in front, in the path or in the spaces behind it.
    rcases Nat.lt_or_ge other front with inFront | behindFront
    · exact not_occurs_of_reach isSpace place rfl notBeforeOther
        (Nat.lt_of_lt_of_le inFront frontReached)
    · rcases Nat.lt_or_ge other inner with inside | behindInner
      · have nowhere := greedy_eq_none_iff.mp (earlier other behindFront inside)
        exact attempt_ahead_eq_none_iff.mp (nowhere other (Nat.le_refl _) (Nat.le_add_right _ _))
      · exact not_occurs_of_reach isSpace inner rfl behindInner
          (Nat.lt_of_lt_of_le sooner backReached)
  · rw [← between_append chars notBefore (Nat.le_trans notBeforeInner notBeforeClosed),
      ← between_append chars notBeforeInner notBeforeClosed, Text.trim_surrounded]
    · exact fun c taken => isBlank_of_isSpace (member_of_mem_between frontReached taken)
    · exact fun c taken => isBlank_of_isSpace (member_of_mem_between backReached taken)

theorem le_limit_isInline (oneLine : '\n' ∉ chars) {stop : Nat} (inside : stop ≤ chars.length) :
    stop ≤ limit isInline chars place := by
  have all : ∀ c ∈ chars.drop place, isInline c = true := by
    intro c member
    have differs : c ≠ '\n' := fun same => oneLine (same ▸ List.mem_of_mem_drop member)
    simpa [isInline] using differs
  rw [limit, reach_eq_length all, List.length_drop]
  omega

theorem target_ne_none {closed : Nat} (oneLine : '\n' ∉ chars) (notBefore : place ≤ closed)
    (occurs : Occurs closer chars closed) :
    Grammar.target.attempt some ⟨chars.drop place, kept⟩ ≠ none := by
  intro nowhere
  have inside : closed ≤ chars.length := (occurs.lt_length (by decide)).le
  have path := greedy_eq_none_iff.mp nowhere place (Nat.le_refl _) (Nat.le_add_right _ _)
  have closing := group_lazy_eq_none_iff.mp path closed notBefore (le_limit_isInline oneLine inside)
  have absent := greedy_eq_none_iff.mp closing closed (Nat.le_refl _) (Nat.le_add_right _ _)
  exact attempt_ahead_eq_none_iff.mp absent occurs

theorem exists_of_naming
    (matched : Grammar.naming.attempt some ⟨chars.drop place, kept⟩ = some found) :
    ∃ behind closed, NamesAt chars place behind ∧ FirstFrom closer chars behind closed ∧
      found.rest = chars.drop closed ∧
      Text.trim found.kept = Text.trim (between chars behind closed) := by
  obtain ⟨word, matched⟩ := exists_of_literal matched
  obtain ⟨colon, notBefore, reached, matched, -⟩ := exists_of_greedy matched
  obtain ⟨ends, matched⟩ := exists_of_literal matched
  obtain ⟨closed, closes, rest, path⟩ := exists_of_target matched
  obtain ⟨spaces, rfl⟩ := Nat.exists_eq_add_of_le notBefore
  refine ⟨_, closed, ⟨spaces, ?_, rfl⟩, closes, rest, path⟩
  rw [occurs_append, occurs_append, List.length_replicate, occurs_replicate_iff]
  exact ⟨word, Nat.le_of_add_le_add_left reached, ends⟩

theorem naming_ne_none (oneLine : '\n' ∉ chars) (closes : Closes chars place) :
    Grammar.naming.attempt some ⟨chars.drop place, kept⟩ ≠ none := by
  obtain ⟨_, ⟨spaces, written, rfl⟩, closed, notBefore, occurs⟩ := closes
  rw [occurs_append, occurs_append, List.length_replicate, occurs_replicate_iff] at written
  obtain ⟨word, reached, ends⟩ := written
  intro nowhere
  rw [Grammar.naming, attempt, attempt_of_occurs word] at nowhere
  have colon := greedy_eq_none_iff.mp nowhere _ (Nat.le_add_right _ _)
    (Nat.add_le_add_left reached _)
  rw [attempt, attempt_of_occurs ends] at colon
  exact target_ne_none oneLine notBefore occurs colon

theorem Closes.lt_length (closes : Closes chars place) : place < chars.length := by
  obtain ⟨_, ⟨spaces, written, -⟩, -⟩ := closes
  exact written.lt_length (by simp [keyword])

theorem exists_of_path (oneLine : '\n' ∉ chars)
    (matched : Grammar.path.match? (chars.drop place) = some found) :
    ∃ start behind closed, place ≤ start ∧ NamesAt chars start behind ∧
      (∀ later, start < later → ¬ Closes chars later) ∧ FirstFrom closer chars behind closed ∧
      found.rest = chars.drop closed ∧
      Text.trim found.kept = Text.trim (between chars behind closed) := by
  obtain ⟨start, notBefore, -, matched, last⟩ := exists_of_greedy matched
  obtain ⟨behind, closed, names, closes, rest, path⟩ := exists_of_naming matched
  refine ⟨start, behind, closed, notBefore, names, fun later further again => ?_, closes, rest, path⟩
  exact naming_ne_none oneLine again
    (last later further (le_limit_isInline oneLine again.lt_length.le))

theorem path_ne_none {start : Nat} (oneLine : '\n' ∉ chars) (notBefore : place ≤ start)
    (closes : Closes chars start) : Grammar.path.match? (chars.drop place) ≠ none := by
  intro nowhere
  have inside : start ≤ chars.length := closes.lt_length.le
  exact naming_ne_none oneLine closes
    (greedy_eq_none_iff.mp nowhere start notBefore (le_limit_isInline oneLine inside))

theorem exists_of_lead (matched : Grammar.lead.match? chars = some found) :
    ∃ opened, FirstFrom opener chars 0 opened ∧ found.rest = chars.drop opened := by
  rw [← List.drop_zero (l := chars)] at matched
  obtain ⟨opened, notBefore, -, matched, earlier⟩ := exists_of_lazy matched
  obtain ⟨occurs, rfl⟩ := exists_of_ahead matched
  exact ⟨opened, ⟨notBefore, occurs, fun other begins sooner =>
    attempt_ahead_eq_none_iff.mp (earlier other begins sooner)⟩, rfl⟩

theorem lead_ne_none {opened : Nat} (oneLine : '\n' ∉ chars) (occurs : Occurs opener chars opened) :
    Grammar.lead.match? chars ≠ none := by
  rw [← List.drop_zero (l := chars)]
  intro nowhere
  have inside : opened ≤ chars.length := (occurs.lt_length (by decide)).le
  exact attempt_ahead_eq_none_iff.mp
    (lazy_eq_none_iff.mp nowhere opened (Nat.zero_le _) (le_limit_isInline oneLine inside)) occurs

theorem match?_tail {text : List Char} (oneLine : '\n' ∉ text) :
    Grammar.tail.match? text = some ⟨[], []⟩ := by
  induction text with
  | nil => rfl
  | cons c rest ih =>
      obtain ⟨differs, oneLineRest⟩ := List.ne_and_not_mem_of_not_mem_cons oneLine
      have inside : isInline c = true := by simpa [isInline] using fun same => differs same.symm
      have behind : greedyRun isInline (fun rest => some ⟨rest, []⟩) rest = some ⟨[], []⟩ :=
        ih oneLineRest
      simp [Grammar.tail, match?, attempt, greedyRun, inside, behind]

end Matches

/-! ## The row -/

section Row

variable {chars : List Char} {opened start behind closed : Nat}

theorem exists_of_matchRow? {kept : List (List Char)}
    (matched : matchRow? Grammar.directive chars = some kept) :
    ∃ opened start behind closed, Placed chars opened start behind closed ∧
      Text.trim (kept.getD 2 []) = Text.trim (between chars behind closed) := by
  have oneLine : '\n' ∉ chars := not_mem_of_matchRow? (by decide) matched
  simp only [Grammar.directive, matchRow?, Option.bind_eq_bind, Option.bind_eq_some_iff,
    Option.pure_def, Option.some.injEq] at matched
  obtain ⟨lead, leads, _, ⟨opening, opens, _, ⟨path, names, _, ⟨_, -, _, -, rfl⟩, rfl⟩, rfl⟩, rfl⟩ :=
    matched
  obtain ⟨opened, first, rest⟩ := exists_of_lead leads
  rw [rest] at opens
  obtain ⟨-, openingEq⟩ := exists_of_literal opens
  obtain rfl := Option.some.inj openingEq
  obtain ⟨start, behind, closed, inside, names, last, closes, -, sameTrim⟩ :=
    exists_of_path oneLine names
  exact ⟨opened, start, behind, closed, ⟨oneLine, first, inside, names, last, closes⟩, sameTrim⟩

theorem matchRow?_ne_none (parts : HasParts chars) : matchRow? Grammar.directive chars ≠ none := by
  obtain ⟨oneLine, opened, first, start, inside, closes⟩ := parts
  obtain ⟨lead, leads⟩ := Option.ne_none_iff_exists'.mp (lead_ne_none oneLine first.occurs)
  obtain ⟨again, firstAgain, leadRest⟩ := exists_of_lead leads
  obtain rfl := first.unique firstAgain
  obtain ⟨path, named⟩ := Option.ne_none_iff_exists'.mp (path_ne_none oneLine inside closes)
  obtain ⟨_, behind, closed, -, -, -, closing, pathRest, -⟩ := exists_of_path oneLine named
  have opens : (Text.Pattern.literal opener).match? lead.rest =
      some ⟨chars.drop (opened + opener.length), []⟩ := by
    rw [leadRest]
    exact attempt_of_occurs first.occurs some
  have closes : (Text.Pattern.literal closer).match? path.rest =
      some ⟨chars.drop (closed + closer.length), []⟩ := by
    rw [pathRest]
    exact attempt_of_occurs closing.occurs some
  have ending : Grammar.tail.match? (chars.drop (closed + closer.length)) = some ⟨[], []⟩ :=
    match?_tail fun member => oneLine (List.mem_of_mem_drop member)
  simp [Grammar.directive, matchRow?, leads, opens, named, closes, ending]

theorem exists_placed (parts : HasParts chars) :
    ∃ opened start behind closed, Placed chars opened start behind closed := by
  obtain ⟨kept, matched⟩ := Option.ne_none_iff_exists'.mp (matchRow?_ne_none parts)
  obtain ⟨opened, start, behind, closed, placed, -⟩ := exists_of_matchRow? matched
  exact ⟨opened, start, behind, closed, placed⟩

theorem Placed.hasParts (placed : Placed chars opened start behind closed) : HasParts chars :=
  ⟨placed.oneLine, opened, placed.opens, start, placed.inside, behind, placed.names, closed,
    placed.closes.notBefore, placed.closes.occurs⟩

theorem pathOf?_of_placed (placed : Placed chars opened start behind closed) :
    pathOf? chars =
      let path := Text.trim (between chars behind closed)
      if path.isEmpty then none else some path := by
  obtain ⟨kept, matched⟩ := Option.ne_none_iff_exists'.mp (matchRow?_ne_none placed.hasParts)
  obtain ⟨_, _, _, _, again, sameTrim⟩ := exists_of_matchRow? matched
  obtain ⟨rfl, rfl, rfl, rfl⟩ := placed.unique again
  simp only [pathOf?, matched, Option.bind_eq_bind, Option.bind_some, sameTrim]

theorem hasParts_of_pathOf? {path : List Char} (found : pathOf? chars = some path) :
    HasParts chars := by
  simp only [pathOf?, Option.bind_eq_bind, Option.bind_eq_some_iff] at found
  obtain ⟨kept, matched, -⟩ := found
  obtain ⟨_, _, _, _, placed, -⟩ := exists_of_matchRow? matched
  exact placed.hasParts

theorem mentions_of_occurs {word : List Char} {place : Nat} (occurs : Occurs word chars place) :
    mentions word chars = true := by
  induction chars generalizing place with
  | nil => simpa [Occurs, mentions] using occurs
  | cons c rest ih =>
      cases place with
      | zero =>
          have leads : word.isPrefixOf (c :: rest) = true := List.isPrefixOf_iff_prefix.mpr occurs
          rw [mentions, leads, Bool.true_or]
      | succ place =>
          have behind : Occurs word rest place := occurs
          rw [mentions, ih behind, Bool.or_true]

/-- Looking for the word first changes nothing. -/
theorem directive?_eq_pathOf? (line : String) :
    directive? line = (pathOf? (withoutEnd line.toList)).map String.ofList := by
  simp only [directive?]
  split
  · rfl
  · rename_i unmentioned
    cases found : pathOf? (withoutEnd line.toList) with
    | none => rfl
    | some path =>
        obtain ⟨-, _, -, start, -, _, ⟨spaces, written, -⟩, -⟩ := hasParts_of_pathOf? found
        exact absurd (mentions_of_occurs (occurs_append.mp written).1) unmentioned

end Row

theorem exists_withoutEnd (chars : List Char) :
    ∃ ending, chars = withoutEnd chars ++ ending ∧ (∀ c ∈ ending, endsLine c = true) ∧
      ∀ c ∈ (withoutEnd chars).getLast?, endsLine c = false := by
  have trimmed : withoutEnd chars = chars.rdropWhile endsLine := rfl
  refine ⟨chars.rtakeWhile endsLine, ?_, fun c => List.mem_rtakeWhile_imp, fun c last => ?_⟩
  · rw [trimmed, List.rdropWhile_append_rtakeWhile]
  · rw [trimmed] at last
    obtain ⟨written, rfl⟩ := List.mem_getLast?_eq_getLast last
    exact Bool.eq_false_iff.mpr (List.rdropWhile_last_not endsLine chars written)

/-- A line is a directive if it has the parts of one, and then its path is what stands between
the colon of the last word that counts and the first closer behind it, without blanks around
it, unless nothing is left. -/
theorem directive?_between_places (line : String) :
    let chars := withoutEnd line.toList
    (∃ ending, line.toList = chars ++ ending ∧ (∀ c ∈ ending, endsLine c = true) ∧
      ∀ c ∈ chars.getLast?, endsLine c = false) ∧
    (HasParts chars → ∃ opened start behind closed, Placed chars opened start behind closed) ∧
    (∀ opened start behind closed, Placed chars opened start behind closed →
      directive? line =
        let path := Text.trim (between chars behind closed)
        if path.isEmpty then none else some (String.ofList path)) ∧
    (¬ HasParts chars → directive? line = none) ∧
    directive? line = (pathOf? chars).map String.ofList := by
  intro chars
  refine ⟨exists_withoutEnd _, exists_placed, ?_, ?_, directive?_eq_pathOf? line⟩
  · intro opened start behind closed placed
    rw [directive?_eq_pathOf?, pathOf?_of_placed placed]
    simp only
    split <;> rfl
  · intro without
    rw [directive?_eq_pathOf?]
    cases found : pathOf? chars with
    | none => rfl
    | some path => exact absurd (hasParts_of_pathOf? found) without

example : directive? "let x = (**** include : a.ml ****) (* include: b *)\n" = some "a.ml" := by
  decide +kernel

end InstructionSet.Include
