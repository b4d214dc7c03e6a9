import Mathlib.Data.List.TakeWhile
import InstructionSet.Text.Pattern

/-!
# Matches of patterns

A greedy run ends at the last place where the rest of the pattern matches, a lazy run at
the first, and either finds a match exactly if there is one at a place that it reaches.
What a pattern takes has only characters that the pattern is made of.
-/

set_option autoImplicit false

namespace InstructionSet.Text.Pattern

/-- How many characters a run can take. -/
def reach (member : Char → Bool) (chars : List Char) : Nat := (chars.takeWhile member).length

theorem reach_cons_of_pos {member : Char → Bool} {c : Char} (inside : member c = true)
    (rest : List Char) : reach member (c :: rest) = reach member rest + 1 := by
  simp [reach, inside]

theorem reach_cons_of_neg {member : Char → Bool} {c : Char} (outside : member c = false)
    (rest : List Char) : reach member (c :: rest) = 0 := by
  simp [reach, outside]

theorem reach_eq_length {member : Char → Bool} {chars : List Char}
    (all : ∀ c ∈ chars, member c = true) : reach member chars = chars.length := by
  rw [reach, List.takeWhile_eq_self_iff.mpr all]

theorem take_eq_of_le_reach {member : Char → Bool} {chars : List Char} {count : Nat}
    (reached : count ≤ reach member chars) :
    chars.take count = (chars.takeWhile member).take count := by
  have split : chars = chars.takeWhile member ++ chars.dropWhile member :=
    List.takeWhile_append_dropWhile.symm
  calc chars.take count
      _ = (chars.takeWhile member ++ chars.dropWhile member).take count := by rw [← split]
      _ = (chars.takeWhile member).take count := List.take_append_of_le_length reached

theorem member_of_mem_take {member : Char → Bool} {chars : List Char} {count : Nat} {c : Char}
    (reached : count ≤ reach member chars) (taken : c ∈ chars.take count) : member c = true := by
  rw [take_eq_of_le_reach reached] at taken
  exact List.mem_takeWhile_imp (List.mem_of_mem_take taken)

variable {member : Char → Bool} {next : List Char → Option Match} {chars : List Char}
variable {found : Match}

theorem greedyRun_eq_none_iff :
    greedyRun member next chars = none ↔
      ∀ count ≤ reach member chars, next (chars.drop count) = none := by
  induction chars with
  | nil => simp [greedyRun, reach]
  | cons c rest ih =>
      cases inside : member c with
      | false => simp [greedyRun, inside, reach_cons_of_neg inside]
      | true =>
          simp only [greedyRun, inside, if_true, Option.or_eq_none_iff, ih,
            reach_cons_of_pos inside]
          constructor
          · rintro ⟨behind, here⟩ (_ | count) reached
            · exact here
            · exact behind count (Nat.le_of_succ_le_succ reached)
          · intro nowhere
            exact ⟨fun count reached => nowhere (count + 1) (Nat.succ_le_succ reached),
              nowhere 0 (Nat.zero_le _)⟩

theorem exists_of_greedyRun (matched : greedyRun member next chars = some found) :
    ∃ count ≤ reach member chars, next (chars.drop count) = some found ∧
      ∀ more, count < more → more ≤ reach member chars → next (chars.drop more) = none := by
  induction chars with
  | nil =>
      refine ⟨0, Nat.le_refl _, matched, fun more later reached => ?_⟩
      simp only [reach, List.takeWhile_nil, List.length_nil] at reached
      omega
  | cons c rest ih =>
      cases inside : member c with
      | false =>
          simp only [greedyRun, inside, Bool.false_eq_true, if_false] at matched
          refine ⟨0, Nat.zero_le _, matched, fun more later reached => ?_⟩
          rw [reach_cons_of_neg inside] at reached
          omega
      | true =>
          rw [reach_cons_of_pos inside]
          simp only [greedyRun, inside, if_true] at matched
          cases behind : greedyRun member next rest with
          | some other =>
              rw [behind, Option.some_or] at matched
              obtain ⟨count, reached, here, last⟩ := ih (behind.trans matched)
              refine ⟨count + 1, by omega, here, ?_⟩
              rintro (_ | more) later reached
              · omega
              · exact last more (by omega) (by omega)
          | none =>
              -- Whatever takes more has been tried before.
              rw [behind, Option.none_or] at matched
              refine ⟨0, by omega, matched, ?_⟩
              rintro (_ | more) later reached
              · omega
              · exact greedyRun_eq_none_iff.mp behind more (by omega)

theorem lazyRun_eq_none_iff :
    lazyRun member next chars = none ↔
      ∀ count ≤ reach member chars, next (chars.drop count) = none := by
  induction chars with
  | nil => simp [lazyRun, reach]
  | cons c rest ih =>
      cases inside : member c with
      | false => simp [lazyRun, inside, reach_cons_of_neg inside]
      | true =>
          simp only [lazyRun, inside, if_true, Option.or_eq_none_iff, ih,
            reach_cons_of_pos inside]
          constructor
          · rintro ⟨here, behind⟩ (_ | count) reached
            · exact here
            · exact behind count (Nat.le_of_succ_le_succ reached)
          · intro nowhere
            exact ⟨nowhere 0 (Nat.zero_le _),
              fun count reached => nowhere (count + 1) (Nat.succ_le_succ reached)⟩

theorem exists_of_lazyRun (matched : lazyRun member next chars = some found) :
    ∃ count ≤ reach member chars, next (chars.drop count) = some found ∧
      ∀ fewer < count, next (chars.drop fewer) = none := by
  induction chars with
  | nil => exact ⟨0, Nat.le_refl _, matched, fun fewer earlier => absurd earlier (Nat.not_lt_zero _)⟩
  | cons c rest ih =>
      rw [lazyRun] at matched
      cases here : next (c :: rest) with
      | some other =>
          rw [here, Option.some_or] at matched
          exact ⟨0, Nat.zero_le _, here.trans matched,
            fun fewer earlier => absurd earlier (Nat.not_lt_zero _)⟩
      | none =>
          rw [here, Option.none_or] at matched
          cases inside : member c with
          | false => simp [inside] at matched
          | true =>
              rw [inside, if_pos rfl] at matched
              obtain ⟨count, reached, there, first⟩ := ih matched
              refine ⟨count + 1, ?_, there, ?_⟩
              · rw [reach_cons_of_pos inside]
                exact Nat.succ_le_succ reached
              · rintro (_ | fewer) earlier
                · exact here
                · exact first fewer (Nat.lt_of_succ_lt_succ earlier)

/-! ## Matches at places

The same facts about a text of which a pattern is matched at a place.
-/

/-- What stands between two places. -/
def between (chars : List Char) (start stop : Nat) : List Char := (chars.take stop).drop start

section Places

variable {place : Nat} {kept : List Char} {next : Match → Option Match}

theorem between_eq (chars : List Char) (start stop : Nat) :
    between chars start stop = (chars.drop start).take (stop - start) :=
  List.drop_take ..

theorem between_append (chars : List Char) {start middle stop : Nat} (front : start ≤ middle)
    (back : middle ≤ stop) :
    between chars start middle ++ between chars middle stop = between chars start stop := by
  obtain ⟨count, rfl⟩ := Nat.exists_eq_add_of_le front
  obtain ⟨more, rfl⟩ := Nat.exists_eq_add_of_le back
  have whole : start + count + more - start = count + more := by omega
  rw [between_eq, between_eq, between_eq, whole, Nat.add_sub_cancel_left, Nat.add_sub_cancel_left,
    List.take_add, List.drop_drop]

theorem take_sub_length (chars : List Char) (start stop : Nat) :
    (chars.drop start).take ((chars.drop start).length - (chars.drop stop).length) =
      between chars start stop := by
  rw [between_eq, List.take_eq_take_iff]
  simp only [List.length_drop]
  omega

/-- The last place to which a run gets. -/
def limit (member : Char → Bool) (chars : List Char) (place : Nat) : Nat :=
  place + reach member (chars.drop place)

theorem member_of_mem_between {stop : Nat} {c : Char} (reached : stop ≤ limit member chars place)
    (taken : c ∈ between chars place stop) : member c = true := by
  rw [between_eq] at taken
  exact member_of_mem_take (Nat.sub_le_iff_le_add'.mpr reached) taken

theorem forall_le_reach_iff (holds : Nat → Prop) :
    (∀ count ≤ reach member (chars.drop place), holds (place + count)) ↔
      ∀ stop, place ≤ stop → stop ≤ limit member chars place → holds stop := by
  unfold limit
  constructor
  · intro throughout stop notBefore reached
    obtain ⟨count, rfl⟩ := Nat.exists_eq_add_of_le notBefore
    exact throughout count (by omega)
  · intro throughout count reached
    exact throughout (place + count) (by omega) (by omega)

theorem greedy_eq_none_iff :
    (greedy member).attempt next ⟨chars.drop place, kept⟩ = none ↔
      ∀ stop, place ≤ stop → stop ≤ limit member chars place →
        next ⟨chars.drop stop, kept⟩ = none := by
  simp only [attempt, greedyRun_eq_none_iff, List.drop_drop]
  exact forall_le_reach_iff fun stop => next ⟨chars.drop stop, kept⟩ = none

theorem exists_of_greedy
    (matched : (greedy member).attempt next ⟨chars.drop place, kept⟩ = some found) :
    ∃ stop, place ≤ stop ∧ stop ≤ limit member chars place ∧
      next ⟨chars.drop stop, kept⟩ = some found ∧
      ∀ more, stop < more → more ≤ limit member chars place →
        next ⟨chars.drop more, kept⟩ = none := by
  obtain ⟨count, reached, here, last⟩ := exists_of_greedyRun matched
  simp only [List.drop_drop] at here last
  refine ⟨place + count, Nat.le_add_right _ _, Nat.add_le_add_left reached place, here,
    fun more later reached => ?_⟩
  obtain ⟨further, rfl⟩ := Nat.exists_eq_add_of_le (Nat.le_trans (Nat.le_add_right _ _) later.le)
  exact last further (by omega) (by simp only [limit] at reached; omega)

theorem lazy_eq_none_iff :
    (lazy member).attempt next ⟨chars.drop place, kept⟩ = none ↔
      ∀ stop, place ≤ stop → stop ≤ limit member chars place →
        next ⟨chars.drop stop, kept⟩ = none := by
  simp only [attempt, lazyRun_eq_none_iff, List.drop_drop]
  exact forall_le_reach_iff fun stop => next ⟨chars.drop stop, kept⟩ = none

theorem exists_of_lazy
    (matched : (lazy member).attempt next ⟨chars.drop place, kept⟩ = some found) :
    ∃ stop, place ≤ stop ∧ stop ≤ limit member chars place ∧
      next ⟨chars.drop stop, kept⟩ = some found ∧
      ∀ fewer, place ≤ fewer → fewer < stop → next ⟨chars.drop fewer, kept⟩ = none := by
  obtain ⟨count, reached, here, first⟩ := exists_of_lazyRun matched
  simp only [List.drop_drop] at here first
  refine ⟨place + count, Nat.le_add_right _ _, Nat.add_le_add_left reached place, here,
    fun fewer notBefore earlier => ?_⟩
  obtain ⟨less, rfl⟩ := Nat.exists_eq_add_of_le notBefore
  exact first less (by omega)

theorem exists_of_group_lazy
    (matched : (group (lazy member)).attempt next ⟨chars.drop place, kept⟩ = some found) :
    ∃ stop, place ≤ stop ∧ stop ≤ limit member chars place ∧
      next ⟨chars.drop stop, between chars place stop⟩ = some found ∧
      ∀ fewer, place ≤ fewer → fewer < stop →
        next ⟨chars.drop fewer, between chars place fewer⟩ = none := by
  rw [attempt] at matched
  obtain ⟨stop, notBefore, reached, here, first⟩ := exists_of_lazy matched
  simp only [take_sub_length] at here first
  exact ⟨stop, notBefore, reached, here, first⟩

theorem group_lazy_eq_none_iff :
    (group (lazy member)).attempt next ⟨chars.drop place, kept⟩ = none ↔
      ∀ stop, place ≤ stop → stop ≤ limit member chars place →
        next ⟨chars.drop stop, between chars place stop⟩ = none := by
  rw [attempt, lazy_eq_none_iff]
  simp only [take_sub_length]

theorem attempt_literal (marker : List Char) :
    (literal marker).attempt next ⟨chars.drop place, kept⟩ =
      if marker.isPrefixOf (chars.drop place) then
        next ⟨chars.drop (place + marker.length), kept⟩
      else none := by
  simp only [attempt, List.drop_drop]

end Places

/-- Whether no match of a pattern can take a character. -/
def avoids (c : Char) : Pattern → Bool
  | .literal text => !text.contains c
  | .greedy member | .lazy member => !member c
  | .group body => body.avoids c
  | .ahead _ => true
  | .andThen first second => first.avoids c && second.avoids c

theorem not_mem_take_of_reach {c : Char} (outside : (!member c) = true) {count : Nat}
    (reached : count ≤ reach member chars) : c ∉ chars.take count := by
  intro taken
  simp [member_of_mem_take reached taken] at outside

/-- A match takes text in front of the place where the rest of the pattern matches, and
the text has none of the characters that the pattern avoids. -/
theorem exists_of_attempt {c : Char} {pattern : Pattern} (avoided : pattern.avoids c = true)
    {next : Match → Option Match} {place : Match}
    (matched : pattern.attempt next place = some found) :
    ∃ taken after, place.rest = taken ++ Match.rest after ∧ c ∉ taken ∧ next after = some found := by
  induction pattern generalizing next place with
  | literal text =>
      rw [attempt] at matched
      split at matched
      · rename_i leads
        obtain ⟨rest, split⟩ := List.isPrefixOf_iff_prefix.mp leads
        refine ⟨text, _, ?_, by simpa [avoids] using avoided, matched⟩
        simp [← split]
      · cases matched
  | greedy member =>
      obtain ⟨count, reached, here, -⟩ := exists_of_greedyRun matched
      exact ⟨_, _, (List.take_append_drop count _).symm, not_mem_take_of_reach avoided reached, here⟩
  | lazy member =>
      obtain ⟨count, reached, here, -⟩ := exists_of_lazyRun matched
      exact ⟨_, _, (List.take_append_drop count _).symm, not_mem_take_of_reach avoided reached, here⟩
  | group body ih =>
      obtain ⟨taken, after, split, free, here⟩ := ih avoided matched
      refine ⟨taken, Match.mk after.rest ?_, split, free, ?_⟩
      · exact place.rest.take (place.rest.length - after.rest.length)
      · exact here
  | ahead body ih =>
      rw [attempt] at matched
      split at matched
      · exact ⟨[], place, rfl, List.not_mem_nil, matched⟩
      · cases matched
  | andThen first second firstIH secondIH =>
      obtain ⟨avoidedFirst, avoidedSecond⟩ := Bool.and_eq_true_iff.mp avoided
      obtain ⟨taken, between, split, free, continued⟩ := firstIH avoidedFirst matched
      obtain ⟨more, after, splitAgain, freeAgain, here⟩ := secondIH avoidedSecond continued
      refine ⟨taken ++ more, after, ?_, ?_, here⟩
      · rw [split, splitAgain, List.append_assoc]
      · exact List.not_mem_append free freeAgain

/-- A row that matches a text takes all of it. -/
theorem not_mem_of_matchRow? {c : Char} {row : List Pattern}
    (avoided : ∀ pattern ∈ row, pattern.avoids c = true) {kept : List (List Char)}
    (matched : matchRow? row chars = some kept) : c ∉ chars := by
  induction row generalizing chars kept with
  | nil =>
      cases chars with
      | nil => exact List.not_mem_nil
      | cons => simp [matchRow?] at matched
  | cons pattern row ih =>
      obtain ⟨avoidedFirst, avoidedRest⟩ := List.forall_mem_cons.mp avoided
      simp only [matchRow?, Option.bind_eq_bind, Option.bind_eq_some_iff] at matched
      obtain ⟨found, first, more, rest, -⟩ := matched
      obtain ⟨taken, after, split, free, here⟩ := exists_of_attempt avoidedFirst first
      obtain rfl : after = found := Option.some.inj here
      have split : chars = taken ++ after.rest := split
      rw [split]
      exact List.not_mem_append free (ih avoidedRest rest)

end InstructionSet.Text.Pattern
