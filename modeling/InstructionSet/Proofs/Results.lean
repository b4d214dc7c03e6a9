import Mathlib.Data.List.Forall2

/-!
# Results

Steps that may fail, one behind another and one for each item of a list: when they succeed, and what
they fail with. `Foremost` says which of some items is the first.
-/

set_option autoImplicit false

namespace InstructionSet

theorem bind_ok {α β ε : Type} {first : Except ε α} {next : α → Except ε β} {result : β}
    (succeeded : first >>= next = .ok result) :
    ∃ value, first = .ok value ∧ next value = .ok result := by
  cases first with
  | error failure => cases succeeded
  | ok value => exact ⟨value, rfl, succeeded⟩

theorem mapM_ne_nil {α β ε : Type} {decode : α → Except ε β} {items : List α} {values : List β}
    (succeeded : items.mapM decode = .ok values) (written : items ≠ []) : values ≠ [] := by
  cases items with
  | nil => exact absurd rfl written
  | cons item items =>
      rw [List.mapM_cons] at succeeded
      obtain ⟨value, -, rest⟩ := bind_ok succeeded
      obtain ⟨values, -, same⟩ := bind_ok rest
      cases same
      exact List.cons_ne_nil value values

theorem bind_error {α β ε : Type} {first : Except ε α} {next : α → Except ε β} {failure : ε}
    (failed : first >>= next = .error failure) :
    first = .error failure ∨ ∃ value, first = .ok value ∧ next value = .error failure := by
  cases first with
  | error other =>
      cases failed
      exact .inl rfl
  | ok value => exact .inr ⟨value, rfl, failed⟩

theorem bind_eq_ok_iff {α β ε : Type} (first : Except ε α) (next : α → Except ε β) (result : β) :
    first >>= next = .ok result ↔ ∃ value, first = .ok value ∧ next value = .ok result :=
  ⟨bind_ok, fun ⟨_, succeeded, last⟩ => succeeded ▸ last⟩

theorem map_eq_ok_iff {α β ε : Type} (first : Except ε α) (next : α → β) (result : β) :
    first.map next = .ok result ↔ ∃ value, first = .ok value ∧ next value = result := by
  cases first <;> simp [Except.map]

theorem map_error {α β ε : Type} {first : Except ε α} {next : α → β} {failure : ε}
    (failed : first.map next = .error failure) : first = .error failure := by
  cases first with
  | error other =>
    cases failed
    rfl
  | ok => cases failed

theorem mapError_error {α ε δ : Type} {first : Except ε α} {next : ε → δ} {failure : δ}
    (failed : first.mapError next = .error failure) :
    ∃ cause, first = .error cause ∧ failure = next cause := by
  cases first with
  | error cause =>
      cases failed
      exact ⟨cause, rfl, rfl⟩
  | ok => cases failed

theorem mapError_ok {α ε δ : Type} {first : Except ε α} {next : ε → δ} {value : α}
    (succeeded : first.mapError next = .ok value) : first = .ok value := by
  cases first with
  | error cause => cases succeeded
  | ok value =>
      cases succeeded
      rfl

theorem mapM_eq_ok_iff {α β ε : Type} (decode : α → Except ε β) (items : List α)
    (values : List β) :
    items.mapM decode = .ok values ↔
      List.Forall₂ (fun item value => decode item = .ok value) items values := by
  induction items generalizing values with
  | nil =>
      rw [List.mapM_nil, List.forall₂_nil_left_iff]
      exact ⟨fun succeeded => by cases succeeded; rfl, fun same => same ▸ rfl⟩
  | cons item items ih =>
      simp only [List.mapM_cons, bind_eq_ok_iff, ih, List.forall₂_cons_left_iff]
      constructor
      · rintro ⟨value, decoded, rest, others, same⟩
        cases same
        exact ⟨value, rest, decoded, others, rfl⟩
      · rintro ⟨value, rest, decoded, others, rfl⟩
        exact ⟨value, decoded, rest, others, rfl⟩

theorem forall₂_of_mapM {α β : Type} {decode? : α → Option β} {items : List α} {values : List β}
    (succeeded : items.mapM decode? = some values) :
    List.Forall₂ (fun item value => decode? item = some value) items values := by
  induction items generalizing values with
  | nil =>
      cases succeeded
      exact .nil
  | cons item items ih =>
      simp only [List.mapM_cons, Option.bind_eq_bind, Option.bind_eq_some_iff] at succeeded
      obtain ⟨value, decoded, others, rest, same⟩ := succeeded
      cases same
      exact .cons decoded (ih rest)

theorem exists_forall₂_iff {α β : Type} (relation : α → β → Prop) (items : List α) :
    (∃ values, List.Forall₂ relation items values) ↔
      ∀ item ∈ items, ∃ value, relation item value := by
  induction items with
  | nil => simp
  | cons item items ih =>
      rw [List.forall_mem_cons, ← ih]
      constructor
      · rintro ⟨_, _ | ⟨related, rest⟩⟩
        exact ⟨⟨_, related⟩, _, rest⟩
      · rintro ⟨⟨value, related⟩, values, rest⟩
        exact ⟨value :: values, .cons related rest⟩

theorem exists_of_mem_right {α β : Type} {relation : α → β → Prop} {items : List α}
    {values : List β} (related : List.Forall₂ relation items values) {value : β}
    (member : value ∈ values) : ∃ item ∈ items, relation item value := by
  induction related with
  | nil => cases member
  | @cons item _ _ _ here _ ih =>
      rcases List.mem_cons.mp member with rfl | behind
      · exact ⟨item, List.mem_cons_self, here⟩
      · obtain ⟨other, otherMember, holds⟩ := ih behind
        exact ⟨other, List.mem_cons_of_mem _ otherMember, holds⟩

/-! ### The first in a row -/

/-- An item that is related to a value, where no item before it is related to any. -/
structure Foremost {α β : Type} (related : α → β → Prop) (items : List α) (item : α)
    (value : β) : Prop where
  first : ∃ before after, items = before ++ item :: after ∧
    ∀ other ∈ before, ∀ value, ¬related other value
  holds : related item value

theorem Foremost.mem {α β : Type} {related : α → β → Prop} {items : List α} {item : α} {value : β}
    (foremost : Foremost related items item value) : item ∈ items := by
  obtain ⟨before, after, rfl, -⟩ := foremost.first
  simp

theorem Foremost.head {α β : Type} {related : α → β → Prop} {items : List α} {item : α} {value : β}
    (holds : related item value) : Foremost related (item :: items) item value :=
  ⟨⟨[], items, rfl, nofun⟩, holds⟩

theorem Foremost.cons {α β : Type} {related : α → β → Prop} {items : List α} {first item : α}
    {value : β} (unrelated : ∀ value, ¬related first value)
    (foremost : Foremost related items item value) :
    Foremost related (first :: items) item value := by
  obtain ⟨⟨before, after, rfl, others⟩, holds⟩ := foremost
  exact ⟨⟨first :: before, after, rfl, List.forall_mem_cons.mpr ⟨unrelated, others⟩⟩, holds⟩

/-- What is first in a row stays first where values are made into others. -/
theorem foremost_image_iff {α β γ : Type} {related : α → β → Prop} (image : α → β → γ)
    (items : List α) (item : α) (result : γ) :
    Foremost (fun item result => ∃ value, related item value ∧ result = image item value) items item
        result ↔
      ∃ value, Foremost related items item value ∧ result = image item value := by
  constructor
  · rintro ⟨⟨before, after, split, unrelated⟩, value, holds, rfl⟩
    refine ⟨value, ⟨⟨before, after, split, fun other member value holds => ?_⟩, holds⟩, rfl⟩
    exact unrelated other member _ ⟨value, holds, rfl⟩
  · rintro ⟨value, ⟨⟨before, after, split, unrelated⟩, holds⟩, rfl⟩
    refine ⟨⟨before, after, split, ?_⟩, value, holds, rfl⟩
    rintro other member _ ⟨value, holds, -⟩
    exact unrelated other member value holds

theorem findSome?_cons_eq_or {α β : Type} (find? : α → Option β) (item : α) (items : List α) :
    (item :: items).findSome? find? = (find? item).or (items.findSome? find?) := by
  rw [List.findSome?_cons]
  cases find? item <;> rfl

section FindSome

variable {α β : Type} {related : α → β → Prop} {find? : α → Option β}
variable (finds : ∀ item value, find? item = some value ↔ related item value)

include finds

theorem eq_none_iff_unrelated (item : α) : find? item = none ↔ ∀ value, ¬related item value := by
  simp only [Option.eq_none_iff_forall_ne_some, ne_eq, finds]

theorem findSome?_eq_some_iff_foremost {items : List α} (value : β) :
    items.findSome? find? = some value ↔ ∃ item, Foremost related items item value := by
  rw [List.findSome?_eq_some_iff]
  constructor
  · rintro ⟨before, item, after, split, found, unfound⟩
    have unrelated (other : α) (member : other ∈ before) : ∀ value, ¬related other value :=
      (eq_none_iff_unrelated finds other).mp (unfound other member)
    exact ⟨item, ⟨before, after, split, unrelated⟩, (finds item value).mp found⟩
  · rintro ⟨item, ⟨before, after, split, unrelated⟩, related⟩
    exact ⟨before, item, after, split, (finds item value).mpr related,
      fun other member => (eq_none_iff_unrelated finds other).mpr (unrelated other member)⟩

theorem findSome?_eq_none_iff_unrelated {items : List α} :
    items.findSome? find? = none ↔ ∀ item ∈ items, ∀ value, ¬related item value := by
  simp only [List.findSome?_eq_none_iff, eq_none_iff_unrelated finds]

end FindSome

/-! ### What a step fails with -/

def error? {α ε : Type} : Except ε α → Option ε
  | .error failure => some failure
  | .ok _ => none

theorem error?_eq_some_iff {α ε : Type} (result : Except ε α) (failure : ε) :
    error? result = some failure ↔ result = .error failure := by
  cases result <;> simp [error?]

theorem error?_eq_none_iff {α ε : Type} (result : Except ε α) :
    error? result = none ↔ ∃ value, result = .ok value := by
  cases result <;> simp [error?]

theorem error?_map {α β ε : Type} (first : Except ε α) (next : α → β) :
    error? (first.map next) = error? first := by
  cases first <;> rfl

/-- Steps that fail alike whatever comes of the step before them. -/
theorem error?_bind {α β ε : Type} (first : Except ε α) {next : α → Except ε β} {later : Option ε}
    (alike : ∀ value, error? (next value) = later) :
    error? (first >>= next) = (error? first).or later := by
  cases first with
  | error failure => rfl
  | ok value => exact alike value

theorem error?_mapM {α β ε : Type} (decode : α → Except ε β) (items : List α) :
    error? (items.mapM decode) = items.findSome? fun item => error? (decode item) := by
  induction items with
  | nil => rfl
  | cons item items ih =>
      have last (value : β) (values : List β) :
          error? (pure (value :: values) : Except ε (List β)) = none := rfl
      rw [List.mapM_cons, findSome?_cons_eq_or, ← ih]
      exact error?_bind _ fun value => (error?_bind _ (last value)).trans (Option.or_none ..)

theorem mapM_error {α β ε : Type} {decode : α → Except ε β} {items : List α} {failure : ε}
    (failed : items.mapM decode = .error failure) :
    ∃ item ∈ items, decode item = .error failure := by
  rw [← error?_eq_some_iff, error?_mapM] at failed
  obtain ⟨item, member, failed⟩ := List.exists_of_findSome?_eq_some failed
  exact ⟨item, member, (error?_eq_some_iff _ _).mp failed⟩

end InstructionSet
