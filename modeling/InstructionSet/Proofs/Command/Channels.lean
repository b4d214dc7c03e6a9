import InstructionSet.Command.Run
import InstructionSet.Proofs.Streams

/-!
# Channels

What a channel takes of the texts of a run: all of them, or those in front of the first at which it
finds a fault, which then ends the run in the place of what would have come behind. So it makes no
difference to a channel what stands behind a text that it does not take
(`Channel.take_append_of_refused`). A channel of bytes finds a fault in a text exactly if a code
point of it has no bytes (`Channel.takes_bytes_iff`).
-/

set_option autoImplicit false

namespace InstructionSet.Command.Channel

variable (channel : Channel)

/-- None of some texts is at fault. -/
def Takes (texts : List String) : Prop := ∀ text ∈ texts, channel.fault? text = none

instance (texts : List String) : Decidable (channel.Takes texts) :=
  inferInstanceAs (Decidable (∀ text ∈ texts, channel.fault? text = none))

theorem takes_bytes_iff (charset : Text.Charset) (texts : List String) :
    (bytes charset).Takes texts ↔
      ∀ text ∈ texts, ∀ code ∈ Text.codes text.toList, charset.lacks code = false := by
  simp only [Takes, bytes, Text.encodingFault?_eq_none_iff]

/-- What is taken of texts with an end behind them, and how they end then. -/
def take (content : List String × Option Failure) : List String × Option Failure :=
  (content.1.takeWhile fun text => (channel.fault? text).isNone,
    ((content.1.findSome? channel.fault?).map .unwritable).or content.2)

section Take

variable {channel} {text : String} {texts : List String}

theorem take_cons_of_taken (taken : channel.fault? text = none) (ending : Option Failure) :
    channel.take (text :: texts, ending) =
      (text :: (channel.take (texts, ending)).1, (channel.take (texts, ending)).2) := by
  simp [take, taken]

theorem take_cons_of_fault {fault : Text.EncodingFault} (found : channel.fault? text = some fault)
    (ending : Option Failure) :
    channel.take (text :: texts, ending) = ([], some (.unwritable fault)) := by
  simp [take, found]

theorem take_append_of_takes (takes : channel.Takes texts) (rest : List String)
    (ending : Option Failure) :
    channel.take (texts ++ rest, ending) =
      (texts ++ (channel.take (rest, ending)).1, (channel.take (rest, ending)).2) := by
  induction texts with
  | nil => rfl
  | cons text texts ih =>
      obtain ⟨taken, takesRest⟩ := List.forall_mem_cons.mp takes
      rw [List.cons_append, take_cons_of_taken taken, ih takesRest]
      rfl

theorem take_of_takes (takes : channel.Takes texts) (ending : Option Failure) :
    channel.take (texts, ending) = (texts, ending) := by
  have nothing : channel.take ([], ending) = ([], ending) := rfl
  simpa only [nothing, List.append_nil] using take_append_of_takes takes [] ending

theorem take_append_of_refused (refused : ¬ channel.Takes texts) (rest : List String)
    (ending : Option Failure) :
    channel.take (texts ++ rest, ending) = channel.take (texts, none) := by
  induction texts with
  | nil => exact absurd nofun refused
  | cons text texts ih =>
      rw [List.cons_append]
      cases found : channel.fault? text with
      | some fault => rw [take_cons_of_fault found, take_cons_of_fault found]
      | none =>
          have refusedRest : ¬ channel.Takes texts := fun takes =>
            refused (List.forall_mem_cons.mpr ⟨found, takes⟩)
          rw [take_cons_of_taken found, take_cons_of_taken found, ih refusedRest]

theorem take_of_refused (refused : ¬ channel.Takes texts) (ending : Option Failure) :
    channel.take (texts, ending) = channel.take (texts, none) := by
  simpa only [List.append_nil] using take_append_of_refused refused [] ending

theorem take_fst_prefix_append (channel : Channel) (texts rest : List String)
    (ending : Option Failure) :
    ∃ more, (channel.take (texts ++ rest, ending)).1 = (channel.take (texts, none)).1 ++ more := by
  by_cases takes : channel.Takes texts
  · rw [take_append_of_takes takes, take_of_takes takes]
    exact ⟨_, rfl⟩
  · rw [take_append_of_refused takes]
    exact ⟨[], (List.append_nil _).symm⟩

/-- The end of what is taken is the one behind the texts, or a fault in one of them. -/
theorem take_snd_cases (texts : List String) (ending : Option Failure) :
    (channel.take (texts, ending)).2 = ending ∨
      ∃ text ∈ texts, ∃ fault, channel.fault? text = some fault ∧
        (channel.take (texts, ending)).2 = some (.unwritable fault) := by
  cases found : texts.findSome? channel.fault? with
  | none => exact .inl (by simp only [take, found, Option.map_none, Option.none_or])
  | some fault =>
      obtain ⟨text, member, faulty⟩ := List.exists_of_findSome?_eq_some found
      refine .inr ⟨text, member, fault, faulty, ?_⟩
      simp only [take, found, Option.map_some, Option.some_or]

/-- What is taken, and what is told of its end, is found from the texts and what is told of their
end. -/
theorem take_congr {κ : Type} (code : Failure → κ) (content other : List String × Option Failure)
    (same : other.1 = content.1) (ends : other.2.map code = content.2.map code) :
    (channel.take other).1 = (channel.take content).1 ∧
      (channel.take other).2.map code = (channel.take content).2.map code := by
  simp only [take, same, Option.map_or, ends, and_self]

end Take

/-! ## Runs over a channel -/

theorem content_through (trace : Trace String) :
    (channel.through trace).content = channel.take trace.content := by
  induction trace with
  | done | failed => rfl
  | note entry rest ih => exact ih
  | item text rest ih =>
      rw [through, Trace.content_item]
      cases found : channel.fault? text with
      | some fault => exact (take_cons_of_fault found _).symm
      | none => rw [take_cons_of_taken found, Trace.content_item, ih]

theorem items_through (trace : Trace String) :
    (channel.through trace).items = (channel.take trace.content).1 :=
  congrArg Prod.fst (channel.content_through trace)

theorem failure?_through (trace : Trace String) :
    (channel.through trace).failure? = (channel.take trace.content).2 :=
  congrArg Prod.snd (channel.content_through trace)

theorem through_append (first next : Trace String) :
    channel.through (first ++ next) = channel.through first ++ channel.through next := by
  induction first with
  | done | failed => rfl
  | note entry rest ih => exact congrArg (Trace.note entry) ih
  | item text rest ih =>
      change channel.through (.item text (rest ++ next)) = _
      rw [through, through]
      cases channel.fault? text with
      | some fault => rfl
      | none => exact congrArg (Trace.item text) ih

theorem through_withNotes (entries : List Note) (rest : Trace String) :
    channel.through (rest.withNotes entries) = (channel.through rest).withNotes entries := by
  induction entries with
  | nil => rfl
  | cons entry entries ih => exact congrArg (Trace.note entry) ih

end InstructionSet.Command.Channel
