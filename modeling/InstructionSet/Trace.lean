import InstructionSet.Failure

/-!
# Traces

What a lazy run produces, in order: notes for the log, items, and an end that may
be a failure. A stage that consumes one trace and produces another keeps the notes
of the first at their places, so the order of the whole is that of a run in which
each item goes through all stages before the next is asked for.

`items`, `notes` and `failure?` are the views of a trace; the lemmas say what
`append` and `flatMap` do to them.
-/

set_option autoImplicit false

namespace InstructionSet

inductive Level where
  | debug
  | info
  | warning
  | error
deriving DecidableEq, Repr

def Level.text : Level → String
  | .debug => "DEBUG"
  | .info => "INFO"
  | .warning => "WARNING"
  | .error => "ERROR"

def Level.rank : Level → Nat
  | .debug => 0
  | .info => 1
  | .warning => 2
  | .error => 3

inductive Topic where
  | program
  | config
  | schema
  | codegen
  | inclusion
deriving DecidableEq, Repr

def Topic.text : Topic → String
  | .program => "vmgen"
  | .config => "vmgen.config"
  | .schema => "vmgen.schema"
  | .codegen => "vmgen.codegen"
  | .inclusion => "vmgen.include"

structure Note where
  level : Level
  topic : Topic
  body : String
deriving DecidableEq, Repr

inductive Trace (α : Type) where
  | done
  | failed (failure : Failure)
  | note (entry : Note) (rest : Trace α)
  | item (value : α) (rest : Trace α)

namespace Trace

variable {α β : Type}

def items : Trace α → List α
  | done | failed _ => []
  | note _ rest => rest.items
  | item value rest => value :: rest.items

def notes : Trace α → List Note
  | done | failed _ => []
  | note entry rest => entry :: rest.notes
  | item _ rest => rest.notes

def failure? : Trace α → Option Failure
  | done => none
  | failed failure => some failure
  | note _ rest => rest.failure?
  | item _ rest => rest.failure?

/-- One trace after another, which is reached only if the first has no failure. -/
def append : Trace α → Trace α → Trace α
  | done, next => next
  | failed failure, _ => failed failure
  | note entry rest, next => note entry (rest.append next)
  | item value rest, next => item value (rest.append next)

instance : Append (Trace α) := ⟨append⟩

def withItems (values : List α) (rest : Trace α) : Trace α := values.foldr item rest

def withNotes (entries : List Note) (rest : Trace α) : Trace α := entries.foldr note rest

def flatMap (f : α → Trace β) : Trace α → Trace β
  | done => done
  | failed failure => failed failure
  | note entry rest => note entry (rest.flatMap f)
  | item value rest => (f value).append (rest.flatMap f)

def filter (p : α → Bool) : Trace α → Trace α
  | done => done
  | failed failure => failed failure
  | note entry rest => note entry (rest.filter p)
  | item value rest => if p value then item value (rest.filter p) else rest.filter p

theorem append_eq (first next : Trace α) : first ++ next = first.append next := rfl

@[simp] theorem append_done (trace : Trace α) : trace ++ (done : Trace α) = trace := by
  induction trace with
  | done => rfl
  | failed => rfl
  | note entry rest ih => exact congrArg (note entry) ih
  | item value rest ih => exact congrArg (item value) ih

theorem append_assoc (first second third : Trace α) :
    first ++ second ++ third = first ++ (second ++ third) := by
  induction first with
  | done => rfl
  | failed => rfl
  | note entry rest ih => exact congrArg (note entry) ih
  | item value rest ih => exact congrArg (item value) ih

/-- A trace without a failure is followed by all items of the next. -/
theorem items_append_of_failure?_eq_none {first : Trace α} (next : Trace α)
    (complete : first.failure? = none) : (first ++ next).items = first.items ++ next.items := by
  induction first with
  | done => rfl
  | failed failure => simp [failure?] at complete
  | note entry rest ih => exact ih complete
  | item value rest ih => exact congrArg (value :: ·) (ih complete)

theorem notes_append_of_failure?_eq_none {first : Trace α} (next : Trace α)
    (complete : first.failure? = none) : (first ++ next).notes = first.notes ++ next.notes := by
  induction first with
  | done => rfl
  | failed failure => simp [failure?] at complete
  | note entry rest ih => exact congrArg (entry :: ·) (ih complete)
  | item value rest ih => exact ih complete

theorem failure?_append (first next : Trace α) :
    (first ++ next).failure? = first.failure?.or next.failure? := by
  induction first with
  | done | failed => rfl
  | note entry rest ih => exact ih
  | item value rest ih => exact ih

/-- Nothing follows a failure. -/
theorem append_of_failure?_isSome {first : Trace α} (next : Trace α)
    (ended : first.failure?.isSome = true) : first ++ next = first := by
  induction first with
  | done => simp [failure?] at ended
  | failed failure => rfl
  | note entry rest ih => exact congrArg (note entry) (ih ended)
  | item value rest ih => exact congrArg (item value) (ih ended)

@[simp] theorem items_withItems (values : List α) (rest : Trace α) :
    (rest.withItems values).items = values ++ rest.items := by
  induction values with
  | nil => rfl
  | cons value values ih => exact congrArg (value :: ·) ih

@[simp] theorem failure?_withItems (values : List α) (rest : Trace α) :
    (rest.withItems values).failure? = rest.failure? := by
  induction values with
  | nil => rfl
  | cons value values ih => exact ih

theorem notes_withItems (values : List α) (rest : Trace α) :
    (rest.withItems values).notes = rest.notes := by
  induction values with
  | nil => rfl
  | cons value values ih => exact ih

@[simp] theorem items_filter (p : α → Bool) (trace : Trace α) :
    (trace.filter p).items = trace.items.filter p := by
  induction trace with
  | done => rfl
  | failed => rfl
  | note entry rest ih => exact ih
  | item value rest ih =>
      by_cases passes : p value = true <;> simp [filter, items, passes, ih]

end Trace

end InstructionSet
