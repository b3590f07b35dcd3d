import StorageAppliance.Library.Run

/-!
# Machines that answer

A machine that answers every input, and the answers of a whole run.  Two machines
run in lockstep if related states answer alike and stay related; then no sequence
of inputs tells them apart.
-/

namespace StorageAppliance.Library

universe u v w x

variable
    {State : Type u}
    {Spec : Type v}
    {Input : Type w}
    {Answer : Type x}

/-- The state that a step leaves. -/
def nextState (step : State → Input → Answer × State) (state : State)
    (input : Input) : State :=
  (step state input).2

/-- The answers to the inputs, in order. -/
def answersOf (step : State → Input → Answer × State) (state : State) :
    List Input → List Answer
  | [] => []
  | input :: rest =>
      (step state input).1 :: answersOf step (nextState step state input) rest

/-- Related states answer alike and stay related. -/
structure Lockstep (step : State → Input → Answer × State)
    (specStep : Spec → Input → Answer × Spec)
    (related : State → Spec → Prop) : Prop where
  answers :
    ∀ state spec input,
      related state spec →
        (step state input).1 = (specStep spec input).1
  related :
    ∀ state spec input,
      related state spec →
        related (nextState step state input) (nextState specStep spec input)

section Simulation

variable
    {step : State → Input → Answer × State}
    {specStep : Spec → Input → Answer × Spec}
    {related : State → Spec → Prop}
    {state : State} {spec : Spec}

theorem Lockstep.run (lockstep : Lockstep step specStep related)
    (start : related state spec) (inputs : List Input) :
    related (run (nextState step) state inputs)
      (run (nextState specStep) spec inputs) := by
  induction inputs generalizing state spec with
  | nil => exact start
  | cons input rest induction =>
      exact induction (lockstep.related state spec input start)

/-- Whole runs are answered alike. -/
theorem Lockstep.answersOf_eq
    (lockstep : Lockstep step specStep related)
    (start : related state spec) (inputs : List Input) :
    answersOf step state inputs = answersOf specStep spec inputs := by
  induction inputs generalizing state spec with
  | nil => rfl
  | cons input rest induction =>
      rw [answersOf, answersOf, lockstep.answers state spec input start,
        induction (lockstep.related state spec input start)]

end Simulation

end StorageAppliance.Library
