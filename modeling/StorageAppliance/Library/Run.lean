import Mathlib.Data.List.Basic

/-!
# Runs of a deterministic machine

A machine is a step function from a state and an input to the next state, and
a run feeds it a list of inputs.  The rules below lift facts about one step to
facts about every run.

`AllSteps guard` says that each input of a run meets a guard in the state in
which it is executed.  An invariant kept by the guarded steps then holds at the
end of every guarded run, and since a prefix of a guarded run is guarded it
holds in every state the run passes through.
-/

namespace StorageAppliance.Library

universe u v

variable
    {State : Type u}
    {Input : Type v}

/-- The state after executing the inputs in order. -/
def run (step : State → Input → State) (state : State) :
    List Input → State
  | [] => state
  | input :: rest => run step (step state input) rest

@[simp]
theorem run_nil (step : State → Input → State) (state : State) :
    run step state [] = state :=
  rfl

@[simp]
theorem run_cons
    (step : State → Input → State) (state : State)
    (input : Input) (rest : List Input) :
    run step state (input :: rest) = run step (step state input) rest :=
  rfl

theorem run_append
    (step : State → Input → State) (state : State)
    (first second : List Input) :
    run step state (first ++ second) =
      run step (run step state first) second := by
  induction first generalizing state with
  | nil => rfl
  | cons input rest induction => exact induction (step state input)

/-- Every input meets `guard` in the state in which it is executed. -/
def AllSteps
    (step : State → Input → State)
    (guard : State → Input → Prop) :
    State → List Input → Prop
  | _, [] => True
  | state, input :: rest =>
      guard state input ∧ AllSteps step guard (step state input) rest

instance decidableAllSteps
    {step : State → Input → State}
    {guard : State → Input → Prop}
    [∀ state input, Decidable (guard state input)] :
    ∀ state inputs, Decidable (AllSteps step guard state inputs)
  | _, [] => inferInstanceAs (Decidable True)
  | state, input :: rest =>
      @instDecidableAnd _ _ _ (decidableAllSteps (step state input) rest)

/-- A run in two parts meets the guard if both parts do. -/
theorem allSteps_append
    {step : State → Input → State}
    {guard : State → Input → Prop}
    {state : State} {first second : List Input} :
    AllSteps step guard state (first ++ second) ↔
      AllSteps step guard state first ∧
        AllSteps step guard (run step state first) second := by
  induction first generalizing state with
  | nil => simp [AllSteps]
  | cons input rest induction =>
      rw [List.cons_append, AllSteps, AllSteps, induction, run_cons,
        and_assoc]

/-- A condition on the inputs can be added to the guard. -/
theorem AllSteps.and_forall
    {step : State → Input → State}
    {guard : State → Input → Prop}
    {allowed : Input → Prop}
    {state : State} {inputs : List Input}
    (guarded : AllSteps step guard state inputs)
    (allAllowed : ∀ input ∈ inputs, allowed input) :
    AllSteps step (fun state input => allowed input ∧ guard state input)
      state inputs := by
  induction inputs generalizing state with
  | nil => trivial
  | cons input rest induction =>
      constructor
      · exact ⟨allAllowed input (by simp), guarded.1⟩
      · apply induction guarded.2
        intro later member
        exact allAllowed later (by simp [member])

/-- Inputs that meet the guard in every state meet it along the run. -/
theorem allSteps_of_forall
    {step : State → Input → State}
    {guard : State → Input → Prop}
    {state : State} {inputs : List Input}
    (meets : ∀ state, ∀ input ∈ inputs, guard state input) :
    AllSteps step guard state inputs := by
  induction inputs generalizing state with
  | nil => trivial
  | cons input rest induction =>
      refine ⟨meets state input (by simp), ?_⟩
      apply induction
      intro later member listed
      exact meets later member (by simp [listed])

/-- A guard can be weakened. -/
theorem AllSteps.mono
    {step : State → Input → State}
    {guard weaker : State → Input → Prop}
    {state : State} {inputs : List Input}
    (guarded : AllSteps step guard state inputs)
    (weakens : ∀ state input, guard state input → weaker state input) :
    AllSteps step weaker state inputs := by
  induction inputs generalizing state with
  | nil => trivial
  | cons input rest induction =>
      exact ⟨weakens state input guarded.1, induction guarded.2⟩

/-- An invariant kept by every guarded step holds after a guarded run. -/
theorem run_invariant
    {step : State → Input → State}
    {guard : State → Input → Prop}
    {invariant : State → Prop}
    (keeps :
      ∀ state input,
        invariant state → guard state input →
          invariant (step state input))
    {state : State} {inputs : List Input}
    (start : invariant state)
    (guarded : AllSteps step guard state inputs) :
    invariant (run step state inputs) := by
  induction inputs generalizing state with
  | nil => exact start
  | cons input rest induction =>
      exact induction (keeps state input start guarded.1) guarded.2

/-- An invariant kept by the allowed inputs holds after a run of them. -/
theorem run_invariant_of_allowed
    {step : State → Input → State}
    {allowed : Input → Prop}
    {invariant : State → Prop}
    (keeps :
      ∀ state input,
        invariant state → allowed input → invariant (step state input))
    {state : State} {inputs : List Input}
    (start : invariant state)
    (allAllowed : ∀ input ∈ inputs, allowed input) :
    invariant (run step state inputs) := by
  induction inputs generalizing state with
  | nil => exact start
  | cons input rest induction =>
      apply induction
      · exact keeps state input start (allAllowed input (by simp))
      · intro later member
        exact allAllowed later (by simp [member])

/-- An invariant kept by every step holds after every run. -/
theorem run_invariant_of_step
    {step : State → Input → State}
    {invariant : State → Prop}
    (keeps :
      ∀ state input, invariant state → invariant (step state input))
    {state : State} (inputs : List Input)
    (start : invariant state) :
    invariant (run step state inputs) := by
  induction inputs generalizing state with
  | nil => exact start
  | cons input rest induction =>
      exact induction (keeps state input start)

/-- A guard that an invariant implies is met along every run. -/
theorem allSteps_of_invariant
    {step : State → Input → State}
    {guard : State → Input → Prop}
    {invariant : State → Prop}
    (keeps :
      ∀ state input, invariant state → invariant (step state input))
    (meets : ∀ state input, invariant state → guard state input)
    {state : State} (inputs : List Input)
    (start : invariant state) :
    AllSteps step guard state inputs := by
  induction inputs generalizing state with
  | nil => trivial
  | cons input rest induction =>
      exact ⟨meets state input start, induction (keeps state input start)⟩

/-- A guard that an invariant implies for allowed inputs is met by their runs. -/
theorem allSteps_of_allowed
    {step : State → Input → State}
    {allowed : Input → Prop}
    {guard : State → Input → Prop}
    {invariant : State → Prop}
    (keeps :
      ∀ state input,
        invariant state → allowed input → invariant (step state input))
    (meets :
      ∀ state input, invariant state → allowed input → guard state input)
    {state : State} {inputs : List Input}
    (start : invariant state)
    (allAllowed : ∀ input ∈ inputs, allowed input) :
    AllSteps step guard state inputs := by
  induction inputs generalizing state with
  | nil => trivial
  | cons input rest induction =>
      have first := allAllowed input (by simp)
      refine ⟨meets state input start first, ?_⟩
      apply induction (keeps state input start first)
      intro later member
      exact allAllowed later (by simp [member])

/--
Guards that agree under an invariant admit the same runs, if the steps that meet
the second keep the invariant.
-/
theorem allSteps_iff_of_guarded
    {step : State → Input → State}
    {first second : State → Input → Prop}
    {invariant : State → Prop}
    (keeps :
      ∀ state input,
        invariant state → second state input →
          invariant (step state input))
    (agree :
      ∀ state input,
        invariant state → (first state input ↔ second state input))
    {state : State} (inputs : List Input)
    (start : invariant state) :
    AllSteps step first state inputs ↔
      AllSteps step second state inputs := by
  induction inputs generalizing state with
  | nil => exact Iff.rfl
  | cons input rest induction =>
      rw [AllSteps, AllSteps, agree state input start]
      apply and_congr_right
      intro meets
      exact induction (keeps state input start meets)

/-- Guards that agree under an invariant admit the same runs. -/
theorem allSteps_iff_of_invariant
    {step : State → Input → State}
    {first second : State → Input → Prop}
    {invariant : State → Prop}
    (keeps :
      ∀ state input, invariant state → invariant (step state input))
    (agree :
      ∀ state input,
        invariant state → (first state input ↔ second state input))
    {state : State} (inputs : List Input)
    (start : invariant state) :
    AllSteps step first state inputs ↔
      AllSteps step second state inputs :=
  allSteps_iff_of_guarded
    (fun state input holds _ => keeps state input holds) agree inputs start

/--
A property that one step keeps exactly when it meets the guard, and that no
step restores, survives a run exactly when every step meets the guard.
-/
theorem run_keeps_iff_allSteps
    {step : State → Input → State}
    {guard : State → Input → Prop}
    {invariant property : State → Prop}
    (keepsInvariant :
      ∀ state input, invariant state → invariant (step state input))
    (keepsProperty :
      ∀ state input,
        invariant state → property state →
          (property (step state input) ↔ guard state input))
    (neverRestored :
      ∀ state input,
        invariant state → ¬ property state →
          ¬ property (step state input))
    {state : State} (inputs : List Input)
    (start : invariant state)
    (holds : property state) :
    property (run step state inputs) ↔
      AllSteps step guard state inputs := by
  have lostForever :
      ∀ (later : List Input) (current : State),
        invariant current → ¬ property current →
          ¬ property (run step current later) := by
    intro later
    induction later with
    | nil =>
        intro current _ lost
        exact lost
    | cons input rest induction =>
        intro current currentInvariant lost
        exact induction (step current input)
          (keepsInvariant current input currentInvariant)
          (neverRestored current input currentInvariant lost)
  induction inputs generalizing state with
  | nil => simp [AllSteps, holds]
  | cons input rest induction =>
      have nextInvariant := keepsInvariant state input start
      have kept := keepsProperty state input start holds
      by_cases meets : guard state input
      · have tail := induction nextInvariant (kept.mpr meets)
        simp only [run_cons, AllSteps, meets, true_and]
        exact tail
      · have lost : ¬ property (step state input) :=
          fun still => meets (kept.mp still)
        simp only [run_cons, AllSteps, meets, false_and, iff_false]
        exact lostForever rest (step state input) nextInvariant lost

/--
A property holds after each step of a run exactly if each step meets the guard,
when this is so for one step of an allowed input under an invariant that the
guarded steps keep.
-/
theorem allSteps_after_iff
    {step : State → Input → State}
    {guard : State → Input → Prop}
    {allowed : Input → Prop}
    {invariant property : State → Prop}
    (keeps :
      ∀ state input,
        allowed input → invariant state → guard state input →
          invariant (step state input))
    (agree :
      ∀ state input,
        allowed input → invariant state →
          (property (step state input) ↔ guard state input))
    {state : State} {inputs : List Input}
    (allAllowed : ∀ input ∈ inputs, allowed input)
    (start : invariant state) :
    AllSteps step (fun state input => property (step state input)) state
        inputs ↔
      AllSteps step guard state inputs := by
  induction inputs generalizing state with
  | nil => exact Iff.rfl
  | cons input rest induction =>
      have first := allAllowed input (by simp)
      have later : ∀ input ∈ rest, allowed input :=
        fun input member => allAllowed input (by simp [member])
      have meets := agree state input first start
      constructor
      · rintro ⟨kept, others⟩
        have guarded := meets.mp kept
        exact ⟨guarded,
          (induction later (keeps state input first start guarded)).mp
            others⟩
      · rintro ⟨guarded, others⟩
        exact ⟨meets.mpr guarded,
          (induction later (keeps state input first start guarded)).mpr
            others⟩

/--
A property holds after each step of a run exactly if each step meets the guard,
when this is so for one step from a state with the property, under an invariant
that every step from such a state keeps.
-/
theorem allSteps_property_iff
    {step : State → Input → State}
    {guard : State → Input → Prop}
    {invariant property : State → Prop}
    (keeps :
      ∀ state input,
        invariant state → property state →
          invariant (step state input))
    (agree :
      ∀ state input,
        invariant state → property state →
          (property (step state input) ↔ guard state input))
    {state : State} (inputs : List Input)
    (start : invariant state)
    (holds : property state) :
    AllSteps step (fun state input => property (step state input)) state
        inputs ↔
      AllSteps step guard state inputs := by
  apply
    @allSteps_after_iff _ _ _ _ (fun _ => True)
      (fun state => invariant state ∧ property state) property
  · rintro state input _ ⟨kept, current⟩ meets
    exact
      ⟨keeps state input kept current,
        (agree state input kept current).mpr meets⟩
  · rintro state input _ ⟨kept, current⟩
    exact agree state input kept current
  · exact fun _ _ => trivial
  · exact ⟨start, holds⟩

end StorageAppliance.Library
