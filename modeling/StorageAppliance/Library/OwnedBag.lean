import Mathlib.Data.List.Infix
import StorageAppliance.Library.RefCount
import StorageAppliance.Library.Run

/-!
# Bags whose keys have owners

Acquiring a key counts it once more and releasing it counts it once less, never
below zero.  The owner of a key that is held is whoever acquired it last when
nobody held it.  Count and owner are defined on the history of the actions, so
that they say what a table has to hold without saying how it is kept:
`Tracks` relates a history to the entry of a key, and the rules below say how
the entry follows one more action.
-/

namespace StorageAppliance.Library

universe u v

variable
    {Key : Type u}
    {Owner : Type v}

/-- What can be done with a key. -/
inductive BagAction (Key : Type u) (Owner : Type v) where
  | acquire (key : Key) (owner : Owner)
  | release (key : Key)

/-- The key of an action. -/
def BagAction.key : BagAction Key Owner → Key
  | .acquire key _ => key
  | .release key => key

variable [DecidableEq Key]

/-- The counts after an action. -/
def bagStep (counts : Key → Nat) : BagAction Key Owner → Key → Nat
  | .acquire key _ => Function.update counts key (counts key + 1)
  | .release key => release counts key

/-- The counts after a history of actions. -/
def bagCount (history : List (BagAction Key Owner)) : Key → Nat :=
  run bagStep (fun _ => 0) history

/--
The last time the count of the key went from zero to one, the owner acquired it,
and it has been held ever since.
-/
def LastRaised (history : List (BagAction Key Owner)) (key : Key)
    (owner : Owner) : Prop :=
  ∃ before after,
    history = before ++ .acquire key owner :: after ∧
      bagCount before key = 0 ∧
      ∀ early, early <+: after →
        0 < bagCount (before ++ .acquire key owner :: early) key

theorem bagCount_concat
    (history : List (BagAction Key Owner)) (action : BagAction Key Owner) :
    bagCount (history ++ [action]) = bagStep (bagCount history) action := by
  rw [bagCount, run_append]
  rfl

theorem bagCount_acquire
    (history : List (BagAction Key Owner)) (key : Key) (owner : Owner) :
    bagCount (history ++ [.acquire key owner]) key =
      bagCount history key + 1 := by
  simp [bagCount_concat, bagStep]

theorem bagCount_release
    (history : List (BagAction Key Owner)) (key : Key) :
    bagCount (history ++ [.release key]) key =
      bagCount history key - 1 := by
  simp [bagCount_concat, bagStep, release]

theorem bagCount_other
    (history : List (BagAction Key Owner)) {action : BagAction Key Owner}
    {key : Key} (apart : action.key ≠ key) :
    bagCount (history ++ [action]) key = bagCount history key := by
  rw [bagCount_concat]
  cases action with
  | acquire other owner =>
      exact Function.update_of_ne (Ne.symm apart) _ _
  | release other =>
      exact Function.update_of_ne (Ne.symm apart) _ _

theorem LastRaised.held
    {history : List (BagAction Key Owner)} {key : Key} {owner : Owner}
    (raised : LastRaised history key owner) :
    0 < bagCount history key := by
  rcases raised with ⟨before, after, rfl, _, positive⟩
  exact positive after (List.prefix_refl after)

/-- One more action raises the count itself, or leaves the key held. -/
theorem lastRaised_concat
    {history : List (BagAction Key Owner)} {action : BagAction Key Owner}
    {key : Key} {owner : Owner} :
    LastRaised (history ++ [action]) key owner ↔
      (action = .acquire key owner ∧ bagCount history key = 0) ∨
        (LastRaised history key owner ∧
          0 < bagCount (history ++ [action]) key) := by
  constructor
  · intro raised
    have held := raised.held
    rcases raised with ⟨before, after, split, unheld, positive⟩
    rcases List.eq_nil_or_concat after with rfl | ⟨rest, last, rfl⟩
    · have parts := List.append_inj' split rfl
      rw [List.cons_eq_cons] at parts
      rw [parts.1]
      exact Or.inl ⟨parts.2.1, unheld⟩
    · rw [List.concat_eq_append, ← List.cons_append, ← List.append_assoc]
        at split
      have parts := List.append_inj' split rfl
      refine Or.inr ⟨⟨before, rest, parts.1, unheld, ?_⟩, held⟩
      intro early within
      apply positive early
      rw [List.concat_eq_append]
      exact within.trans (List.prefix_append rest [last])
  · rintro (⟨rfl, unheld⟩ | ⟨⟨before, after, rfl, unheld, positive⟩, held⟩)
    · refine ⟨history, [], rfl, unheld, ?_⟩
      intro early within
      rw [List.prefix_nil.mp within, bagCount_acquire]
      exact Nat.succ_pos _
    · refine ⟨before, after ++ [action], by simp, unheld, ?_⟩
      intro early within
      rcases List.prefix_concat_iff.mp within with rfl | inside
      · simpa using held
      · exact positive early inside

/-! ## Entries that track a history -/

/-- The entry of a key says who owns it and how often it is held. -/
def Tracks (history : List (BagAction Key Owner)) (key : Key) :
    Option (Owner × Nat) → Prop
  | none => bagCount history key = 0
  | some (owner, count) =>
      0 < count ∧ bagCount history key = count ∧
        ∀ other, LastRaised history key other ↔ owner = other

/-- The entry after an acquisition. -/
def acquired (owner : Owner) : Option (Owner × Nat) → Owner × Nat
  | none => (owner, 1)
  | some (holder, count) => (holder, count + 1)

/-- The entry after a release. -/
def released : Option (Owner × Nat) → Option (Owner × Nat)
  | none => none
  | some (holder, count) =>
      if count ≤ 1 then none else some (holder, count - 1)

section Rules

variable
    {history : List (BagAction Key Owner)}
    {key : Key}
    {entry : Option (Owner × Nat)}

theorem tracks_nil (key : Key) :
    Tracks ([] : List (BagAction Key Owner)) key none :=
  rfl

theorem Tracks.acquire
    (tracks : Tracks history key entry) (owner : Owner) :
    Tracks (history ++ [.acquire key owner]) key
      (some (acquired owner entry)) := by
  have counted := bagCount_acquire history key owner
  cases entry with
  | none =>
      have unheld : bagCount history key = 0 := tracks
      refine ⟨Nat.zero_lt_one, by rw [counted, unheld], fun other => ?_⟩
      rw [lastRaised_concat]
      constructor
      · rintro (⟨same, _⟩ | ⟨raised, _⟩)
        · cases same
          rfl
        · exact absurd raised.held (by omega)
      · rintro rfl
        exact Or.inl ⟨rfl, unheld⟩
  | some holding =>
      rcases holding with ⟨holder, count⟩
      rcases tracks with ⟨positive, same, owned⟩
      refine ⟨Nat.succ_pos _, by rw [counted, same], fun other => ?_⟩
      rw [lastRaised_concat, ← owned other]
      constructor
      · rintro (⟨_, unheld⟩ | ⟨raised, _⟩)
        · omega
        · exact raised
      · intro raised
        exact Or.inr ⟨raised, by omega⟩

theorem Tracks.release (tracks : Tracks history key entry) :
    Tracks (history ++ [.release key]) key (released entry) := by
  have counted := bagCount_release history key
  cases entry with
  | none =>
      have unheld : bagCount history key = 0 := tracks
      change bagCount (history ++ [.release key]) key = 0
      omega
  | some holding =>
      rcases holding with ⟨holder, count⟩
      rcases tracks with ⟨positive, same, owned⟩
      by_cases last : count ≤ 1
      · rw [released, if_pos last]
        change bagCount (history ++ [.release key]) key = 0
        omega
      · rw [released, if_neg last]
        refine ⟨by omega, by rw [counted, same], fun other => ?_⟩
        rw [lastRaised_concat, ← owned other]
        constructor
        · rintro (⟨acquires, _⟩ | ⟨raised, _⟩)
          · cases acquires
          · exact raised
        · intro raised
          exact Or.inr ⟨raised, by omega⟩

/-- An action on another key leaves the entry as it is. -/
theorem Tracks.other
    (tracks : Tracks history key entry) {action : BagAction Key Owner}
    (apart : action.key ≠ key) :
    Tracks (history ++ [action]) key entry := by
  have counted := bagCount_other history apart
  cases entry with
  | none => exact counted.trans tracks
  | some holding =>
      rcases holding with ⟨holder, count⟩
      rcases tracks with ⟨positive, same, owned⟩
      refine ⟨positive, counted.trans same, fun other => ?_⟩
      rw [lastRaised_concat, ← owned other]
      constructor
      · rintro (⟨rfl, _⟩ | ⟨raised, _⟩)
        · exact (apart rfl).elim
        · exact raised
      · intro raised
        exact Or.inr ⟨raised, by omega⟩

end Rules

end StorageAppliance.Library
