import Mathlib.Data.List.Perm.Basic
import Mathlib.Data.List.Perm.Subperm
import Mathlib.Logic.Function.Basic

/-!
# Reference counts drained in order

A reference names a block and the key under which the block is counted.
Dropping a reference lowers the count of its key, never below zero, and when
the count is then zero the block of *that reference* is discarded.  Nothing
ties the block of a reference to the block the key was counted for: which
blocks are discarded depends on the order of the references and on all the
references of one key, whatever their blocks are.

`drain` drops a list of references in order.  The two equations describe its
outcome without the recursion: the count of a key falls by the number of its
references, and a block is discarded exactly when one of its references comes
late enough among the references of its key.
-/

namespace StorageAppliance.Library

universe u v

variable
    {Block : Type u}
    {Key : Type v}
    [DecidableEq Key]

/-- How many of the references are counted under a key. -/
def keyCount (references : List (Block × Key)) (key : Key) : Nat :=
  references.countP fun reference => reference.2 = key

@[simp]
theorem keyCount_nil (key : Key) :
    keyCount ([] : List (Block × Key)) key = 0 :=
  rfl

theorem keyCount_cons
    (reference : Block × Key) (rest : List (Block × Key)) (key : Key) :
    keyCount (reference :: rest) key =
      keyCount rest key + if reference.2 = key then 1 else 0 := by
  simp [keyCount, List.countP_cons]

theorem keyCount_append
    (first second : List (Block × Key)) (key : Key) :
    keyCount (first ++ second) key =
      keyCount first key + keyCount second key := by
  simp [keyCount]

theorem keyCount_pos_of_mem
    {references : List (Block × Key)} {reference : Block × Key}
    (member : reference ∈ references) :
    0 < keyCount references reference.2 :=
  List.countP_pos_iff.mpr ⟨reference, member, by simp⟩

theorem keyCount_perm
    {first second : List (Block × Key)} (perm : first.Perm second)
    (key : Key) :
    keyCount first key = keyCount second key :=
  perm.countP_eq _

theorem keyCount_le_of_subperm
    {fewer more : List (Block × Key)} (within : fewer.Subperm more)
    (key : Key) :
    keyCount fewer key ≤ keyCount more key :=
  within.countP_le _

/-- Drop one reference of a key. -/
def release (counts : Key → Nat) (key : Key) : Key → Nat :=
  Function.update counts key (counts key - 1)

/-- Drop references in order, collecting the discarded blocks. -/
def drain :
    (Key → Nat) → List (Block × Key) → (Key → Nat) × List Block
  | counts, [] => (counts, [])
  | counts, reference :: rest =>
      let tail := drain (release counts reference.2) rest
      if release counts reference.2 reference.2 = 0 then
        (tail.1, reference.1 :: tail.2)
      else
        tail

/--
Some reference of the block finds the count of its key used up: the key has no
more references than those dropped up to and including this one.
-/
def Discarded
    (counts : Key → Nat) (references : List (Block × Key))
    (block : Block) : Prop :=
  ∃ before reference after,
    references = before ++ reference :: after ∧
      reference.1 = block ∧
      counts reference.2 ≤ keyCount before reference.2 + 1

theorem release_apply
    (counts : Key → Nat) (key other : Key) :
    release counts key other =
      counts other - if key = other then 1 else 0 := by
  by_cases same : other = key
  · subst same
    simp [release]
  · simp [release, same, Ne.symm same]

/-- Draining lowers each count by the number of references of its key. -/
theorem drain_counts
    (counts : Key → Nat) (references : List (Block × Key)) (key : Key) :
    (drain counts references).1 key =
      counts key - keyCount references key := by
  induction references generalizing counts with
  | nil => simp [drain]
  | cons reference rest induction =>
      have tail := induction (release counts reference.2)
      rw [release_apply] at tail
      rw [keyCount_cons, drain]
      split <;> simp only [tail] <;> omega

theorem discarded_cons_iff
    (counts : Key → Nat) (reference : Block × Key)
    (rest : List (Block × Key)) (block : Block) :
    Discarded counts (reference :: rest) block ↔
      (reference.1 = block ∧ counts reference.2 ≤ 1) ∨
        Discarded (release counts reference.2) rest block := by
  constructor
  · rintro ⟨before, late, after, equal, sameBlock, usedUp⟩
    cases before with
    | nil =>
        simp only [List.nil_append, List.cons.injEq] at equal
        rcases equal with ⟨rfl, rfl⟩
        exact Or.inl ⟨sameBlock, by simpa using usedUp⟩
    | cons head tail =>
        simp only [List.cons_append, List.cons.injEq] at equal
        rcases equal with ⟨rfl, rfl⟩
        refine Or.inr ⟨tail, late, after, rfl, sameBlock, ?_⟩
        rw [release_apply]
        rw [keyCount_cons] at usedUp
        split at usedUp <;> simp_all
  · rintro (⟨sameBlock, usedUp⟩ | ⟨before, late, after, equal, sameBlock,
      usedUp⟩)
    · exact ⟨[], reference, rest, rfl, sameBlock, by simpa using usedUp⟩
    · refine ⟨reference :: before, late, after, by simp [equal],
        sameBlock, ?_⟩
      rw [release_apply] at usedUp
      rw [keyCount_cons]
      split at usedUp <;> simp_all

/-- The discarded blocks, without the recursion. -/
theorem mem_drain_iff
    (counts : Key → Nat) (references : List (Block × Key))
    (block : Block) :
    block ∈ (drain counts references).2 ↔
      Discarded counts references block := by
  induction references generalizing counts with
  | nil =>
      simp [drain, Discarded]
  | cons reference rest induction =>
      have tail := induction (release counts reference.2)
      rw [discarded_cons_iff, ← tail, drain]
      have headCount :
          release counts reference.2 reference.2 = 0 ↔
            counts reference.2 ≤ 1 := by
        rw [release_apply]
        simp only [if_true]
        omega
      split
      · rename_i usedUp
        simp [headCount.mp usedUp, eq_comm]
      · rename_i inUse
        have remains : ¬ counts reference.2 ≤ 1 :=
          fun usedUp => inUse (headCount.mpr usedUp)
        simp [remains]

theorem Discarded.mem
    {counts : Key → Nat} {references : List (Block × Key)}
    {block : Block}
    (discarded : Discarded counts references block) :
    ∃ key, (block, key) ∈ references ∧
      counts key ≤ keyCount references key := by
  rcases discarded with ⟨before, late, after, rfl, rfl, usedUp⟩
  refine ⟨late.2, by simp, ?_⟩
  rw [keyCount_append, keyCount_cons]
  simp only [if_true]
  omega

/-- One more reference discards its block if it uses up its key. -/
theorem discarded_concat_iff
    (counts : Key → Nat) (references : List (Block × Key))
    (reference : Block × Key) (block : Block) :
    Discarded counts (references ++ [reference]) block ↔
      Discarded counts references block ∨
        (reference.1 = block ∧
          counts reference.2 ≤ keyCount references reference.2 + 1) := by
  induction references generalizing counts with
  | nil =>
      have nothing :
          ∀ counts : Key → Nat,
            ¬ Discarded counts ([] : List (Block × Key)) block := by
        rintro counts ⟨before, late, after, equal, _⟩
        simp at equal
      rw [List.nil_append, discarded_cons_iff]
      simp [nothing]
  | cons head rest induction =>
      rw [List.cons_append, discarded_cons_iff, induction,
        discarded_cons_iff, or_assoc, keyCount_cons, release_apply]
      have shifted :
          counts reference.2 - (if head.2 = reference.2 then 1 else 0) ≤
              keyCount rest reference.2 + 1 ↔
            counts reference.2 ≤
              keyCount rest reference.2 +
                (if head.2 = reference.2 then 1 else 0) + 1 := by
        split <;> omega
      rw [shifted]

theorem exists_last_of_key
    {references : List (Block × Key)} {key : Key}
    (held : 0 < keyCount references key) :
    ∃ before reference after,
      references = before ++ reference :: after ∧
        reference.2 = key ∧ keyCount after key = 0 := by
  induction references with
  | nil => simp at held
  | cons reference rest induction =>
      by_cases later : 0 < keyCount rest key
      · rcases induction later with
          ⟨before, last, after, rfl, sameKey, none⟩
        exact ⟨reference :: before, last, after, rfl, sameKey, none⟩
      · have none : keyCount rest key = 0 := by omega
        rw [keyCount_cons, none] at held
        have sameKey : reference.2 = key := by
          by_contra apart
          simp [apart] at held
        exact ⟨[], reference, rest, rfl, sameKey, none⟩

/-- If every reference of a drained key names one block, it is discarded. -/
theorem discarded_of_drained
    {counts : Key → Nat} {references : List (Block × Key)}
    {key : Key} {block : Block}
    (sameBlock :
      ∀ reference ∈ references, reference.2 = key → reference.1 = block)
    (held : 0 < keyCount references key)
    (drained : counts key ≤ keyCount references key) :
    Discarded counts references block := by
  rcases exists_last_of_key held with
    ⟨before, last, after, rfl, rfl, none⟩
  refine ⟨before, last, after, rfl, sameBlock last (by simp) rfl, ?_⟩
  rw [keyCount_append, keyCount_cons, none, if_pos rfl] at drained
  exact drained

end StorageAppliance.Library
