import Mathlib.Data.Nat.Prime.Basic
import StorageAppliance.Go
import StorageAppliance.Library.Dict

/-!
# Zones of a namespace

A zoned namespace is cut into zones of 256 MiB (`createZNSConfig`).  The first
block of a zone is computed for blocks of 4096 bytes, but the number of its
blocks, wherever a zone is written, is its capacity divided by the block size of
the namespace.

`createNamespace_tiles_iff` says that the zones are apart and inside the
namespace exactly if its blocks have 4096 bytes or there is at most one zone.
-/

namespace StorageAppliance.PowerScale

open StorageAppliance.Go
open StorageAppliance.Library

inductive NamespaceType where
  | block
  | zoned
  | keyValue
deriving DecidableEq

inductive ZoneState where
  | empty
  | implicitlyOpen
  | explicitlyOpen
  | closed
  | full
  | readOnly
  | offline
deriving DecidableEq

/-- A zone of a namespace. -/
structure ZoneDescriptor where
  zoneId : Nat
  zoneState : ZoneState
  startLBA : Nat
  capacity : Nat
  writePointer : Nat
deriving DecidableEq

/-- The zones of a namespace, and how many may be open. -/
structure ZonedNamespaceConfig where
  maxOpenZones : Nat
  zoneDescriptors : List ZoneDescriptor
deriving DecidableEq

/-- A namespace. -/
structure NVMeNamespace where
  namespaceId : Nat
  size : Nat
  blockSize : Nat
  numBlocks : Nat
  type : NamespaceType
  znsConfig : Option ZonedNamespaceConfig := none
deriving DecidableEq

/-- What the queues and namespaces of a subsystem are created with. -/
structure NVMeConfig where
  numIOQueues : ℤ := 0
  queueDepth : Nat := 0
  defaultBlockSize : Nat
  enableZNS : Bool
deriving DecidableEq

/-- A subsystem. -/
structure NVMeSubsystem where
  config : NVMeConfig
  namespaces : Dict Nat NVMeNamespace := Dict.empty
deriving DecidableEq

/-- The size of a zone. -/
def zoneSize : Nat :=
  256 * 1024 * 1024

/-- The zone with a number. -/
def newZone (number : Nat) : ZoneDescriptor where
  zoneId := number
  zoneState := .empty
  startLBA := number * (zoneSize / 4096)
  capacity := zoneSize
  writePointer := number * (zoneSize / 4096)

/-- The zones of a namespace of a size. -/
def createZNSConfig (totalSize : Nat) : ZonedNamespaceConfig where
  maxOpenZones := 14
  zoneDescriptors := (List.range (totalSize / zoneSize)).map newZone

namespace NVMeSubsystem

/-- The block size of the namespaces that are created. -/
def blockSize (self : NVMeSubsystem) : Nat :=
  if self.config.defaultBlockSize = 0 then
    4096
  else
    self.config.defaultBlockSize

/-- Create a namespace. -/
def createNamespace (self : NVMeSubsystem) (size : Nat)
    (nsType : NamespaceType) : NVMeNamespace × NVMeSubsystem :=
  let nsId := (self.namespaces.items.length + 1) % 2 ^ 32
  let created : NVMeNamespace :=
    { namespaceId := nsId
      size := size
      blockSize := self.blockSize
      numBlocks := size / self.blockSize
      type := nsType
      znsConfig :=
        if nsType = .zoned ∧ self.config.enableZNS then
          some (createZNSConfig size)
        else
          none }
  (created,
    { self with namespaces := self.namespaces.set nsId created })

end NVMeSubsystem

namespace NVMeNamespace

/-- The zones of a namespace, if it has any. -/
def zones (self : NVMeNamespace) : List ZoneDescriptor :=
  match self.znsConfig with
  | none => []
  | some config => config.zoneDescriptors

/-- The block after the last one of a zone. -/
def zoneEnd (self : NVMeNamespace) (zone : ZoneDescriptor) : Nat :=
  zone.startLBA + zone.capacity / self.blockSize

/-- A block of a zone. -/
def Covers (self : NVMeNamespace) (zone : ZoneDescriptor) (block : Nat) :
    Prop :=
  zone.startLBA ≤ block ∧ block < self.zoneEnd zone

end NVMeNamespace

/-- The zones have no blocks in common, and only blocks of the namespace. -/
structure Tiles (created : NVMeNamespace) : Prop where
  apart :
    ∀ (first second : Nat) (firstZone secondZone : ZoneDescriptor)
        (block : Nat),
      created.zones[first]? = some firstZone →
        created.zones[second]? = some secondZone →
          created.Covers firstZone block →
            created.Covers secondZone block → first = second
  within :
    ∀ zone ∈ created.zones, ∀ block,
      created.Covers zone block → block < created.numBlocks

section Tiling

variable
    {subsystem : NVMeSubsystem}
    {size blockSize : Nat}

theorem createNamespace_zones
    (enabled : subsystem.config.enableZNS = true) :
    (subsystem.createNamespace size .zoned).1.zones =
      (List.range (size / zoneSize)).map newZone := by
  simp only [NVMeSubsystem.createNamespace, NVMeNamespace.zones, enabled,
    and_self, if_true]
  rfl

theorem createNamespace_noZones
    (disabled : subsystem.config.enableZNS = false) :
    (subsystem.createNamespace size .zoned).1.zones = [] := by
  simp [NVMeSubsystem.createNamespace, NVMeNamespace.zones, disabled]

/-- The zone with a number, as the namespace has it. -/
theorem createNamespace_getElem?
    (enabled : subsystem.config.enableZNS = true) (number : Nat) :
    (subsystem.createNamespace size .zoned).1.zones[number]? =
      if number < size / zoneSize then some (newZone number) else none := by
  rw [createNamespace_zones enabled, List.getElem?_map]
  by_cases inside : number < size / zoneSize
  · rw [if_pos inside, List.getElem?_range inside]
    rfl
  · rw [if_neg inside, List.getElem?_eq_none (by simpa using inside)]
    rfl

/-- The blocks of a zone, for the block size of the namespace. -/
theorem createNamespace_covers_iff (number block : Nat) :
    (subsystem.createNamespace size .zoned).1.Covers (newZone number)
        block ↔
      number * 65536 ≤ block ∧
        block < number * 65536 + zoneSize / subsystem.blockSize :=
  Iff.rfl

/-- A block size that divides a zone is a power of two. -/
theorem blocks_of_dvd (divides : blockSize ∣ zoneSize) :
    (blockSize = 4096 ∧ zoneSize / blockSize = 65536) ∨
      (blockSize < 4096 ∧ 65536 < zoneSize / blockSize) ∨
      (4096 < blockSize ∧ zoneSize / blockSize ≤ 32768) := by
  have power : zoneSize = 2 ^ 28 := by
    decide
  rw [power] at divides ⊢
  rcases (Nat.dvd_prime_pow Nat.prime_two).mp divides with
    ⟨exponent, bounded, rfl⟩
  rw [Nat.pow_div bounded (by decide)]
  rcases Nat.lt_trichotomy exponent 12 with less | rfl | more
  · right; left
    exact
      ⟨(@Nat.pow_lt_pow_iff_right 2 exponent 12 (by decide)).mpr less,
        (@Nat.pow_lt_pow_iff_right 2 16 (28 - exponent)
          (by decide)).mpr (by omega)⟩
  · left
    decide
  · right; right
    exact
      ⟨(@Nat.pow_lt_pow_iff_right 2 12 exponent (by decide)).mpr more,
        (@Nat.pow_le_pow_iff_right 2 (28 - exponent) 15
          (by decide)).mpr (by omega)⟩

/-- Zones of blocks of 4096 bytes are next to each other. -/
theorem tiles_of_4096
    (enabled : subsystem.config.enableZNS = true)
    (standard : subsystem.blockSize = 4096) :
    Tiles (subsystem.createNamespace size .zoned).1 := by
  have blocks : zoneSize / subsystem.blockSize = 65536 := by
    rw [standard]
    decide
  have total :
      (subsystem.createNamespace size .zoned).1.numBlocks =
        size / 4096 := by
    rw [← standard]
    rfl
  constructor
  · intro first second firstZone secondZone block firstFound secondFound
      firstCovers secondCovers
    rw [createNamespace_getElem? enabled] at firstFound secondFound
    split at firstFound
    · split at secondFound
      · cases firstFound
        cases secondFound
        rw [createNamespace_covers_iff, blocks] at firstCovers secondCovers
        omega
      · cases secondFound
    · cases firstFound
  · intro zone listed block covers
    rw [createNamespace_zones enabled, List.mem_map] at listed
    rcases listed with ⟨number, inside, rfl⟩
    rw [List.mem_range, zoneSize] at inside
    rw [createNamespace_covers_iff, blocks] at covers
    rw [total]
    omega

/-- A single zone is inside the namespace. -/
theorem tiles_of_one
    (enabled : subsystem.config.enableZNS = true)
    (small : size < 2 * zoneSize) :
    Tiles (subsystem.createNamespace size .zoned).1 := by
  have most : size / zoneSize ≤ 1 := by
    rw [zoneSize] at small ⊢
    omega
  constructor
  · intro first second firstZone secondZone block firstFound secondFound
      _ _
    rw [createNamespace_getElem? enabled] at firstFound secondFound
    split at firstFound
    · split at secondFound
      · omega
      · cases secondFound
    · cases firstFound
  · intro zone listed block covers
    rw [createNamespace_zones enabled, List.mem_map] at listed
    rcases listed with ⟨number, inside, rfl⟩
    rw [List.mem_range] at inside
    have first : number = 0 := by
      omega
    subst first
    rw [createNamespace_covers_iff] at covers
    have room : zoneSize ≤ size := by
      rw [zoneSize] at inside ⊢
      omega
    have total :
        (subsystem.createNamespace size .zoned).1.numBlocks =
          size / subsystem.blockSize :=
      rfl
    have grows := @Nat.div_le_div_right _ _ subsystem.blockSize room
    rw [total]
    omega

/-- Two zones of other blocks overlap, or the last one ends too late. -/
theorem not_tiles
    (enabled : subsystem.config.enableZNS = true)
    (divides : subsystem.blockSize ∣ zoneSize)
    (other : subsystem.blockSize ≠ 4096)
    (large : 2 * zoneSize ≤ size) :
    ¬ Tiles (subsystem.createNamespace size .zoned).1 := by
  intro tiles
  have many : 2 ≤ size / zoneSize :=
    (Nat.le_div_iff_mul_le (by decide)).mpr large
  rcases blocks_of_dvd divides with equal | smaller | larger
  · exact other equal.1
  · have first :
        (subsystem.createNamespace size .zoned).1.zones[0]? =
          some (newZone 0) := by
      rw [createNamespace_getElem? enabled, if_pos (by omega)]
    have second :
        (subsystem.createNamespace size .zoned).1.zones[1]? =
          some (newZone 1) := by
      rw [createNamespace_getElem? enabled, if_pos (by omega)]
    have same :=
      tiles.apart 0 1 _ _ 65536 first second
        (by
          rw [createNamespace_covers_iff]
          omega)
        (by
          rw [createNamespace_covers_iff]
          omega)
    cases same
  · have listed :
        newZone (size / zoneSize - 1) ∈
          (subsystem.createNamespace size .zoned).1.zones := by
      rw [createNamespace_zones enabled, List.mem_map]
      exact ⟨_, List.mem_range.mpr (by omega), rfl⟩
    have positive : 0 < subsystem.blockSize := by
      omega
    have blocks : 0 < zoneSize / subsystem.blockSize :=
      Nat.div_pos (Nat.le_of_dvd (by decide) divides) positive
    have covered :
        size <
          (size / zoneSize + 1) * (zoneSize / subsystem.blockSize) *
            subsystem.blockSize := by
      rw [Nat.mul_assoc, Nat.div_mul_cancel divides, Nat.mul_comm]
      exact Nat.lt_mul_div_succ size (by decide)
    have total :
        (subsystem.createNamespace size .zoned).1.numBlocks <
          (size / zoneSize + 1) * (zoneSize / subsystem.blockSize) :=
      (Nat.div_lt_iff_lt_mul positive).mpr covered
    have halves :
        size / zoneSize * (zoneSize / subsystem.blockSize) ≤
          size / zoneSize * 32768 :=
      Nat.mul_le_mul_left _ larger.2
    rw [Nat.add_mul, Nat.one_mul] at total
    have last :=
      tiles.within _ listed
        ((size / zoneSize - 1) * 65536 +
          (zoneSize / subsystem.blockSize - 1))
        (by
          rw [createNamespace_covers_iff]
          omega)
    omega

/--
The zones of a namespace that is created tile it exactly if it has no zones, or
its blocks have 4096 bytes, or it is smaller than two zones.
-/
theorem createNamespace_tiles_iff
    (divides : subsystem.blockSize ∣ zoneSize) :
    Tiles (subsystem.createNamespace size .zoned).1 ↔
      subsystem.config.enableZNS = false ∨
        subsystem.blockSize = 4096 ∨ size < 2 * zoneSize := by
  cases enabled : subsystem.config.enableZNS with
  | false =>
      simp only [true_or, iff_true]
      have none := @createNamespace_noZones subsystem size enabled
      constructor
      · intro first second firstZone secondZone block found
        rw [none] at found
        cases found
      · intro zone listed
        rw [none] at listed
        cases listed
  | true =>
      simp only [Bool.true_eq_false, false_or]
      constructor
      · intro tiles
        by_contra others
        rw [not_or, Nat.not_lt] at others
        exact not_tiles enabled divides others.1 others.2 tiles
      · rintro (standard | small)
        · exact tiles_of_4096 enabled standard
        · exact tiles_of_one enabled small

end Tiling

/-- A subsystem with zones and blocks of a size. -/
def zonedSubsystem (blockSize : Nat) : NVMeSubsystem where
  config :=
    { defaultBlockSize := blockSize
      enableZNS := true }

theorem createNamespace_tiles_gibibyte :
    Tiles
      ((zonedSubsystem 4096).createNamespace (4 * zoneSize) .zoned).1 := by
  have divides : (zonedSubsystem 4096).blockSize ∣ zoneSize := by
    decide
  exact (createNamespace_tiles_iff divides).mpr (Or.inr (Or.inl rfl))

/-- Blocks of 512 bytes make the first two zones overlap. -/
theorem zones_overlap :
    (zonedSubsystem 512).blockSize ∣ zoneSize ∧
      ((zonedSubsystem 512).createNamespace (2 * zoneSize)
        .zoned).1.zones = [newZone 0, newZone 1] ∧
      ((zonedSubsystem 512).createNamespace (2 * zoneSize)
        .zoned).1.Covers (newZone 0) 65536 ∧
      ((zonedSubsystem 512).createNamespace (2 * zoneSize)
        .zoned).1.Covers (newZone 1) 65536 ∧
      ¬ Tiles
        ((zonedSubsystem 512).createNamespace (2 * zoneSize)
          .zoned).1 := by
  have zones :
      ((zonedSubsystem 512).createNamespace (2 * zoneSize)
        .zoned).1.zones = [newZone 0, newZone 1] := by
    decide +kernel
  have first :
      ((zonedSubsystem 512).createNamespace (2 * zoneSize)
        .zoned).1.Covers (newZone 0) 65536 := by
    constructor
    · decide +kernel
    · decide +kernel
  have second :
      ((zonedSubsystem 512).createNamespace (2 * zoneSize)
        .zoned).1.Covers (newZone 1) 65536 := by
    constructor
    · decide +kernel
    · decide +kernel
  refine ⟨by decide, zones, first, second, ?_⟩
  intro tiles
  have same :=
    tiles.apart 0 1 _ _ 65536 (by rw [zones]; rfl) (by rw [zones]; rfl)
      first second
  cases same

end StorageAppliance.PowerScale
