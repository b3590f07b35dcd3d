import StorageAppliance.Purity.Compression

/-!
# Settings

The settings of `core/config.py` that the storage controller and the data
reduction pipeline read, with their defaults.
-/

namespace StorageAppliance.Core

open StorageAppliance.Purity

/-- The settings read by the modelled services. -/
structure Settings where
  defaultBlockSize : Nat := 4096
  dedupeEnabled : Bool := true
  compressionEnabled : Bool := true
  patternRemovalEnabled : Bool := true
  compressionAlgorithm : CompressionAlgorithm := .lz4
  compressionLevel : ℤ := 1
deriving DecidableEq

end StorageAppliance.Core
