import StorageAppliance.Library.Dict
import StorageAppliance.Library.Run
import StorageAppliance.Library.BigEndian
import StorageAppliance.Library.RefCount
import StorageAppliance.Python
import StorageAppliance.Purity.PatternRemoval
import StorageAppliance.Purity.Compression
import StorageAppliance.Purity.Deduplication
import StorageAppliance.Storage.FileBackend
import StorageAppliance.Core.Config
import StorageAppliance.Purity.Engine
import StorageAppliance.Core.VolumeManager
import StorageAppliance.Core.SnapshotManager
import StorageAppliance.Core.Controller
import StorageAppliance.Core.ControllerSteps
import StorageAppliance.Core.Soundness
import StorageAppliance.Core.Frames
import StorageAppliance.Core.RoundTrip
import StorageAppliance.Core.LiveReferences
import StorageAppliance.Core.Coverage
import StorageAppliance.Core.Reclamation
import StorageAppliance.Core.Sharing
import StorageAppliance.Core.Tasks
import StorageAppliance.Core.ConcurrentWrites
import StorageAppliance.Core.ConcurrentDeletes
import StorageAppliance.DirectFlash.BlockManager
import StorageAppliance.DirectFlash.WearLeveling
import StorageAppliance.DirectFlash.GarbageCollection
import StorageAppliance.DirectFlash.Simulator
import StorageAppliance.ActiveCluster.Mediator
import StorageAppliance.ActiveCluster.Failover
import StorageAppliance.ActiveCluster.SplitBrain
import StorageAppliance.ActiveCluster.ContestedElections
import StorageAppliance.ActiveCluster.Replication
import StorageAppliance.ActiveCluster.SyncReplication
import StorageAppliance.ActiveCluster.Journal
import StorageAppliance.ActiveCluster.JournalOrder
import StorageAppliance.ActiveCluster.JournalDelivery
import StorageAppliance.Go
import StorageAppliance.Library.CircularProbe
import StorageAppliance.PowerScale.Placement
import StorageAppliance.PowerScale.OneFS
import StorageAppliance.PowerScale.Stripes
import StorageAppliance.PowerScale.ShardPlaces
import StorageAppliance.PowerScale.FileRoundTrip
import StorageAppliance.PowerScale.Metro
import StorageAppliance.Library.Md5
import StorageAppliance.Unity.ObjectStorage
import StorageAppliance.Unity.ObjectMap
import StorageAppliance.Unity.ObjectVersions
import StorageAppliance.Unity.HiddenObjects
import StorageAppliance.Unity.ConcurrentObjects
import StorageAppliance.ActiveCluster.Membership
import StorageAppliance.ActiveCluster.Failback
import StorageAppliance.Library.LittleEndian
import StorageAppliance.NVMeoF.Command
import StorageAppliance.NVMeoF.Target
import StorageAppliance.NVMeoF.AccessControl
import StorageAppliance.NVMeoF.Fragmentation
import StorageAppliance.NVMeoF.Initiator
import StorageAppliance.NVMeoF.Framing
import StorageAppliance.NVMeoF.CompletionRouting
import StorageAppliance.Unity.HttpApi
import StorageAppliance.Unity.HttpSessions
import StorageAppliance.Unity.Chunking
import StorageAppliance.Unity.DataDomain
import StorageAppliance.Unity.ConcurrentDedup
import StorageAppliance.Unity.DedupRoundTrip
import StorageAppliance.Purity.Accounting
import StorageAppliance.Library.DictSum
import StorageAppliance.Library.OwnedBag
import StorageAppliance.Purity.SettingsRoundTrip
import StorageAppliance.Core.Writes
import StorageAppliance.Purity.DedupRefinement
import StorageAppliance.Core.FailedWrites
import StorageAppliance.Core.VolumeChanges
import StorageAppliance.Core.UsageCounters
import StorageAppliance.Core.VolumeBounds
import StorageAppliance.Core.Overlaps
import StorageAppliance.Core.ManagerTotals
import StorageAppliance.Library.SecondaryIndex
import StorageAppliance.Core.SnapshotIndexes
import StorageAppliance.Library.Census
import StorageAppliance.DirectFlash.Counters
import StorageAppliance.DirectFlash.FailedWrites
import StorageAppliance.DirectFlash.Moves
import StorageAppliance.DirectFlash.Availability
import StorageAppliance.DirectFlash.LevelingPass
import StorageAppliance.DirectFlash.EndOfLife
import StorageAppliance.Analytics.DriveHealth
import StorageAppliance.ActiveCluster.Elections
import StorageAppliance.ActiveCluster.SinglePrimary
import StorageAppliance.ActiveCluster.FailoverEvents
import StorageAppliance.ActiveCluster.FailbackChains
import StorageAppliance.Library.Segmentation
import StorageAppliance.Unity.ChunkBounds
import StorageAppliance.Unity.DedupSteps
import StorageAppliance.Unity.ChunkStability
import StorageAppliance.Unity.DedupAccounting
import StorageAppliance.Unity.Recipes
import StorageAppliance.ActiveCluster.FailoverStatistics
import StorageAppliance.Unity.Catalog
import StorageAppliance.Unity.VersionLists
import StorageAppliance.Unity.BucketLifetimes
import StorageAppliance.Unity.ExactGets
import StorageAppliance.Unity.PartLists
import StorageAppliance.ActiveCluster.JournalConservation
import StorageAppliance.PowerScale.SingleParity
import StorageAppliance.PowerScale.StripeSplitting
import StorageAppliance.PowerScale.DeclaredSizes
import StorageAppliance.PowerScale.Healing
import StorageAppliance.PowerScale.HealedBlocks
import StorageAppliance.PowerScale.NodeReferences
import StorageAppliance.PowerScale.SiteFailover
import StorageAppliance.PowerScale.Zones
import StorageAppliance.PowerScale.ZoneWrites
import StorageAppliance.Library.SlotRing
import StorageAppliance.PowerScale.CommandRings
import StorageAppliance.NVMeoF.Survival
import StorageAppliance.NVMeoF.Bounds
import StorageAppliance.NVMeoF.Geometry
import StorageAppliance.NVMeoF.BlockCounts
import StorageAppliance.Library.BoundedRing
import StorageAppliance.NvmeDrv.Driver
import StorageAppliance.NvmeDrv.CommandPath
import StorageAppliance.NvmeDrv.DeviceBounds
import StorageAppliance.NvmeDrv.RejectedCommands
import StorageAppliance.NVMeoF.PendingCommands
import StorageAppliance.NvmeDrv.BlockSizes
import StorageAppliance.NVMeoF.Associations
import StorageAppliance.NvmeDrv.CompletionQueue
import StorageAppliance.NvmeDrv.CompletionMemory
import StorageAppliance.Library.MaximalRuns
import StorageAppliance.Purity.ZeroRegions
import StorageAppliance.Library.LeastSquares
import StorageAppliance.Analytics.CapacityForecast
import StorageAppliance.Library.PhaseRing
import StorageAppliance.CppLegacy.CompletionProcessing
import StorageAppliance.NvmeDrv.ClosedControllers
import StorageAppliance.Library.References
import StorageAppliance.Dpu.Targets
import StorageAppliance.CppLegacy.DeadRings
import StorageAppliance.CppLegacy.CommandQueues
import StorageAppliance.ActiveCluster.Partitions
import StorageAppliance.Library.Overlays
import StorageAppliance.NvmeDrv.BlockStore
import StorageAppliance.Library.Base64
import StorageAppliance.Api.Volumes
import StorageAppliance.Library.GroupedRecords
import StorageAppliance.Analytics.Temperature
import StorageAppliance.Analytics.Tiering
import StorageAppliance.Analytics.Forecasts
import StorageAppliance.Library.RouteTables
import StorageAppliance.Api.Routes
import StorageAppliance.ActiveCluster.DeployedReplication
import StorageAppliance.Library.Networks
import StorageAppliance.ActiveCluster.StartedClusters
import StorageAppliance.ActiveCluster.UnnamedPeers
import StorageAppliance.NVMeoF.NamespaceStores
import StorageAppliance.Library.Answers
import StorageAppliance.Unity.HttpStore
import StorageAppliance.PowerScale.Arbitration
import StorageAppliance.NVMeoF.Connecting
