import StorageAppliance.Library.RouteTables

/-!
# The routes of the API

All routes of `api/main.py` and of the routers it includes, in their order.  The
routes that the framework adds for the documentation answer `GET` alone, at
paths of one or two parts, and are left out.

A path is given by its parts, without the slash in front.
-/

namespace StorageAppliance.Api

open StorageAppliance.Library

/-- The methods of the routes. -/
inductive Method where
  | get
  | post
  | put
  | delete
deriving DecidableEq

/-- The functions that handle requests. -/
inductive Handler where
  | createVolume
  | listVolumes
  | getVolume
  | updateVolume
  | deleteVolume
  | resizeVolume
  | cloneVolume
  | writeData
  | readData
  | createSnapshot
  | listSnapshots
  | getSnapshot
  | deleteSnapshot
  | restoreSnapshot
  | listAllSnapshots
  | getClusterStatus
  | getReplicationStatus
  | addPeer
  | removePeer
  | triggerFailover
  | triggerFailback
  | receiveHeartbeat
  | applyReplication
  | getMetrics
  | getReductionMetrics
  | getFlashMetrics
  | getVolumeMetrics
  | getReplicationMetrics
  | getAnalyticsOverview
  | getCapacityForecast
  | recordCapacitySample
  | getDriveHealth
  | getTieringRecommendations
  | getVolumeTemperature
  | getVolumeAnalytics
  | setVolumeTier
  | recordAccess
  | root
  | health
  | listArrays
deriving DecidableEq

open PathPart (literal parameter)
open Handler

/-- `prefix="/volumes"` -/
def volumesRouter : List (Route Method Handler) :=
  includeRoutes [literal "volumes"]
    [⟨.post, [], createVolume⟩,
      ⟨.get, [], listVolumes⟩,
      ⟨.get, [parameter "volume_id"], getVolume⟩,
      ⟨.put, [parameter "volume_id"], updateVolume⟩,
      ⟨.delete, [parameter "volume_id"], deleteVolume⟩,
      ⟨.post, [parameter "volume_id", literal "resize"], resizeVolume⟩,
      ⟨.post, [parameter "volume_id", literal "clone"], cloneVolume⟩,
      ⟨.post, [parameter "volume_id", literal "write"], writeData⟩,
      ⟨.get, [parameter "volume_id", literal "read"], readData⟩]

/-- `prefix="/volumes/{volume_id}/snapshots"` -/
def snapshotsRouter : List (Route Method Handler) :=
  includeRoutes
    [literal "volumes", parameter "volume_id", literal "snapshots"]
    [⟨.post, [], createSnapshot⟩,
      ⟨.get, [], listSnapshots⟩,
      ⟨.get, [parameter "snapshot_id"], getSnapshot⟩,
      ⟨.delete, [parameter "snapshot_id"], deleteSnapshot⟩,
      ⟨.post, [parameter "snapshot_id", literal "restore"],
        restoreSnapshot⟩]

/-- `prefix="/snapshots"` -/
def globalSnapshotsRouter : List (Route Method Handler) :=
  includeRoutes [literal "snapshots"] [⟨.get, [], listAllSnapshots⟩]

/-- `prefix="/cluster"` -/
def replicationRouter : List (Route Method Handler) :=
  includeRoutes [literal "cluster"]
    [⟨.get, [literal "status"], getClusterStatus⟩,
      ⟨.get, [literal "replication"], getReplicationStatus⟩,
      ⟨.post, [literal "peers"], addPeer⟩,
      ⟨.delete, [literal "peers", parameter "node_id"], removePeer⟩,
      ⟨.post, [literal "failover"], triggerFailover⟩,
      ⟨.post, [literal "failback"], triggerFailback⟩,
      ⟨.post, [literal "heartbeat"], receiveHeartbeat⟩,
      ⟨.post, [literal "replication", literal "apply"],
        applyReplication⟩]

/-- `prefix="/metrics"` -/
def metricsRouter : List (Route Method Handler) :=
  includeRoutes [literal "metrics"]
    [⟨.get, [], getMetrics⟩,
      ⟨.get, [literal "reduction"], getReductionMetrics⟩,
      ⟨.get, [literal "flash"], getFlashMetrics⟩,
      ⟨.get, [literal "volumes"], getVolumeMetrics⟩,
      ⟨.get, [literal "replication"], getReplicationMetrics⟩]

/-- `prefix="/analytics"` -/
def analyticsRouter : List (Route Method Handler) :=
  includeRoutes [literal "analytics"]
    [⟨.get, [], getAnalyticsOverview⟩,
      ⟨.get, [literal "capacity", literal "forecast"],
        getCapacityForecast⟩,
      ⟨.post, [literal "capacity", literal "sample"],
        recordCapacitySample⟩,
      ⟨.get, [literal "health"], getDriveHealth⟩,
      ⟨.get, [literal "tiering", literal "recommendations"],
        getTieringRecommendations⟩,
      ⟨.get, [literal "temperature", parameter "volume_id"],
        getVolumeTemperature⟩,
      ⟨.get, [literal "volume", parameter "volume_id"],
        getVolumeAnalytics⟩,
      ⟨.post, [literal "volume", parameter "volume_id", literal "tier"],
        setVolumeTier⟩,
      ⟨.post, [literal "access", literal "record"], recordAccess⟩]

/-- The routers with `prefix="/api/v1"`, and the routes of the application. -/
def app : List (Route Method Handler) :=
  includeRoutes [literal "api", literal "v1"]
      (volumesRouter ++ snapshotsRouter ++ globalSnapshotsRouter ++
        replicationRouter ++ metricsRouter ++ analyticsRouter) ++
    [⟨.get, [literal ""], root⟩,
      ⟨.get, [literal "health"], health⟩,
      ⟨.get, [literal "api", literal "v1", literal "arrays"], listArrays⟩]

/--
The framework behind the routes, which is not in the repository: the status of
its answer to a request.
-/
abbrev Framework :=
  List (Route Method Handler) → Method → List String → Nat

/--
What its documentation promises: a request is answered with status 200 only if
a route of its method takes its path.  The routes that it adds itself answer
`GET` alone.
-/
def Framework.Lawful (framework : Framework) : Prop :=
  ∀ routes method path,
    method ≠ .get →
      framework routes method path = 200 →
        ∃ route ∈ routes,
          route.method = method ∧ takesPath route.path path = true

/-- A framework whose handlers all succeed. -/
def plainFramework : Framework := fun routes method path =>
  match dispatch routes method path with
  | .handled _ => 200
  | .methodNotAllowed => 405
  | .notFound => 404

theorem plainFramework_lawful : Framework.Lawful plainFramework := by
  intro routes method path _ succeeds
  rw [plainFramework] at succeeds
  split at succeeds
  · rename_i handler handled
    exact takes_of_dispatch handled
  · cases succeeds
  · cases succeeds

end StorageAppliance.Api
