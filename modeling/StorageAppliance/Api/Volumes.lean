import StorageAppliance.Library.Base64
import StorageAppliance.Core.RoundTrip

/-!
# The volume routes

The HTTP interface to volumes (`api/routes/volumes.py`, `api/schemas/volume.py`).
A request that its schema rejects is answered before the route runs, a
`ValueError` of a route that expects one is a bad request, and other exceptions
are server errors.

A route makes one call to the controller at most, so that a session is a run of
calls.  `read_after_write_iff` follows a block through a session, from the text
of the request that writes it to the text of the response that reads it.

The details of rejected requests are left out, and so are the times of a volume.
-/

namespace StorageAppliance.Api

open StorageAppliance.Python
open StorageAppliance.Library
open StorageAppliance.Purity
open StorageAppliance.Core
open StorageController

/-! ## Base64 -/

/-- `base64.b64encode(data).decode()` -/
def b64encode (data : Bytes) : String :=
  String.ofList (Base64.encode data)

/-- The message of `binascii.Error`. -/
def decodeMessage : Base64.DecodeError → String
  | .extraCharacter characters =>
      "Invalid base64-encoded string: number of data characters (" ++
        toString characters ++ ") cannot be 1 more than a multiple of 4"
  | .incorrectPadding => "Incorrect padding"

/-- `base64.b64decode(text)` -/
def b64decode (text : String) : Except PyException Bytes :=
  if text.toList.all fun next => next.toNat < 128 then
    (Base64.decode text.toList).mapError fun error =>
      .valueError (decodeMessage error)
  else
    .error
      (.valueError "string argument should contain only ASCII characters")

/-! ## Requests and responses -/

inductive VolumeRequest where
  | createVolume (name : String) (sizeGb : ℚ) (description : String)
      (tags : Dict String String)
  | listVolumes
  | getVolume (volumeId : String)
  | updateVolume (volumeId : String) (name description : Option String)
      (tags : Option (Dict String String))
  | deleteVolume (volumeId : String)
  | resizeVolume (volumeId : String) (sizeGb : ℚ)
  | cloneVolume (volumeId name description : String)
  | writeData (volumeId : String) (offset : ℤ) (data : String)
  | readData (volumeId : String) (offset : ℤ)
deriving DecidableEq

structure VolumeResponse where
  id : String
  name : String
  sizeBytes : ℤ
  usedBytes : ℤ
  state : VolumeState
  description : String
  tags : Dict String String
  reductionRatio : ℚ
deriving DecidableEq

structure WriteResponse where
  volumeId : String
  offset : ℤ
  size : Nat
  reductionRatio : ℚ
  wasDeduplicated : Bool
  wasCompressed : Bool
deriving DecidableEq

structure ReadResponse where
  volumeId : String
  offset : ℤ
  size : Nat
  data : String
deriving DecidableEq

inductive Body where
  | volume (response : VolumeResponse)
  | volumes (responses : List VolumeResponse) (total : Nat)
  | written (response : WriteResponse)
  | read (response : ReadResponse)
  | detail (text : String)
  | rejected
  | empty
deriving DecidableEq

structure Response where
  status : Nat
  body : Body
deriving DecidableEq

/-! ## Routes -/

/-- The data reduction of a volume. -/
def reductionRatio (volume : Volume) : ℚ :=
  if volume.physicalBytes = 0 then
    1
  else
    volume.logicalBytes / volume.physicalBytes

/-- Convert a volume to its response. -/
def volumeToResponse (volume : Volume) : VolumeResponse where
  id := volume.id
  name := volume.name
  sizeBytes := volume.sizeBytes
  usedBytes := volume.usedBytes
  state := volume.state
  description := volume.description
  tags := volume.tags
  reductionRatio := reductionRatio volume

/-- The request passes its schema. -/
def VolumeRequest.isValid : VolumeRequest → Bool
  | .createVolume name sizeGb _ _ =>
      (1 ≤ name.length && name.length ≤ 255) &&
        (0 < sizeGb && sizeGb ≤ 1024)
  | .resizeVolume _ sizeGb => 0 < sizeGb && sizeGb ≤ 1024
  | .cloneVolume _ name _ => 1 ≤ name.length && name.length ≤ 255
  | .writeData _ offset _ => 0 ≤ offset
  | _ => true

def notFound (volumeId : String) : Response where
  status := 404
  body := .detail ("Volume " ++ volumeId ++ " not found")

def badRequest (text : String) : Response where
  status := 400
  body := .detail text

/-- The response to an exception that no route catches. -/
def serverError : Response where
  status := 500
  body := .detail "Internal Server Error"

/-- A volume with a status, or that there is none. -/
def respondVolume (volumeId : String) : Option Volume → Response
  | none => notFound volumeId
  | some volume =>
      { status := 200, body := .volume (volumeToResponse volume) }

/-- The new size of a volume. -/
def resizedBytes (sizeGb : ℚ) : ℤ :=
  truncate (sizeGb * 1024 * 1024 * 1024)

section Routes

variable
    (platform : Platform)
    (controller : StorageController)

/-- Write data to a volume. -/
def writeData (volumeId : String) (offset : ℤ) (text : String) :
    Response × StorageController :=
  match b64decode text with
  | .error _ => (badRequest "Invalid base64 data", controller)
  | .ok data =>
      let (answer, after) :=
        controller.write platform volumeId offset data
      match answer with
      | .error (.valueError message) => (badRequest message, after)
      | .error _ => (serverError, after)
      | .ok none => (notFound volumeId, after)
      | .ok (some result) =>
          ({ status := 200
             body :=
               .written
                 { volumeId := result.volumeId
                   offset := result.offset
                   size := result.size
                   reductionRatio := result.reduction.reductionRatio
                   wasDeduplicated := result.reduction.wasDeduplicated
                   wasCompressed := result.reduction.wasCompressed } },
            after)

/-- Read data from a volume. -/
def readData (volumeId : String) (offset : ℤ) :
    Response × StorageController :=
  let (answer, after) := controller.read platform volumeId offset
  match answer with
  | .error _ => (serverError, after)
  | .ok none =>
      ({ status := 404
         body := .detail ("Data not found at offset " ++ toString offset) },
        after)
  | .ok (some result) =>
      ({ status := 200
         body :=
           .read
             { volumeId := result.volumeId
               offset := result.offset
               size := result.size
               data := b64encode result.data } },
        after)

/-- Answer a request that passed its schema. -/
def route : VolumeRequest → Response × StorageController
  | .createVolume name sizeGb description tags =>
      let (volume, after) :=
        controller.createVolume platform name sizeGb description tags
      ({ status := 201, body := .volume (volumeToResponse volume) }, after)
  | .listVolumes =>
      let volumes := controller.volumeManager.volumes.values
      ({ status := 200
         body := .volumes (volumes.map volumeToResponse) volumes.length },
        controller)
  | .getVolume volumeId =>
      (respondVolume volumeId
          (controller.volumeManager.getVolume volumeId), controller)
  | .updateVolume volumeId name description tags =>
      let (volume, manager) :=
        controller.volumeManager.updateVolume volumeId name description tags
      (respondVolume volumeId volume,
        { controller with volumeManager := manager })
  | .deleteVolume volumeId =>
      let (deleted, after) := controller.deleteVolume volumeId
      if deleted then
        ({ status := 204, body := .empty }, after)
      else
        (notFound volumeId, after)
  | .resizeVolume volumeId sizeGb =>
      let (answer, manager) :=
        controller.volumeManager.resizeVolume volumeId (resizedBytes sizeGb)
      let after := { controller with volumeManager := manager }
      match answer with
      | .error (.valueError message) => (badRequest message, after)
      | .error _ => (serverError, after)
      | .ok volume => (respondVolume volumeId volume, after)
  | .cloneVolume volumeId name description =>
      let (volume, after) :=
        controller.cloneVolume platform volumeId name description
      (respondVolume volumeId volume, after)
  | .writeData volumeId offset text =>
      writeData platform controller volumeId offset text
  | .readData volumeId offset =>
      readData platform controller volumeId offset

/-- Answer a request. -/
def serve (request : VolumeRequest) : Response × StorageController :=
  if request.isValid then
    route platform controller request
  else
    ({ status := 422, body := .rejected }, controller)

/-- The controller after a session. -/
def session (requests : List VolumeRequest) : StorageController :=
  run (fun controller request => (serve platform controller request).2)
    controller requests

end Routes

/-! ## Sessions are runs of calls -/

/-- The call that the route of a request makes. -/
def VolumeRequest.routeCall? : VolumeRequest → Option Call
  | .createVolume name sizeGb description tags =>
      some (.createVolume name sizeGb description tags)
  | .listVolumes => none
  | .getVolume _ => none
  | .updateVolume volumeId name description tags =>
      some (.updateVolume volumeId name description tags)
  | .deleteVolume volumeId => some (.deleteVolume volumeId)
  | .resizeVolume volumeId sizeGb =>
      some (.resizeVolume volumeId (resizedBytes sizeGb))
  | .cloneVolume volumeId name description =>
      some (.cloneVolume volumeId name description)
  | .writeData volumeId offset text =>
      (b64decode text).toOption.map fun data =>
        .write volumeId offset data
  | .readData volumeId offset => some (.read volumeId offset)

/-- The call that a request makes, if it passes its schema. -/
def VolumeRequest.call? (request : VolumeRequest) : Option Call :=
  if request.isValid then request.routeCall? else none

section Sessions

variable
    {platform : Platform}
    {controller : StorageController}

theorem writeData_controller
    (volumeId : String) (offset : ℤ) (text : String) :
    (writeData platform controller volumeId offset text).2 =
      match b64decode text with
      | .error _ => controller
      | .ok data => controller.step platform (.write volumeId offset data)
    := by
  rw [writeData]
  split
  · rfl
  · dsimp only
    split <;> rfl

theorem readData_controller (volumeId : String) (offset : ℤ) :
    (readData platform controller volumeId offset).2 =
      controller.step platform (.read volumeId offset) := by
  rw [readData]
  dsimp only
  split <;> rfl

theorem route_controller (request : VolumeRequest) :
    (route platform controller request).2 =
      match request.routeCall? with
      | none => controller
      | some call => controller.step platform call := by
  cases request with
  | deleteVolume volumeId =>
      rw [route]
      dsimp only
      split <;> rfl
  | resizeVolume volumeId sizeGb =>
      rw [route]
      dsimp only
      split <;> rfl
  | writeData volumeId offset text =>
      rw [route, writeData_controller, VolumeRequest.routeCall?]
      cases b64decode text <;> rfl
  | readData volumeId offset => exact readData_controller volumeId offset
  | _ => rfl

/-- A request leaves the controller that its call does. -/
theorem serve_controller (request : VolumeRequest) :
    (serve platform controller request).2 =
      match request.call? with
      | none => controller
      | some call => controller.step platform call := by
  rw [serve, VolumeRequest.call?]
  by_cases valid : request.isValid = true
  · rw [if_pos valid, if_pos valid]
    exact route_controller request
  · rw [if_neg valid, if_neg valid]

/-- A session leaves the controller that its calls do. -/
theorem session_calls (requests : List VolumeRequest) :
    session platform controller requests =
      run (StorageController.step platform) controller
        (requests.filterMap VolumeRequest.call?) := by
  induction requests generalizing controller with
  | nil => rfl
  | cons request rest induction =>
      have next :
          session platform controller (request :: rest) =
            session platform (serve platform controller request).2 rest :=
        rfl
      rw [next, induction, serve_controller]
      cases called : request.call? with
      | none => rw [List.filterMap_cons_none called]
      | some call => rw [List.filterMap_cons_some called, run_cons]

end Sessions

/-! ## Reading back over HTTP -/

/-- The request deletes a volume. -/
def VolumeRequest.Deletes : VolumeRequest → Prop
  | .deleteVolume _ => True
  | _ => False

/-- The request writes at the offset of the volume. -/
def VolumeRequest.WritesAt (volumeId : String) (offset : ℤ) :
    VolumeRequest → Prop
  | .writeData target targetOffset _ =>
      target = volumeId ∧ targetOffset = offset
  | _ => False

/-- The data that a response to a read carries. -/
def Response.data? (response : Response) : Option Bytes :=
  if response.status = 200 then
    match response.body with
    | .read body => (b64decode body.data).toOption
    | _ => none
  else
    none

/-- The calls that drop no reference and replace no map. -/
def DropsNothing : Call → Prop
  | .deleteVolume _ => False
  | .createSnapshot _ _ _ _ => False
  | .deleteSnapshot _ => False
  | .restoreSnapshot _ _ => False
  | _ => True

section ReadingBack

variable
    {platform : Platform}
    {controller : StorageController}

/-- A controller with the table and the files of a backed one is backed. -/
theorem backed_of_same
    (backed : Backed platform controller) {after : StorageController}
    (table : after.table = controller.table)
    (files : after.files = controller.files) :
    Backed platform after := by
  intro fingerprint entry found
  rw [table] at found
  rcases backed fingerprint entry found with ⟨content, equal, stores⟩
  refine ⟨content, equal, fun varied => ?_⟩
  exact (stores varied).of_files (by rw [files])

/-- These calls keep every entry backed. -/
theorem backed_dropsNothing
    (lawful : platform.Lawful) (sound : Sound platform controller)
    (backed : Backed platform controller)
    {call : Call} (drops : DropsNothing call) :
    Backed platform (controller.step platform call) := by
  cases call with
  | createVolume => exact backed
  | updateVolume => exact backed
  | resizeVolume => exact backed
  | cloneVolume sourceId newName description =>
      apply backed_of_same backed
      · show (controller.cloneVolume platform _ _ _).2.table = _
        rw [StorageController.cloneVolume]
        split <;> rfl
      · show (controller.cloneVolume platform _ _ _).2.files = _
        rw [StorageController.cloneVolume]
        split <;> rfl
  | write volumeId offset data =>
      exact
        backed.step lawful sound
          (trivial : (Call.write volumeId offset data).CreatesOrWrites)
  | read volumeId offset =>
      apply backed_of_same backed
      · show (controller.read platform volumeId offset).2.table = _
        rw [StorageController.read]
        split
        · rfl
        · split <;> rfl
      · exact read_files volumeId offset
  | _ => exact drops.elim

/-- And they keep what a volume holds elsewhere. -/
theorem holds_dropsNothing
    (lawful : platform.Lawful) (sound : Sound platform controller)
    {volumeId : String} {offset : ℤ} {content : Bytes}
    (holds : Holds platform controller volumeId offset content)
    {call : Call} (drops : DropsNothing call)
    (apart : ¬ call.Remaps volumeId offset) :
    Holds platform (controller.step platform call) volumeId offset
      content := by
  rcases holds with ⟨block, mapped, stores⟩
  have kept : ¬ DiscardedBy controller call block.blockId := by
    cases call with
    | deleteVolume => exact drops.elim
    | _ => exact id
  refine ⟨block, ?_, ?_⟩
  · rw [mapped_step lawful sound (drawn_of_mapped sound mapped) apart]
    exact mapped
  · exact stores.of_files
      (files_step_kept lawful sound (stores.drawn sound) kept)

theorem dropsNothing_of_call
    {request : VolumeRequest} {call : Call}
    (called : request.call? = some call) (kept : ¬ request.Deletes) :
    DropsNothing call := by
  rw [VolumeRequest.call?] at called
  split at called
  · cases request with
    | deleteVolume => exact absurd trivial kept
    | writeData volumeId offset text =>
        rcases Option.map_eq_some_iff.mp called with ⟨data, _, rfl⟩
        trivial
    | listVolumes => cases called
    | getVolume => cases called
    | _ =>
        cases called
        trivial
  · cases called

theorem not_remaps_of_call
    {request : VolumeRequest} {call : Call} {volumeId : String}
    {offset : ℤ}
    (called : request.call? = some call) (kept : ¬ request.Deletes)
    (elsewhere : ¬ request.WritesAt volumeId offset) :
    ¬ call.Remaps volumeId offset := by
  rw [VolumeRequest.call?] at called
  split at called
  · cases request with
    | deleteVolume => exact absurd trivial kept
    | writeData target targetOffset text =>
        rcases Option.map_eq_some_iff.mp called with ⟨data, _, rfl⟩
        exact elsewhere
    | listVolumes => cases called
    | getVolume => cases called
    | _ =>
        cases called
        exact id
  · cases called

/-- A session without deletions leaves every entry backed. -/
theorem backed_session
    (lawful : platform.Lawful) {requests : List VolumeRequest}
    (kept : ∀ request ∈ requests, ¬ request.Deletes) :
    Sound platform (session platform (StorageController.new {}) requests) ∧
      Backed platform
        (session platform (StorageController.new {}) requests) := by
  have keeps :
      ∀ (state : StorageController) (call : Call),
        Sound platform state ∧ Backed platform state →
          DropsNothing call →
            Sound platform (state.step platform call) ∧
              Backed platform (state.step platform call) :=
    fun _ call both drops =>
      ⟨both.1.step lawful call,
        backed_dropsNothing lawful both.1 both.2 drops⟩
  have start :
      Sound platform (StorageController.new {}) ∧
        Backed platform (StorageController.new {}) :=
    ⟨sound_new platform, backed_new platform⟩
  rw [session_calls]
  apply run_invariant_of_allowed keeps start
  intro call member
  rcases List.mem_filterMap.mp member with ⟨request, listed, called⟩
  exact dropsNothing_of_call called (kept request listed)

/-- A session that writes elsewhere keeps what a volume holds. -/
theorem holds_session
    (lawful : platform.Lawful) (sound : Sound platform controller)
    {volumeId : String} {offset : ℤ} {content : Bytes}
    (holds : Holds platform controller volumeId offset content)
    {requests : List VolumeRequest}
    (kept :
      ∀ request ∈ requests,
        ¬ request.Deletes ∧ ¬ request.WritesAt volumeId offset) :
    Sound platform (session platform controller requests) ∧
      Holds platform (session platform controller requests) volumeId offset
        content := by
  have keeps :
      ∀ (state : StorageController) (call : Call),
        Sound platform state ∧
            Holds platform state volumeId offset content →
          DropsNothing call ∧ ¬ call.Remaps volumeId offset →
            Sound platform (state.step platform call) ∧
              Holds platform (state.step platform call) volumeId offset
                content :=
    fun _ call both allowed =>
      ⟨both.1.step lawful call,
        holds_dropsNothing lawful both.1 both.2 allowed.1 allowed.2⟩
  rw [session_calls]
  apply run_invariant_of_allowed keeps ⟨sound, holds⟩
  intro call member
  rcases List.mem_filterMap.mp member with ⟨request, listed, called⟩
  have apart := kept request listed
  exact
    ⟨dropsNothing_of_call called apart.1,
      not_remaps_of_call called apart.1 apart.2⟩

/-- Encoded data is ASCII text. -/
theorem encode_ascii (data : Bytes) :
    ∀ next ∈ Base64.encode data, next.toNat < 128 :=
  Base64.forall_mem_encode (fun next => next.toNat < 128) Base64.char_lt
    (by decide) data

/-- What was encoded is decoded. -/
theorem b64decode_b64encode (data : Bytes) :
    b64decode (b64encode data) = .ok data := by
  have ascii :
      ((Base64.encode data).all fun next => next.toNat < 128) = true := by
    rw [List.all_eq_true]
    intro next member
    exact decide_eq_true (encode_ascii data next member)
  rw [b64decode, b64encode, String.toList_ofList, if_pos ascii,
    Base64.decode_encode]
  rfl

/-- A write that is answered with 200 has succeeded. -/
theorem write_of_status
    {volumeId : String} {offset : ℤ} {text : String} {data : Bytes}
    (decoded : b64decode text = .ok data)
    (written :
      (serve platform controller
        (.writeData volumeId offset text)).1.status = 200) :
    (∃ result,
        (controller.write platform volumeId offset data).1 =
          .ok (some result)) ∧
      (serve platform controller (.writeData volumeId offset text)).2 =
        (controller.write platform volumeId offset data).2 := by
  rw [serve] at written ⊢
  split at written
  · rename_i valid
    rw [if_pos valid]
    rw [route, writeData, decoded] at written ⊢
    dsimp only at written ⊢
    split at written
    · cases written
    · cases written
    · cases written
    · rename_i result answered
      rw [answered]
      exact ⟨⟨result, rfl⟩, rfl⟩
  · cases written

/-- The data in the response to a read is what the controller reads. -/
theorem data?_readData (volumeId : String) (offset : ℤ) :
    (serve platform controller (.readData volumeId offset)).1.data? =
      (controller.readData platform volumeId offset).toOption.join := by
  have routed :
      serve platform controller (.readData volumeId offset) =
        readData platform controller volumeId offset :=
    rfl
  rw [routed, readData, StorageController.readData]
  dsimp only
  cases (controller.read platform volumeId offset).1 with
  | error exception => rfl
  | ok answer =>
      cases answer with
      | none => rfl
      | some result =>
          show (b64decode (b64encode result.data)).toOption = _
          rw [b64decode_b64encode]
          rfl

/--
A block of the default size, written over HTTP in a session without deletions,
is read back over HTTP until it is overwritten, unless it starts with the
pattern prefix.
-/
theorem read_after_write_iff
    (lawful : platform.Lawful) {before later : List VolumeRequest}
    (kept : ∀ request ∈ before ++ later, ¬ request.Deletes)
    {volumeId : String} {offset : ℤ} {text : String} {data : Bytes}
    (elsewhere : ∀ request ∈ later, ¬ request.WritesAt volumeId offset)
    (decoded : b64decode text = .ok data)
    (blockSized : data.length = 4096)
    (written :
      (serve platform
        (session platform (StorageController.new {}) before)
        (.writeData volumeId offset text)).1.status = 200) :
    (serve platform
        (session platform (StorageController.new {})
          (before ++ .writeData volumeId offset text :: later))
        (.readData volumeId offset)).1.data? = some data ↔
      ¬ patternBlockPrefix <+: data := by
  have earlierKept : ∀ request ∈ before, ¬ request.Deletes :=
    fun request member => kept request (List.mem_append_left _ member)
  have laterKept :
      ∀ request ∈ later,
        ¬ request.Deletes ∧ ¬ request.WritesAt volumeId offset :=
    fun request member =>
      ⟨kept request (List.mem_append_right _ member),
        elsewhere request member⟩
  rcases backed_session lawful earlierKept with ⟨sound, backed⟩
  rcases write_of_status decoded written with ⟨⟨result, succeeded⟩, left⟩
  rcases write_holds lawful sound backed succeeded with
    ⟨encoded, encodes, holds⟩
  have after :
      session platform (StorageController.new {})
          (before ++ .writeData volumeId offset text :: later) =
        session platform
          ((session platform (StorageController.new {}) before).write
            platform volumeId offset data).2
          later := by
    rw [session, run_append, run_cons, ← left]
    rfl
  rcases
    holds_session lawful (sound.write lawful volumeId offset data) holds
      laterKept with
    ⟨soundAfter, holdsAfter⟩
  rw [data?_readData, after, holdsAfter.readData,
    ← expand_encoded_iff soundAfter.standard encodes blockSized]
  cases PurityEngine.expand _ encoded <;>
    simp [Except.map, Except.toOption]

end ReadingBack

/-- Data as text that is broken into two lines. -/
def wrapped (data : Bytes) : String :=
  String.ofList
    ((Base64.encode data).take 76 ++ '\n' :: (Base64.encode data).drop 76)

theorem b64decode_wrapped (data : Bytes) :
    b64decode (wrapped data) = .ok data := by
  have known : ∀ next ∈ Base64.encode data, Base64.known next = true :=
    Base64.forall_mem_encode (fun next => Base64.known next = true)
      Base64.known_char rfl data
  have allAscii :
      ((Base64.encode data).take 76 ++
          '\n' :: (Base64.encode data).drop 76).all
        (fun next => next.toNat < 128) = true := by
    rw [List.all_eq_true]
    intro next member
    rw [List.mem_append, List.mem_cons] at member
    rcases member with early | rfl | late
    · exact
        decide_eq_true
          (encode_ascii data next (List.mem_of_mem_take early))
    · decide
    · exact
        decide_eq_true
          (encode_ascii data next (List.mem_of_mem_drop late))
  have filtered :
      ((Base64.encode data).take 76 ++
          '\n' :: (Base64.encode data).drop 76).filter Base64.known =
        Base64.encode data := by
    have foreign : ¬ Base64.known '\n' = true := by
      decide
    rw [List.filter_append, List.filter_cons_of_neg foreign,
      ← List.filter_append, List.take_append_drop, List.filter_eq_self]
    exact known
  rw [b64decode, wrapped, String.toList_ofList, if_pos allAscii,
    Base64.decode_of_filter filtered]
  rfl

/-- A write of decoded data that succeeds is answered with 200. -/
theorem status_of_write
    {platform : Platform} {controller : StorageController}
    {volumeId : String} {offset : ℤ} {text : String} {data : Bytes}
    {result : WriteResult}
    (aligned : 0 ≤ offset) (decoded : b64decode text = .ok data)
    (succeeded :
      (controller.write platform volumeId offset data).1 =
        .ok (some result)) :
    (serve platform controller
      (.writeData volumeId offset text)).1.status = 200 := by
  have valid :
      (VolumeRequest.writeData volumeId offset text).isValid = true :=
    decide_eq_true aligned
  rw [serve, if_pos valid, route, writeData, decoded]
  dsimp only
  rw [succeeded]

/-- A block that is written in two lines and read back. -/
theorem read_after_write_varied_block :
    (serve storingPlatform
        (session storingPlatform (StorageController.new {})
          ([.createVolume "first" 1 "" Dict.empty] ++
            .writeData "0" 0 (wrapped (variedBytes 4096)) ::
            [.listVolumes, .cloneVolume "0" "second" ""]))
        (.readData "0" 0)).1.data? = some (variedBytes 4096) := by
  have succeeded :
      ∃ result,
        ((session storingPlatform (StorageController.new {})
            [.createVolume "first" 1 "" Dict.empty]).write storingPlatform
              "0" 0 (variedBytes 4096)).1 = .ok (some result) := by
    apply exists_of_isSome
    decide +kernel
  rcases succeeded with ⟨result, succeeded⟩
  apply
    (read_after_write_iff storingPlatform_lawful
      (by simp [VolumeRequest.Deletes])
      (by simp [VolumeRequest.WritesAt])
      (b64decode_wrapped (variedBytes 4096)) (by simp [variedBytes])
      (status_of_write (by decide)
        (b64decode_wrapped (variedBytes 4096)) succeeded)).mpr
  decide +kernel

end StorageAppliance.Api
