import StorageAppliance.NVMeoF.Processing

/-!
# Fragmentation of the byte stream

A read of the connection returns what has arrived, which can be less than what
was asked for.  The target stops at a short command and refuses a short payload,
so that what it executes depends on how the stream is split.

`Whole` says that the reads along a connection return all bytes asked for, as
far as the stream has them.  Two splits of one stream that do so are executed
alike (`handleConnection_executed_of_whole`).  All splits of a stream are
executed alike exactly if the stream does not hold a command, or starts with a
fabrics command, which is never parsed.
-/

namespace StorageAppliance.NVMeoF

open StorageAppliance.Go
open StorageAppliance.Library

/-! ## Reads -/

/-- The bytes that a read returns. -/
def Conn.taken (conn : Conn) (length : Nat) : Bytes :=
  (conn.read length).1.getD []

/-- The bytes that have not been read. -/
def Conn.stream (conn : Conn) : Bytes :=
  conn.incoming.flatten

section Reads

variable
    (conn : Conn)
    (length : Nat)

/-- A read takes a prefix of the stream. -/
theorem taken_append_stream :
    conn.taken length ++ (conn.read length).2.stream = conn.stream := by
  rw [Conn.taken, Conn.read]
  split
  · rfl
  · split
    · rfl
    · rename_i chunk rest incoming
      rw [Conn.stream, Conn.stream, incoming]
      change chunk.take length ++ (ite _ _ _ : List Bytes).flatten = _
      split
      · rename_i whole
        rw [List.take_of_length_le whole, List.flatten_cons]
      · rw [List.flatten_cons, List.flatten_cons, ← List.append_assoc,
          List.take_append_drop]

theorem taken_eq_take :
    conn.taken length = conn.stream.take (conn.taken length).length := by
  have split := taken_append_stream conn length
  rw [← split, List.take_left]

theorem stream_read :
    (conn.read length).2.stream =
      conn.stream.drop (conn.taken length).length := by
  have split := taken_append_stream conn length
  rw [← split, List.drop_left]

/-- A read returns all bytes asked for, as far as there are any. -/
def Conn.Fills : Prop :=
  conn.taken length = conn.stream.take length

variable
    {conn : Conn}
    {length : Nat}

theorem Conn.Fills.stream_read (fills : conn.Fills length) :
    (conn.read length).2.stream = conn.stream.drop length := by
  have split := taken_append_stream conn length
  rw [fills] at split
  exact List.append_cancel_left
    (split.trans (List.take_append_drop length conn.stream).symm)

/-- A stream that arrives at once fills every read. -/
theorem fills_of_single
    {stream : Bytes} (incoming : conn.incoming = [stream] ∨ conn.incoming = [])
    (length : Nat) : conn.Fills length := by
  rw [Conn.Fills, Conn.taken, Conn.read, Conn.stream]
  split
  · rename_i zero
    rw [zero]
    rfl
  · rcases incoming with incoming | incoming
    · simp [incoming]
    · simp [incoming]

/-- The next command is read exactly if enough bytes are taken. -/
theorem readCommand_eq_some_iff {buffer : CommandBuffer} :
    conn.readCommand.1 = some buffer ↔ conn.taken 64 = buffer.bytes := by
  rw [Conn.readCommand, Conn.taken]
  split
  · rename_i rest read
    rw [read]
    constructor
    · intro found
      cases found
    · intro same
      have size := buffer.size
      rw [← same] at size
      exact absurd size (by simp)
  · rename_i bytes rest read
    rw [read]
    change (dite _ _ _ : Option CommandBuffer × Conn).1 = _ ↔ bytes = _
    split
    · rename_i size
      change some _ = _ ↔ _
      rw [Option.some.injEq]
      constructor
      · intro same
        rw [← same]
      · intro same
        subst same
        rfl
    · rename_i size
      constructor
      · intro found
        cases found
      · intro same
        rw [same] at size
        exact absurd buffer.size size

theorem readCommand_rest (conn : Conn) :
    conn.readCommand.2 = (conn.read 64).2 := by
  rw [Conn.readCommand]
  split
  · rename_i read
    rw [read]
  · rename_i read
    rw [read]
    split
    · rfl
    · rfl

/-- A read that fails asks for something and takes nothing. -/
theorem short_iff (conn : Conn) (length : Nat) :
    ((conn.read length).1 = none ∨ (conn.taken length).length < length) ↔
      (conn.taken length).length < length := by
  constructor
  · rintro (failed | short)
    · have nothing : conn.taken length = [] := by
        rw [Conn.taken, failed]
        rfl
      rw [nothing]
      apply Nat.pos_of_ne_zero
      intro zero
      rw [zero] at failed
      cases failed
    · exact short
  · exact Or.inr

end Reads

/-! ## Rounds -/

/-- The connection after a command was read. -/
def TargetConnection.afterCommand (connection : TargetConnection) :
    TargetConnection :=
  { connection with conn := (connection.conn.read 64).2 }

/-- The record of a processed command. -/
def Processed.record
    (processed : Processed) (buffer : CommandBuffer)
    (command : NVMeCommand) : Executed where
  buffer := buffer
  command := command
  asked := processed.asked
  payload := processed.payload
  completion := processed.completion

/-- The connection after a completion was sent. -/
def Processed.answered (processed : Processed) (completion : NVMeCompletion) :
    TargetConnection :=
  processed.connection.write (serializeCompletion completion).bytes

/-- What is executed after a command. -/
def Processed.later (processed : Processed) (rounds : Nat) : List Executed :=
  match processed.completion with
  | .error _ => []
  | .ok completion =>
      (processCommands rounds processed.target
        (processed.answered completion)).executed

section Rounds

variable
    {rounds : Nat}
    {target : NVMeoFTarget}
    {connection : TargetConnection}
    {buffer : CommandBuffer}
    {command : NVMeCommand}

theorem executed_of_unread (unread : connection.conn.readCommand.1 = none) :
    (processCommands rounds target connection).executed = [] := by
  cases rounds with
  | zero => rfl
  | succ rounds =>
      rw [processCommands]
      split
      · rfl
      · rename_i read
        rw [read] at unread
        cases unread

theorem executed_of_unparsed
    (read : connection.conn.readCommand.1 = some buffer) {fault : Fault}
    (unparsed : parseCommand buffer = .error fault) :
    (processCommands rounds target connection).executed = [] := by
  cases rounds with
  | zero => rfl
  | succ rounds =>
      rw [processCommands]
      split
      · rfl
      · rename_i other rest found
        rw [found] at read
        cases read
        simp only [unparsed]

theorem executed_of_parsed
    (read : connection.conn.readCommand.1 = some buffer)
    (parsed : parseCommand buffer = .ok command) :
    (processCommands (rounds + 1) target connection).executed =
      (processCommand target connection.afterCommand command).record buffer
          command ::
        (processCommand target connection.afterCommand command).later
          rounds := by
  rw [processCommands, TargetConnection.afterCommand, ← readCommand_rest]
  split
  · rename_i found
    rw [found] at read
    cases read
  · rename_i other rest found
    rw [found] at read
    cases read
    simp only [found, parsed, Processed.later, Processed.record]
    split
    · rename_i failed
      rw [failed]
    · rename_i completion answered
      simp only [answered, Processed.answered]

/-- A command that was read is at the front of the stream. -/
theorem bytes_of_readCommand
    {conn : Conn} (read : conn.readCommand.1 = some buffer) :
    buffer.bytes = conn.stream.take 64 := by
  have taken := readCommand_eq_some_iff.mp read
  have front := taken_eq_take conn 64
  rw [taken, buffer.size] at front
  exact front

theorem length_stream_of_read
    {conn : Conn} (read : conn.readCommand.1 = some buffer) :
    64 ≤ conn.stream.length := by
  have front := congrArg List.length (bytes_of_readCommand read)
  rw [buffer.size, List.length_take] at front
  omega

/-- A round takes the bytes of its command from the stream. -/
theorem length_stream_answered
    (read : connection.conn.readCommand.1 = some buffer)
    (completion : NVMeCompletion) :
    ((processCommand target connection.afterCommand command).answered
          completion).conn.stream.length + 64 ≤
      connection.conn.stream.length := by
  have consumes :
      Consumes target connection.afterCommand command
        (processCommand target connection.afterCommand command) :=
    processCommand_consumes
  change
    (processCommand target connection.afterCommand
          command).connection.conn.incoming.flatten.length + 64 ≤
      _
  rw [consumes.incoming]
  change
    (connection.afterCommand.conn.read _).2.stream.length + 64 ≤
      connection.conn.stream.length
  rw [stream_read, List.length_drop]
  change (connection.conn.read 64).2.stream.length - _ + 64 ≤ _
  rw [stream_read, List.length_drop, readCommand_eq_some_iff.mp read,
    buffer.size]
  have long := length_stream_of_read read
  omega

end Rounds

/-! ## Connections with the same stream -/

/-- Connections that differ only in how their bytes arrive and are answered. -/
structure SameStream (first second : TargetConnection) : Prop where
  hostNqn : first.hostNqn = second.hostNqn
  subsystemNqn : first.subsystemNqn = second.subsystemNqn
  stream : first.conn.stream = second.conn.stream

section SameStream

variable
    {target : NVMeoFTarget}
    {first second : TargetConnection}
    {cmd : NVMeCommand}

theorem SameStream.payloadLength (same : SameStream first second) :
    NVMeoF.payloadLength target first cmd =
      NVMeoF.payloadLength target second cmd := by
  rw [NVMeoF.payloadLength, NVMeoF.payloadLength, same.subsystemNqn]

theorem SameStream.afterCommand
    (same : SameStream first second)
    (fillsFirst : first.conn.Fills 64) (fillsSecond : second.conn.Fills 64) :
    SameStream first.afterCommand second.afterCommand := by
  refine ⟨same.hostNqn, same.subsystemNqn, ?_⟩
  exact
    fillsFirst.stream_read.trans
      ((congrArg (List.drop 64) same.stream).trans
        fillsSecond.stream_read.symm)

theorem SameStream.taken
    (same : SameStream first second) {length : Nat}
    (fillsFirst : first.conn.Fills length)
    (fillsSecond : second.conn.Fills length) :
    first.conn.taken length = second.conn.taken length :=
  fillsFirst.trans
    ((congrArg (List.take length) same.stream).trans fillsSecond.symm)

/-- Results that differ only in the connection. -/
structure SameResult (first second : Processed) : Prop where
  completion : first.completion = second.completion
  target : first.target = second.target

theorem sameResult_completed (status : UInt16) :
    SameResult (completed target first cmd status)
      (completed target second cmd status) :=
  ⟨rfl, rfl⟩

theorem processFabricsCommand_congr (same : SameStream first second) :
    SameResult (processFabricsCommand target first cmd)
      (processFabricsCommand target second cmd) := by
  simp only [processFabricsCommand, same.hostNqn, same.subsystemNqn]
  split
  · split
    · exact sameResult_completed _
    · split
      · exact sameResult_completed _
      · exact ⟨rfl, rfl⟩
  · exact sameResult_completed _

theorem processIdentifyCommand_congr (same : SameStream first second) :
    SameResult (processIdentifyCommand target first cmd)
      (processIdentifyCommand target second cmd) := by
  simp only [processIdentifyCommand, same.subsystemNqn]
  split
  · exact sameResult_completed _
  · split
    · exact sameResult_completed _
    · split
      · split
        · exact sameResult_completed _
        · split
          · exact ⟨rfl, rfl⟩
          · exact sameResult_completed _
      · exact sameResult_completed _

theorem processReadCommand_congr (same : SameStream first second) :
    SameResult (processReadCommand target first cmd)
      (processReadCommand target second cmd) := by
  simp only [processReadCommand, same.subsystemNqn]
  split
  · exact sameResult_completed _
  · split
    · exact sameResult_completed _
    · split
      · exact ⟨rfl, rfl⟩
      · exact sameResult_completed _
      · exact sameResult_completed _

theorem processFlushCommand_congr (same : SameStream first second) :
    SameResult (processFlushCommand target first cmd)
      (processFlushCommand target second cmd) := by
  simp only [processFlushCommand, same.subsystemNqn]
  split
  · exact sameResult_completed _
  · split
    · exact sameResult_completed _
    · split
      · exact sameResult_completed _
      · exact sameResult_completed _

theorem processWriteCommand_congr
    (same : SameStream first second)
    (taken :
      ∀ ns,
        target.namespaceAt first.subsystemNqn cmd.nsid = some ns →
          first.conn.taken (extent cmd ns).2.toNat =
            second.conn.taken (extent cmd ns).2.toNat) :
    SameResult (processWriteCommand target first cmd)
      (processWriteCommand target second cmd) := by
  simp only [processWriteCommand, ← same.subsystemNqn]
  cases found : target.subsystems.get? first.subsystemNqn with
  | none => exact sameResult_completed _
  | some subsystem =>
      cases present : subsystem.namespaces.get? cmd.nsid with
      | none =>
          simp only [present]
          exact sameResult_completed _
      | some ns =>
          have payload :=
            taken ns ((namespaceAt_of_found found).trans present)
          have data :
              (first.conn.read (extent cmd ns).2.toNat).1.getD [] =
                (second.conn.read (extent cmd ns).2.toNat).1.getD [] :=
            payload
          have firstShort := short_iff first.conn (extent cmd ns).2.toNat
          have secondShort := short_iff second.conn (extent cmd ns).2.toNat
          rw [← payload] at secondShort
          rw [Conn.taken] at firstShort secondShort
          simp only [present, ← data, firstShort, secondShort]
          split
          · exact ⟨rfl, rfl⟩
          · split
            · exact ⟨rfl, rfl⟩
            · exact ⟨rfl, rfl⟩
            · exact ⟨rfl, rfl⟩

/-- Commands with the same payload have the same result. -/
theorem processCommand_congr
    (same : SameStream first second)
    (payload :
      receivedPayload target first cmd = receivedPayload target second cmd) :
    SameResult (processCommand target first cmd)
      (processCommand target second cmd) := by
  rw [processCommand, processCommand]
  split
  · exact processFabricsCommand_congr same
  · split
    · exact processIdentifyCommand_congr same
    · split
      · exact processReadCommand_congr same
      · split
        · rename_i opcode
          apply processWriteCommand_congr same
          intro ns present
          rw [receivedPayload, receivedPayload, ← same.payloadLength,
            payloadLength_of_present opcode present] at payload
          exact payload
        · split
          · exact processFlushCommand_congr same
          · exact sameResult_completed _

theorem receivedPayload_of_fills
    (fills : first.conn.Fills (payloadLength target first cmd)) :
    receivedPayload target first cmd =
      first.conn.stream.take (payloadLength target first cmd) :=
  fills

theorem SameStream.receivedPayload
    (same : SameStream first second)
    (fillsFirst : first.conn.Fills (NVMeoF.payloadLength target first cmd))
    (fillsSecond :
      second.conn.Fills (NVMeoF.payloadLength target second cmd)) :
    NVMeoF.receivedPayload target first cmd =
      NVMeoF.receivedPayload target second cmd := by
  rw [receivedPayload_of_fills fillsFirst,
    receivedPayload_of_fills fillsSecond, same.stream, same.payloadLength]

/-- The stream after the payload was read. -/
theorem stream_processCommand
    (fills : first.conn.Fills (payloadLength target first cmd)) :
    (processCommand target first cmd).connection.conn.stream =
      first.conn.stream.drop (payloadLength target first cmd) := by
  have consumes :
      Consumes target first cmd (processCommand target first cmd) :=
    processCommand_consumes
  rw [Conn.stream, consumes.incoming]
  exact fills.stream_read

theorem SameStream.record
    (same : SameStream first second)
    (payload :
      NVMeoF.receivedPayload target first cmd =
        NVMeoF.receivedPayload target second cmd)
    (buffer : CommandBuffer) :
    (processCommand target first cmd).record buffer cmd =
      (processCommand target second cmd).record buffer cmd := by
  have consumesFirst :
      Consumes target first cmd (processCommand target first cmd) :=
    processCommand_consumes
  have consumesSecond :
      Consumes target second cmd (processCommand target second cmd) :=
    processCommand_consumes
  have result :
      SameResult (processCommand target first cmd)
        (processCommand target second cmd) :=
    processCommand_congr same payload
  simp only [Processed.record, consumesFirst.asked, consumesSecond.asked,
    consumesFirst.payload, consumesSecond.payload, same.payloadLength,
    payload, result.completion]

theorem SameStream.answered
    (same : SameStream first second)
    (fillsFirst : first.conn.Fills (NVMeoF.payloadLength target first cmd))
    (fillsSecond :
      second.conn.Fills (NVMeoF.payloadLength target second cmd))
    (completion : NVMeCompletion) :
    SameStream ((processCommand target first cmd).answered completion)
      ((processCommand target second cmd).answered completion) := by
  have keepsFirst : Keeps target first (processCommand target first cmd) :=
    processCommand_keeps
  have keepsSecond :
      Keeps target second (processCommand target second cmd) :=
    processCommand_keeps
  constructor
  · exact
      keepsFirst.hostNqn.trans
        (same.hostNqn.trans keepsSecond.hostNqn.symm)
  · exact
      keepsFirst.subsystemNqn.trans
        (same.subsystemNqn.trans keepsSecond.subsystemNqn.symm)
  · change
      (processCommand target first cmd).connection.conn.stream =
        (processCommand target second cmd).connection.conn.stream
    rw [stream_processCommand fillsFirst, stream_processCommand fillsSecond,
      same.stream, same.payloadLength]

end SameStream

/-! ## Splits that fill every read -/

/-- Every read in the given rounds returns all bytes asked for. -/
def FillsReads : Nat → NVMeoFTarget → TargetConnection → Prop
  | 0, _, _ => True
  | rounds + 1, target, connection =>
      connection.conn.Fills 64 ∧
        ∀ buffer command,
          connection.conn.readCommand.1 = some buffer →
            parseCommand buffer = .ok command →
              connection.afterCommand.conn.Fills
                  (payloadLength target connection.afterCommand command) ∧
                ∀ completion,
                  (processCommand target connection.afterCommand
                      command).completion =
                      .ok completion →
                    FillsReads rounds
                      (processCommand target connection.afterCommand
                        command).target
                      ((processCommand target connection.afterCommand
                        command).answered completion)

theorem executed_of_sameStream
    {rounds : Nat} {target : NVMeoFTarget}
    {first second : TargetConnection}
    (same : SameStream first second)
    (fillsFirst : FillsReads rounds target first)
    (fillsSecond : FillsReads rounds target second) :
    (processCommands rounds target first).executed =
      (processCommands rounds target second).executed := by
  induction rounds generalizing target first second with
  | zero => rfl
  | succ rounds induction =>
      have taken := same.taken fillsFirst.1 fillsSecond.1
      have readSame :
          ∀ buffer,
            first.conn.readCommand.1 = some buffer →
              second.conn.readCommand.1 = some buffer := by
        intro buffer read
        rw [readCommand_eq_some_iff] at read ⊢
        exact taken.symm.trans read
      cases read : first.conn.readCommand.1 with
      | none =>
          have unread : second.conn.readCommand.1 = none := by
            cases found : second.conn.readCommand.1 with
            | none => rfl
            | some buffer =>
                rw [readCommand_eq_some_iff, ← taken,
                  ← readCommand_eq_some_iff, read] at found
                cases found
          rw [executed_of_unread read, executed_of_unread unread]
      | some buffer =>
          have readSecond := readSame buffer read
          cases parsed : parseCommand buffer with
          | error fault =>
              rw [executed_of_unparsed read parsed,
                executed_of_unparsed readSecond parsed]
          | ok command =>
              rcases fillsFirst.2 buffer command read parsed with
                ⟨payloadFirst, laterFirst⟩
              rcases fillsSecond.2 buffer command readSecond parsed with
                ⟨payloadSecond, laterSecond⟩
              have next := same.afterCommand fillsFirst.1 fillsSecond.1
              have payload :=
                next.receivedPayload payloadFirst payloadSecond
              have result := processCommand_congr next payload
              have later :
                  (processCommand target first.afterCommand command).later
                      rounds =
                    (processCommand target second.afterCommand
                      command).later rounds := by
                rw [Processed.later, Processed.later, ← result.completion,
                  ← result.target]
                cases completed :
                    (processCommand target first.afterCommand
                      command).completion with
                | error fault => rfl
                | ok completion =>
                    have answeredSecond :=
                      laterSecond completion
                        (result.completion.symm.trans completed)
                    rw [← result.target] at answeredSecond
                    exact
                      induction
                        (next.answered payloadFirst payloadSecond
                          completion)
                        (laterFirst completion completed) answeredSecond
              rw [executed_of_parsed read parsed,
                executed_of_parsed readSecond parsed,
                next.record payload, later]

/-- The record of a connection before its first command. -/
def newConnection (incoming : List Bytes) : TargetConnection where
  conn := { incoming := incoming }

/-- Every read of a connection returns all bytes asked for. -/
def Whole (target : NVMeoFTarget) (incoming : List Bytes) : Prop :=
  FillsReads incoming.flatten.length target (newConnection incoming)

/-- Splits of a stream that fill every read are executed alike. -/
theorem handleConnection_executed_of_whole
    {target : NVMeoFTarget} {first second : List Bytes}
    (same : first.flatten = second.flatten)
    (wholeFirst : Whole target first) (wholeSecond : Whole target second) :
    (handleConnection target first).executed =
      (handleConnection target second).executed := by
  have length : first.flatten.length = second.flatten.length :=
    congrArg List.length same
  rw [Whole, ← length] at wholeSecond
  have stream : SameStream (newConnection first) (newConnection second) :=
    ⟨rfl, rfl, same⟩
  have executed := executed_of_sameStream stream wholeFirst wholeSecond
  change
    (processCommands first.flatten.length target
        (newConnection first)).executed =
      (processCommands second.flatten.length target
        (newConnection second)).executed
  rw [← length]
  exact executed

/-! ## All splits of a stream -/

/-- A list of non-empty parts of a stream. -/
structure Splits (chunks : List Bytes) (stream : Bytes) : Prop where
  nonempty : ∀ chunk ∈ chunks, chunk ≠ []
  flatten : chunks.flatten = stream

/-- All splits of a stream are executed alike. -/
def FragmentationIndependent
    (target : NVMeoFTarget) (stream : Bytes) : Prop :=
  ∀ first second,
    Splits first stream →
      Splits second stream →
        (handleConnection target first).executed =
          (handleConnection target second).executed

section Splitting

variable
    {target : NVMeoFTarget}
    {stream : Bytes}

theorem executed_of_short
    {chunks : List Bytes} (short : chunks.flatten.length < 64) :
    (handleConnection target chunks).executed = [] := by
  apply executed_of_unread
  cases read : (newConnection chunks).conn.readCommand.1 with
  | none => exact read
  | some buffer =>
      have long : 64 ≤ chunks.flatten.length := length_stream_of_read read
      omega

theorem executed_of_fabrics
    {chunks : List Bytes}
    (fabrics : byteAt chunks.flatten 0 = nvmeOpcodeFabrics) :
    (handleConnection target chunks).executed = [] := by
  cases read : (newConnection chunks).conn.readCommand.1 with
  | none => exact executed_of_unread read
  | some buffer =>
      have first : byteAt buffer.bytes 0 = nvmeOpcodeFabrics := by
        rw [bytes_of_readCommand read, ← fabrics, byteAt, byteAt]
        simp [Conn.stream, newConnection]
      rcases parseCommand_fabrics first with ⟨message, panics⟩
      exact executed_of_unparsed read panics

/-- The first command of a stream that arrives at once is executed. -/
theorem executed_of_single
    (long : 64 ≤ stream.length)
    (other : byteAt stream 0 ≠ nvmeOpcodeFabrics) :
    (handleConnection target [stream]).executed ≠ [] := by
  let buffer : CommandBuffer :=
    { bytes := stream.take 64
      size := List.length_take_of_le long }
  have read :
      (newConnection [stream]).conn.readCommand.1 = some buffer := by
    rw [readCommand_eq_some_iff, fills_of_single (Or.inl rfl) 64]
    simp [Conn.stream, newConnection, buffer]
  have first : byteAt buffer.bytes 0 ≠ nvmeOpcodeFabrics := by
    intro same
    apply other
    rw [← same]
    simp [byteAt, buffer]
  rcases parseCommand_ok first with ⟨command, parsed⟩
  have rounds : ∃ rounds, [stream].flatten.length = rounds + 1 := by
    refine ⟨[stream].flatten.length - 1, ?_⟩
    simp only [List.flatten_cons, List.flatten_nil, List.append_nil]
    omega
  rcases rounds with ⟨rounds, same⟩
  intro none
  change
    (processCommands [stream].flatten.length target
        (newConnection [stream])).executed =
      []
      at none
  rw [same, executed_of_parsed read parsed] at none
  exact absurd none (List.cons_ne_nil _ _)

/-- A command whose first byte arrives alone is not executed. -/
theorem executed_of_split
    (byte : UInt8) (rest : List Bytes) :
    (handleConnection target ([byte] :: rest)).executed = [] := by
  apply executed_of_unread
  cases read : (newConnection ([byte] :: rest)).conn.readCommand.1 with
  | none => exact read
  | some buffer =>
      have size := congrArg List.length (readCommand_eq_some_iff.mp read)
      rw [buffer.size] at size
      exact absurd size (by simp [Conn.taken, Conn.read, newConnection])

/--
All splits of a stream are executed alike exactly if the stream is too short to
hold a command, or starts with a fabrics command.
-/
theorem fragmentationIndependent_iff
    (target : NVMeoFTarget) (stream : Bytes) :
    FragmentationIndependent target stream ↔
      stream.length < 64 ∨ byteAt stream 0 = nvmeOpcodeFabrics := by
  constructor
  · intro independent
    by_contra other
    rcases not_or.mp other with ⟨long, notFabrics⟩
    cases stream with
    | nil => exact long (by decide)
    | cons byte rest =>
        have rest_ne : rest ≠ [] := by
          intro empty
          rw [empty] at long
          exact long (by simp)
        have single : Splits [byte :: rest] (byte :: rest) :=
          ⟨by simp, by simp⟩
        have split : Splits [[byte], rest] (byte :: rest) :=
          ⟨by simp [rest_ne], by simp⟩
        have same := independent _ _ single split
        rw [executed_of_split] at same
        exact executed_of_single (Nat.le_of_not_lt long) notFabrics same
  · rintro (short | fabrics)
    · intro first second splitsFirst splitsSecond
      rw [executed_of_short (splitsFirst.flatten ▸ short),
        executed_of_short (splitsSecond.flatten ▸ short)]
    · intro first second splitsFirst splitsSecond
      rw [executed_of_fabrics (splitsFirst.flatten ▸ fabrics),
        executed_of_fabrics (splitsSecond.flatten ▸ fabrics)]

end Splitting

/-- A flush that arrives in two parts is not executed. -/
theorem flush_lost : ¬ FragmentationIndependent {} (zeros 64) := by
  intro independent
  have same :=
    independent [zeros 64] [zeros 60, zeros 4] ⟨by decide, by decide⟩
      ⟨by decide, by decide⟩
  exact absurd same (by decide)

end StorageAppliance.NVMeoF
