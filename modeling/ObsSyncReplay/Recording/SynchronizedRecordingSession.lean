import ObsSyncReplay.Recording.PacketSink
import ObsSyncReplay.Sync.CommonPacketRange
import ObsSyncReplay.Lib.Runs

/-!
`recording/synchronized-recording-session`: one two-stream recording
transaction. Every member function runs under the session's mutex, so a run is
a sequence of calls. Each function returns what the source returns together
with the next state.

The fields the source keeps twice, with the suffixes `_a_` and `_b_`, are kept
as pairs; `last_flushed_cts_` with its flag `has_flushed_cts_` is an optional
value. The answers of the sinks are recorded in `calls`.
-/

namespace ObsSyncReplay

inductive SynchronizedRecordingState where
  | idle
  | starting
  | running
  | draining
  | stopped
  | failed
deriving DecidableEq, Repr

inductive SynchronizedRecordingFailure where
  | none
  | aborted
  | invalidTransition
  | startTimeout
  | packetTiming
  | duplicateSourceCts
  | latePacket
  | bufferCapacity
  | sinkOpen
  | sinkWrite
  | missingCommonRange
  | rangeMismatch
  | sinkFinalize
deriving DecidableEq, Repr

structure SynchronizedRecordingConfig where
  preRollCapacityBytes : Nat := 2 * 1024 * 1024
  tailCapacityBytes : Nat := 4 * 1024 * 1024
  reorderSafetyCts : Nat := 2000000000
  expectedSourceCtsStep : Nat := 0
  maxStartWaitCts : Nat := 2000000000
deriving DecidableEq

structure SynchronizedRecordingSession where
  config : SynchronizedRecordingConfig
  streamConfig : PerStream PacketStreamConfig
  sink : PerStream (Option PacketSink)
  buffer : PerStream EncodedPacketBuffer
  preRollPacketCount : PerStream Nat := .both 0
  preRollBytes : PerStream Nat := .both 0
  peakRetainedBytes : Nat := 0
  peakTailBytes : PerStream Nat := .both 0
  state : SynchronizedRecordingState := .idle
  failure : SynchronizedRecordingFailure := .none
  requestedStartCts : Nat := 0
  requestedStopCts : Nat := 0
  maxObservedCts : PerStream Nat := .both 0
  sourceCtsStep : Nat := 0
  lastFlushedCts : Option Nat := none
  selectedRange : Option CommonPacketRange := none
  calls : List SinkEvent := []

namespace SynchronizedRecordingSession

/-- The constructor. A null sink is `none`. -/
def create (config : SynchronizedRecordingConfig) (streamConfig : PerStream PacketStreamConfig)
    (sink : PerStream (Option PacketSink)) : SynchronizedRecordingSession where
  config := config
  streamConfig := streamConfig
  sink := sink
  buffer := .both { capacityBytes := config.preRollCapacityBytes }
  sourceCtsStep := config.expectedSourceCtsStep

def record (session : SynchronizedRecordingSession) (events : List SinkEvent) :
    SynchronizedRecordingSession :=
  { session with calls := session.calls ++ events }

/-- A call through a sink pointer. `Start` has refused a null sink before any
such call is made. -/
def callSink (session : SynchronizedRecordingSession) (stream : RecordingStream)
    (request : SinkCall) : Bool × SynchronizedRecordingSession :=
  match session.sink.get stream with
  | none => (false, session)
  | some sink =>
      let accepted := sink.respond session.calls request
      (accepted, session.record [⟨stream, request, accepted⟩])

/-- `sink_a_->X() && sink_b_->X()`: the second sink is asked only if the first
one accepted. -/
def callBoth (session : SynchronizedRecordingSession) (requestA requestB : SinkCall) :
    Bool × SynchronizedRecordingSession :=
  match session.callSink .A requestA with
  | (false, session) => (false, session)
  | (true, session) => session.callSink .B requestB

def abortSink (session : SynchronizedRecordingSession) (stream : RecordingStream) :
    SynchronizedRecordingSession :=
  match session.sink.get stream with
  | none => session
  | some _ => session.record [⟨stream, .abort, true⟩]

def abortSinks (session : SynchronizedRecordingSession) : SynchronizedRecordingSession :=
  (session.abortSink .A).abortSink .B

def fail (session : SynchronizedRecordingSession) (failure : SynchronizedRecordingFailure) :
    Bool × SynchronizedRecordingSession :=
  (false, { session with failure := failure, state := .failed }.abortSinks)

def clearBuffers (session : SynchronizedRecordingSession) : SynchronizedRecordingSession :=
  { session with buffer := session.buffer.map .clear }

def discardBoth (session : SynchronizedRecordingSession) (sourceCts : Nat) :
    SynchronizedRecordingSession :=
  { session with
    buffer := session.buffer.map (fun buffer : EncodedPacketBuffer =>
      buffer.discardBefore sourceCts) }

def abortUnlocked (session : SynchronizedRecordingSession) : SynchronizedRecordingSession :=
  if session.state = .stopped ∨ session.state = .failed then session
  else
    let session := session.abortSinks.clearBuffers
    { session with
      failure := if session.failure = .none then .aborted else session.failure
      state := .failed }

def updatePeakRetainedBytes (session : SynchronizedRecordingSession) :
    SynchronizedRecordingSession :=
  let bytes := session.buffer.map EncodedPacketBuffer.bytes
  { session with
    peakRetainedBytes := max session.peakRetainedBytes (bytes.a + bytes.b)
    peakTailBytes := ⟨max session.peakTailBytes.a bytes.a, max session.peakTailBytes.b bytes.b⟩ }

def runningWatermark (session : SynchronizedRecordingSession) : Option Nat :=
  match session.selectedRange with
  | none => none
  | some range =>
      let newestCommonCts := min session.maxObservedCts.a session.maxObservedCts.b
      if newestCommonCts < session.config.reorderSafetyCts then none
      else
        let watermark := newestCommonCts - session.config.reorderSafetyCts
        if watermark < range.startCts then none else some watermark

/-- The lambda `first_step`: the distance between the first two source CTS at
or above the start. -/
def firstStep (startCts : Nat) : Option Nat → List EncodedPacket → Nat
  | _, [] => 0
  | previous, packet :: packets =>
      if packet.sourceCts < startCts then firstStep startCts previous packets
      else
        match previous with
        | some cts =>
            if packet.sourceCts > cts then packet.sourceCts - cts
            else firstStep startCts (some packet.sourceCts) packets
        | none => firstStep startCts (some packet.sourceCts) packets

/-- The cadence that the two buffers show: their first steps, if both have one
and they agree up to one; zero otherwise. -/
def pairedStep (startCts : Nat) (buffer : PerStream EncodedPacketBuffer) : Nat :=
  let stepA := firstStep startCts none buffer.a.snapshot
  let stepB := firstStep startCts none buffer.b.snapshot
  if stepA ≠ 0 ∧ stepB ≠ 0 then
    let difference := if stepA > stepB then stepA - stepB else stepB - stepA
    if difference ≤ 1 then min stepA stepB else 0
  else 0

/-- The cadence that `InferSourceCtsStep` leaves. -/
def inferredStep (session : SynchronizedRecordingSession) : Nat :=
  match session.selectedRange with
  | none => session.sourceCtsStep
  | some range =>
      if session.sourceCtsStep ≠ 0 then session.sourceCtsStep
      else pairedStep range.startCts session.buffer

def inferSourceCtsStep (session : SynchronizedRecordingSession) :
    SynchronizedRecordingSession :=
  { session with sourceCtsStep := session.inferredStep }

/-- The packets `FlushThrough` may write: from the start on, above the last
flushed CTS, up to the flushed one. -/
def inFlushRange (startCts : Nat) (lowerExclusive : Option Nat) (sourceCts : Nat)
    (packet : EncodedPacket) : Bool :=
  startCts ≤ packet.sourceCts ∧ (∀ lower ∈ lowerExclusive, lower < packet.sourceCts) ∧
    packet.sourceCts ≤ sourceCts

def writeAll (stream : RecordingStream) :
    List EncodedPacket → SynchronizedRecordingSession → Bool × SynchronizedRecordingSession
  | [], session => (true, session)
  | packet :: packets, session =>
      match session.callSink stream (.write packet) with
      | (false, session) => (false, session)
      | (true, session) => writeAll stream packets session

/-- The two write loops and the two commits, in the order of the source. -/
def writeSelected (session : SynchronizedRecordingSession) (sourceCts : Nat)
    (selected : PerStream (List EncodedPacket)) : Bool × SynchronizedRecordingSession :=
  match writeAll .A selected.a session with
  | (false, session) => (false, session)
  | (true, session) =>
      match writeAll .B selected.b session with
      | (false, session) => (false, session)
      | (true, session) =>
          session.callBoth (.commitThrough sourceCts) (.commitThrough sourceCts)

def flushThrough (session : SynchronizedRecordingSession) (sourceCts : Nat) :
    Bool × SynchronizedRecordingSession :=
  match session.selectedRange with
  | none => session.fail .missingCommonRange
  | some range =>
      if sourceCts < range.startCts then session.fail .missingCommonRange
      else if ∃ lastFlushedCts ∈ session.lastFlushedCts, sourceCts ≤ lastFlushedCts then
        (true, session)
      else
        let session := session.inferSourceCtsStep
        let commonPrefix := selectCommonPrefixEnd session.buffer.a session.buffer.b
          range.startCts sourceCts session.sourceCtsStep
        if commonPrefix ≠ some sourceCts then session.fail .rangeMismatch
        else
          let packets := session.buffer.map (·.snapshotThrough sourceCts)
          let inRange := inFlushRange range.startCts session.lastFlushedCts sourceCts
          if packets.a.any (fun packet =>
              inRange packet && !session.buffer.b.contains packet.sourceCts) then
            session.fail .rangeMismatch
          else if packets.b.any (fun packet =>
              inRange packet && !session.buffer.a.contains packet.sourceCts) then
            session.fail .rangeMismatch
          else
            let selected := packets.map (fun packets =>
              sortForDecodeOrder (packets.filter inRange))
            match session.writeSelected sourceCts selected with
            | (false, session) => session.fail .sinkWrite
            | (true, session) =>
                let session := session.discardBoth (uint64Succ sourceCts)
                (true, { session with lastFlushedCts := some sourceCts }.updatePeakRetainedBytes)

def flushStablePackets (session : SynchronizedRecordingSession) :
    Bool × SynchronizedRecordingSession :=
  let session := session.inferSourceCtsStep
  match session.selectedRange, session.runningWatermark with
  | some range, some watermark =>
      match selectCommonPrefixEnd session.buffer.a session.buffer.b range.startCts watermark
          session.sourceCtsStep with
      | none => (true, session)
      | some commonPrefix =>
          if ∃ lastFlushedCts ∈ session.lastFlushedCts, commonPrefix ≤ lastFlushedCts then
            (true, session)
          else session.flushThrough commonPrefix
  | _, _ => (true, session)

/-- `Snapshot().back().source_cts`, or the start for an empty buffer. -/
def newestCts (startCts : Nat) (buffer : EncodedPacketBuffer) : Nat :=
  match buffer.snapshot.getLast? with
  | none => startCts
  | some packet => packet.sourceCts

/-- `SetCapacityBytes` on both buffers, the second only if the first accepts. -/
def setTailCapacity (session : SynchronizedRecordingSession) :
    Bool × SynchronizedRecordingSession :=
  match session.buffer.a.setCapacityBytes session.config.tailCapacityBytes with
  | (false, _) => (false, session)
  | (true, bufferA) =>
      let (accepted, bufferB) :=
        session.buffer.b.setCapacityBytes session.config.tailCapacityBytes
      (accepted, { session with buffer := ⟨bufferA, bufferB⟩ })

def establishCommonStart (session : SynchronizedRecordingSession) :
    Bool × SynchronizedRecordingSession :=
  if session.state ≠ .starting then (session.state = .running, session)
  else
    match (selectCommonStart session.buffer.a session.buffer.b session.requestedStartCts).range with
    | none => (true, session)
    | some range =>
        let session := { session with selectedRange := some range }
        let session := session.discardBoth range.startCts
        match session.setTailCapacity with
        | (false, session) => session.fail .bufferCapacity
        | (true, session) =>
            match session.callBoth (.open session.streamConfig.a range.startCts)
                (.open session.streamConfig.b range.startCts) with
            | (false, session) => session.abortSinks.fail .sinkOpen
            | (true, session) =>
                let session := { session with
                  maxObservedCts := session.buffer.map (newestCts range.startCts) }
                let session := session.inferSourceCtsStep
                { session with state := .running }.flushStablePackets

def finalizeAt (session : SynchronizedRecordingSession) (commonEndCts : Nat) :
    Bool × SynchronizedRecordingSession :=
  match session.callBoth (.finalize commonEndCts) (.finalize commonEndCts) with
  | (false, session) => session.abortSinks.fail .sinkFinalize
  | (true, session) =>
      let session := { session with
        selectedRange := session.selectedRange.map
          (fun range : CommonPacketRange => ⟨range.startCts, commonEndCts⟩) }
      (true, { session.clearBuffers with state := .stopped })

def start (session : SynchronizedRecordingSession) (requestedStartCts : Nat) :
    Bool × SynchronizedRecordingSession :=
  if session.state ≠ .idle ∨ session.sink.a.isNone ∨ session.sink.b.isNone then
    session.fail .invalidTransition
  else
    (true, { session with requestedStartCts := requestedStartCts, state := .starting })

def setStreamExtraData (session : SynchronizedRecordingSession) (stream : RecordingStream)
    (extraData : List UInt8) : Bool × SynchronizedRecordingSession :=
  if session.state ≠ .starting ∨ extraData.isEmpty then (session.state ≠ .failed, session)
  else
    let config := { session.streamConfig.get stream with extraData := extraData }
    (true, { session with streamConfig := session.streamConfig.set stream config })

/-- The bookkeeping of `SubmitPacket` for a packet that the buffer retained. -/
def observe (session : SynchronizedRecordingSession) (stream : RecordingStream)
    (packet : EncodedPacket) : SynchronizedRecordingSession :=
  let session :=
    if session.state = .starting then
      { session with
        preRollPacketCount :=
          session.preRollPacketCount.set stream (session.preRollPacketCount.get stream + 1)
        preRollBytes := session.preRollBytes.set stream
          (session.preRollBytes.get stream + packet.payload.length) }
    else session
  { session with
    maxObservedCts := session.maxObservedCts.set stream
      (max (session.maxObservedCts.get stream) packet.sourceCts) }.updatePeakRetainedBytes

def submitPacket (session : SynchronizedRecordingSession) (stream : RecordingStream)
    (packet : EncodedPacket) : Bool × SynchronizedRecordingSession :=
  if session.state ≠ .starting ∧ session.state ≠ .running ∧ session.state ≠ .draining then
    session.fail .invalidTransition
  else if ∃ range ∈ session.selectedRange, packet.sourceCts < range.startCts then
    (true, session)
  else if session.selectedRange.isSome ∧
      ∃ lastFlushedCts ∈ session.lastFlushedCts, packet.sourceCts ≤ lastFlushedCts then
    session.fail .latePacket
  else
    match (session.buffer.get stream).push packet with
    | (.missingTiming, _) => session.fail .packetTiming
    | (.duplicateSourceCts, _) => session.fail .duplicateSourceCts
    | (.capacity, _) => session.fail .bufferCapacity
    | (.retained, buffer) =>
        let session :=
          { session with buffer := session.buffer.set stream buffer }.observe stream packet
        if session.state = .starting then session.establishCommonStart
        else if session.state = .running then session.flushStablePackets
        else (true, session)

def pollStart (session : SynchronizedRecordingSession) (currentSourceCts : Nat) :
    Bool × SynchronizedRecordingSession :=
  if session.state ≠ .starting then (session.state ≠ .failed, session)
  else
    match session.establishCommonStart with
    | (true, session) => (true, session)
    | (false, session) =>
        if currentSourceCts ≥ session.requestedStartCts ∧
            currentSourceCts - session.requestedStartCts > session.config.maxStartWaitCts then
          session.fail .startTimeout
        else (true, session)

def requestStop (session : SynchronizedRecordingSession) (requestedStopCts : Nat) :
    Bool × SynchronizedRecordingSession :=
  if session.state = .draining ∨ session.state = .stopped then (true, session)
  else if session.state = .failed then (false, session)
  else if session.state ≠ .running ∧ session.state ≠ .starting then
    session.fail .invalidTransition
  else
    let session := { session with requestedStopCts := requestedStopCts }
    (true, if session.state = .running then { session with state := .draining } else session)

/-- `common_end_cts` of `CompleteDrain`: the pending candidate, else the last
flushed CTS, else zero. -/
def drainEnd (session : SynchronizedRecordingSession) (startCts : Nat) : Nat :=
  let pendingCandidate := selectCommonPrefixEnd session.buffer.a session.buffer.b startCts
    session.requestedStopCts session.sourceCtsStep
  pendingCandidate.getD (session.lastFlushedCts.getD 0)

def completeDrain (session : SynchronizedRecordingSession) :
    Bool × SynchronizedRecordingSession :=
  if session.state = .stopped then (true, session)
  else if session.state = .failed then (false, session)
  else
    match session.state, session.selectedRange with
    | .draining, some range =>
        let commonEndCts := session.drainEnd range.startCts
        if commonEndCts < range.startCts then session.fail .missingCommonRange
        else
          match session.flushThrough commonEndCts with
          | (false, session) => (false, session)
          | (true, session) => session.finalizeAt commonEndCts
    | _, _ => (false, session)

def abort (session : SynchronizedRecordingSession) : SynchronizedRecordingSession :=
  session.abortUnlocked

end SynchronizedRecordingSession

inductive SessionCall where
  | start (requestedStartCts : Nat)
  | setStreamExtraData (stream : RecordingStream) (extraData : List UInt8)
  | submitPacket (stream : RecordingStream) (packet : EncodedPacket)
  | pollStart (currentSourceCts : Nat)
  | requestStop (requestedStopCts : Nat)
  | completeDrain
  | abort
deriving DecidableEq

/-- One public call. `Abort` returns nothing, which counts as `true`. -/
def SynchronizedRecordingSession.step (session : SynchronizedRecordingSession) :
    SessionCall → Bool × SynchronizedRecordingSession
  | .start requestedStartCts => session.start requestedStartCts
  | .setStreamExtraData stream extraData => session.setStreamExtraData stream extraData
  | .submitPacket stream packet => session.submitPacket stream packet
  | .pollStart currentSourceCts => session.pollStart currentSourceCts
  | .requestStop requestedStopCts => session.requestStop requestedStopCts
  | .completeDrain => session.completeDrain
  | .abort => (true, session.abort)

end ObsSyncReplay
