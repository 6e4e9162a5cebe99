import ObsSyncReplay.Recording.PacketSink
import ObsSyncReplay.Lib.Runs

/-!
`capture/synchronized-capture-session`: the retained packets of all streams under
one byte capacity, the fan-out to the consumers, and the common range that a replay
snapshot covers. A stream is addressed by its position, as in the source; consumers
are known by a handle, with `none` for the null pointer.
-/

namespace ObsSyncReplay

abbrev CaptureStreamId := UInt8

abbrev CapturePacketConsumer := Nat

structure CapturedEncodedPacket where
  streamId : CaptureStreamId := 0
  packet : EncodedPacket := {}
  codecExtraData : List UInt8 := []
deriving DecidableEq

structure ReplayFrameRange where
  startCts : Nat := 0
  endCts : Nat := 0
deriving DecidableEq, Repr

structure ReplaySnapshot where
  range : ReplayFrameRange
  streamNames : List String
  streamConfigs : List PacketStreamConfig
  packets : List (List CapturedEncodedPacket)
deriving DecidableEq

structure ReplaySnapshotAttempt where
  snapshot : Option ReplaySnapshot := none
  reason : String := ""
deriving DecidableEq

structure StreamState where
  name : String := ""
  config : PacketStreamConfig := {}
  packets : OrderedMap Nat CapturedEncodedPacket := .empty
  retainedBytes : Nat := 0
  peakRetainedBytes : Nat := 0
  maxSourceCts : Nat := 0
  hasSourceCts : Bool := false

def packetBytes (captured : CapturedEncodedPacket) : Nat := captured.packet.payload.length

namespace StreamState

/-- `EraseFront` for as long as the oldest packet satisfies `p`. -/
def eraseFrontWhile (stream : StreamState) (p : Nat × CapturedEncodedPacket → Bool) :
    StreamState :=
  let erased := stream.packets.entries.takeWhile p
  { stream with
    retainedBytes := erased.foldl (fun bytes e => bytes - packetBytes e.2) stream.retainedBytes
    packets := stream.packets.eraseWhile p }

def clear (stream : StreamState) : StreamState :=
  { stream with packets := .empty, retainedBytes := 0, maxSourceCts := 0, hasSourceCts := false }

/-- What `Ingest` takes over from a packet into the stream's configuration. -/
def configure (stream : StreamState) (packet : EncodedPacket) (codecExtraData : List UInt8) :
    StreamState :=
  let config :=
    if stream.config.timebaseNum ≤ 0 ∨ stream.config.timebaseDen ≤ 0 then
      { stream.config with timebaseNum := packet.timebaseNum, timebaseDen := packet.timebaseDen }
    else stream.config
  { stream with
    config :=
      if codecExtraData.isEmpty then config else { config with extraData := codecExtraData } }

def retain (stream : StreamState) (captured : CapturedEncodedPacket) : StreamState :=
  let retainedBytes := stream.retainedBytes + packetBytes captured
  { stream with
    packets := stream.packets.emplace captured.packet.sourceCts captured
    retainedBytes := retainedBytes
    peakRetainedBytes := max stream.peakRetainedBytes retainedBytes
    maxSourceCts := max stream.maxSourceCts captured.packet.sourceCts
    hasSourceCts := true }

end StreamState

def retainedBytes (streams : List StreamState) : Nat :=
  (streams.map StreamState.retainedBytes).sum

/-- The least source CTS that any stream retains. -/
def oldestCts (streams : List StreamState) : Option Nat :=
  streams.foldl
    (fun oldest stream => match stream.packets.first? with
      | none => oldest
      | some e => some (oldest.elim e.1 (min · e.1)))
    none

/-- Erases from the front of every stream and adds to the number of evicted packets. -/
def eraseFronts (p : Nat × CapturedEncodedPacket → Bool) (streams : List StreamState)
    (evicted : Nat) : List StreamState × Nat :=
  (streams.map (fun stream => stream.eraseFrontWhile p),
    evicted + (streams.map (fun stream => (stream.packets.entries.takeWhile p).length)).sum)

/-- The first loop of `EvictToCapacity`. A round erases at least one packet, so
the number of packets is fuel enough. -/
def evictOldest (capacityBytes : Nat) :
    Nat → List StreamState → Nat → List StreamState × Nat
  | 0, streams, evicted => (streams, evicted)
  | fuel + 1, streams, evicted =>
      if retainedBytes streams ≤ capacityBytes then (streams, evicted)
      else match oldestCts streams with
        | none => (streams, evicted)
        | some oldest =>
            let (streams, evicted) := eraseFronts (fun e => e.1 ≤ oldest) streams evicted
            evictOldest capacityBytes fuel streams evicted

def evictToCapacity (streams : List StreamState) (capacityBytes evicted : Nat) :
    List StreamState × Nat :=
  let packetCount := (streams.map (fun stream => stream.packets.size)).sum
  let (streams, evicted) := evictOldest capacityBytes packetCount streams evicted
  eraseFronts (fun e => !e.2.packet.keyframe) streams evicted

/-- `streams[stream_id]`; the callers have checked the position. -/
def streamAt (streams : List StreamState) (streamId : CaptureStreamId) : StreamState :=
  streams.getD streamId.toNat {}

def containsAll (streams : List StreamState) (streamIds : List CaptureStreamId) (cts : Nat) :
    Bool :=
  streamIds.all (fun streamId => (streamAt streams streamId).packets.contains cts)

def allKeyframes (streams : List StreamState) (streamIds : List CaptureStreamId) (cts : Nat) :
    Bool :=
  streamIds.all (fun streamId =>
    ((streamAt streams streamId).packets.find? cts).any (fun captured => captured.packet.keyframe))

structure SynchronizedCaptureSession where
  ringCapacityBytes : Nat := 30 * 1024 * 1024
  streams : List StreamState := []
  consumers : List CapturePacketConsumer := []
  running : Bool := false
  retainedBytes : Nat := 0
  peakRetainedBytes : Nat := 0
  evictedPacketCount : Nat := 0
  duplicatePacketCount : Nat := 0
  rejectedPacketCount : Nat := 0
  replayRetentionEnabled : Bool := true

namespace SynchronizedCaptureSession

/-- Stream ids are dense: the next one is the number of streams. -/
def registerStream (session : SynchronizedCaptureSession) (streamId : CaptureStreamId)
    (name : String) (config : PacketStreamConfig) : Bool × SynchronizedCaptureSession :=
  if session.running ∨ name = "" ∨ config.width = 0 ∨ config.height = 0 then (false, session)
  else if session.streams.any (fun stream => stream.name = name) then (false, session)
  else if streamId.toNat ≠ session.streams.length then (false, session)
  else (true, { session with
    streams := session.streams ++ [{ name := name, config := config }] })

def subscribe (session : SynchronizedCaptureSession) (consumer : Option CapturePacketConsumer) :
    Bool × SynchronizedCaptureSession :=
  match consumer with
  | none => (false, session)
  | some consumer =>
      if consumer ∈ session.consumers then (false, session)
      else (true, { session with consumers := session.consumers ++ [consumer] })

def unsubscribe (session : SynchronizedCaptureSession) (consumer : Option CapturePacketConsumer) :
    Bool × SynchronizedCaptureSession :=
  match consumer with
  | none => (false, session)
  | some consumer =>
      if consumer ∈ session.consumers then
        (true, { session with consumers := session.consumers.erase consumer })
      else (false, session)

def start (session : SynchronizedCaptureSession) : Bool × SynchronizedCaptureSession :=
  if session.running ∨ session.streams.length < 1 then (false, session)
  else (true, { session with running := true })

def stop (session : SynchronizedCaptureSession) : SynchronizedCaptureSession :=
  { session with running := false }

/-- Stores the streams after an eviction. -/
def evict (session : SynchronizedCaptureSession) : SynchronizedCaptureSession :=
  let (streams, evicted) :=
    evictToCapacity session.streams session.ringCapacityBytes session.evictedPacketCount
  { session with
    streams := streams
    evictedPacketCount := evicted
    retainedBytes := ObsSyncReplay.retainedBytes streams }

/-- The part of `Ingest` under the lock, once the packet is accepted. -/
def accept (session : SynchronizedCaptureSession) (captured : CapturedEncodedPacket) :
    SynchronizedCaptureSession :=
  let configured := session.streams.modify captured.streamId.toNat
    (fun stream => stream.configure captured.packet captured.codecExtraData)
  if session.replayRetentionEnabled then
    let retainedBytes := session.retainedBytes + packetBytes captured
    evict { session with
      streams := configured.modify captured.streamId.toNat (fun stream => stream.retain captured)
      retainedBytes := retainedBytes
      peakRetainedBytes := max session.peakRetainedBytes retainedBytes }
  else { session with streams := configured }

/-- What `Ingest` calls `OnPacket` with once the lock is released: the consumers
as they were under the lock, and the packet. -/
structure FanOut where
  consumers : List CapturePacketConsumer
  captured : CapturedEncodedPacket
deriving DecidableEq

def ingest (session : SynchronizedCaptureSession) (streamId : CaptureStreamId)
    (packet : EncodedPacket) (codecExtraData : List UInt8) :
    Option FanOut × SynchronizedCaptureSession :=
  if !session.running ∨ session.streams.length ≤ streamId.toNat ∨ packet.payload.isEmpty ∨
      packet.timebaseNum ≤ 0 ∨ packet.timebaseDen ≤ 0 then
    (none, { session with rejectedPacketCount := session.rejectedPacketCount + 1 })
  else if (streamAt session.streams streamId).packets.contains packet.sourceCts then
    (none, { session with duplicatePacketCount := session.duplicatePacketCount + 1 })
  else
    let captured := ⟨streamId, packet, codecExtraData⟩
    (some ⟨session.consumers, captured⟩, session.accept captured)

def setRingCapacityBytes (session : SynchronizedCaptureSession) (capacityBytes : Nat) :
    SynchronizedCaptureSession :=
  let session := { session with ringCapacityBytes := capacityBytes }
  if session.replayRetentionEnabled then session.evict else session

def setReplayRetentionEnabled (session : SynchronizedCaptureSession) (enabled : Bool) :
    SynchronizedCaptureSession :=
  let session := { session with replayRetentionEnabled := enabled }
  if enabled then session
  else { session with streams := session.streams.map StreamState.clear, retainedBytes := 0 }

section Snapshot

variable (streams : List StreamState) (streamIds : List CaptureStreamId)

/-- The keys that a selected stream retains, ascending. -/
def retainedCts (streamId : CaptureStreamId) : List Nat :=
  (streamAt streams streamId).packets.keys

def latestFirst : Nat :=
  streamIds.foldl
    (fun latest streamId => max latest ((retainedCts streams streamId).head?.getD 0)) 0

def earliestLast : Nat :=
  streamIds.foldl
    (fun earliest streamId => min earliest ((retainedCts streams streamId).getLast?.getD 0))
    (uint64Size - 1)

/-- The selection is refused at the first id that is unknown, repeated, or
without packets. -/
def selectable : Bool :=
  streamIds.zipIdx.all (fun (streamId, index) =>
    streamId.toNat < streams.length ∧ streamId ∉ streamIds.take index ∧
      !(streamAt streams streamId).packets.isEmpty)

/-- The keyframes of the first selected stream that every selected stream shares. -/
def commonKeyframes : List Nat :=
  (retainedCts streams (streamIds.headD 0)).filter (fun cts =>
    latestFirst streams streamIds ≤ cts ∧ cts ≤ earliestLast streams streamIds ∧
      allKeyframes streams streamIds cts)

/-- The last common keyframe that is not after the target, else the first one. -/
def selectStart (durationNs : Nat) : Option Nat :=
  let last := earliestLast streams streamIds
  let target := if last > durationNs then last - durationNs else latestFirst streams streamIds
  let keyframes := commonKeyframes streams streamIds
  ((keyframes.filter (· ≤ target)).getLast?).or keyframes.head?

/-- The walk over the first selected stream that finds the end of the range. -/
def walkEnd (start last : Nat) : List Nat → Nat → Nat
  | [], endCts => endCts
  | cts :: rest, endCts =>
      if cts < start ∨ cts > last then walkEnd start last rest endCts
      else if containsAll streams streamIds cts then walkEnd start last rest cts
      else endCts

def snapshotRange (range : ReplayFrameRange) : ReplaySnapshot where
  range := range
  streamNames := streamIds.map (fun streamId => (streamAt streams streamId).name)
  streamConfigs := streamIds.map (fun streamId => (streamAt streams streamId).config)
  packets := streamIds.map (fun streamId =>
    (((streamAt streams streamId).packets.entriesFrom range.startCts).takeWhile
      (fun e => e.1 ≤ range.endCts)).map Prod.snd)

end Snapshot

def snapshotCommonRangeDetailed (session : SynchronizedCaptureSession)
    (streamIds : List CaptureStreamId) (durationNs : Nat) : ReplaySnapshotAttempt :=
  let streams := session.streams
  if !session.replayRetentionEnabled then { reason := "replay-retention-disabled" }
  else if streamIds.isEmpty then { reason := "no-replay-streams" }
  else if durationNs = 0 then { reason := "invalid-duration" }
  else if !selectable streams streamIds then { reason := "insufficient-history" }
  else
    let first := latestFirst streams streamIds
    let last := earliestLast streams streamIds
    if first > last ∨ last - first < durationNs then { reason := "insufficient-history" }
    else match selectStart streams streamIds durationNs with
      | none => { reason := "no-common-keyframe" }
      | some start =>
          let endCts := walkEnd streams streamIds start last
            (retainedCts streams (streamIds.headD 0)) start
          if endCts < start then { reason := "no-common-range" }
          else { snapshot := some (snapshotRange streams streamIds ⟨start, endCts⟩) }

/-! ### The session as a machine -/

inductive Call where
  | registerStream (streamId : CaptureStreamId) (name : String) (config : PacketStreamConfig)
  | subscribe (consumer : Option CapturePacketConsumer)
  | unsubscribe (consumer : Option CapturePacketConsumer)
  | start
  | ingest (streamId : CaptureStreamId) (packet : EncodedPacket) (codecExtraData : List UInt8)
  | setRingCapacityBytes (capacityBytes : Nat)
  | setReplayRetentionEnabled (enabled : Bool)
  | stop

/-- What a call answers: its flag, and the fan-out of an accepted packet. -/
structure Answer where
  accepted : Bool := true
  fanOut : Option FanOut := none
deriving DecidableEq

def step (session : SynchronizedCaptureSession) : Call → Answer × SynchronizedCaptureSession
  | .registerStream streamId name config =>
      let (accepted, session) := session.registerStream streamId name config
      ({ accepted := accepted }, session)
  | .subscribe consumer =>
      let (accepted, session) := session.subscribe consumer
      ({ accepted := accepted }, session)
  | .unsubscribe consumer =>
      let (accepted, session) := session.unsubscribe consumer
      ({ accepted := accepted }, session)
  | .start =>
      let (accepted, session) := session.start
      ({ accepted := accepted }, session)
  | .ingest streamId packet codecExtraData =>
      let (fanOut, session) := session.ingest streamId packet codecExtraData
      ({ accepted := fanOut.isSome, fanOut := fanOut }, session)
  | .setRingCapacityBytes capacityBytes => ({}, session.setRingCapacityBytes capacityBytes)
  | .setReplayRetentionEnabled enabled => ({}, session.setReplayRetentionEnabled enabled)
  | .stop => ({}, session.stop)

end SynchronizedCaptureSession

end ObsSyncReplay
