import ObsSyncReplay.Capture.SynchronizedCaptureSession
import ObsSyncReplay.Muxing.MkvPacketWriter

/-!
`recording/synchronized-recording-consumer`: the live recording of any number of
streams. Producers put packets into one queue; a worker takes them out one by one,
waits for a keyframe that all streams share, and then writes every slot that all
streams have. The vectors of the source that run in parallel are one list of lanes
here. A step of the machine is an `OnPacket`, a `Stop`, or one step of the worker:
it takes a packet, or works on the packet in its hand, or ends the recording.
-/

namespace ObsSyncReplay

def kMaxQueuePackets : Nat := 8192

inductive WriterCall where
  | open (path : String) (config : PacketStreamConfig)
  | write (packet : EncodedPacket)
  | finalize
  | abort
deriving DecidableEq

/-- A call that the writer of a lane received, and whether it succeeded. -/
structure WriterEvent where
  call : WriterCall
  accepted : Bool := true
deriving DecidableEq

/-- One stream of the recording. `calls` records what its writer was asked; the
code does not read it. -/
structure RecordingLane where
  config : PacketStreamConfig
  path : String
  streamId : CaptureStreamId
  library : MuxLibrary
  pending : OrderedMap Nat CapturedEncodedPacket := .empty
  writer : Option MkvPacketWriter := none
  dtsOrigin : Int := 0
  calls : List WriterEvent := []

structure SynchronizedRecordingConsumerResult where
  success : Bool := false
  range : ReplayFrameRange := {}
  paths : List String := []
  streams : List MkvWriteResult := []
  packetCount : Nat := 0
  error : String := ""
deriving DecidableEq

/-- Where the worker thread is between two of its steps. -/
inductive WorkerPhase where
  | waiting
  | processing (captured : CapturedEncodedPacket)
  | finishing
  | done
deriving DecidableEq

/-- `committed` records the slots that were written on all lanes; the code does
not read it. -/
structure SynchronizedRecordingConsumer where
  lanes : List RecordingLane
  queue : List CapturedEncodedPacket := []
  worker : WorkerPhase := .waiting
  running : Bool := true
  stopRequested : Bool := false
  failed : Bool := false
  started : Bool := false
  range : ReplayFrameRange := {}
  packetCount : Nat := 0
  result : Option SynchronizedRecordingConsumerResult := none
  committed : List Nat := []

namespace RecordingLane

/-- A packet whose source CTS is pending already is dropped. -/
def insert (lane : RecordingLane) (captured : CapturedEncodedPacket) : RecordingLane :=
  if lane.pending.contains captured.packet.sourceCts then lane
  else
    { lane with
      config :=
        if lane.config.extraData.isEmpty ∧ !captured.codecExtraData.isEmpty then
          { lane.config with extraData := captured.codecExtraData }
        else lane.config
      pending := lane.pending.emplace captured.packet.sourceCts captured }

def keyframeAt (lane : RecordingLane) (cts : Nat) : Bool :=
  (lane.pending.find? cts).any (fun captured => captured.packet.keyframe)

def eraseBefore (lane : RecordingLane) (cts : Nat) : RecordingLane :=
  { lane with pending := lane.pending.eraseBefore cts }

/-- Opens a new writer on the lane and takes its decode origin from the start packet. -/
def openAt (cts : Nat) (lane : RecordingLane) : Option String × RecordingLane :=
  let (opened, writer) := MkvPacketWriter.open {} lane.library lane.path lane.config
  let lane := { lane with
    writer := some writer, calls := lane.calls ++ [⟨.open lane.path lane.config, opened⟩] }
  if !opened then (some ("recording-open-failed:" ++ writer.error), lane)
  else match lane.pending.find? cts with
    | none => (some "recording-start-packet-missing", lane)
    | some first => (none, { lane with dtsOrigin := first.packet.dts })

/-- What is written for a captured packet. The distance to the start is an
unsigned difference read as a signed one. -/
def outputPacket (lane : RecordingLane) (startCts cts : Nat) (packet : EncodedPacket) :
    EncodedPacket :=
  { packet with
    pts := lane.library.rescale (((cts : Int) - startCts).bmod uint64Size) ⟨1, 1000000000⟩
      ⟨packet.timebaseNum, packet.timebaseDen⟩
    dts := packet.dts - lane.dtsOrigin }

/-- Writes one slot of the lane and erases it. The callers have checked that the
slot is pending and that the lane has a writer. -/
def writeSlot (startCts cts : Nat) (lane : RecordingLane) : Option String × RecordingLane :=
  let captured := (lane.pending.find? cts).getD {}
  let output := lane.outputPacket startCts cts captured.packet
  let (written, writer) := (lane.writer.getD {}).write lane.library output
  let lane := { lane with
    writer := some writer, calls := lane.calls ++ [⟨.write output, written⟩] }
  if !written then (some ("recording-write-failed:" ++ writer.error), lane)
  else (none, { lane with pending := lane.pending.erase cts })

/-- Aborts the lane after a failure, else finalizes it and compares its range. -/
def finalize (range : ReplayFrameRange) (failed : Bool) (lane : RecordingLane) :
    Option String × MkvWriteResult × RecordingLane :=
  match lane.writer with
  | none => (none, {}, lane)
  | some writer =>
      if failed then
        (none, {},
          { lane with writer := some writer.abort, calls := lane.calls ++ [⟨.abort, true⟩] })
      else
        let (result, writer) := writer.finalize lane.library
        let lane := { lane with
          writer := some writer, calls := lane.calls ++ [⟨.finalize, result.success⟩] }
        if !result.success ∨ result.firstSourceCts ≠ range.startCts ∨
            result.lastSourceCts ≠ range.endCts then
          (some ("recording-range-mismatch:" ++ result.error), result, lane)
        else (none, result, lane)

end RecordingLane

/-- Works on the lanes in order, up to the first error. -/
def eachLane (f : RecordingLane → Option String × RecordingLane) :
    List RecordingLane → Option String × List RecordingLane
  | [] => (none, [])
  | lane :: rest =>
      match f lane with
      | (some error, lane) => (some error, lane :: rest)
      | (none, lane) =>
          let (error, rest) := eachLane f rest
          (error, lane :: rest)

/-- A lane that does not finalize well makes the ones after it abort. -/
def finalizeLanes (range : ReplayFrameRange) :
    Bool → List RecordingLane → Option String × List MkvWriteResult × List RecordingLane
  | _, [] => (none, [], [])
  | failed, lane :: rest =>
      let (mismatch, result, lane) := lane.finalize range failed
      let (later, results, rest) := finalizeLanes range (failed || mismatch.isSome) rest
      (mismatch.or later, result :: results, lane :: rest)

namespace SynchronizedRecordingConsumer

/-- The parallel vectors of the constructor, as lanes. -/
def makeLanes (streamConfigs : List PacketStreamConfig) (paths : List String)
    (streamIds : List CaptureStreamId) (library : Nat → MuxLibrary) : List RecordingLane :=
  ((streamConfigs.zip paths).zip streamIds).mapIdx (fun index entry =>
    { config := entry.1.1, path := entry.1.2, streamId := entry.2, library := library index })

/-- `Start` of a new consumer with its constructor's arguments. Without stream ids,
the positions are the ids. -/
def start (streamConfigs : List PacketStreamConfig) (paths : List String)
    (streamIds : List CaptureStreamId) (library : Nat → MuxLibrary) :
    Option SynchronizedRecordingConsumer :=
  if streamConfigs.isEmpty ∨ streamConfigs.length ≠ paths.length ∨
      (!streamIds.isEmpty ∧ streamIds.length ≠ streamConfigs.length) then none
  else
    let positions := (List.range streamConfigs.length).map Nat.toUInt8
    let ids := if streamIds.isEmpty then positions else streamIds
    some { lanes := makeLanes streamConfigs paths ids library }

def paths (consumer : SynchronizedRecordingConsumer) : List String :=
  consumer.lanes.map RecordingLane.path

def localStreamIndex (consumer : SynchronizedRecordingConsumer) (streamId : CaptureStreamId) :
    Option Nat :=
  consumer.lanes.findIdx? (fun lane => lane.streamId = streamId)

/-- Keeps the first failure. -/
def fail (consumer : SynchronizedRecordingConsumer) (error : String) :
    SynchronizedRecordingConsumer :=
  if consumer.failed then consumer
  else { consumer with failed := true, result := some { error := error } }

def onPacket (consumer : SynchronizedRecordingConsumer) (packet : Option CapturedEncodedPacket) :
    SynchronizedRecordingConsumer :=
  match packet with
  | none => consumer
  | some captured =>
      if !consumer.running ∨ consumer.stopRequested ∨ consumer.failed ∨
          (consumer.localStreamIndex captured.streamId).isNone then
        consumer
      else if consumer.queue.length ≥ kMaxQueuePackets then
        { consumer with
          failed := true
          result := some { paths := consumer.paths, error := "recording-queue-overflow" } }
      else { consumer with queue := consumer.queue ++ [captured] }

/-- `Stop` without the wait for the worker. -/
def stop (consumer : SynchronizedRecordingConsumer) : SynchronizedRecordingConsumer :=
  { consumer with stopRequested := true }

/-- The first keyframe of the first lane that all lanes have. -/
def commonKeyframe (consumer : SynchronizedRecordingConsumer) : Option Nat :=
  consumer.lanes.head?.bind (fun front =>
    (front.pending.entries.find? (fun e => e.2.packet.keyframe ∧
      consumer.lanes.all (fun lane => lane.keyframeAt e.1))).map Prod.fst)

/-- Drops what is pending before the start and opens the writers. -/
def beginAt (consumer : SynchronizedRecordingConsumer) (cts : Nat) :
    Bool × SynchronizedRecordingConsumer :=
  let trimmed := consumer.lanes.map (fun lane => lane.eraseBefore cts)
  let (error, lanes) := eachLane (RecordingLane.openAt cts) trimmed
  let consumer := { consumer with
    range := { consumer.range with startCts := cts }, lanes := lanes }
  match error with
  | some error => (false, consumer.fail error)
  | none => (true, { consumer with started := true })

def establishCommonStart (consumer : SynchronizedRecordingConsumer) :
    Bool × SynchronizedRecordingConsumer :=
  if consumer.started ∨ consumer.lanes.isEmpty then (consumer.started, consumer)
  else match consumer.commonKeyframe with
    | none => (false, consumer)
    | some cts => consumer.beginAt cts

/-- The oldest packet of the first lane, if all lanes have its source CTS. -/
def nextSlot (consumer : SynchronizedRecordingConsumer) : Option Nat :=
  (consumer.lanes.head?.bind (fun front => front.pending.first?.map Prod.fst)).filter
    (fun cts => consumer.lanes.all (fun lane => lane.pending.contains cts))

def commitSlot (consumer : SynchronizedRecordingConsumer) (cts : Nat) :
    Bool × SynchronizedRecordingConsumer :=
  let (error, lanes) := eachLane (RecordingLane.writeSlot consumer.range.startCts cts)
    consumer.lanes
  let consumer := { consumer with lanes := lanes }
  match error with
  | some error => (false, consumer.fail error)
  | none =>
      (true, { consumer with
        range := { consumer.range with endCts := cts }
        packetCount := consumer.packetCount + 1
        committed := consumer.committed ++ [cts] })

/-- The loop of `FlushCommonPrefix`. Every slot takes a packet from the first lane,
so what is pending there is fuel enough. -/
def flushSlots : Nat → SynchronizedRecordingConsumer → Bool × SynchronizedRecordingConsumer
  | 0, consumer => (true, consumer)
  | fuel + 1, consumer =>
      match consumer.nextSlot with
      | none => (true, consumer)
      | some cts =>
          match consumer.commitSlot cts with
          | (false, consumer) => (false, consumer)
          | (true, consumer) => flushSlots fuel consumer

def frontPending (consumer : SynchronizedRecordingConsumer) : List Nat :=
  consumer.lanes.head?.elim [] (fun front => front.pending.keys)

def flushCommonPrefix (consumer : SynchronizedRecordingConsumer) :
    Bool × SynchronizedRecordingConsumer :=
  if !consumer.started then (false, consumer)
  else flushSlots consumer.frontPending.length consumer

def insert (consumer : SynchronizedRecordingConsumer) (captured : CapturedEncodedPacket) :
    SynchronizedRecordingConsumer :=
  match consumer.localStreamIndex captured.streamId with
  | none => consumer
  | some index =>
      { consumer with lanes := consumer.lanes.modify index (fun lane => lane.insert captured) }

def pendingPacketCount (consumer : SynchronizedRecordingConsumer) : Nat :=
  (consumer.lanes.map (fun lane => lane.pending.size)).sum

/-- The body of the worker's loop for one packet; the flag says that the loop goes on. -/
def process (consumer : SynchronizedRecordingConsumer) (captured : CapturedEncodedPacket) :
    Bool × SynchronizedRecordingConsumer :=
  let consumer := consumer.insert captured
  if consumer.pendingPacketCount > kMaxQueuePackets then
    (false, consumer.fail "recording-pending-overflow")
  else
    let consumer := if consumer.started then consumer else consumer.establishCommonStart.2
    if consumer.started then consumer.flushCommonPrefix else (true, consumer)

/-- The last attempt to start and to flush; what is still pending is a failure. -/
def settle (consumer : SynchronizedRecordingConsumer) : SynchronizedRecordingConsumer :=
  let (established, consumer) :=
    if consumer.started then (true, consumer) else consumer.establishCommonStart
  if !established then consumer.fail "no-common-recording-start-keyframe"
  else
    let (flushed, consumer) := consumer.flushCommonPrefix
    if !flushed then consumer.fail "no-common-recording-prefix"
    else if consumer.lanes.any (fun lane => !lane.pending.isEmpty) then
      consumer.fail "recording-unresolved-common-prefix"
    else consumer

def finalize (consumer : SynchronizedRecordingConsumer) : SynchronizedRecordingConsumer :=
  let (mismatch, streams, lanes) := finalizeLanes consumer.range consumer.failed consumer.lanes
  let failed := consumer.failed || mismatch.isSome
  let result : SynchronizedRecordingConsumerResult :=
    { success := !failed && consumer.started && consumer.range.startCts ≤ consumer.range.endCts
      range := consumer.range
      paths := consumer.paths
      streams := streams
      packetCount := consumer.packetCount
      error := mismatch.getD "" }
  { consumer with
    lanes := lanes
    failed := failed
    result := match consumer.result with
      | none => some result
      | some earlier => if earlier.error = "" then some result else some earlier }

/-- The end of `Run`, after the loop. -/
def finish (consumer : SynchronizedRecordingConsumer) : SynchronizedRecordingConsumer :=
  let consumer := (if consumer.failed then consumer else consumer.settle).finalize
  { consumer with running := false, worker := .done }

/-- The wait for a packet, a stop or a failure, and what follows it. A worker that
has nothing to wake it up makes no step. -/
def take (consumer : SynchronizedRecordingConsumer) : SynchronizedRecordingConsumer :=
  match consumer.queue with
  | [] =>
      if consumer.failed ∨ consumer.stopRequested then { consumer with worker := .finishing }
      else consumer
  | captured :: rest =>
      if consumer.failed then { consumer with worker := .finishing }
      else { consumer with queue := rest, worker := .processing captured }

def work (consumer : SynchronizedRecordingConsumer) : SynchronizedRecordingConsumer :=
  match consumer.worker with
  | .waiting => consumer.take
  | .processing captured =>
      let (continues, consumer) := consumer.process captured
      { consumer with worker := if continues then .waiting else .finishing }
  | .finishing => consumer.finish
  | .done => consumer

inductive Event where
  | onPacket (packet : Option CapturedEncodedPacket)
  | stop
  | work
deriving DecidableEq

def step (consumer : SynchronizedRecordingConsumer) :
    Event → Unit × SynchronizedRecordingConsumer
  | .onPacket packet => ((), consumer.onPacket packet)
  | .stop => ((), consumer.stop)
  | .work => ((), consumer.work)

end SynchronizedRecordingConsumer

end ObsSyncReplay
