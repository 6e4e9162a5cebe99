import ObsSyncReplay.Capture.SynchronizedCaptureSession
import ObsSyncReplay.Muxing.MkvPacketWriter
import ObsSyncReplay.Sync.CommonPacketRange

/-!
`replay/synchronized-replay-consumer`: a save takes one snapshot of the capture session,
and a worker thread writes it to one file a stream. The consumer is known by the snapshot
its worker still has to write and by the last result; when the worker finishes is left to
whoever runs the model. Every writer has a library of its own, and wall-clock times are
left out.
-/

namespace ObsSyncReplay

structure ReplaySaveResult where
  success : Bool := false
  range : ReplayFrameRange := {}
  paths : List String := []
  streams : List MkvWriteResult := []
  snapshotPayloadBytes : Nat := 0
  error : String := ""
deriving DecidableEq

/-- The time stamps that a packet is muxed with. The distance to the start is an unsigned
difference read as a signed one. -/
def rebase (library : MuxLibrary) (range : ReplayFrameRange) (timebase : AVRational)
    (dtsOrigin : Int) (packet : EncodedPacket) : EncodedPacket :=
  { packet with
    pts := library.rescale (((packet.sourceCts : Int) - range.startCts).bmod uint64Size)
      ⟨1, 1000000000⟩ timebase
    dts := packet.dts - dtsOrigin }

def muxPackets (library : MuxLibrary) (owned : List CapturedEncodedPacket)
    (range : ReplayFrameRange) : List EncodedPacket :=
  let packets := sortForDecodeOrder (owned.map CapturedEncodedPacket.packet)
  match packets.head? with
  | none => packets
  | some front =>
      if front.timebaseNum ≤ 0 ∨ front.timebaseDen ≤ 0 then packets
      else
        packets.map (rebase library range ⟨front.timebaseNum, front.timebaseDen⟩ front.dts)

/-- What one round of `WriteSnapshot` leaves: the error that ends the save, the entry of
`streams`, and the writer. -/
structure StreamWritten where
  error : Option String := none
  result : MkvWriteResult := {}
  writer : MkvPacketWriter

def writeStream (library : MuxLibrary) (range : ReplayFrameRange) (path : String)
    (config : PacketStreamConfig) (owned : List CapturedEncodedPacket) : StreamWritten :=
  match MkvPacketWriter.open {} library path config with
  | (false, writer) => { error := "stream-open-failed:" ++ writer.error, writer := writer }
  | (true, writer) =>
      let packets := muxPackets library owned range
      if packets.isEmpty then { error := "empty-snapshot-stream", writer := writer.abort }
      else
        match writePackets library packets writer with
        | (false, writer) =>
            { error := "stream-write-failed:" ++ writer.error, writer := writer.abort }
        | (true, writer) =>
            let (result, writer) := writer.finalize library
            if !result.success ∨ result.firstSourceCts ≠ range.startCts ∨
                result.lastSourceCts ≠ range.endCts then
              ⟨some ("stream-range-mismatch:" ++ result.error), result, writer⟩
            else ⟨none, result, writer⟩

/-- One stream of a snapshot with the file it goes to. -/
structure StreamJob where
  library : MuxLibrary
  path : String
  config : PacketStreamConfig
  owned : List CapturedEncodedPacket

/-- The rounds of `WriteSnapshot`, with the writers that they used. -/
def writeStreams :
    List StreamJob → Nat → ReplaySaveResult → ReplaySaveResult × List MkvPacketWriter
  | [], _, result => ({ result with success := true }, [])
  | job :: jobs, index, result =>
      let written := writeStream job.library result.range job.path job.config job.owned
      let result := { result with
        snapshotPayloadBytes := result.snapshotPayloadBytes + (job.owned.map packetBytes).sum
        streams := result.streams.set index written.result }
      match written.error with
      | some error => ({ result with error := error }, [written.writer])
      | none =>
          let (result, writers) := writeStreams jobs (index + 1) result
          (result, written.writer :: writers)

/-- The jobs of a save; `library` is the one of each stream. -/
def streamJobs (library : Nat → MuxLibrary) (snapshot : ReplaySnapshot) (paths : List String) :
    List StreamJob :=
  (snapshot.packets.zip (snapshot.streamConfigs.zip paths)).zipIdx.map
    (fun ((owned, config, path), index) => ⟨library index, path, config, owned⟩)

def writeSnapshot (library : Nat → MuxLibrary) (snapshot : ReplaySnapshot) (paths : List String) :
    ReplaySaveResult × List MkvPacketWriter :=
  let result : ReplaySaveResult :=
    { range := snapshot.range, paths := paths
      streams := List.replicate snapshot.packets.length {} }
  if snapshot.packets.length ≠ snapshot.streamConfigs.length ∨
      snapshot.packets.length ≠ paths.length then
    ({ result with error := "snapshot-stream-count-mismatch" }, [])
  else writeStreams (streamJobs library snapshot paths) 0 result

/-- What the worker of a save was started with. -/
structure ReplaySave where
  snapshot : ReplaySnapshot
  paths : List String
  library : Nat → MuxLibrary

def ReplaySave.result (save : ReplaySave) : ReplaySaveResult :=
  (writeSnapshot save.library save.snapshot save.paths).1

/-- `writing` is the save whose worker has not finished yet; it is there as long as
`active_` is set. A finished worker that is still to be joined does nothing any more. -/
structure SynchronizedReplayConsumer where
  writing : Option ReplaySave := none
  lastResult : Option ReplaySaveResult := none
  lastRequestError : String := ""

namespace SynchronizedReplayConsumer

def active (consumer : SynchronizedReplayConsumer) : Bool := consumer.writing.isSome

def reject (consumer : SynchronizedReplayConsumer) (reason : String) :
    Bool × SynchronizedReplayConsumer :=
  (false, { consumer with lastRequestError := reason })

/-- `RequestSave` with a selection of streams. The control engine, its only caller, has
refused an empty one. -/
def requestSave (consumer : SynchronizedReplayConsumer) (capture : SynchronizedCaptureSession)
    (library : Nat → MuxLibrary) (paths : List String) (durationNs : Nat)
    (streamIds : List CaptureStreamId) : Bool × SynchronizedReplayConsumer :=
  if paths.isEmpty then consumer.reject "invalid-paths"
  else
    let attempt := capture.snapshotCommonRangeDetailed streamIds durationNs
    match attempt.snapshot with
    | none =>
        consumer.reject (if attempt.reason.isEmpty then "snapshot-rejected" else attempt.reason)
    | some snapshot =>
        if snapshot.packets.length ≠ paths.length then
          consumer.reject "snapshot-stream-count-mismatch"
        else if consumer.active then consumer.reject "save-already-active"
        else
          (true, { writing := some ⟨snapshot, paths, library⟩, lastResult := none
                   lastRequestError := "" })

/-- The worker stores its result and is done. -/
def finish (consumer : SynchronizedReplayConsumer) : SynchronizedReplayConsumer :=
  match consumer.writing with
  | none => consumer
  | some save => { consumer with writing := none, lastResult := some save.result }

/-- `Wait` joins the worker, so it returns once the worker is done. -/
def wait (consumer : SynchronizedReplayConsumer) : SynchronizedReplayConsumer := consumer.finish

/-- The result of the save that was accepted last, whether or not it is written yet. -/
def savedResult (consumer : SynchronizedReplayConsumer) : Option ReplaySaveResult :=
  match consumer.writing with
  | none => consumer.lastResult
  | some save => some save.result

@[simp] theorem savedResult_finish (consumer : SynchronizedReplayConsumer) :
    consumer.finish.savedResult = consumer.savedResult := by
  unfold finish savedResult
  cases hwriting : consumer.writing <;> simp [hwriting]

@[simp] theorem lastResult_finish (consumer : SynchronizedReplayConsumer) :
    consumer.finish.lastResult = consumer.savedResult := by
  unfold finish savedResult
  cases hwriting : consumer.writing <;> simp

/-- A request that is refused changes nothing but the error. -/
theorem savedResult_of_requestSave_false {consumer consumer' : SynchronizedReplayConsumer}
    {capture : SynchronizedCaptureSession} {library : Nat → MuxLibrary} {paths : List String}
    {durationNs : Nat} {streamIds : List CaptureStreamId}
    (h : consumer.requestSave capture library paths durationNs streamIds = (false, consumer')) :
    consumer'.savedResult = consumer.savedResult := by
  have hreject (reason : String) (hreject : consumer.reject reason = (false, consumer')) :
      consumer'.savedResult = consumer.savedResult := by
    obtain ⟨-, rfl⟩ := Prod.mk.inj hreject
    rfl
  unfold requestSave at h
  by_cases hpaths : paths.isEmpty = true
  · rw [if_pos hpaths] at h
    exact hreject _ h
  rw [if_neg hpaths] at h
  dsimp only at h
  cases hsnapshot : (capture.snapshotCommonRangeDetailed streamIds durationNs).snapshot with
  | none =>
      rw [hsnapshot] at h
      exact hreject _ h
  | some snapshot =>
      simp only [hsnapshot] at h
      split_ifs at h
      · exact hreject _ h
      · exact hreject _ h
      · cases congrArg Prod.fst h

/-- A save that is accepted writes the snapshot of this moment. -/
theorem requestSave_writing {consumer consumer' : SynchronizedReplayConsumer}
    {capture : SynchronizedCaptureSession} {library : Nat → MuxLibrary} {paths : List String}
    {durationNs : Nat} {streamIds : List CaptureStreamId}
    (h : consumer.requestSave capture library paths durationNs streamIds = (true, consumer')) :
    ∃ snapshot,
      (capture.snapshotCommonRangeDetailed streamIds durationNs).snapshot = some snapshot ∧
        consumer'.writing = some ⟨snapshot, paths, library⟩ := by
  unfold requestSave reject at h
  by_cases hpaths : paths.isEmpty = true
  · rw [if_pos hpaths] at h
    cases congrArg Prod.fst h
  rw [if_neg hpaths] at h
  dsimp only at h
  cases hsnapshot : (capture.snapshotCommonRangeDetailed streamIds durationNs).snapshot with
  | none =>
      rw [hsnapshot] at h
      cases congrArg Prod.fst h
  | some snapshot =>
      simp only [hsnapshot] at h
      split_ifs at h
      · cases congrArg Prod.fst h
      · cases congrArg Prod.fst h
      · obtain ⟨-, rfl⟩ := Prod.mk.inj h
        exact ⟨snapshot, rfl, rfl⟩

theorem writing_of_requestSave_true {consumer consumer' : SynchronizedReplayConsumer}
    {capture : SynchronizedCaptureSession} {library : Nat → MuxLibrary} {paths : List String}
    {durationNs : Nat} {streamIds : List CaptureStreamId}
    (h : consumer.requestSave capture library paths durationNs streamIds = (true, consumer')) :
    ∃ save, consumer'.writing = some save := by
  obtain ⟨snapshot, -, hwriting⟩ := requestSave_writing h
  exact ⟨_, hwriting⟩

theorem savedResult_of_writing {consumer : SynchronizedReplayConsumer} {save : ReplaySave}
    (h : consumer.writing = some save) : consumer.savedResult = some save.result := by
  unfold savedResult
  rw [h]

end SynchronizedReplayConsumer

end ObsSyncReplay
