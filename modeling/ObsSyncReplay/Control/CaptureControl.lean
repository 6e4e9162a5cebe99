import ObsSyncReplay.Control.CaptureConfiguration
import ObsSyncReplay.Recording.SynchronizedRecordingConsumer
import ObsSyncReplay.Replay.SynchronizedReplayConsumer

/-!
`control/capture-control`: the commands that start and stop the two consumers of a shared
capture, and the encoders that they need. The encoders are behind the interface
`EncoderController`. Of the recording consumer the engine knows an address, what it was
made of and, in the end, its result; whether it starts and what it has recorded are inputs
of the commands. The replay consumer is modelled in full, and its worker may finish between
any two commands.
-/

namespace ObsSyncReplay

inductive CaptureInfrastructureState where
  | idle
  | active
  | stopping
  | failed
deriving DecidableEq, Repr

inductive RecordingConsumerState where
  | off
  | starting
  | running
  | stopping
deriving DecidableEq, Repr

inductive ReplayConsumerState where
  | off
  | starting
  | running
  | saving
  | stopping
deriving DecidableEq, Repr

inductive ControlCommandStatus where
  | succeeded
  | noOp
  | invalidState
  | failed
deriving DecidableEq, Repr

structure ControlCommandResult where
  status : ControlCommandStatus := .failed
  reason : String := ""
deriving DecidableEq

def ControlCommandResult.ok (result : ControlCommandResult) : Bool :=
  result.status = .succeeded ∨ result.status = .noOp

def invalid (reason : String) : ControlCommandResult := ⟨.invalidState, reason⟩

inductive EncoderLifecycleEvent where
  | created
  | activated
  | retained
  | released
deriving DecidableEq, Repr

structure EncoderLifecycleDiagnostic where
  event : EncoderLifecycleEvent := .created
  streamId : CaptureStreamId := 0
  activeEncoderCount : Nat := 0
deriving DecidableEq

/-- The interface of the encoders; `ε` is the state of an implementation. -/
class EncoderController (ε : Type) where
  ensureCreated : ε → CaptureStreamId → ConfiguredStream → Bool × ε
  activate : ε → CaptureStreamId → ConfiguredStream → Bool × ε
  release : ε → CaptureStreamId → ConfiguredStream → ε
  isActive : ε → CaptureStreamId → Bool
  activeCount : ε → Nat

/-- The encoders with the diagnostics emitted about them. -/
structure ObservedEncoders (ε : Type) where
  controller : ε
  diagnostics : List EncoderLifecycleDiagnostic := []

def isRecordingActive (state : RecordingConsumerState) : Bool := state ≠ .off

def isReplayActive (state : ReplayConsumerState) : Bool := state ≠ .off

namespace ObservedEncoders

variable {ε : Type} [EncoderController ε]

def emit (encoders : ObservedEncoders ε) (event : EncoderLifecycleEvent)
    (streamId : CaptureStreamId) : ObservedEncoders ε :=
  { encoders with
    diagnostics := encoders.diagnostics ++
      [⟨event, streamId, EncoderController.activeCount encoders.controller⟩] }

/-- The first loop of `ReconcileEncoderDemand`, over the streams that have a capture id. -/
def createPass : List (CaptureStreamId × ConfiguredStream) → ObservedEncoders ε →
    Bool × ObservedEncoders ε
  | [], encoders => (true, encoders)
  | (captureId, stream) :: rest, encoders =>
      if stream.mode = .disabled then createPass rest encoders
      else if EncoderController.isActive encoders.controller captureId then
        createPass rest encoders
      else
        match EncoderController.ensureCreated encoders.controller captureId stream with
        | (false, controller) => (false, { encoders with controller := controller })
        | (true, controller) => createPass rest { encoders with controller := controller }

/-- The second loop of `ReconcileEncoderDemand`. -/
def activatePass (demanded : StreamParticipationMode → Bool) :
    List (CaptureStreamId × ConfiguredStream) → ObservedEncoders ε → Bool × ObservedEncoders ε
  | [], encoders => (true, encoders)
  | (captureId, stream) :: rest, encoders =>
      if !demanded stream.mode then activatePass demanded rest encoders
      else if !EncoderController.isActive encoders.controller captureId then
        match EncoderController.activate encoders.controller captureId stream with
        | (false, controller) => (false, { encoders with controller := controller })
        | (true, controller) =>
            activatePass demanded rest
              ({ encoders with controller := controller }.emit .activated captureId)
      else activatePass demanded rest (encoders.emit .retained captureId)

/-- Releases the active encoders of the streams that are not demanded. -/
def releasePass (demanded : StreamParticipationMode → Bool) :
    List (CaptureStreamId × ConfiguredStream) → ObservedEncoders ε → ObservedEncoders ε
  | [], encoders => encoders
  | (captureId, stream) :: rest, encoders =>
      if demanded stream.mode || !EncoderController.isActive encoders.controller captureId then
        releasePass demanded rest encoders
      else
        let controller := EncoderController.release encoders.controller captureId stream
        releasePass demanded rest
          ({ encoders with controller := controller }.emit .released captureId)

end ObservedEncoders

/-- The loop of `CaptureIdFor`. -/
def captureIdFrom (identity : StreamIdentity) :
    List ConfiguredStream → CaptureStreamId → Option CaptureStreamId
  | [], _ => none
  | stream :: rest, captureId =>
      if stream.mode = .disabled then captureIdFrom identity rest captureId
      else if stream.identity = identity then some captureId
      else captureIdFrom identity rest (captureId + 1)

namespace CaptureConfiguration

def captureIdFor (configuration : CaptureConfiguration) (identity : StreamIdentity) :
    Option CaptureStreamId :=
  captureIdFrom identity configuration.streams 0

/-- The streams that `CaptureIdFor` finds, each with its id. -/
def addressed (configuration : CaptureConfiguration) :
    List (CaptureStreamId × ConfiguredStream) :=
  configuration.streams.filterMap (fun stream =>
    (configuration.captureIdFor stream.identity).map (·, stream))

/-- The loop of `SelectedCaptureIds`. -/
def selectedIdsFrom (consumer : CaptureConsumer) :
    List ConfiguredStream → CaptureStreamId → List CaptureStreamId
  | [], _ => []
  | stream :: rest, captureId =>
      if stream.mode = .disabled then selectedIdsFrom consumer rest captureId
      else if streamParticipates stream.mode consumer then
        captureId :: selectedIdsFrom consumer rest (captureId + 1)
      else selectedIdsFrom consumer rest (captureId + 1)

def selectedCaptureIds (configuration : CaptureConfiguration) (consumer : CaptureConsumer) :
    List CaptureStreamId :=
  selectedIdsFrom consumer configuration.streams 0

def selectedPacketConfigs (configuration : CaptureConfiguration) (consumer : CaptureConsumer) :
    List PacketStreamConfig :=
  (configuration.streams.filter (fun stream => streamParticipates stream.mode consumer)).map
    ConfiguredStream.packetConfig

end CaptureConfiguration

/-- `RegisterStreams`. An id is used up by every stream that is not disabled. -/
def registerStreams : List ConfiguredStream → CaptureStreamId → SynchronizedCaptureSession →
    Bool × SynchronizedCaptureSession
  | [], captureId, capture => (captureId > 0, capture)
  | stream :: rest, captureId, capture =>
      if stream.mode = .disabled then registerStreams rest captureId capture
      else
        match capture.registerStream captureId stream.name stream.packetConfig with
        | (false, capture) => (false, capture)
        | (true, capture) => registerStreams rest (captureId + 1) capture

/-- The recording consumer that the engine owns, at its address. -/
structure AttachedRecording where
  address : CapturePacketConsumer
  configs : List PacketStreamConfig
  paths : List String
  streamIds : List CaptureStreamId
deriving DecidableEq

/-- `nextAddress` is the address of the next recording consumer; addresses are never
given out twice. -/
structure CaptureControlEngine (ε : Type) where
  configuration : CaptureConfiguration
  capture : SynchronizedCaptureSession
  encoders : ObservedEncoders ε
  recordingConsumer : Option AttachedRecording := none
  replayConsumer : Option SynchronizedReplayConsumer := none
  recordingResult : Option SynchronizedRecordingConsumerResult := none
  replayResult : Option ReplaySaveResult := none
  captureState : CaptureInfrastructureState := .idle
  recordingState : RecordingConsumerState := .off
  replayState : ReplayConsumerState := .off
  initialized : Bool := false
  captureEpoch : Nat := 0
  nextAddress : CapturePacketConsumer := 0

namespace CaptureControlEngine

variable {ε : Type} [EncoderController ε]

/-- The constructor: the capture session and the encoders are those it is given. -/
def create (configuration : CaptureConfiguration) (capture : SynchronizedCaptureSession)
    (controller : ε) : CaptureControlEngine ε where
  configuration := configuration
  capture := capture
  encoders := { controller := controller }

def initializeEngine (engine : CaptureControlEngine ε) : Bool × CaptureControlEngine ε :=
  if engine.initialized then (true, engine)
  else
    let (registered, capture) :=
      registerStreams engine.configuration.streams 0 engine.capture
    let engine := { engine with capture := capture, initialized := registered }
    (registered, if registered then engine else { engine with captureState := .failed })

/-- The streams that the consumers which are on demand an encoder for. -/
def demanded (engine : CaptureControlEngine ε) (mode : StreamParticipationMode) : Bool :=
  streamNeedsEncoder mode (isRecordingActive engine.recordingState)
    (isReplayActive engine.replayState)

def ensureCaptureActive (engine : CaptureControlEngine ε) : Bool × CaptureControlEngine ε :=
  if engine.captureState = .active ∧ engine.capture.running then (true, engine)
  else if engine.captureState = .failed then (false, engine)
  else
    match engine.capture.start with
    | (false, capture) => (false, { engine with capture := capture, captureState := .failed })
    | (true, capture) =>
        (true, { engine with
          capture := capture, captureEpoch := engine.captureEpoch + 1, captureState := .active })

def reconcileEncoderDemand (engine : CaptureControlEngine ε) :
    Bool × CaptureControlEngine ε :=
  match ObservedEncoders.createPass engine.configuration.addressed engine.encoders with
  | (false, encoders) => (false, { engine with encoders := encoders })
  | (true, encoders) =>
      let (activated, encoders) :=
        ObservedEncoders.activatePass engine.demanded engine.configuration.addressed encoders
      (activated, { engine with encoders := encoders })

def releaseUndemandedEncoders (engine : CaptureControlEngine ε) : CaptureControlEngine ε :=
  { engine with
    encoders := ObservedEncoders.releasePass engine.demanded engine.configuration.addressed
      engine.encoders }

def stopCaptureIfUnused (engine : CaptureControlEngine ε) : CaptureControlEngine ε :=
  if isRecordingActive engine.recordingState ∨ isReplayActive engine.replayState then engine
  else
    let engine := { engine with
      captureState := .stopping
      capture := engine.capture.stop.setReplayRetentionEnabled false }
    { engine.releaseUndemandedEncoders with captureState := .idle }

/-- Takes the recording consumer off the capture session and drops it. -/
def detachRecording (engine : CaptureControlEngine ε) : CaptureControlEngine ε :=
  let address := engine.recordingConsumer.map AttachedRecording.address
  { engine with
    capture := (engine.capture.unsubscribe address).2
    recordingConsumer := none
    recordingState := .off }

def abandonRecording (engine : CaptureControlEngine ε) :
    ControlCommandResult × CaptureControlEngine ε :=
  (⟨.failed, "capture-failed"⟩, engine.detachRecording.stopCaptureIfUnused)

/-- `starts` says whether the consumer's own `Start` succeeds. -/
def startRecording (engine : CaptureControlEngine ε) (paths : List String) (starts : Bool) :
    ControlCommandResult × CaptureControlEngine ε :=
  let streamIds := engine.configuration.selectedCaptureIds .recording
  if !engine.initialized then (invalid "not-initialized", engine)
  else if engine.recordingState = .running ∨ engine.recordingState = .starting then
    (⟨.noOp, "recording-already-active"⟩, engine)
  else if engine.recordingState ≠ .off ∨ paths.length ≠ streamIds.length ∨ paths.isEmpty then
    (invalid "recording-path-count-or-state", engine)
  else
    let engine := { engine with
      recordingState := .starting
      recordingResult := none
      recordingConsumer := some
        ⟨engine.nextAddress, engine.configuration.selectedPacketConfigs .recording, paths,
          streamIds⟩
      nextAddress := engine.nextAddress + 1 }
    let (subscribed, capture) :=
      if starts then
        engine.capture.subscribe (engine.recordingConsumer.map AttachedRecording.address)
      else (false, engine.capture)
    let engine := { engine with capture := capture }
    if !subscribed then
      (⟨.failed, "recording-consumer-start"⟩,
        { engine with recordingConsumer := none, recordingState := .off })
    else
      -- a recording on its own retains no replay ring
      let engine := { engine with
        capture := engine.capture.setReplayRetentionEnabled (isReplayActive engine.replayState) }
      match engine.ensureCaptureActive with
      | (false, engine) => engine.abandonRecording
      | (true, engine) =>
          match engine.reconcileEncoderDemand with
          | (false, engine) => engine.abandonRecording
          | (true, engine) =>
              if !engine.capture.running then engine.abandonRecording
              else (⟨.succeeded, "recording-started"⟩, { engine with recordingState := .running })

/-- `result` is what the consumer has recorded. -/
def stopRecording (engine : CaptureControlEngine ε)
    (result : Option SynchronizedRecordingConsumerResult) :
    ControlCommandResult × CaptureControlEngine ε :=
  if engine.recordingState = .off then (⟨.noOp, "recording-already-off"⟩, engine)
  else if engine.recordingConsumer.isNone then
    (⟨.failed, "recording-consumer-missing"⟩, { engine with recordingState := .off })
  else
    let engine := { engine.detachRecording with recordingResult := result }
    (⟨.succeeded, "recording-stopped"⟩, engine.releaseUndemandedEncoders.stopCaptureIfUnused)

def abandonReplay (engine : CaptureControlEngine ε) :
    ControlCommandResult × CaptureControlEngine ε :=
  (⟨.failed, "capture-failed"⟩,
    { engine with
      replayState := .off
      capture := engine.capture.setReplayRetentionEnabled false }.stopCaptureIfUnused)

def startReplay (engine : CaptureControlEngine ε) :
    ControlCommandResult × CaptureControlEngine ε :=
  if !engine.initialized then (invalid "not-initialized", engine)
  else if !engine.configuration.replay.enabled then
    (invalid "replay-unavailable-by-obs-config", engine)
  else if engine.replayState = .starting ∨ engine.replayState = .running ∨
      engine.replayState = .saving then
    (⟨.noOp, "replay-already-active"⟩, engine)
  else if engine.replayState ≠ .off ∨
      (engine.configuration.selectedCaptureIds .replay).isEmpty then
    (invalid "replay-state-or-no-streams", engine)
  else
    let engine := { engine with
      replayState := .starting
      replayResult := none
      replayConsumer := some (engine.replayConsumer.getD {})
      capture := engine.capture.setReplayRetentionEnabled true }
    match engine.ensureCaptureActive with
    | (false, engine) => engine.abandonReplay
    | (true, engine) =>
        match engine.reconcileEncoderDemand with
        | (false, engine) => engine.abandonReplay
        | (true, engine) =>
            if !engine.capture.running then engine.abandonReplay
            else (⟨.succeeded, "replay-started"⟩, { engine with replayState := .running })

def waitForReplaySave (engine : CaptureControlEngine ε) : CaptureControlEngine ε :=
  match engine.replayConsumer with
  | none => engine
  | some consumer =>
      let consumer := consumer.wait
      let engine := { engine with replayConsumer := some consumer }
      if engine.replayState = .saving then
        { engine with replayResult := consumer.lastResult, replayState := .running }
      else engine

def pollReplaySave (engine : CaptureControlEngine ε) : CaptureControlEngine ε :=
  match engine.replayConsumer with
  | none => engine
  | some consumer =>
      if engine.replayState ≠ .saving ∨ consumer.active then engine
      else
        let consumer := consumer.wait
        { engine with
          replayConsumer := some consumer
          replayResult := consumer.lastResult
          replayState := .running }

def stopReplay (engine : CaptureControlEngine ε) :
    ControlCommandResult × CaptureControlEngine ε :=
  if engine.replayState = .off then (⟨.noOp, "replay-already-off"⟩, engine)
  else
    let engine := { engine with replayState := .stopping }.waitForReplaySave
    let engine := { engine with
      replayState := .off
      capture := engine.capture.setReplayRetentionEnabled false }
    (⟨.succeeded, "replay-stopped"⟩, engine.releaseUndemandedEncoders.stopCaptureIfUnused)

/-- `library` is the muxing library of each stream of the save. -/
def saveReplay (engine : CaptureControlEngine ε) (paths : List String)
    (library : Nat → MuxLibrary) : ControlCommandResult × CaptureControlEngine ε :=
  let streamIds := engine.configuration.selectedCaptureIds .replay
  if !engine.configuration.replay.enabled then
    (invalid "replay-unavailable-by-obs-config", engine)
  else if engine.replayState = .off then (invalid "replay-not-active", engine)
  else if engine.replayState ≠ .running ∧ engine.replayState ≠ .saving then
    (invalid "replay-not-running", engine)
  else if engine.replayState = .saving then (invalid "save-already-active", engine)
  else if paths.length ≠ streamIds.length ∨ paths.isEmpty then
    (invalid "replay-path-count", engine)
  else if engine.captureState = .failed ∨ !engine.capture.running then
    (⟨.failed, "capture-failed"⟩, engine)
  else
    match (engine.replayConsumer.getD {}).requestSave engine.capture library paths
        engine.configuration.replay.targetDurationNs streamIds with
    | (false, consumer) =>
        let reason := consumer.lastRequestError
        (⟨.failed, "replay-save-rejected:" ++
            (if reason.isEmpty then "snapshot-rejected" else reason)⟩,
          { engine with replayConsumer := some consumer })
    | (true, consumer) =>
        (⟨.succeeded, "replay-save-started"⟩,
          { engine with replayConsumer := some consumer, replayState := .saving })

def applyReplayConfiguration (engine : CaptureControlEngine ε)
    (configuration : ReplayConfiguration) : ControlCommandResult × CaptureControlEngine ε :=
  let stops := isReplayActive engine.replayState && !configuration.enabled
  let (stopResult, engine) :=
    if stops then engine.stopReplay else (⟨.succeeded, ""⟩, engine)
  if !stopResult.ok then (⟨.failed, "replay-config-stop-failed"⟩, engine)
  else
    (⟨.succeeded, if stops then "replay-disabled-and-stopped" else "replay-config-applied"⟩,
      { engine with
        configuration := { engine.configuration with replay := configuration }
        capture := engine.capture.setRingCapacityBytes configuration.memoryBudgetBytes })

def shutdown (engine : CaptureControlEngine ε)
    (result : Option SynchronizedRecordingConsumerResult) : CaptureControlEngine ε :=
  if !engine.initialized ∧ engine.captureState = .idle then engine
  else
    let engine := (engine.stopReplay.2.stopRecording result).2
    { engine with
      capture := engine.capture.stop.setReplayRetentionEnabled false
      encoders := ObservedEncoders.releasePass (fun _ => false) engine.configuration.addressed
        engine.encoders
      captureState := .idle }

end CaptureControlEngine

/-! ### The engine as a machine -/

/-- The commands, and between them what the threads of the encoders and of a replay save
do: a packet is ingested, a save is written to its end. -/
inductive ControlCall where
  | initializeEngine
  | startRecording (paths : List String) (starts : Bool)
  | stopRecording (result : Option SynchronizedRecordingConsumerResult)
  | startReplay
  | stopReplay
  | saveReplay (paths : List String) (library : Nat → MuxLibrary)
  | applyReplayConfiguration (configuration : ReplayConfiguration)
  | pollReplaySave
  | waitForReplaySave
  | shutdown (result : Option SynchronizedRecordingConsumerResult)
  | ingest (streamId : CaptureStreamId) (packet : EncodedPacket) (codecExtraData : List UInt8)
  | saveFinishes

inductive ControlAnswer where
  | nothing
  | flag (value : Bool)
  | command (result : ControlCommandResult)
deriving DecidableEq

namespace CaptureControlEngine

variable {ε : Type} [EncoderController ε]

def ingest (engine : CaptureControlEngine ε) (streamId : CaptureStreamId)
    (packet : EncodedPacket) (codecExtraData : List UInt8) : Bool × CaptureControlEngine ε :=
  let (fanOut, capture) := engine.capture.ingest streamId packet codecExtraData
  (fanOut.isSome, { engine with capture := capture })

def saveFinishes (engine : CaptureControlEngine ε) : CaptureControlEngine ε :=
  { engine with replayConsumer := engine.replayConsumer.map SynchronizedReplayConsumer.finish }

def step (engine : CaptureControlEngine ε) : ControlCall → ControlAnswer × CaptureControlEngine ε
  | .initializeEngine => engine.initializeEngine.map .flag id
  | .startRecording paths starts => (engine.startRecording paths starts).map .command id
  | .stopRecording result => (engine.stopRecording result).map .command id
  | .startReplay => engine.startReplay.map .command id
  | .stopReplay => engine.stopReplay.map .command id
  | .saveReplay paths library => (engine.saveReplay paths library).map .command id
  | .applyReplayConfiguration configuration =>
      (engine.applyReplayConfiguration configuration).map .command id
  | .pollReplaySave => (.nothing, engine.pollReplaySave)
  | .waitForReplaySave => (.nothing, engine.waitForReplaySave)
  | .shutdown result => (.nothing, engine.shutdown result)
  | .ingest streamId packet codecExtraData =>
      (engine.ingest streamId packet codecExtraData).map .flag id
  | .saveFinishes => (.nothing, engine.saveFinishes)

abbrev Transition (ε : Type) := Runs.Transition (CaptureControlEngine ε) ControlCall ControlAnswer

end CaptureControlEngine

end ObsSyncReplay
