import ObsSyncReplay.Control.PluginEncoderController
import ObsSyncReplay.Control.ReplaySaves

/-!
`control/plugin-capture-runtime`: the commands of the plugin. The runtime owns the control
engine and builds a new one when the scenes change. What OBS answers on the way (the scenes
it has, the profile, the outcomes of its calls) comes with the command, and so do the clock
and the file system.
-/

namespace ObsSyncReplay

def fallbackWidth : Nat := 1920

def fallbackHeight : Nat := 1080

/-- What OBS and the file system answer when the runtime is rebuilt. `views n` says whether
the view of the `n`-th scene target and its video can be had, and `size` is that of a
stream's video, with 0 for what it does not tell. -/
structure Rebuild where
  views : Nat → Bool := fun _ => true
  size : StreamIdentity → Nat × Nat := fun _ => (0, 0)
  group : Bool := true
  outcomes : Nat → Bool := fun _ => true

/-- `directory` is the output directory, if it is there or can be created. -/
structure OutputDirectory where
  directory : Option String
  wallClockNs : Nat

def streamConfig (size : Nat × Nat) : PacketStreamConfig where
  width := if size.1 = 0 then fallbackWidth else size.1
  height := if size.2 = 0 then fallbackHeight else size.2
  timebaseNum := 1
  timebaseDen := 60000

def fileNameComponent (value : String) : String :=
  let replaced := value.map (fun character =>
    if character ∈ ['<', '>', ':', '\x22', '/', '\\', '|', '?', '*'] then '_' else character)
  if replaced.isEmpty then "stream" else replaced

/-- A scene target is known by its entry; its source, view and video are there. -/
structure PluginCaptureRuntime where
  replayConfiguration : ReplayConfiguration
  topologyModel : SceneTopologyModel := {}
  scenes : List SceneTopologyEntry := []
  pendingScenes : List DiscoveredScene := []
  control : Option (CaptureControlEngine PluginEncoderController) := none
  recordingNumber : Nat := 0
  replayNumber : Nat := 0
  replaySaveGeneration : Nat := 0
  replayResultLoggedGeneration : Nat := 0

namespace PluginCaptureRuntime

/-- The loop of `InstallSceneTargets`. -/
def installTargets (entries : List SceneTopologyEntry) (views : Nat → Bool) :
    List DiscoveredScene → List SceneTopologyEntry → Option (List SceneTopologyEntry)
  | [], scenes => some scenes
  | discovered :: rest, scenes =>
      match entries.find? (fun candidate =>
          candidate.identity.kind = .scene ∧ candidate.identity.key = discovered.uuid) with
      | none => installTargets entries views rest scenes
      | some entry =>
          if scenes.any (fun target => target.identity = entry.identity) then
            installTargets entries views rest scenes
          else if views scenes.length then installTargets entries views rest (scenes ++ [entry])
          else none

/-- The targets of before are given up in any case. -/
def installSceneTargets (runtime : PluginCaptureRuntime) (discovered : List DiscoveredScene)
    (rebuild : Rebuild) : Bool × PluginCaptureRuntime :=
  match installTargets runtime.topologyModel.current.streams rebuild.views discovered [] with
  | none => (false, { runtime with scenes := [] })
  | some scenes => (true, { runtime with scenes := scenes })

def participationMode (entry : SceneTopologyEntry) : StreamParticipationMode :=
  if entry.recordingEnabled && entry.replayEnabled then .both
  else if entry.recordingEnabled then .recording
  else if entry.replayEnabled then .replay
  else .disabled

/-- One round of the loop of `BuildControlState`. -/
def configuredStream (scenes : List SceneTopologyEntry) (rebuild : Rebuild)
    (entry : SceneTopologyEntry) : Option ConfiguredStream :=
  let config := streamConfig (rebuild.size entry.identity)
  if entry.identity.kind = .master then
    some ⟨entry.identity, "master", participationMode entry, config⟩
  else if scenes.any (fun target => target.identity = entry.identity) then
    some ⟨entry.identity, entry.displayName, participationMode entry, config⟩
  else none

def buildControlState (runtime : PluginCaptureRuntime) (rebuild : Rebuild) :
    Bool × PluginCaptureRuntime :=
  match runtime.topologyModel.current.streams.mapM
      (configuredStream runtime.scenes rebuild) with
  | none => (false, runtime)
  | some streams =>
      if !rebuild.group then (false, { runtime with control := none })
      else
        let captureVideos := streams.countP (fun stream => stream.mode ≠ .disabled)
        match (CaptureControlEngine.create ⟨runtime.replayConfiguration, streams⟩
            (.create runtime.replayConfiguration.memoryBudgetBytes)
            (PluginEncoderController.create captureVideos rebuild.outcomes)).initializeEngine with
        | (false, _) => (false, { runtime with control := none })
        | (true, engine) => (true, { runtime with control := some engine })

/-- `Stop`. The engine is shut down and dropped. -/
def stop (runtime : PluginCaptureRuntime) : PluginCaptureRuntime :=
  { runtime with control := none, scenes := [], pendingScenes := [] }

def initializeRuntime (runtime : PluginCaptureRuntime) (discovered : List DiscoveredScene)
    (rebuild : Rebuild) : Bool × PluginCaptureRuntime :=
  if runtime.control.isSome then (false, runtime)
  else
    let runtime := { runtime with
      topologyModel := (runtime.topologyModel.applyDiscovery discovered false).2
      pendingScenes := [] }
    match runtime.installSceneTargets discovered rebuild with
    | (false, runtime) => (false, runtime.stop)
    | (true, runtime) =>
        match runtime.buildControlState rebuild with
        | (false, runtime) => (false, runtime.stop)
        | (true, runtime) => (true, runtime)

/-- The engine is dropped, and a new one is built for the topology as it is now. -/
def rebuildControl (runtime : PluginCaptureRuntime) (discovered : List DiscoveredScene)
    (rebuild : Rebuild) : Bool × PluginCaptureRuntime :=
  match { runtime with control := none }.installSceneTargets discovered rebuild with
  | (false, runtime) => (false, runtime)
  | (true, runtime) => runtime.buildControlState rebuild

def finishCaptureEpochIfIdle (runtime : PluginCaptureRuntime) (rebuild : Rebuild) :
    PluginCaptureRuntime :=
  match runtime.control with
  | none => runtime
  | some engine =>
      if engine.recordingState ≠ .off ∨ engine.replayState ≠ .off ∨
          !runtime.topologyModel.captureEpochActive then runtime
      else
        let hadPendingTopology := runtime.topologyModel.hasPending
        match runtime.topologyModel.endCaptureEpoch with
        | (none, model) => { runtime with topologyModel := model }
        | (some _, model) =>
            let runtime := { runtime with topologyModel := model }
            if !hadPendingTopology then runtime
            else
              ({ runtime with pendingScenes := [] }.rebuildControl runtime.pendingScenes
                rebuild).2

def outputPaths (engine : CaptureControlEngine PluginEncoderController)
    (consumer : CaptureConsumer) (output : OutputDirectory) (stem : String) : List String :=
  match output.directory with
  | none => []
  | some directory =>
      (engine.configuration.streams.filter (fun stream =>
        streamParticipates stream.mode consumer)).map (fun stream =>
          directory ++ "/" ++ (stem ++ "-" ++ fileNameComponent stream.name ++ ".mkv"))

def failed (reason : String) : ControlCommandResult := ⟨.failed, reason⟩

def startRecording (runtime : PluginCaptureRuntime) (output : OutputDirectory) (starts : Bool) :
    ControlCommandResult × PluginCaptureRuntime :=
  match runtime.control with
  | none => (failed "runtime-not-initialized", runtime)
  | some engine =>
      let model := runtime.topologyModel.beginCaptureEpoch
      let recordingNumber := runtime.recordingNumber + 1
      let stem := "recording-" ++ toString recordingNumber ++ "-" ++ toString output.wallClockNs
      let (result, engine) :=
        engine.startRecording (outputPaths engine .recording output stem) starts
      let model :=
        if !result.ok ∧ engine.replayState = .off then model.endCaptureEpoch.2 else model
      (result, { runtime with
        topologyModel := model, recordingNumber := recordingNumber, control := some engine })

def stopRecording (runtime : PluginCaptureRuntime)
    (recorded : Option SynchronizedRecordingConsumerResult) (rebuild : Rebuild) :
    ControlCommandResult × PluginCaptureRuntime :=
  match runtime.control with
  | none => (failed "runtime-not-initialized", runtime)
  | some engine =>
      let (result, engine) := engine.stopRecording recorded
      (result, { runtime with control := some engine }.finishCaptureEpochIfIdle rebuild)

def applyReplayConfiguration (runtime : PluginCaptureRuntime)
    (configuration : ReplayConfiguration) (rebuild : Rebuild) :
    ControlCommandResult × PluginCaptureRuntime :=
  if runtime.replayConfiguration = configuration then (⟨.noOp, "replay-config-unchanged"⟩, runtime)
  else
    let runtime := { runtime with replayConfiguration := configuration }
    match runtime.control with
    | none => (⟨.succeeded, "replay-config-stored"⟩, runtime)
    | some engine =>
        let (result, engine) := engine.applyReplayConfiguration configuration
        (result, { runtime with control := some engine }.finishCaptureEpochIfIdle rebuild)

/-- `profile` is what `ReadObsReplayConfiguration` makes of the profile. -/
def refreshReplayConfiguration (runtime : PluginCaptureRuntime) (profile : ReplayConfiguration)
    (rebuild : Rebuild) : ControlCommandResult × PluginCaptureRuntime :=
  runtime.applyReplayConfiguration profile rebuild

def startReplay (runtime : PluginCaptureRuntime) (profile : ReplayConfiguration)
    (rebuild : Rebuild) : ControlCommandResult × PluginCaptureRuntime :=
  let runtime := (runtime.refreshReplayConfiguration profile rebuild).2
  match runtime.control with
  | none => (failed "runtime-not-initialized", runtime)
  | some engine =>
      let model := runtime.topologyModel.beginCaptureEpoch
      let (result, engine) := engine.startReplay
      let model :=
        if !result.ok ∧ engine.recordingState = .off then model.endCaptureEpoch.2 else model
      (result, { runtime with topologyModel := model, control := some engine })

def saveReplay (runtime : PluginCaptureRuntime) (profile : ReplayConfiguration)
    (rebuild : Rebuild) (output : OutputDirectory) (library : Nat → MuxLibrary) :
    ControlCommandResult × PluginCaptureRuntime :=
  let runtime := (runtime.refreshReplayConfiguration profile rebuild).2
  match runtime.control with
  | none => (failed "runtime-not-initialized", runtime)
  | some engine =>
      let replayNumber := runtime.replayNumber + 1
      let stem := "replay-" ++ toString replayNumber ++ "-" ++ toString output.wallClockNs
      let (result, engine) := engine.saveReplay (outputPaths engine .replay output stem) library
      let replaySaveGeneration :=
        if result.ok then runtime.replaySaveGeneration + 1 else runtime.replaySaveGeneration
      (result, { runtime with
        replayNumber := replayNumber, replaySaveGeneration := replaySaveGeneration
        control := some engine })

def stopReplay (runtime : PluginCaptureRuntime) (rebuild : Rebuild) :
    ControlCommandResult × PluginCaptureRuntime :=
  match runtime.control with
  | none => (failed "runtime-not-initialized", runtime)
  | some engine =>
      let (result, engine) := engine.stopReplay
      (result, { runtime with control := some engine }.finishCaptureEpochIfIdle rebuild)

def refreshSceneTopology (runtime : PluginCaptureRuntime) (discovered : List DiscoveredScene)
    (rebuild : Rebuild) : ControlCommandResult × PluginCaptureRuntime :=
  if runtime.control.isNone then (failed "runtime-not-initialized", runtime)
  else
    let epochActive := runtime.topologyModel.captureEpochActive
    match runtime.topologyModel.applyDiscovery discovered epochActive with
    | (.unchanged, model) =>
        (⟨.noOp, "scene-topology-unchanged"⟩, { runtime with topologyModel := model })
    | (_, model) =>
        let runtime := { runtime with topologyModel := model }
        if epochActive then
          (⟨.succeeded, "scene-topology-staged"⟩, { runtime with pendingScenes := discovered })
        else
          match runtime.rebuildControl discovered rebuild with
          | (false, runtime) => (failed "scene-topology-rebuild", runtime)
          | (true, runtime) => (⟨.succeeded, "scene-topology-applied"⟩, runtime)

/-- The first component is the result that is reported. -/
def pollReplaySave (runtime : PluginCaptureRuntime) :
    Option ReplaySaveResult × PluginCaptureRuntime :=
  match runtime.control with
  | none => (none, runtime)
  | some engine =>
      let engine := engine.pollReplaySave
      let runtime := { runtime with control := some engine }
      match engine.replayResult with
      | none => (none, runtime)
      | some replay =>
          if runtime.replayResultLoggedGeneration < runtime.replaySaveGeneration then
            (some replay,
              { runtime with replayResultLoggedGeneration := runtime.replaySaveGeneration })
          else (none, runtime)

/-! ### The runtime as a machine -/

/-- The commands, and between them what the threads of the encoders and of a replay save
do. -/
inductive Call where
  | initializeRuntime (discovered : List DiscoveredScene) (rebuild : Rebuild)
  | startRecording (output : OutputDirectory) (starts : Bool)
  | stopRecording (recorded : Option SynchronizedRecordingConsumerResult) (rebuild : Rebuild)
  | startReplay (profile : ReplayConfiguration) (rebuild : Rebuild)
  | saveReplay (profile : ReplayConfiguration) (rebuild : Rebuild) (output : OutputDirectory)
      (library : Nat → MuxLibrary)
  | stopReplay (rebuild : Rebuild)
  | applyReplayConfiguration (configuration : ReplayConfiguration) (rebuild : Rebuild)
  | refreshReplayConfiguration (profile : ReplayConfiguration) (rebuild : Rebuild)
  | refreshSceneTopology (discovered : List DiscoveredScene) (rebuild : Rebuild)
  | pollReplaySave
  | stop
  | ingest (streamId : CaptureStreamId) (packet : EncodedPacket) (codecExtraData : List UInt8)
  | saveFinishes

inductive Answer where
  | nothing
  | flag (value : Bool)
  | command (result : ControlCommandResult)
  | reported (result : Option ReplaySaveResult)
deriving DecidableEq

/-- A packet goes to the engine that there is. -/
def ingest (runtime : PluginCaptureRuntime) (streamId : CaptureStreamId) (packet : EncodedPacket)
    (codecExtraData : List UInt8) : Bool × PluginCaptureRuntime :=
  match runtime.control with
  | none => (false, runtime)
  | some engine =>
      let (accepted, engine) := engine.ingest streamId packet codecExtraData
      (accepted, { runtime with control := some engine })

def saveFinishes (runtime : PluginCaptureRuntime) : PluginCaptureRuntime :=
  { runtime with control := runtime.control.map CaptureControlEngine.saveFinishes }

def step (runtime : PluginCaptureRuntime) : Call → Answer × PluginCaptureRuntime
  | .initializeRuntime discovered rebuild =>
      (runtime.initializeRuntime discovered rebuild).map .flag id
  | .startRecording output starts => (runtime.startRecording output starts).map .command id
  | .stopRecording recorded rebuild => (runtime.stopRecording recorded rebuild).map .command id
  | .startReplay profile rebuild => (runtime.startReplay profile rebuild).map .command id
  | .saveReplay profile rebuild output library =>
      (runtime.saveReplay profile rebuild output library).map .command id
  | .stopReplay rebuild => (runtime.stopReplay rebuild).map .command id
  | .applyReplayConfiguration configuration rebuild =>
      (runtime.applyReplayConfiguration configuration rebuild).map .command id
  | .refreshReplayConfiguration profile rebuild =>
      (runtime.refreshReplayConfiguration profile rebuild).map .command id
  | .refreshSceneTopology discovered rebuild =>
      (runtime.refreshSceneTopology discovered rebuild).map .command id
  | .pollReplaySave => runtime.pollReplaySave.map .reported id
  | .stop => (.nothing, runtime.stop)
  | .ingest streamId packet codecExtraData =>
      (runtime.ingest streamId packet codecExtraData).map .flag id
  | .saveFinishes => (.nothing, runtime.saveFinishes)

abbrev Transition := Runs.Transition PluginCaptureRuntime Call Answer

end PluginCaptureRuntime

end ObsSyncReplay
