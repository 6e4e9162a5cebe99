import ObsSyncReplay.Control.OutputNames
import ObsSyncReplay.Control.ReplayReports
import ObsSyncReplay.Control.RuntimeEpochs

/-!
What the controls and the hotkeys ask of the runtime: its states, and the two commands that start
a consumer or stop it, whichever its state asks for. Every stream of a topology takes part in both
consumers, so a command is only refused for its state, for the profile, or for want of an output
directory.
-/

namespace ObsSyncReplay

namespace PluginCaptureRuntime

def captureState (runtime : PluginCaptureRuntime) : CaptureInfrastructureState :=
  (runtime.control.map CaptureControlEngine.captureState).getD .idle

def recordingState (runtime : PluginCaptureRuntime) : RecordingConsumerState :=
  (runtime.control.map CaptureControlEngine.recordingState).getD .off

def replayState (runtime : PluginCaptureRuntime) : ReplayConsumerState :=
  (runtime.control.map CaptureControlEngine.replayState).getD .off

def replayAvailable (runtime : PluginCaptureRuntime) : Bool :=
  match runtime.control with
  | none => runtime.replayConfiguration.enabled
  | some engine => engine.configuration.replay.enabled

/-- What a command reads on its way: the profile, the scenes of a rebuild, the output directory,
whether a recording starts and what it has recorded, and the muxing libraries of a save. -/
structure CommandReadings where
  profile : ReplayConfiguration
  rebuild : Rebuild
  output : OutputDirectory
  starts : Bool
  recorded : Option SynchronizedRecordingConsumerResult
  library : Nat → MuxLibrary

def toggleRecording (runtime : PluginCaptureRuntime) (readings : CommandReadings) :
    ControlCommandResult × PluginCaptureRuntime :=
  match runtime.recordingState with
  | .off => runtime.startRecording readings.output readings.starts
  | .running => runtime.stopRecording readings.recorded readings.rebuild
  | _ => (invalid "recording-transition-active", runtime)

def toggleReplay (runtime : PluginCaptureRuntime) (readings : CommandReadings) :
    ControlCommandResult × PluginCaptureRuntime :=
  match runtime.replayState with
  | .off => runtime.startReplay readings.profile readings.rebuild
  | .running => runtime.stopReplay readings.rebuild
  | _ => (invalid "replay-transition-active", runtime)

end PluginCaptureRuntime

/-- There is a stream, and every stream takes part in both consumers. -/
structure SceneTopologySnapshot.TakesPart (snapshot : SceneTopologySnapshot) : Prop where
  nonempty : snapshot.streams ≠ []
  both : ∀ entry ∈ snapshot.streams, entry.recordingEnabled = true ∧ entry.replayEnabled = true

theorem takesPart_buildSnapshot (scenes : List DiscoveredScene) (generation : Nat) :
    (buildSnapshot scenes generation).TakesPart := by
  suffices hpushed : ∀ (rest : List (DiscoveredScene × Nat)) (streams : List SceneTopologyEntry),
      SceneTopologySnapshot.TakesPart ⟨streams, generation⟩ →
        SceneTopologySnapshot.TakesPart ⟨rest.foldl pushScene streams, generation⟩ by
    exact hpushed _ _ ⟨List.cons_ne_nil _ _, by simp⟩
  intro rest
  induction rest with
  | nil => exact fun streams h => h
  | cons scene rest ih =>
      intro streams h
      apply ih
      unfold pushScene
      split_ifs
      · exact h
      · refine ⟨by simp, ?_⟩
        rw [List.forall_mem_append, List.forall_mem_singleton]
        exact ⟨h.both, rfl, rfl⟩

theorem SceneTopologySnapshot.TakesPart.updateDisplayNames {target : SceneTopologySnapshot}
    (h : target.TakesPart) (discovered : SceneTopologySnapshot) :
    (updateDisplayNames target discovered).TakesPart := by
  refine ⟨by simpa [ObsSyncReplay.updateDisplayNames] using h.nonempty, fun renamed hrenamed => ?_⟩
  obtain ⟨entry, hentry, rfl⟩ := List.mem_map.mp hrenamed
  have hboth := h.both entry hentry
  split
  · exact hboth
  · exact hboth

namespace SceneTopologyModel

variable {model : SceneTopologyModel}

theorem takesPart_run {past : List Transition} (hrun : Runs.Run step {} past model) :
    model.current.TakesPart ∧ ∀ snapshot ∈ model.pending, snapshot.TakesPart := by
  apply hrun.stateInvariant (P := fun model =>
    model.current.TakesPart ∧ ∀ snapshot ∈ model.pending, snapshot.TakesPart)
  · exact ⟨takesPart_buildSnapshot [] 0, by simp⟩
  · rintro model call ⟨hcurrent, hpending⟩
    cases call with
    | applyDiscovery scenes =>
        have hdiscovered := takesPart_buildSnapshot scenes (model.current.generation + 1)
        simp only [step, applyDiscovery]
        split_ifs
        · exact ⟨hcurrent, hpending⟩
        · exact ⟨hdiscovered, by simp⟩
        · exact ⟨hcurrent.updateDisplayNames _, by simpa using hdiscovered⟩
    | beginCaptureEpoch =>
        simp only [step, beginCaptureEpoch]
        split_ifs
        · exact ⟨hcurrent, hpending⟩
        · exact ⟨hcurrent, hpending⟩
    | endCaptureEpoch =>
        simp only [step, endCaptureEpoch]
        split_ifs
        · exact ⟨hcurrent, hpending⟩
        · cases hstaged : model.pending with
          | none => exact ⟨hcurrent, by simp⟩
          | some pending => exact ⟨hpending pending hstaged, by simp⟩

theorem Reachable.takesPart (h : model.Reachable) : model.current.TakesPart := by
  obtain ⟨past, hrun⟩ := h
  exact (takesPart_run hrun).1

end SceneTopologyModel

namespace CaptureControlEngine

variable {ε : Type} [EncoderController ε] {engine : CaptureControlEngine ε}

theorem stopReplay_initialized : engine.stopReplay.2.initialized = engine.initialized := by
  by_cases hoff : engine.replayState = .off
  · unfold stopReplay
    rw [if_pos hoff]
  · rw [stopReplay_eq hoff, stopCaptureIfUnused_initialized]
    rfl

theorem stopRecording_initialized {result : Option SynchronizedRecordingConsumerResult} :
    (engine.stopRecording result).2.initialized = engine.initialized := by
  unfold stopRecording
  split_ifs
  · rfl
  · rfl
  · exact stopCaptureIfUnused_initialized _

theorem applyReplayConfiguration_initialized {configuration : ReplayConfiguration} :
    (engine.applyReplayConfiguration configuration).2.initialized = engine.initialized := by
  rcases engine.applyReplayConfiguration_cases configuration with ⟨-, -, happlied⟩ | ⟨-, happlied⟩
  · rw [happlied]
    exact stopReplay_initialized
  · rw [happlied]
    rfl

theorem Coherent.startRecording_initialized (h : engine.Coherent) (paths : List String)
    (starts : Bool) : (engine.startRecording paths starts).2.initialized = engine.initialized := by
  by_cases hbegins : engine.BeginsRecording paths starts
  · rw [h.startRecording_of_begins hbegins]
    rcases hreconcile : (engine.attachRecording paths).captureActivated.reconcileEncoderDemand with
      ⟨_ | _, engine'⟩ <;> have hkept := reconcileEncoderDemand_eq hreconcile
    · simp only [abandonRecording, stopCaptureIfUnused_initialized]
      rw [hkept]
      rfl
    · dsimp only
      rw [hkept]
      rfl
  · rcases h.startRecording_of_not_begins hbegins with hsame | ⟨-, hsame⟩ <;> rw [hsame]

theorem Coherent.startReplay_initialized (h : engine.Coherent) :
    engine.startReplay.2.initialized = engine.initialized := by
  by_cases hbegins : engine.BeginsReplay
  · rw [h.startReplay_of_begins hbegins]
    rcases hreconcile : engine.attachReplay.captureActivated.reconcileEncoderDemand with
      ⟨_ | _, engine'⟩ <;> have hkept := reconcileEncoderDemand_eq hreconcile
    · simp only [abandonReplay, stopCaptureIfUnused_initialized]
      rw [hkept]
      rfl
    · dsimp only
      rw [hkept]
      rfl
  · rw [startReplay_of_not_begins hbegins]

/-- An engine that has registered its streams stays registered. -/
theorem Coherent.step_initialized (h : engine.Coherent) (hready : engine.initialized = true)
    (call : ControlCall) : (engine.step call).2.initialized = true := by
  cases call with
  | initializeEngine =>
      have hkept : engine.initializeEngine.2 = engine := by
        unfold CaptureControlEngine.initializeEngine
        rw [if_pos hready]
      exact (congrArg CaptureControlEngine.initialized hkept).trans hready
  | startRecording paths starts => exact (h.startRecording_initialized paths starts).trans hready
  | stopRecording result => exact stopRecording_initialized.trans hready
  | startReplay => exact h.startReplay_initialized.trans hready
  | stopReplay => exact stopReplay_initialized.trans hready
  | saveReplay paths library =>
      rcases engine.saveReplay_eq paths library with ⟨_, -, hsave⟩ | ⟨-, _, _, -, -, hsave⟩ |
        ⟨-, _, -, hsave⟩ <;>
        simp only [CaptureControlEngine.step, hsave, Prod.map_snd, id, hready]
  | applyReplayConfiguration configuration =>
      exact applyReplayConfiguration_initialized.trans hready
  | pollReplaySave =>
      simp only [CaptureControlEngine.step, CaptureControlEngine.pollReplaySave]
      split
      · exact hready
      · split_ifs
        · exact hready
        · exact hready
  | waitForReplaySave =>
      simp only [CaptureControlEngine.step, CaptureControlEngine.waitForReplaySave]
      split
      · exact hready
      · split_ifs
        · exact hready
        · exact hready
  | shutdown result =>
      simp only [CaptureControlEngine.step, CaptureControlEngine.shutdown]
      split_ifs
      · exact hready
      · exact (stopRecording_initialized.trans stopReplay_initialized).trans hready
  | ingest streamId packet codecExtraData => exact hready
  | saveFinishes => exact hready

end CaptureControlEngine

namespace PluginCaptureRuntime

variable {runtime : PluginCaptureRuntime} {engine : CaptureControlEngine PluginEncoderController}

/-- A property that every new engine has. -/
def BuiltProperty (Q : CaptureControlEngine PluginEncoderController → Prop) : Prop :=
  ∀ (runtime : PluginCaptureRuntime) (rebuild : Rebuild) (engine),
    runtime.topologyModel.Reachable → runtime.control = none →
      (runtime.buildControlState rebuild).2.control = some engine → Q engine

/-- A property that every new engine has, and that its calls keep. -/
structure EngineProperty (Q : CaptureControlEngine PluginEncoderController → Prop) : Prop where
  step : ∀ engine call, engine.Coherent → Q engine → Q (engine.step call).2
  built : BuiltProperty Q

section EngineRule

variable {Q : CaptureControlEngine PluginEncoderController → Prop}

/-- Of an engine that a rebuild may have replaced. -/
theorem rebuildControl_engine (hbuilt : BuiltProperty Q)
    (htopology : runtime.topologyModel.Reachable) (discovered : List DiscoveredScene)
    (rebuild : Rebuild) :
    ∀ engine ∈ (runtime.rebuildControl discovered rebuild).2.control, Q engine := by
  intro engine hengine
  unfold rebuildControl installSceneTargets at hengine
  dsimp only at hengine
  split at hengine <;> rename_i installed hinstall <;> split at hinstall <;> cases hinstall
  · cases hengine
  · exact hbuilt _ rebuild engine (by exact htopology) rfl hengine

theorem finishCaptureEpochIfIdle_engine (hbuilt : BuiltProperty Q)
    (htopology : runtime.topologyModel.Reachable) (h : ∀ engine ∈ runtime.control, Q engine)
    (rebuild : Rebuild) :
    ∀ engine ∈ (runtime.finishCaptureEpochIfIdle rebuild).control, Q engine := by
  have hended : runtime.topologyModel.endCaptureEpoch.2.Reachable := htopology.step .endCaptureEpoch
  unfold finishCaptureEpochIfIdle
  split
  · exact h
  · split_ifs
    · exact h
    · dsimp only
      split <;> rename_i model hend <;> rw [hend] at hended
      · exact h
      · split_ifs
        · exact h
        · exact rebuildControl_engine hbuilt (by exact hended) _ rebuild

theorem EngineProperty.applyReplayConfiguration (hQ : EngineProperty Q) (hsettled : runtime.Settled)
    (h : ∀ engine ∈ runtime.control, Q engine) (configuration : ReplayConfiguration)
    (rebuild : Rebuild) :
    ∀ engine ∈ (runtime.applyReplayConfiguration configuration rebuild).2.control, Q engine := by
  unfold PluginCaptureRuntime.applyReplayConfiguration
  split_ifs
  · exact h
  · dsimp only
    split
    · exact h
    · rename_i engine hcontrol
      apply finishCaptureEpochIfIdle_engine hQ.built (by exact hsettled.topology)
      rintro engine' ⟨⟩
      exact hQ.step engine (.applyReplayConfiguration configuration)
        (hsettled.suits engine hcontrol).coherent (h engine hcontrol)

/-- A call of the engine that is there. -/
theorem EngineProperty.next (hQ : EngineProperty Q) (hsettled : runtime.Settled)
    (h : ∀ engine ∈ runtime.control, Q engine)
    {engine : CaptureControlEngine PluginEncoderController}
    (hcontrol : runtime.control = some engine) (call : ControlCall) :
    Q (engine.step call).2 :=
  hQ.step engine call (hsettled.suits engine hcontrol).coherent (h engine hcontrol)

theorem EngineProperty.initializeRuntime (hQ : EngineProperty Q) (hsettled : runtime.Settled)
    (h : ∀ engine ∈ runtime.control, Q engine) (discovered : List DiscoveredScene)
    (rebuild : Rebuild) :
    ∀ engine ∈ (runtime.initializeRuntime discovered rebuild).2.control, Q engine := by
  unfold PluginCaptureRuntime.initializeRuntime
  split_ifs with hcontrol
  · exact h
  · have hnone : runtime.control = none := by simpa using hcontrol
    have hdiscovered : (runtime.topologyModel.applyDiscovery discovered false).2.Reachable := by
      rw [← hsettled.idle_of_none hnone]
      exact hsettled.topology.step (.applyDiscovery discovered)
    have hbuilt (scenes : List SceneTopologyEntry) := hQ.built { runtime with
      topologyModel := (runtime.topologyModel.applyDiscovery discovered false).2
      pendingScenes := [], scenes := scenes } rebuild
    unfold installSceneTargets
    dsimp only
    cases installTargets
        (runtime.topologyModel.applyDiscovery discovered false).2.current.streams
        rebuild.views discovered [] with
    | none => exact fun engine hengine => by cases hengine
    | some scenes =>
        have hnew := fun engine => hbuilt scenes engine hdiscovered hnone
        dsimp only
        split <;> rename_i built hbuild <;> rw [hbuild] at hnew
        · exact fun engine hengine => by cases hengine
        · exact hnew

theorem EngineProperty.startRecording (hQ : EngineProperty Q) (hsettled : runtime.Settled)
    (h : ∀ engine ∈ runtime.control, Q engine) (output : OutputDirectory) (starts : Bool) :
    ∀ engine ∈ (runtime.startRecording output starts).2.control, Q engine := by
  unfold PluginCaptureRuntime.startRecording
  split
  · exact h
  · rename_i engine hcontrol
    rintro engine' ⟨⟩
    exact hQ.next hsettled h hcontrol (.startRecording _ starts)

theorem EngineProperty.stopRecording (hQ : EngineProperty Q) (hsettled : runtime.Settled)
    (h : ∀ engine ∈ runtime.control, Q engine)
    (recorded : Option SynchronizedRecordingConsumerResult) (rebuild : Rebuild) :
    ∀ engine ∈ (runtime.stopRecording recorded rebuild).2.control, Q engine := by
  unfold PluginCaptureRuntime.stopRecording
  split
  · exact h
  · rename_i engine hcontrol
    apply finishCaptureEpochIfIdle_engine hQ.built (by exact hsettled.topology)
    rintro engine' ⟨⟩
    exact hQ.next hsettled h hcontrol (.stopRecording recorded)

theorem EngineProperty.startReplay (hQ : EngineProperty Q) (hsettled : runtime.Settled)
    (h : ∀ engine ∈ runtime.control, Q engine) (profile : ReplayConfiguration)
    (rebuild : Rebuild) :
    ∀ engine ∈ (runtime.startReplay profile rebuild).2.control, Q engine := by
  have hrefreshed := applyReplayConfiguration_settled hsettled profile rebuild
  have hkept := hQ.applyReplayConfiguration hsettled h profile rebuild
  unfold PluginCaptureRuntime.startReplay refreshReplayConfiguration
  dsimp only
  split
  · exact hkept
  · rename_i engine hcontrol
    rintro engine' ⟨⟩
    exact hQ.next hrefreshed hkept hcontrol .startReplay

theorem EngineProperty.saveReplay (hQ : EngineProperty Q) (hsettled : runtime.Settled)
    (h : ∀ engine ∈ runtime.control, Q engine) (profile : ReplayConfiguration)
    (rebuild : Rebuild) (output : OutputDirectory) (library : Nat → MuxLibrary) :
    ∀ engine ∈ (runtime.saveReplay profile rebuild output library).2.control, Q engine := by
  have hrefreshed := applyReplayConfiguration_settled hsettled profile rebuild
  have hkept := hQ.applyReplayConfiguration hsettled h profile rebuild
  unfold PluginCaptureRuntime.saveReplay refreshReplayConfiguration
  dsimp only
  split
  · exact hkept
  · rename_i engine hcontrol
    rintro engine' ⟨⟩
    exact hQ.next hrefreshed hkept hcontrol (.saveReplay _ library)

theorem EngineProperty.stopReplay (hQ : EngineProperty Q) (hsettled : runtime.Settled)
    (h : ∀ engine ∈ runtime.control, Q engine) (rebuild : Rebuild) :
    ∀ engine ∈ (runtime.stopReplay rebuild).2.control, Q engine := by
  unfold PluginCaptureRuntime.stopReplay
  split
  · exact h
  · rename_i engine hcontrol
    apply finishCaptureEpochIfIdle_engine hQ.built (by exact hsettled.topology)
    rintro engine' ⟨⟩
    exact hQ.next hsettled h hcontrol .stopReplay

theorem EngineProperty.refreshSceneTopology (hQ : EngineProperty Q) (hsettled : runtime.Settled)
    (h : ∀ engine ∈ runtime.control, Q engine) (discovered : List DiscoveredScene)
    (rebuild : Rebuild) :
    ∀ engine ∈ (runtime.refreshSceneTopology discovered rebuild).2.control, Q engine := by
  have hdiscovered : (runtime.topologyModel.applyDiscovery discovered
      runtime.topologyModel.captureEpochActive).2.Reachable :=
    hsettled.topology.step (.applyDiscovery discovered)
  unfold PluginCaptureRuntime.refreshSceneTopology
  split_ifs
  · exact h
  · dsimp only
    split
    · exact h
    · rename_i update model _ hupdate
      rw [hupdate] at hdiscovered
      split_ifs
      · exact h
      · have hrebuilt := @rebuildControl_engine { runtime with topologyModel := model }
          Q hQ.built hdiscovered discovered rebuild
        split <;> rename_i rebuilt hrebuild <;> rw [hrebuild] at hrebuilt
        · exact hrebuilt
        · exact hrebuilt

theorem EngineProperty.pollReplaySave (hQ : EngineProperty Q) (hsettled : runtime.Settled)
    (h : ∀ engine ∈ runtime.control, Q engine) :
    ∀ engine ∈ runtime.pollReplaySave.2.control, Q engine := by
  simp only [PluginCaptureRuntime.pollReplaySave]
  split
  · exact h
  · rename_i engine hcontrol
    have hpolled : Q engine.pollReplaySave := hQ.next hsettled h hcontrol .pollReplaySave
    split
    · rintro engine' ⟨⟩
      exact hpolled
    · split_ifs
      · rintro engine' ⟨⟩
        exact hpolled
      · rintro engine' ⟨⟩
        exact hpolled

theorem EngineProperty.ingest (hQ : EngineProperty Q) (hsettled : runtime.Settled)
    (h : ∀ engine ∈ runtime.control, Q engine) (streamId : CaptureStreamId)
    (packet : EncodedPacket) (codecExtraData : List UInt8) :
    ∀ engine ∈ (runtime.ingest streamId packet codecExtraData).2.control, Q engine := by
  unfold PluginCaptureRuntime.ingest
  split
  · exact h
  · rename_i engine hcontrol
    rintro engine' ⟨⟩
    exact hQ.next hsettled h hcontrol (.ingest streamId packet codecExtraData)

/-- The rule: the property holds of the engine, whichever it is, after every command. -/
theorem EngineProperty.command (hQ : EngineProperty Q) (hsettled : runtime.Settled)
    (h : ∀ engine ∈ runtime.control, Q engine) (call : Call) :
    ∀ engine ∈ (runtime.step call).2.control, Q engine := by
  cases call with
  | initializeRuntime discovered rebuild =>
      exact hQ.initializeRuntime hsettled h discovered rebuild
  | startRecording output starts => exact hQ.startRecording hsettled h output starts
  | stopRecording recorded rebuild => exact hQ.stopRecording hsettled h recorded rebuild
  | startReplay profile rebuild => exact hQ.startReplay hsettled h profile rebuild
  | saveReplay profile rebuild output library =>
      exact hQ.saveReplay hsettled h profile rebuild output library
  | stopReplay rebuild => exact hQ.stopReplay hsettled h rebuild
  | applyReplayConfiguration configuration rebuild =>
      exact hQ.applyReplayConfiguration hsettled h configuration rebuild
  | refreshReplayConfiguration profile rebuild =>
      exact hQ.applyReplayConfiguration hsettled h profile rebuild
  | refreshSceneTopology discovered rebuild =>
      exact hQ.refreshSceneTopology hsettled h discovered rebuild
  | pollReplaySave => exact hQ.pollReplaySave hsettled h
  | stop => simp [PluginCaptureRuntime.step, PluginCaptureRuntime.stop]
  | ingest streamId packet codecExtraData =>
      exact hQ.ingest hsettled h streamId packet codecExtraData
  | saveFinishes =>
      intro engine' hengine'
      obtain ⟨engine, hengine, rfl⟩ := Option.map_eq_some_iff.mp hengine'
      exact hQ.next hsettled h hengine .saveFinishes

end EngineRule

/-- The streams are registered, and all of them take part in both consumers. -/
structure Operational (engine : CaptureControlEngine PluginEncoderController) : Prop where
  ready : engine.initialized = true
  nonempty : engine.configuration.streams ≠ []
  both : ∀ stream ∈ engine.configuration.streams, stream.mode = .both

theorem configuredStream_mode {scenes : List SceneTopologyEntry} {rebuild : Rebuild}
    {entry : SceneTopologyEntry} {stream : ConfiguredStream}
    (hboth : entry.recordingEnabled = true ∧ entry.replayEnabled = true)
    (h : configuredStream scenes rebuild entry = some stream) : stream.mode = .both := by
  have hmode : participationMode entry = .both := by simp [participationMode, hboth]
  unfold configuredStream at h
  dsimp only at h
  split_ifs at h
  · cases h
    exact hmode
  · cases h
    exact hmode

theorem mapM_configuredStream_mode {scenes entries : List SceneTopologyEntry}
    {rebuild : Rebuild} {streams : List ConfiguredStream}
    (hboth : ∀ entry ∈ entries, entry.recordingEnabled = true ∧ entry.replayEnabled = true)
    (h : entries.mapM (configuredStream scenes rebuild) = some streams) :
    ∀ stream ∈ streams, stream.mode = .both := by
  induction entries generalizing streams with
  | nil =>
      obtain rfl : [] = streams := by simpa using h
      exact List.forall_mem_nil _
  | cons entry rest ih =>
      rw [List.forall_mem_cons] at hboth
      rw [List.mapM_cons] at h
      obtain ⟨stream, hstream, htail⟩ := Option.bind_eq_some_iff.mp h
      obtain ⟨later, hlater, hsome⟩ := Option.bind_eq_some_iff.mp htail
      obtain rfl := Option.some.inj hsome
      rw [List.forall_mem_cons]
      exact ⟨configuredStream_mode hboth.1 hstream, ih hboth.2 hlater⟩

/-- An engine that was built has registered the streams of the topology. -/
theorem built_engine {rebuild : Rebuild} (hnone : runtime.control = none)
    (hengine : (runtime.buildControlState rebuild).2.control = some engine) :
    ∃ streams, runtime.topologyModel.current.streams.mapM
        (configuredStream runtime.scenes rebuild) = some streams ∧
      (CaptureControlEngine.create ⟨runtime.replayConfiguration, streams⟩
        (.create runtime.replayConfiguration.memoryBudgetBytes)
        (PluginEncoderController.create (streams.countP (fun stream => stream.mode ≠ .disabled))
          rebuild.outcomes)).initializeEngine = (true, engine) := by
  unfold buildControlState at hengine
  split at hengine
  · simp [hnone] at hengine
  · rename_i streams hstreams
    split_ifs at hengine
    dsimp only at hengine
    split at hengine
    · cases hengine
    · rename_i built hbuild
      obtain rfl := Option.some.inj hengine
      exact ⟨streams, hstreams, hbuild⟩

theorem engineProperty_operational : EngineProperty Operational where
  step engine call hcoherent h := by
    have hstreams := hcoherent.step_streams call
    constructor
    · exact hcoherent.step_initialized h.ready call
    · rw [hstreams]
      exact h.nonempty
    · rw [hstreams]
      exact h.both
  built runtime rebuild engine htopology hnone hengine := by
    have htakesPart := htopology.takesPart
    obtain ⟨streams, hstreams, hinitialize⟩ := built_engine hnone hengine
    have hregistered := congrArg Prod.fst hinitialize
    have hnew := congrArg Prod.snd hinitialize
    dsimp only at hregistered hnew
    have hconfiguration : engine.configuration = ⟨runtime.replayConfiguration, streams⟩ := by
      rw [← hnew]
      exact (CaptureControlEngine.initializeEngine_sameConsumers _).configuration
    refine ⟨?_, ?_, ?_⟩
    · unfold CaptureControlEngine.initializeEngine at hregistered hnew
      rw [if_neg (by simp [CaptureControlEngine.create])] at hregistered hnew
      dsimp only at hregistered hnew
      rw [← hnew, if_pos hregistered]
      exact hregistered
    · rw [hconfiguration]
      have hidentities := mapM_configuredStream_identity hstreams
      intro hempty
      dsimp only at hempty
      rw [hempty, List.map_nil, eq_comm, List.map_eq_nil_iff] at hidentities
      exact htakesPart.nonempty hidentities
    · rw [hconfiguration]
      exact mapM_configuredStream_mode htakesPart.both hstreams

/-- What holds between two commands. -/
structure Serving (runtime : PluginCaptureRuntime) : Prop extends Settled runtime where
  operational : ∀ engine ∈ runtime.control, Operational engine

theorem serving_new (profile : ReplayConfiguration) :
    Serving { replayConfiguration := profile } where
  toSettled := settled_new profile
  operational engine hengine := by cases hengine

theorem Serving.step (h : runtime.Serving) (call : Call) (hcall : call ≠ .stop) :
    (runtime.step call).2.Serving where
  toSettled := h.toSettled.step hcall
  operational := engineProperty_operational.command h.toSettled h.operational call

theorem serving_run {profile : ReplayConfiguration} {past : List Transition}
    (hrun : Runs.Run step { replayConfiguration := profile } past runtime)
    (hcalls : ∀ t ∈ past, t.input ≠ .stop) : runtime.Serving := by
  suffices hkept : (∀ t ∈ past, t.input ≠ .stop) → runtime.Serving from hkept hcalls
  apply hrun.invariant (P := fun past runtime => (∀ t ∈ past, t.input ≠ .stop) → runtime.Serving)
  · exact fun _ => serving_new profile
  · intro past runtime call _ h hcalls
    rw [List.forall_mem_append, List.forall_mem_singleton] at hcalls
    exact (h hcalls.1).step call hcalls.2

theorem recordingState_of_none (h : runtime.control = none) : runtime.recordingState = .off := by
  simp [recordingState, h]

theorem replayState_of_none (h : runtime.control = none) : runtime.replayState = .off := by
  simp [replayState, h]

theorem recordingState_of_some (h : runtime.control = some engine) :
    runtime.recordingState = engine.recordingState := by
  simp [recordingState, h]

theorem replayState_of_some (h : runtime.control = some engine) :
    runtime.replayState = engine.replayState := by
  simp [replayState, h]

theorem Serving.recording (h : runtime.Serving) :
    runtime.recordingState = .off ∨ runtime.recordingState = .running := by
  cases hcontrol : runtime.control with
  | none => exact Or.inl (recordingState_of_none hcontrol)
  | some engine =>
      rw [recordingState_of_some hcontrol]
      exact (h.suits engine hcontrol).coherent.recording

theorem Serving.replay (h : runtime.Serving) :
    runtime.replayState = .off ∨ runtime.replayState = .running ∨
      runtime.replayState = .saving := by
  cases hcontrol : runtime.control with
  | none => exact Or.inl (replayState_of_none hcontrol)
  | some engine =>
      rw [replayState_of_some hcontrol]
      exact (h.suits engine hcontrol).coherent.replay

/-- A capture whose streams are registered does not fail. -/
theorem Serving.intact (h : runtime.Serving) : runtime.captureState ≠ .failed := by
  cases hcontrol : runtime.control with
  | none => simp [captureState, hcontrol]
  | some engine =>
      intro hfailed
      have hunready := ((h.suits engine hcontrol).coherent.failed
        (by simpa [captureState, hcontrol] using hfailed)).1
      simp [(h.operational engine hcontrol).ready] at hunready

theorem length_selectedIdsFrom {streams : List ConfiguredStream} (consumer : CaptureConsumer)
    (h : ∀ stream ∈ streams, stream.mode = .both) (captureId : CaptureStreamId) :
    (CaptureConfiguration.selectedIdsFrom consumer streams captureId).length = streams.length := by
  induction streams generalizing captureId with
  | nil => rfl
  | cons stream rest ih =>
      rw [List.forall_mem_cons] at h
      rw [CaptureConfiguration.selectedIdsFrom, if_neg (by simp [h.1]),
        if_pos (by simp [h.1, streamParticipates]), List.length_cons, List.length_cons, ih h.2]

theorem Operational.length_selectedCaptureIds (h : Operational engine)
    (consumer : CaptureConsumer) : (engine.configuration.selectedCaptureIds consumer).length =
      engine.configuration.streams.length :=
  length_selectedIdsFrom consumer h.both 0

theorem Operational.selectedCaptureIds_nonempty (h : Operational engine)
    (consumer : CaptureConsumer) :
    (engine.configuration.selectedCaptureIds consumer).isEmpty = false := by
  rw [List.isEmpty_eq_false_iff, ← List.length_pos_iff, h.length_selectedCaptureIds,
    List.length_pos_iff]
  exact h.nonempty

/-- The paths are as many as the streams exactly if there is a directory. -/
theorem Operational.outputPaths_iff (h : Operational engine) (consumer : CaptureConsumer)
    (output : OutputDirectory) (stem : String) :
    (outputPaths engine consumer output stem).length ≠
          (engine.configuration.selectedCaptureIds consumer).length ∨
        (outputPaths engine consumer output stem).isEmpty ↔
      output.directory = none := by
  have hcount := h.length_selectedCaptureIds consumer
  have hsome := List.length_pos_iff.mpr h.nonempty
  have hparticipates : engine.configuration.streams.filter
      (fun stream => streamParticipates stream.mode consumer) = engine.configuration.streams := by
    apply List.filter_eq_self.mpr
    intro stream hstream
    rw [h.both stream hstream]
    rfl
  unfold outputPaths
  cases output.directory with
  | none =>
      rw [hcount]
      simp
  | some directory =>
      rw [hcount, hparticipates]
      simp [h.nonempty]

theorem Operational.startRecording_invalid_iff (h : Operational engine)
    (hrecording : engine.recordingState = .off) (output : OutputDirectory) (stem : String)
    (starts : Bool) :
    (engine.startRecording (outputPaths engine .recording output stem) starts).1.status =
        .invalidState ↔ output.directory = none := by
  rw [← h.outputPaths_iff .recording output stem]
  generalize outputPaths engine .recording output stem = paths
  unfold CaptureControlEngine.startRecording
  dsimp only
  rw [if_neg (by simp [h.ready]), if_neg (by simp [hrecording])]
  by_cases hcount : paths.length ≠
      (engine.configuration.selectedCaptureIds .recording).length ∨ paths.isEmpty
  · rw [if_pos (Or.inr hcount)]
    simpa [invalid] using hcount
  · rw [if_neg (by simpa [hrecording] using hcount)]
    refine iff_of_false ?_ hcount
    cases starts with
    | false => rintro ⟨⟩
    | true =>
        simp only [if_true]
        split_ifs
        · rintro ⟨⟩
        · split
          · rintro ⟨⟩
          · split
            · rintro ⟨⟩
            · split_ifs
              · rintro ⟨⟩
              · rintro ⟨⟩

theorem Operational.startReplay_invalid_iff (h : Operational engine)
    (hreplay : engine.replayState = .off) :
    engine.startReplay.1.status = .invalidState ↔ engine.configuration.replay.enabled = false := by
  unfold CaptureControlEngine.startReplay
  rw [if_neg (by simp [h.ready])]
  cases henabled : engine.configuration.replay.enabled with
  | false => simp [invalid]
  | true =>
      rw [if_neg (by simp), if_neg (by simp [hreplay]),
        if_neg (by simp [hreplay, h.selectedCaptureIds_nonempty])]
      refine iff_of_false ?_ (by simp)
      dsimp only
      split
      · rintro ⟨⟩
      · split
        · rintro ⟨⟩
        · split_ifs
          · rintro ⟨⟩
          · rintro ⟨⟩

theorem Operational.saveReplay_invalid_iff (h : Operational engine)
    (hcoherent : engine.Coherent) (output : OutputDirectory) (stem : String)
    (library : Nat → MuxLibrary) :
    (engine.saveReplay (outputPaths engine .replay output stem) library).1.status =
        .invalidState ↔ engine.replayState ≠ .running ∨ output.directory = none := by
  rw [← h.outputPaths_iff .replay output stem]
  generalize outputPaths engine .replay output stem = paths
  unfold CaptureControlEngine.saveReplay
  dsimp only
  rcases hcoherent.replay with hoff | hrunning | hsaving
  · split_ifs <;> simp [invalid, hoff] at *
  · have henabled : engine.configuration.replay.enabled = true :=
      hcoherent.enabled (by simp [isReplayActive, hrunning])
    rw [if_neg (by simp [henabled]), if_neg (by simp [hrunning]), if_neg (by simp [hrunning]),
      if_neg (by simp [hrunning])]
    by_cases hcount : paths.length ≠
        (engine.configuration.selectedCaptureIds .replay).length ∨ paths.isEmpty
    · rw [if_pos hcount]
      simpa [invalid, hrunning] using hcount
    · rw [if_neg hcount]
      refine iff_of_false ?_ (by simpa [hrunning] using hcount)
      split_ifs
      · rintro ⟨⟩
      · split
        · rintro ⟨⟩
        · rintro ⟨⟩
  · have henabled : engine.configuration.replay.enabled = true :=
      hcoherent.enabled (by simp [isReplayActive, hsaving])
    rw [if_neg (by simp [henabled]), if_neg (by simp [hsaving]), if_neg (by simp [hsaving]),
      if_pos hsaving]
    simp [invalid, hsaving]

theorem stopRecording_status (hrecording : engine.recordingState = .running)
    (hcoherent : engine.Coherent) (recorded : Option SynchronizedRecordingConsumerResult) :
    (engine.stopRecording recorded).1.status = .succeeded := by
  have hattached := hcoherent.attached
  simp only [hrecording, isRecordingActive] at hattached
  unfold CaptureControlEngine.stopRecording
  rw [if_neg (by simp [hrecording])]
  split_ifs with hmissing
  · simp [Option.isNone_iff_eq_none.mp hmissing] at hattached
  · rfl

theorem stopReplay_status (hreplay : engine.replayState ≠ .off) :
    engine.stopReplay.1.status = .succeeded := by
  unfold CaptureControlEngine.stopReplay
  rw [if_neg hreplay]

theorem builtProperty_idle : BuiltProperty (fun engine => engine.inUse = false) :=
  fun _ rebuild engine _ hnone hengine =>
    ((buildControlState_rebuilt hnone rebuild).engines engine hengine).2

theorem builtProperty_recordingOff : BuiltProperty (fun engine => engine.recordingState = .off) :=
  fun runtime rebuild engine htopology hnone hengine =>
    (CaptureControlEngine.inUse_eq_false.mp
      (builtProperty_idle runtime rebuild engine htopology hnone hengine)).1

theorem builtProperty_replayOff : BuiltProperty (fun engine => engine.replayState = .off) :=
  fun runtime rebuild engine htopology hnone hengine =>
    (CaptureControlEngine.inUse_eq_false.mp
      (builtProperty_idle runtime rebuild engine htopology hnone hengine)).2

theorem recordingState_of_engines (h : ∀ engine ∈ runtime.control, engine.recordingState = .off) :
    runtime.recordingState = .off := by
  cases hcontrol : runtime.control with
  | none => exact recordingState_of_none hcontrol
  | some engine => exact (recordingState_of_some hcontrol).trans (h engine hcontrol)

theorem replayState_of_engines (h : ∀ engine ∈ runtime.control, engine.replayState = .off) :
    runtime.replayState = .off := by
  cases hcontrol : runtime.control with
  | none => exact replayState_of_none hcontrol
  | some engine => exact (replayState_of_some hcontrol).trans (h engine hcontrol)

/-- A profile only changes the configuration of an engine whose replay is off. -/
theorem Settled.refresh_of_replayOff (h : runtime.Settled) (hcontrol : runtime.control = some engine)
    (hoff : engine.replayState = .off) (profile : ReplayConfiguration) (rebuild : Rebuild) :
    (runtime.refreshReplayConfiguration profile rebuild).2 = { runtime with
      replayConfiguration := profile, control := some (runtime.configured engine profile) } := by
  unfold refreshReplayConfiguration applyReplayConfiguration configured
  split_ifs with hsame
  · rw [← hsame, ← hcontrol]
  · rw [hcontrol]
    dsimp only
    have hkept : (engine.applyReplayConfiguration profile).2 =
        engine.withReplayConfiguration profile := by
      rcases engine.applyReplayConfiguration_cases profile with ⟨hactive, -, -⟩ | ⟨-, happlied⟩
      · exact absurd hoff hactive
      · exact happlied
    have hbusy : engine.recordingState ≠ .off ∨ engine.replayState ≠ .off ∨
        (!runtime.topologyModel.captureEpochActive) = true := by
      by_cases hrecording : engine.recordingState = .off
      · have hidle : engine.inUse = false :=
          CaptureControlEngine.inUse_eq_false.mpr ⟨hrecording, hoff⟩
        have hepoch := h.epoch_iff hcontrol
        right; right
        simpa [hidle] using hepoch
      · exact Or.inl hrecording
    unfold finishCaptureEpochIfIdle
    rw [hkept]
    exact if_pos hbusy

/-- The profile is read first; what is left then is a replay that is off. -/
theorem Serving.refreshed (h : runtime.Serving) (profile : ReplayConfiguration)
    (rebuild : Rebuild) : (runtime.refreshReplayConfiguration profile rebuild).2.Serving :=
  h.step (.refreshReplayConfiguration profile rebuild) nofun

theorem configured_replayOff (hoff : engine.replayState = .off) (profile : ReplayConfiguration) :
    (runtime.configured engine profile).replayState = .off := by
  unfold configured
  split_ifs
  · exact hoff
  · rcases engine.applyReplayConfiguration_cases profile with ⟨hactive, -, -⟩ | ⟨-, happlied⟩
    · exact absurd hoff hactive
    · rw [happlied]
      exact hoff

theorem refresh_of_none (hcontrol : runtime.control = none) (profile : ReplayConfiguration)
    (rebuild : Rebuild) :
    (runtime.refreshReplayConfiguration profile rebuild).2.control = none := by
  unfold refreshReplayConfiguration applyReplayConfiguration
  split_ifs
  · exact hcontrol
  · dsimp only
    rw [hcontrol]

theorem Serving.refresh_replayOff (h : runtime.Serving) (hoff : runtime.replayState = .off)
    (profile : ReplayConfiguration) (rebuild : Rebuild) :
    (runtime.refreshReplayConfiguration profile rebuild).2.replayState = .off := by
  cases hcontrol : runtime.control with
  | none => exact replayState_of_none (refresh_of_none hcontrol profile rebuild)
  | some engine =>
      rw [replayState_of_some hcontrol] at hoff
      rw [h.refresh_of_replayOff hcontrol hoff]
      exact configured_replayOff hoff profile

theorem Serving.stopRecording_answer (h : runtime.Serving)
    (hrunning : runtime.recordingState = .running)
    (recorded : Option SynchronizedRecordingConsumerResult) (rebuild : Rebuild) :
    (runtime.stopRecording recorded rebuild).1.status = .succeeded ∧
      (runtime.stopRecording recorded rebuild).2.recordingState = .off := by
  cases hcontrol : runtime.control with
  | none => simp [recordingState_of_none hcontrol] at hrunning
  | some engine =>
      rw [recordingState_of_some hcontrol] at hrunning
      unfold stopRecording
      rw [hcontrol]
      refine ⟨stopRecording_status hrunning (h.suits engine hcontrol).coherent recorded, ?_⟩
      apply recordingState_of_engines
      apply finishCaptureEpochIfIdle_engine builtProperty_recordingOff (by exact h.topology)
      rintro engine' ⟨⟩
      exact CaptureControlEngine.stopRecording_off

theorem Serving.stopReplay_answer (h : runtime.Serving) (hrunning : runtime.replayState ≠ .off)
    (rebuild : Rebuild) :
    (runtime.stopReplay rebuild).1.status = .succeeded ∧
      (runtime.stopReplay rebuild).2.replayState = .off := by
  cases hcontrol : runtime.control with
  | none => exact absurd (replayState_of_none hcontrol) hrunning
  | some engine =>
      rw [replayState_of_some hcontrol] at hrunning
      unfold stopReplay
      rw [hcontrol]
      refine ⟨stopReplay_status hrunning, ?_⟩
      apply replayState_of_engines
      apply finishCaptureEpochIfIdle_engine builtProperty_replayOff (by exact h.topology)
      rintro engine' ⟨⟩
      exact CaptureControlEngine.stopReplay_off

theorem Serving.toggleRecording_ok_iff (h : runtime.Serving) (readings : CommandReadings) :
    (runtime.toggleRecording readings).1.ok = true ↔
      (runtime.toggleRecording readings).2.recordingState ≠ runtime.recordingState := by
  unfold toggleRecording
  rcases h.recording with hoff | hrunning
  · rw [hoff]
    unfold startRecording
    dsimp only
    split
    · simp [failed, ControlCommandResult.ok, hoff]
    · rename_i engine hcontrol
      exact (h.suits engine hcontrol).coherent.startRecording_ok_iff _ _
  · obtain ⟨hstatus, hstopped⟩ :=
      h.stopRecording_answer hrunning readings.recorded readings.rebuild
    simp [hrunning, hstatus, hstopped, ControlCommandResult.ok]

theorem Serving.toggleReplay_ok_iff (h : runtime.Serving) (readings : CommandReadings) :
    (runtime.toggleReplay readings).1.ok = true ↔
      (runtime.toggleReplay readings).2.replayState ≠ runtime.replayState := by
  unfold toggleReplay
  rcases h.replay with hoff | hrunning | hsaving
  · rw [hoff]
    have hrefreshed := h.refreshed readings.profile readings.rebuild
    have hkept := h.refresh_replayOff hoff readings.profile readings.rebuild
    unfold startReplay
    dsimp only
    split
    · simp [failed, ControlCommandResult.ok, hkept]
    · rename_i engine hcontrol
      exact (hrefreshed.suits engine hcontrol).coherent.startReplay_ok_iff
  · obtain ⟨hstatus, hstopped⟩ := h.stopReplay_answer (by simp [hrunning]) readings.rebuild
    simp [hrunning, hstatus, hstopped, ControlCommandResult.ok]
  · simp [hsaving, invalid, ControlCommandResult.ok]

theorem Serving.toggleRecording_invalid_iff (h : runtime.Serving) (readings : CommandReadings) :
    (runtime.toggleRecording readings).1.status = .invalidState ↔
      runtime.control.isSome ∧ runtime.recordingState = .off ∧
        readings.output.directory = none := by
  unfold toggleRecording
  rcases h.recording with hoff | hrunning
  · rw [hoff]
    unfold startRecording
    dsimp only
    split
    · rename_i hcontrol
      simp [failed, hcontrol]
    · rename_i engine hcontrol
      rw [recordingState_of_some hcontrol] at hoff
      have hinvalid := (h.operational engine hcontrol).startRecording_invalid_iff hoff readings.output
      simpa [hcontrol] using hinvalid _ readings.starts
  · have hstatus := (h.stopRecording_answer hrunning readings.recorded readings.rebuild).1
    simp [hrunning, hstatus]

theorem Serving.toggleReplay_invalid_iff (h : runtime.Serving) (readings : CommandReadings) :
    (runtime.toggleReplay readings).1.status = .invalidState ↔
      runtime.control.isSome ∧ (runtime.replayState = .saving ∨
        runtime.replayState = .off ∧ readings.profile.enabled = false) := by
  unfold toggleReplay
  rcases h.replay with hoff | hrunning | hsaving
  · rw [hoff]
    unfold startReplay
    dsimp only
    cases hcontrol : runtime.control with
    | none =>
        rw [refresh_of_none hcontrol]
        simp [failed]
    | some engine =>
        have hrefreshed := h.refreshed readings.profile readings.rebuild
        rw [replayState_of_some hcontrol] at hoff
        rw [h.refresh_of_replayOff hcontrol hoff] at hrefreshed ⊢
        have hinvalid := (hrefreshed.operational _ rfl).startReplay_invalid_iff
          (configured_replayOff hoff readings.profile)
        rw [(hrefreshed.suits _ rfl).replay] at hinvalid
        simpa using hinvalid
  · have hstatus := (h.stopReplay_answer (by simp [hrunning]) readings.rebuild).1
    simp [hrunning, hstatus]
  · cases hcontrol : runtime.control with
    | none => simp [replayState_of_none hcontrol] at hsaving
    | some engine => simp [hsaving, invalid]

theorem Serving.saveReplay_invalid_iff (h : runtime.Serving) (readings : CommandReadings) :
    (runtime.saveReplay readings.profile readings.rebuild readings.output
        readings.library).1.status = .invalidState ↔
      (runtime.refreshReplayConfiguration readings.profile readings.rebuild).2.control.isSome ∧
        ((runtime.refreshReplayConfiguration readings.profile
            readings.rebuild).2.replayState ≠ .running ∨ readings.output.directory = none) := by
  have hrefreshed := h.refreshed readings.profile readings.rebuild
  unfold saveReplay
  dsimp only
  cases hcontrol : (runtime.refreshReplayConfiguration readings.profile
      readings.rebuild).2.control with
  | none => simp [failed]
  | some engine =>
      have hinvalid := (hrefreshed.operational engine hcontrol).saveReplay_invalid_iff
        (hrefreshed.suits engine hcontrol).coherent readings.output
      rw [replayState_of_some hcontrol]
      simpa using hinvalid _ readings.library

/-- What a runtime answers to the commands of the controls, in terms of what it finds. -/
structure AnswersExactly (runtime : PluginCaptureRuntime) (readings : CommandReadings) : Prop where
  recordingToggled : (runtime.toggleRecording readings).1.ok = true ↔
    (runtime.toggleRecording readings).2.recordingState ≠ runtime.recordingState
  replayToggled : (runtime.toggleReplay readings).1.ok = true ↔
    (runtime.toggleReplay readings).2.replayState ≠ runtime.replayState
  recordingInvalid : (runtime.toggleRecording readings).1.status = .invalidState ↔
    runtime.control.isSome ∧ runtime.recordingState = .off ∧ readings.output.directory = none
  replayInvalid : (runtime.toggleReplay readings).1.status = .invalidState ↔
    runtime.control.isSome ∧ (runtime.replayState = .saving ∨
      runtime.replayState = .off ∧ readings.profile.enabled = false)
  saveInvalid : (runtime.saveReplay readings.profile readings.rebuild readings.output
      readings.library).1.status = .invalidState ↔
    (runtime.refreshReplayConfiguration readings.profile readings.rebuild).2.control.isSome ∧
      ((runtime.refreshReplayConfiguration readings.profile
          readings.rebuild).2.replayState ≠ .running ∨ readings.output.directory = none)

/-- In every run up to the end of the plugin a toggle is answered with success exactly if it has
changed the state of its consumer, and a command is refused for its state only for want of an
output directory, for a profile without replay, or during a save. -/
theorem commands_answered {profile : ReplayConfiguration} {past : List Transition}
    (hrun : Runs.Run step { replayConfiguration := profile } past runtime)
    (hcalls : ∀ t ∈ past, t.input ≠ .stop) (readings : CommandReadings) :
    runtime.AnswersExactly readings := by
  have h := serving_run hrun hcalls
  exact ⟨h.toggleRecording_ok_iff readings, h.toggleReplay_ok_iff readings,
    h.toggleRecording_invalid_iff readings, h.toggleReplay_invalid_iff readings,
    h.saveReplay_invalid_iff readings⟩

/-- While a save is being written the replay is not stopped by its toggle. -/
theorem commands_answered_sample :
    (Runs.exec step { replayConfiguration := replayProfile } firstSave).replayState = .saving ∧
      ((Runs.exec step { replayConfiguration := replayProfile } firstSave).toggleReplay
        ⟨replayProfile, {}, ⟨some "output", 0⟩, true, none,
          fun _ => CaptureControlEngine.obligingLibrary⟩).1.status = .invalidState := by
  have hcalls : ∀ call ∈ firstSave, call ≠ .stop := by
    simp [firstSave, firstSave.deliver, firstSave.save]
  have hanswers := commands_answered
    (Runs.run_exec ({ replayConfiguration := replayProfile } : PluginCaptureRuntime) firstSave)
    (Runs.forall_history_input.mpr hcalls)
    ⟨replayProfile, {}, ⟨some "output", 0⟩, true, none,
      fun _ => CaptureControlEngine.obligingLibrary⟩
  exact ⟨by decide, hanswers.replayInvalid.mpr ⟨by decide, Or.inl (by decide)⟩⟩

end PluginCaptureRuntime

end ObsSyncReplay
