import ObsSyncReplay.Config.ReplayConfiguration
import ObsSyncReplay.Control.SavedReplays
import ObsSyncReplay.Capture.RetentionAccounts

/-!
What the profile of OBS comes to. The runtime reads it again at every command about the replay, and
the profile that was read last governs: whether there is a replay, how long it is, and how much a
session may retain for it.
-/

namespace ObsSyncReplay

namespace SynchronizedCaptureSession

variable {session : SynchronizedCaptureSession}

theorem accept_ringCapacityBytes (captured : CapturedEncodedPacket) :
    (session.accept captured).ringCapacityBytes = session.ringCapacityBytes := by
  unfold accept
  dsimp only
  split_ifs
  · rfl
  · rfl

theorem setReplayRetentionEnabled_ringCapacityBytes (enabled : Bool) :
    (session.setReplayRetentionEnabled enabled).ringCapacityBytes = session.ringCapacityBytes := by
  cases enabled with
  | true => rfl
  | false => rfl

theorem setRingCapacityBytes_ringCapacityBytes (capacityBytes : Nat) :
    (session.setRingCapacityBytes capacityBytes).ringCapacityBytes = capacityBytes := by
  unfold setRingCapacityBytes
  dsimp only
  split_ifs
  · rfl
  · rfl

/-- Only `SetRingCapacityBytes` changes the size. -/
theorem step_ringCapacityBytes {call : Call} (hcall : ∀ bytes, call ≠ .setRingCapacityBytes bytes) :
    (session.step call).2.ringCapacityBytes = session.ringCapacityBytes := by
  cases call with
  | registerStream streamId name config =>
      simp only [step, registerStream]
      split_ifs <;> rfl
  | subscribe consumer =>
      simp only [step, subscribe]
      split
      · rfl
      · split_ifs <;> rfl
  | unsubscribe consumer =>
      simp only [step, unsubscribe]
      split
      · rfl
      · split_ifs <;> rfl
  | start =>
      simp only [step, start]
      split_ifs <;> rfl
  | stop => rfl
  | ingest streamId packet codecExtraData =>
      simp only [step, ingest]
      split_ifs
      · rfl
      · rfl
      · exact accept_ringCapacityBytes _
  | setRingCapacityBytes bytes => exact absurd rfl (hcall bytes)
  | setReplayRetentionEnabled enabled => exact setReplayRetentionEnabled_ringCapacityBytes enabled

/-- What a session retains fits into its ring. -/
theorem Reachable.retained_le (h : session.Reachable) :
    payloadBytes (retainedPackets session.streams) ≤ session.ringCapacityBytes := by
  obtain ⟨ringCapacityBytes, past, hrun⟩ := h
  have hbalanced := balanced_run hrun
  rw [← totalBytes_eq, ← retainedBytes_of_counted hbalanced.counted, ← hbalanced.total]
  exact hbalanced.bounded

/-- A session that retains for no replay has nothing. -/
theorem Reachable.retained_eq_zero (h : session.Reachable)
    (hdisabled : session.replayRetentionEnabled = false) :
    payloadBytes (retainedPackets session.streams) = 0 := by
  obtain ⟨ringCapacityBytes, past, hrun⟩ := h
  have hbalanced := balanced_run hrun
  rw [← totalBytes_eq, ← retainedBytes_of_counted hbalanced.counted, ← hbalanced.total]
  exact hbalanced.disabled hdisabled

end SynchronizedCaptureSession

namespace CaptureControlEngine

variable {ε : Type} {engine : CaptureControlEngine ε}

/-- The ring has the size that the configuration asks for. -/
def Sized (engine : CaptureControlEngine ε) : Prop :=
  engine.capture.ringCapacityBytes = engine.configuration.replay.memoryBudgetBytes

theorem sizedProperty_ringCapacityBytes (capacityBytes : Nat) :
    SizedProperty (fun session => session.ringCapacityBytes = capacityBytes) :=
  fun _ _ hcall h => (SynchronizedCaptureSession.step_ringCapacityBytes hcall).trans h

variable [EncoderController ε]

/-- Only `ApplyReplayConfiguration` changes the configuration. -/
theorem Coherent.step_configuration (h : engine.Coherent) {call : ControlCall}
    (hcall : ∀ configuration, call ≠ .applyReplayConfiguration configuration) :
    (engine.step call).2.configuration = engine.configuration := by
  cases call with
  | initializeEngine => exact engine.initializeEngine_sameConsumers.configuration
  | startRecording paths starts => exact h.startRecording_configuration paths starts
  | stopRecording result => exact stopRecording_configuration
  | startReplay => exact h.startReplay_configuration
  | stopReplay => exact stopReplay_configuration
  | saveReplay paths library => exact (engine.saveReplay_sameConsumers paths library).configuration
  | applyReplayConfiguration configuration => exact absurd rfl (hcall configuration)
  | pollReplaySave => exact engine.pollReplaySave_sameConsumers.configuration
  | waitForReplaySave => exact engine.waitForReplaySave_sameConsumers.configuration
  | shutdown result =>
      simp only [CaptureControlEngine.step, CaptureControlEngine.shutdown]
      split_ifs
      · rfl
      · exact stopRecording_configuration.trans stopReplay_configuration
  | ingest streamId packet codecExtraData => rfl
  | saveFinishes => rfl

theorem Sized.step (h : engine.Sized) (hcoherent : engine.Coherent) (call : ControlCall) :
    (engine.step call).2.Sized := by
  have hsized := sizedProperty_ringCapacityBytes engine.configuration.replay.memoryBudgetBytes
  by_cases hcall : ∃ configuration, call = .applyReplayConfiguration configuration
  · obtain ⟨configuration, rfl⟩ := hcall
    obtain ⟨capture, -, happlied⟩ := hsized.applyReplayConfiguration h configuration
    change (engine.applyReplayConfiguration configuration).2.Sized
    rw [Sized, happlied, applyReplayConfiguration_configuration]
    exact SynchronizedCaptureSession.setRingCapacityBytes_ringCapacityBytes _
  · have hother : ∀ configuration, call ≠ .applyReplayConfiguration configuration :=
      fun configuration hsame => hcall ⟨configuration, hsame⟩
    rw [Sized, hcoherent.step_configuration hother]
    exact hsized.step hcoherent h hother

end CaptureControlEngine

namespace PluginCaptureRuntime

variable {runtime : PluginCaptureRuntime} {engine : CaptureControlEngine PluginEncoderController}

/-- What a command reads from the profile. -/
def Call.profileRead : Call → Option ReplayConfiguration
  | .startReplay profile _ => some profile
  | .saveReplay profile _ _ _ => some profile
  | .applyReplayConfiguration configuration _ => some configuration
  | .refreshReplayConfiguration profile _ => some profile
  | _ => none

def profilesRead (past : List Transition) : List ReplayConfiguration :=
  past.filterMap (fun t => t.input.profileRead)

theorem finishCaptureEpochIfIdle_replayConfiguration (rebuild : Rebuild) :
    (runtime.finishCaptureEpochIfIdle rebuild).replayConfiguration =
      runtime.replayConfiguration := by
  unfold finishCaptureEpochIfIdle
  split
  · rfl
  · split_ifs
    · rfl
    · dsimp only
      split
      · rfl
      · split_ifs
        · rfl
        · exact (rebuildControl_rebuilt _ rebuild).replay

theorem applyReplayConfiguration_replayConfiguration (configuration : ReplayConfiguration)
    (rebuild : Rebuild) :
    (runtime.applyReplayConfiguration configuration rebuild).2.replayConfiguration =
      configuration := by
  unfold applyReplayConfiguration
  split_ifs with hsame
  · exact hsame
  · dsimp only
    split
    · rfl
    · exact finishCaptureEpochIfIdle_replayConfiguration rebuild

theorem initializeRuntime_replayConfiguration (discovered : List DiscoveredScene)
    (rebuild : Rebuild) :
    (runtime.initializeRuntime discovered rebuild).2.replayConfiguration =
      runtime.replayConfiguration := by
  unfold initializeRuntime
  split_ifs with hcontrol
  · rfl
  · have hnone : runtime.control = none := by simpa using hcontrol
    unfold installSceneTargets
    dsimp only
    split <;> rename_i hinstall <;> split at hinstall <;> cases hinstall
    · rfl
    · rename_i scenes _
      have hbuilt := (@buildControlState_rebuilt { runtime with
        topologyModel := (runtime.topologyModel.applyDiscovery discovered false).2
        pendingScenes := [], scenes := scenes } hnone rebuild).replay
      split <;> rename_i hbuild <;> rw [hbuild] at hbuilt
      · exact hbuilt
      · exact hbuilt

theorem refreshSceneTopology_replayConfiguration (discovered : List DiscoveredScene)
    (rebuild : Rebuild) :
    (runtime.refreshSceneTopology discovered rebuild).2.replayConfiguration =
      runtime.replayConfiguration := by
  unfold refreshSceneTopology
  split_ifs
  · rfl
  · dsimp only
    split
    · rfl
    · rename_i model _ _
      split_ifs
      · rfl
      · have hrebuilt := (@rebuildControl_rebuilt { runtime with topologyModel := model }
          discovered rebuild).replay
        split <;> rename_i hrebuild <;> rw [hrebuild] at hrebuilt
        · exact hrebuilt
        · exact hrebuilt

/-- A command leaves the runtime with the profile that it has read. -/
theorem step_replayConfiguration (call : Call) :
    (runtime.step call).2.replayConfiguration =
      call.profileRead.getD runtime.replayConfiguration := by
  cases call with
  | initializeRuntime discovered rebuild =>
      exact initializeRuntime_replayConfiguration discovered rebuild
  | startRecording output starts =>
      simp only [step, Prod.map_snd, id, startRecording]
      split
      · rfl
      · rfl
  | stopRecording recorded rebuild =>
      simp only [step, Prod.map_snd, id, stopRecording]
      split
      · rfl
      · exact finishCaptureEpochIfIdle_replayConfiguration rebuild
  | startReplay profile rebuild =>
      have happlied := @applyReplayConfiguration_replayConfiguration runtime profile rebuild
      simp only [step, Prod.map_snd, id, startReplay, refreshReplayConfiguration]
      split
      · exact happlied
      · exact happlied
  | saveReplay profile rebuild output library =>
      have happlied := @applyReplayConfiguration_replayConfiguration runtime profile rebuild
      simp only [step, Prod.map_snd, id, saveReplay, refreshReplayConfiguration]
      split
      · exact happlied
      · exact happlied
  | stopReplay rebuild =>
      simp only [step, Prod.map_snd, id, stopReplay]
      split
      · rfl
      · exact finishCaptureEpochIfIdle_replayConfiguration rebuild
  | applyReplayConfiguration configuration rebuild =>
      exact applyReplayConfiguration_replayConfiguration configuration rebuild
  | refreshReplayConfiguration profile rebuild =>
      exact applyReplayConfiguration_replayConfiguration profile rebuild
  | refreshSceneTopology discovered rebuild =>
      exact refreshSceneTopology_replayConfiguration discovered rebuild
  | pollReplaySave =>
      simp only [step, Prod.map_snd, id, pollReplaySave]
      split
      · rfl
      · split
        · rfl
        · split_ifs
          · rfl
          · rfl
  | stop => rfl
  | ingest streamId packet codecExtraData =>
      simp only [step, Prod.map_snd, id, ingest]
      split
      · rfl
      · rfl
  | saveFinishes => rfl

theorem replayConfiguration_run {profile : ReplayConfiguration} {past : List Transition}
    (hrun : Runs.Run step { replayConfiguration := profile } past runtime) :
    runtime.replayConfiguration = (profilesRead past).getLast?.getD profile := by
  apply hrun.invariant (P := fun past runtime =>
    runtime.replayConfiguration = (profilesRead past).getLast?.getD profile)
  · rfl
  · intro past runtime call _ h
    rw [step_replayConfiguration, profilesRead, List.filterMap_append, h]
    cases hread : call.profileRead with
    | none => simp [Runs.transition, hread, profilesRead]
    | some configuration => simp [Runs.transition, hread]

theorem engineProperty_sized : EngineProperty CaptureControlEngine.Sized where
  step engine call hcoherent h := h.step hcoherent call
  built runtime rebuild engine htopology hnone hengine := by
    obtain ⟨streams, -, hinitialize⟩ := built_engine hnone hengine
    have hnew := congrArg Prod.snd hinitialize
    dsimp only at hnew
    rw [← hnew]
    exact CaptureControlEngine.Sized.step (by exact rfl) (CaptureControlEngine.coherent_create _ _ _)
      .initializeEngine

/-- The rule: what every new engine has and its calls keep, the engine of a run has. -/
theorem EngineProperty.run {Q : CaptureControlEngine PluginEncoderController → Prop}
    (hQ : EngineProperty Q) {profile : ReplayConfiguration} {past : List Transition}
    (hrun : Runs.Run PluginCaptureRuntime.step { replayConfiguration := profile } past runtime)
    (hcalls : ∀ t ∈ past, t.input ≠ .stop) : ∀ engine ∈ runtime.control, Q engine := by
  suffices hkept : (∀ t ∈ past, t.input ≠ .stop) →
      runtime.Settled ∧ ∀ engine ∈ runtime.control, Q engine from (hkept hcalls).2
  apply hrun.invariant (P := fun past runtime => (∀ t ∈ past, t.input ≠ .stop) →
    runtime.Settled ∧ ∀ engine ∈ runtime.control, Q engine)
  · exact fun _ => ⟨settled_new profile, fun engine hengine => by cases hengine⟩
  · intro past runtime call _ h hcalls
    rw [List.forall_mem_append, List.forall_mem_singleton] at hcalls
    obtain ⟨hsettled, hkept⟩ := h hcalls.1
    exact ⟨hsettled.step hcalls.2, hQ.command hsettled hkept call⟩

/-- What the runtime does is what this configuration asks for. Of a replay that is off nothing is
left, whatever a recording goes on to capture. -/
structure GovernedBy (runtime : PluginCaptureRuntime) (configuration : ReplayConfiguration) :
    Prop where
  available : runtime.replayAvailable = configuration.enabled
  applied : ∀ engine ∈ runtime.control, engine.configuration.replay = configuration
  retained : ∀ engine ∈ runtime.control,
    payloadBytes (retainedPackets engine.capture.streams) ≤ configuration.memoryBudgetBytes
  off : configuration.enabled = false → runtime.replayState = .off
  nothing : configuration.enabled = false → ∀ engine ∈ runtime.control,
    engine.recordingState ≠ .off → payloadBytes (retainedPackets engine.capture.streams) = 0

theorem Settled.governedBy (h : runtime.Settled)
    (hreachable : ∀ engine ∈ runtime.control, engine.capture.Reachable)
    (hsized : ∀ engine ∈ runtime.control, engine.Sized) :
    runtime.GovernedBy runtime.replayConfiguration := by
  have hoff : runtime.replayConfiguration.enabled = false → ∀ engine ∈ runtime.control,
      engine.replayState = .off := by
    intro hdisabled engine hengine
    have hsuits := h.suits engine hengine
    by_contra hon
    have henabled := hsuits.coherent.enabled (by simpa [isReplayActive] using hon)
    rw [hsuits.replay, hdisabled] at henabled
    cases henabled
  constructor
  · unfold replayAvailable
    split
    · rfl
    · rename_i engine hcontrol
      rw [(h.suits engine hcontrol).replay]
  · exact fun engine hengine => (h.suits engine hengine).replay
  · intro engine hengine
    have hfits := (hreachable engine hengine).retained_le
    rwa [hsized engine hengine, (h.suits engine hengine).replay] at hfits
  · intro hdisabled
    unfold replayState
    cases hcontrol : runtime.control with
    | none => rfl
    | some engine => exact hoff hdisabled engine hcontrol
  · intro hdisabled engine hengine hrecording
    have hretention := (h.suits engine hengine).coherent.retention
      (CaptureControlEngine.inUse_eq_true.mpr (Or.inl hrecording))
    apply (hreachable engine hengine).retained_eq_zero
    rw [hretention, hoff hdisabled engine hengine]
    rfl

/-- In every run up to a stop whose profiles are read from OBS, the one that was read last governs,
and what it asks for is well formed. -/
theorem profile_governs {first : Option ObsProfile} {later : List (Option ObsProfile)}
    {past : List Transition}
    (hrun : Runs.Run step { replayConfiguration := readObsReplayConfiguration first } past runtime)
    (hcalls : ∀ t ∈ past, t.input ≠ .stop)
    (hread : profilesRead past = later.map readObsReplayConfiguration) :
    (readObsReplayConfiguration (later.getLast?.getD first)).WellFormed ∧
      runtime.GovernedBy (readObsReplayConfiguration (later.getLast?.getD first)) := by
  have hlast : runtime.replayConfiguration =
      readObsReplayConfiguration (later.getLast?.getD first) := by
    rw [replayConfiguration_run hrun, hread, List.getLast?_map, Option.getD_map]
  refine ⟨wellFormed_readObsReplayConfiguration _, ?_⟩
  rw [← hlast]
  exact (serving_run hrun hcalls).toSettled.governedBy (engineProperty_reachable.run hrun hcalls)
    (engineProperty_sized.run hrun hcalls)

/-- A profile in simple mode that keeps twenty seconds within a megabyte. -/
def simpleProfile (enabled : Bool) : ObsProfile where
  getBool _ key := enabled && key = "RecRB"
  getInt _ key := if key = "RecRBTime" then 20 else 1

/-- The replay is switched off in the profile while a recording goes on. -/
def profileCalls : List Call :=
  [.initializeRuntime [] {},
    .startReplay (readObsReplayConfiguration (some (simpleProfile true))) {},
    .ingest 0 (SynchronizedCaptureSession.replayPacket 0 true) [1],
    .startRecording ⟨some "output", 0⟩ true,
    .refreshReplayConfiguration (readObsReplayConfiguration (some (simpleProfile false))) {}]

theorem profile_governs_sample :
    (Runs.exec step { replayConfiguration := readObsReplayConfiguration none }
        profileCalls).recordingState = .running ∧
      (Runs.exec step { replayConfiguration := readObsReplayConfiguration none }
        profileCalls).GovernedBy (readObsReplayConfiguration (some (simpleProfile false))) := by
  have hcalls : ∀ call ∈ profileCalls, call ≠ .stop := by simp [profileCalls]
  refine ⟨by decide, ?_⟩
  exact (@profile_governs _ none [some (simpleProfile true), some (simpleProfile false)] _
    (Runs.run_exec _ profileCalls) (Runs.forall_history_input.mpr hcalls) rfl).2

end PluginCaptureRuntime

end ObsSyncReplay
