import ObsSyncReplay.Control.ConsumerStates
import ObsSyncReplay.Control.PluginCaptureRuntime
import ObsSyncReplay.Topology.CaptureEpoch

/-!
The topology of the runtime and its engine, between two commands. The commands begin and end
the epochs beside what the engine does, and the engine is replaced when an epoch ends with
another topology staged.
-/

namespace ObsSyncReplay

def identities (snapshot : SceneTopologySnapshot) : List StreamIdentity :=
  snapshot.streams.map SceneTopologyEntry.identity

theorem identities_of_participants {left right : SceneTopologySnapshot}
    (h : participants left = participants right) : identities left = identities right := by
  have hmapped := congrArg (List.map Prod.fst) h
  unfold participants at hmapped
  rwa [List.map_map, List.map_map] at hmapped

namespace SceneTopologyModel

variable {model : SceneTopologyModel}

def Reachable (model : SceneTopologyModel) : Prop := ∃ past, Runs.Run step {} past model

theorem Reachable.step (h : model.Reachable) (call : Call) : (model.step call).2.Reachable := by
  obtain ⟨past, hrun⟩ := h
  exact ⟨_, hrun.next call⟩

theorem Reachable.stagesInEpoch (h : model.Reachable) : model.StagesInEpoch := by
  obtain ⟨past, hrun⟩ := h
  exact (followsLatest_run hrun).1

theorem Reachable.participants (h : model.Reachable) (hactive : model.captureEpochActive = true) :
    participants model.current = participants model.activeEpoch := by
  obtain ⟨past, hrun⟩ := h
  exact ((epoch_immutable hrun).1 hactive).participants

theorem applyDiscovery_unchanged {scenes : List DiscoveredScene} {active : Bool}
    {model' : SceneTopologyModel}
    (h : model.applyDiscovery scenes active = (.unchanged, model')) : model' = model := by
  unfold applyDiscovery at h
  dsimp only at h
  split_ifs at h <;> cases h
  rfl

@[simp] theorem beginCaptureEpoch_current :
    model.beginCaptureEpoch.current = model.current := by
  unfold beginCaptureEpoch
  split_ifs <;> rfl

@[simp] theorem beginCaptureEpoch_pending :
    model.beginCaptureEpoch.pending = model.pending := by
  unfold beginCaptureEpoch
  split_ifs <;> rfl

@[simp] theorem endCaptureEpoch_captureEpochActive :
    model.endCaptureEpoch.2.captureEpochActive = false := by
  unfold endCaptureEpoch
  split_ifs with hidle
  · simpa using hidle
  · cases model.pending <;> rfl

theorem endCaptureEpoch_current (h : model.pending = none) :
    model.endCaptureEpoch.2.current = model.current := by
  unfold endCaptureEpoch
  rw [h]
  split_ifs <;> rfl

theorem endCaptureEpoch_applied (hactive : model.captureEpochActive = true) :
    model.endCaptureEpoch.1 = model.pending := by
  unfold endCaptureEpoch
  rw [if_neg (by simp [hactive])]
  cases model.pending <;> rfl

end SceneTopologyModel

namespace CaptureControlEngine

variable {ε : Type} {engine : CaptureControlEngine ε}

variable [EncoderController ε]

/-! What the commands answer agrees with what they leave on. -/

theorem Coherent.startRecording_ok_iff (h : engine.Coherent) (paths : List String)
    (starts : Bool) : (engine.startRecording paths starts).1.ok = true ↔
      (engine.startRecording paths starts).2.recordingState ≠ .off := by
  by_cases hbegins : engine.BeginsRecording paths starts
  · rw [h.startRecording_of_begins hbegins]
    rcases (engine.attachRecording paths).captureActivated.reconcileEncoderDemand with
      ⟨_ | _, reconciled⟩
    · simp [abandonRecording, ControlCommandResult.ok, CaptureControlEngine.detachRecording]
    · simp [ControlCommandResult.ok]
  · have hstarted (hinitialized : ¬(!engine.initialized) = true)
        (hcount : ¬(engine.recordingState ≠ .off ∨
          paths.length ≠ (engine.configuration.selectedCaptureIds .recording).length ∨
            paths.isEmpty = true)) : starts = false := by
      push Not at hcount
      rw [← Bool.not_eq_true]
      intro hstarts
      apply hbegins
      exact ⟨by simpa using hinitialized, hcount.1, hcount.2.1, by simpa using hcount.2.2, hstarts⟩
    unfold CaptureControlEngine.startRecording
    dsimp only
    split_ifs with hinitialized hactive hcount hstarts
    · have hoff : engine.recordingState = .off := by
        by_contra hon
        have hready := h.ready (inUse_eq_true.mpr (Or.inl hon))
        simp [hready] at hinitialized
      simp [invalid, ControlCommandResult.ok, hoff]
    · have hon : engine.recordingState ≠ .off := by
        intro hoff
        simp [hoff] at hactive
      simp [ControlCommandResult.ok, hon]
    · have hoff : engine.recordingState = .off :=
        h.recording.resolve_right (fun hon => hactive (Or.inl hon))
      simp [invalid, ControlCommandResult.ok, hoff]
    · simp [hstarted hinitialized hcount] at hstarts
    · simp [hstarted hinitialized hcount] at hstarts
    · simp [ControlCommandResult.ok]
    · simp_all

theorem Coherent.startReplay_ok_iff (h : engine.Coherent) :
    engine.startReplay.1.ok = true ↔ engine.startReplay.2.replayState ≠ .off := by
  by_cases hbegins : engine.BeginsReplay
  · rw [h.startReplay_of_begins hbegins]
    rcases engine.attachReplay.captureActivated.reconcileEncoderDemand with ⟨_ | _, reconciled⟩
    · simp [abandonReplay, ControlCommandResult.ok]
    · simp [ControlCommandResult.ok]
  · rw [startReplay_of_not_begins hbegins]
    have hready (hon : engine.replayState ≠ .off) :
        engine.initialized = true ∧ engine.configuration.replay.enabled = true := by
      refine ⟨h.ready (inUse_eq_true.mpr (Or.inr hon)), h.enabled ?_⟩
      simp [isReplayActive, hon]
    unfold CaptureControlEngine.startReplay
    split_ifs with hinitialized henabled hactive hcount
    · have hoff : engine.replayState = .off := by
        by_contra hon
        simp [(hready hon).1] at hinitialized
      simp [invalid, ControlCommandResult.ok, hoff]
    · have hoff : engine.replayState = .off := by
        by_contra hon
        simp [(hready hon).2] at henabled
      simp [invalid, ControlCommandResult.ok, hoff]
    · have hon : engine.replayState ≠ .off := by
        intro hoff
        simp [hoff] at hactive
      simp [ControlCommandResult.ok, hon]
    · have hoff : engine.replayState = .off := by
        rcases h.replay with hoff | hrunning | hsaving
        · exact hoff
        · exact absurd (Or.inr (Or.inl hrunning)) hactive
        · exact absurd (Or.inr (Or.inr hsaving)) hactive
      simp [invalid, ControlCommandResult.ok, hoff]
    · push Not at hcount
      exact absurd ⟨by simpa using hinitialized, by simpa using henabled, hcount.1,
        by simpa using hcount.2⟩ hbegins

theorem Coherent.startRecording_inUse (h : engine.Coherent) {paths : List String} {starts : Bool}
    (hused : engine.inUse = true) : (engine.startRecording paths starts).2.inUse = true := by
  rw [inUse_eq_true] at hused ⊢
  rcases hused with hrecording | hreplay
  · have hbegins : ¬engine.BeginsRecording paths starts := fun hbegins => hrecording hbegins.2.1
    rcases h.startRecording_of_not_begins hbegins with hsame | ⟨hoff, -⟩
    · rw [hsame]
      exact Or.inl hrecording
    · exact absurd hoff hrecording
  · rw [(h.startRecording_sameReplay paths starts).state]
    exact Or.inr hreplay

theorem Coherent.startReplay_inUse (h : engine.Coherent) (hused : engine.inUse = true) :
    engine.startReplay.2.inUse = true := by
  rw [inUse_eq_true] at hused ⊢
  rcases hused with hrecording | hreplay
  · rw [h.startReplay_sameRecording.state]
    exact Or.inl hrecording
  · rw [startReplay_of_not_begins (fun hbegins => hreplay hbegins.2.2.1)]
    exact Or.inr hreplay

/-! A command that stops a consumer does not start the other one. -/

theorem stopRecording_inUse {result : Option SynchronizedRecordingConsumerResult}
    (hused : (engine.stopRecording result).2.inUse = true) : engine.inUse = true := by
  rw [inUse_eq_true] at hused ⊢
  rw [stopRecording_replayState] at hused
  exact Or.inr (hused.resolve_left (fun hon => hon stopRecording_off))

theorem stopReplay_inUse (hused : engine.stopReplay.2.inUse = true) : engine.inUse = true := by
  rw [inUse_eq_true] at hused ⊢
  rw [stopReplay_sameRecording.state] at hused
  exact Or.inl (hused.resolve_right (fun hon => hon stopReplay_off))

theorem applyReplayConfiguration_inUse {configuration : ReplayConfiguration}
    (hused : (engine.applyReplayConfiguration configuration).2.inUse = true) :
    engine.inUse = true := by
  rcases engine.applyReplayConfiguration_cases configuration with ⟨-, -, happlied⟩ |
    ⟨-, happlied⟩
  · rw [happlied] at hused
    exact stopReplay_inUse hused
  · rw [happlied] at hused
    exact hused

end CaptureControlEngine

namespace PluginCaptureRuntime

variable {runtime : PluginCaptureRuntime} {engine : CaptureControlEngine PluginEncoderController}

/-- The engine is one for the topology and the configuration of the runtime. -/
structure Suits (runtime : PluginCaptureRuntime)
    (engine : CaptureControlEngine PluginEncoderController) : Prop where
  coherent : engine.Coherent
  streams : engine.configuration.streams.map ConfiguredStream.identity =
    identities runtime.topologyModel.current
  replay : engine.configuration.replay = runtime.replayConfiguration
  epoch : engine.inUse = true → runtime.topologyModel.captureEpochActive = true

/-- What holds between two commands. -/
structure Settled (runtime : PluginCaptureRuntime) : Prop where
  topology : runtime.topologyModel.Reachable
  suits : ∀ engine ∈ runtime.control, runtime.Suits engine
  epoch : runtime.topologyModel.captureEpochActive = true →
    ∃ engine ∈ runtime.control, engine.inUse = true

theorem Settled.of_none (htopology : runtime.topologyModel.Reachable)
    (hidle : runtime.topologyModel.captureEpochActive = false) (hnone : runtime.control = none) :
    runtime.Settled where
  topology := htopology
  suits engine hengine := by simp [hnone] at hengine
  epoch hactive := by simp [hidle] at hactive

theorem Settled.of_some (htopology : runtime.topologyModel.Reachable)
    (hcontrol : runtime.control = some engine) (hsuits : runtime.Suits engine)
    (hepoch : runtime.topologyModel.captureEpochActive = true → engine.inUse = true) :
    runtime.Settled where
  topology := htopology
  suits engine' hengine' := by
    obtain rfl : engine = engine' := by simpa [hcontrol] using hengine'
    exact hsuits
  epoch hactive := ⟨engine, hcontrol, hepoch hactive⟩

theorem Settled.epoch_iff (h : runtime.Settled) (hcontrol : runtime.control = some engine) :
    runtime.topologyModel.captureEpochActive = true ↔ engine.inUse = true := by
  constructor
  · intro hactive
    obtain ⟨engine', hengine', hused⟩ := h.epoch hactive
    rwa [Option.mem_unique hcontrol hengine']
  · exact (h.suits engine hcontrol).epoch

theorem Settled.idle_of_none (h : runtime.Settled) (hnone : runtime.control = none) :
    runtime.topologyModel.captureEpochActive = false := by
  rw [← Bool.not_eq_true]
  intro hactive
  obtain ⟨engine, hengine, -⟩ := h.epoch hactive
  simp [hnone] at hengine

theorem configuredStream_identity {scenes : List SceneTopologyEntry} {rebuild : Rebuild}
    {entry : SceneTopologyEntry} {stream : ConfiguredStream}
    (h : configuredStream scenes rebuild entry = some stream) :
    stream.identity = entry.identity := by
  unfold configuredStream at h
  dsimp only at h
  split_ifs at h
  · cases h
    rfl
  · cases h
    rfl

theorem mapM_configuredStream_identity {scenes entries : List SceneTopologyEntry}
    {rebuild : Rebuild} {streams : List ConfiguredStream}
    (h : entries.mapM (configuredStream scenes rebuild) = some streams) :
    streams.map ConfiguredStream.identity = entries.map SceneTopologyEntry.identity := by
  induction entries generalizing streams with
  | nil =>
      obtain rfl : [] = streams := by simpa using h
      rfl
  | cons entry rest ih =>
      rw [List.mapM_cons] at h
      obtain ⟨stream, hstream, htail⟩ := Option.bind_eq_some_iff.mp h
      obtain ⟨later, hlater, hsome⟩ := Option.bind_eq_some_iff.mp htail
      obtain rfl := Option.some.inj hsome
      rw [List.map_cons, List.map_cons, configuredStream_identity hstream, ih hlater]

/-- The engine has been built anew for what the runtime is set to, or there is none. -/
structure Rebuilt (runtime runtime' : PluginCaptureRuntime) : Prop where
  topology : runtime'.topologyModel = runtime.topologyModel
  replay : runtime'.replayConfiguration = runtime.replayConfiguration
  engines : ∀ engine ∈ runtime'.control, runtime'.Suits engine ∧ engine.inUse = false

theorem Rebuilt.of_none {runtime' : PluginCaptureRuntime}
    (htopology : runtime'.topologyModel = runtime.topologyModel)
    (hreplay : runtime'.replayConfiguration = runtime.replayConfiguration)
    (hnone : runtime'.control = none) : Rebuilt runtime runtime' :=
  ⟨htopology, hreplay, fun engine hengine => by simp [hnone] at hengine⟩

theorem Rebuilt.settled {runtime' : PluginCaptureRuntime} (h : Rebuilt runtime runtime')
    (htopology : runtime.topologyModel.Reachable)
    (hidle : runtime.topologyModel.captureEpochActive = false) : runtime'.Settled where
  topology := by
    rw [h.topology]
    exact htopology
  suits engine hengine := (h.engines engine hengine).1
  epoch hactive := by
    rw [h.topology, hidle] at hactive
    cases hactive

theorem buildControlState_rebuilt (hnone : runtime.control = none) (rebuild : Rebuild) :
    Rebuilt runtime (runtime.buildControlState rebuild).2 := by
  unfold buildControlState
  split
  · exact .of_none rfl rfl hnone
  · rename_i streams hstreams
    split_ifs
    · exact .of_none rfl rfl rfl
    · dsimp only
      split
      · exact .of_none rfl rfl rfl
      · rename_i engine hbuilt
        have hnew := congrArg Prod.snd hbuilt
        dsimp only at hnew
        refine ⟨rfl, rfl, fun engine' hengine' => ?_⟩
        obtain rfl : engine = engine' := by simpa using hengine'
        have hidle : engine.inUse = false := by
          rw [← hnew, (CaptureControlEngine.initializeEngine_sameConsumers _).inUse]
          rfl
        constructor
        · constructor
          · rw [← hnew]
            exact (CaptureControlEngine.coherent_create _ _ _).initializeEngine
          · rw [← hnew, (CaptureControlEngine.initializeEngine_sameConsumers _).configuration]
            exact mapM_configuredStream_identity hstreams
          · rw [← hnew, (CaptureControlEngine.initializeEngine_sameConsumers _).configuration]
            rfl
          · intro hused
            simp [hidle] at hused
        · exact hidle

theorem rebuildControl_rebuilt (discovered : List DiscoveredScene) (rebuild : Rebuild) :
    Rebuilt runtime (runtime.rebuildControl discovered rebuild).2 := by
  unfold rebuildControl installSceneTargets
  cases installTargets runtime.topologyModel.current.streams rebuild.views discovered [] with
  | none => exact .of_none rfl rfl rfl
  | some scenes =>
      have hbuilt : Rebuilt { runtime with control := none, scenes := scenes }
          ({ runtime with control := none, scenes := scenes }.buildControlState rebuild).2 :=
        buildControlState_rebuilt rfl rebuild
      exact ⟨hbuilt.topology, hbuilt.replay, hbuilt.engines⟩

theorem finishCaptureEpochIfIdle_of_inUse (hcontrol : runtime.control = some engine)
    (hused : engine.inUse = true) (rebuild : Rebuild) :
    runtime.finishCaptureEpochIfIdle rebuild = runtime := by
  have hbusy : engine.recordingState ≠ .off ∨ engine.replayState ≠ .off ∨
      (!runtime.topologyModel.captureEpochActive) = true := by
    rcases CaptureControlEngine.inUse_eq_true.mp hused with hrecording | hreplay
    · exact Or.inl hrecording
    · exact Or.inr (Or.inl hreplay)
  unfold finishCaptureEpochIfIdle
  rw [hcontrol]
  exact if_pos hbusy

/-- An epoch that is over for the engine is ended for the topology, and what was staged
comes with a new engine. -/
theorem finishCaptureEpochIfIdle_settled (htopology : runtime.topologyModel.Reachable)
    (hcontrol : runtime.control = some engine) (hsuits : runtime.Suits engine)
    (rebuild : Rebuild) : (runtime.finishCaptureEpochIfIdle rebuild).Settled := by
  unfold finishCaptureEpochIfIdle
  rw [hcontrol]
  dsimp only
  by_cases hbusy : engine.recordingState ≠ .off ∨ engine.replayState ≠ .off ∨
      (!runtime.topologyModel.captureEpochActive) = true
  · rw [if_pos hbusy]
    apply Settled.of_some htopology hcontrol hsuits
    intro hactive
    rw [CaptureControlEngine.inUse_eq_true]
    rcases hbusy with hrecording | hreplay | hidle
    · exact Or.inl hrecording
    · exact Or.inr hreplay
    · simp [hactive] at hidle
  · rw [if_neg hbusy]
    push Not at hbusy
    obtain ⟨hrecording, hreplay, hbusy⟩ := hbusy
    have hactive : runtime.topologyModel.captureEpochActive = true := by simpa using hbusy
    have hunused : engine.inUse = false :=
      CaptureControlEngine.inUse_eq_false.mpr ⟨hrecording, hreplay⟩
    have hended : runtime.topologyModel.endCaptureEpoch.2.Reachable :=
      htopology.step .endCaptureEpoch
    have happlied := SceneTopologyModel.endCaptureEpoch_applied hactive
    have hidle : runtime.topologyModel.endCaptureEpoch.2.captureEpochActive = false :=
      SceneTopologyModel.endCaptureEpoch_captureEpochActive
    have hcurrent (hpending : runtime.topologyModel.pending = none) :
        runtime.topologyModel.endCaptureEpoch.2.current = runtime.topologyModel.current :=
      SceneTopologyModel.endCaptureEpoch_current hpending
    rcases hend : runtime.topologyModel.endCaptureEpoch with ⟨_ | applied, model⟩ <;>
      rw [hend] at happlied hidle hcurrent hended
    · apply Settled.of_some hended rfl
      · constructor
        · exact hsuits.coherent
        · rw [hsuits.streams]
          exact congrArg identities (hcurrent happlied.symm).symm
        · exact hsuits.replay
        · intro hused
          simp [hunused] at hused
      · intro hclaim
        exact absurd (hidle.symm.trans hclaim) Bool.false_ne_true
    · dsimp only
      split_ifs with hpending
      · simp [SceneTopologyModel.hasPending, ← happlied] at hpending
      · exact (rebuildControl_rebuilt runtime.pendingScenes rebuild).settled hended hidle

section Start

variable {runtime' : PluginCaptureRuntime}
  {started : CaptureControlEngine PluginEncoderController} {ended : Prop} [Decidable ended]

/-- The topology of a runtime that has begun an epoch for a start, and ended it again if the
start has left no consumer on. -/
theorem start_settled (h : runtime.Settled) (hcontrol : runtime.control = some engine)
    (hcoherent : started.Coherent) (hconfiguration : started.configuration = engine.configuration)
    (hkept : engine.inUse = true → started.inUse = true) (hended : ended ↔ started.inUse = false)
    (hmodel : runtime'.topologyModel =
      if ended then runtime.topologyModel.beginCaptureEpoch.endCaptureEpoch.2
      else runtime.topologyModel.beginCaptureEpoch)
    (hreplay : runtime'.replayConfiguration = runtime.replayConfiguration)
    (hcontrol' : runtime'.control = some started) :
    runtime'.Settled ∧ runtime'.topologyModel.current = runtime.topologyModel.current := by
  have hsuits := h.suits engine hcontrol
  have hbegun : runtime.topologyModel.beginCaptureEpoch.Reachable :=
    h.topology.step .beginCaptureEpoch
  have hcurrent : runtime'.topologyModel.current = runtime.topologyModel.current := by
    rw [hmodel]
    split_ifs with hfailed
    · have hunused : engine.inUse ≠ true := by
        intro hused
        simp [hended.mp hfailed] at hkept
        simp [hkept] at hused
      have hidle : runtime.topologyModel.captureEpochActive = false := by
        rw [← Bool.not_eq_true, h.epoch_iff hcontrol]
        exact hunused
      have hpending := h.topology.stagesInEpoch hidle
      rw [SceneTopologyModel.endCaptureEpoch_current (by simpa using hpending)]
      simp
    · simp
  refine ⟨Settled.of_some ?_ hcontrol' ?_ ?_, hcurrent⟩
  · rw [hmodel]
    split_ifs
    · exact hbegun.step .endCaptureEpoch
    · exact hbegun
  · constructor
    · exact hcoherent
    · rw [hconfiguration, hsuits.streams, hcurrent]
    · rw [hconfiguration, hsuits.replay, hreplay]
    · intro hused
      have hnot : ¬ended := by simp [hended, hused]
      rw [hmodel, if_neg hnot, SceneTopologyModel.beginCaptureEpoch_captureEpochActive]
  · intro hactive
    by_contra hunused
    have hfailed : ended := hended.mpr (by simpa using hunused)
    rw [hmodel, if_pos hfailed, SceneTopologyModel.endCaptureEpoch_captureEpochActive] at hactive
    cases hactive

end Start

theorem startRecording_settled (h : runtime.Settled) (output : OutputDirectory) (starts : Bool) :
    (runtime.startRecording output starts).2.Settled ∧
      (runtime.startRecording output starts).2.topologyModel.current =
        runtime.topologyModel.current := by
  unfold startRecording
  split
  · exact ⟨h, rfl⟩
  · rename_i engine hcontrol
    dsimp only
    generalize outputPaths engine .recording output _ = paths
    have hcoherent := (h.suits engine hcontrol).coherent
    refine start_settled h hcontrol (hcoherent.startRecording paths starts)
      (hcoherent.startRecording_configuration paths starts) hcoherent.startRecording_inUse ?_
      rfl rfl rfl
    rw [CaptureControlEngine.inUse_eq_false, Bool.not_eq_true',
      ← Bool.not_eq_true, hcoherent.startRecording_ok_iff, not_not]

theorem applyReplayConfiguration_settled (h : runtime.Settled)
    (configuration : ReplayConfiguration) (rebuild : Rebuild) :
    (runtime.applyReplayConfiguration configuration rebuild).2.Settled := by
  unfold applyReplayConfiguration
  split_ifs
  · exact h
  · dsimp only
    split
    · rename_i hnone
      exact Settled.of_none h.topology (h.idle_of_none hnone) hnone
    · rename_i engine hcontrol
      have hsuits := h.suits engine hcontrol
      dsimp only
      refine finishCaptureEpochIfIdle_settled (by exact h.topology) rfl ?_ rebuild
      constructor
      · exact hsuits.coherent.applyReplayConfiguration configuration
      · rw [CaptureControlEngine.applyReplayConfiguration_configuration]
        exact hsuits.streams
      · rw [CaptureControlEngine.applyReplayConfiguration_configuration]
      · intro hused
        exact hsuits.epoch (CaptureControlEngine.applyReplayConfiguration_inUse hused)

/-- An engine that takes the place of the one of the runtime. -/
theorem Suits.replace (h : runtime.Suits engine)
    {engine' : CaptureControlEngine PluginEncoderController} (hcoherent : engine'.Coherent)
    (hconfiguration : engine'.configuration = engine.configuration)
    (hused : engine'.inUse = true → engine.inUse = true) :
    { runtime with control := some engine' }.Suits engine' where
  coherent := hcoherent
  streams := by
    rw [hconfiguration]
    exact h.streams
  replay := by
    rw [hconfiguration]
    exact h.replay
  epoch hclaim := h.epoch (hused hclaim)

theorem stopRecording_settled (h : runtime.Settled)
    (recorded : Option SynchronizedRecordingConsumerResult) (rebuild : Rebuild) :
    (runtime.stopRecording recorded rebuild).2.Settled := by
  unfold stopRecording
  split
  · exact h
  · rename_i engine hcontrol
    have hsuits := h.suits engine hcontrol
    dsimp only
    refine finishCaptureEpochIfIdle_settled (by exact h.topology) rfl ?_ rebuild
    exact hsuits.replace (hsuits.coherent.stopRecording recorded)
      CaptureControlEngine.stopRecording_configuration CaptureControlEngine.stopRecording_inUse

theorem stopReplay_settled (h : runtime.Settled) (rebuild : Rebuild) :
    (runtime.stopReplay rebuild).2.Settled := by
  unfold stopReplay
  split
  · exact h
  · rename_i engine hcontrol
    have hsuits := h.suits engine hcontrol
    dsimp only
    refine finishCaptureEpochIfIdle_settled (by exact h.topology) rfl ?_ rebuild
    exact hsuits.replace hsuits.coherent.stopReplay CaptureControlEngine.stopReplay_configuration
      CaptureControlEngine.stopReplay_inUse

theorem startReplay_settled (h : runtime.Settled) (profile : ReplayConfiguration)
    (rebuild : Rebuild) :
    (runtime.startReplay profile rebuild).2.Settled ∧
      (runtime.startReplay profile rebuild).2.topologyModel.current =
        (runtime.refreshReplayConfiguration profile rebuild).2.topologyModel.current := by
  have hrefreshed := applyReplayConfiguration_settled h profile rebuild
  unfold startReplay refreshReplayConfiguration
  dsimp only
  split
  · exact ⟨hrefreshed, rfl⟩
  · rename_i engine hcontrol
    have hcoherent := (hrefreshed.suits engine hcontrol).coherent
    refine start_settled hrefreshed hcontrol hcoherent.startReplay
      hcoherent.startReplay_configuration hcoherent.startReplay_inUse ?_ rfl rfl rfl
    rw [CaptureControlEngine.inUse_eq_false, Bool.not_eq_true',
      ← Bool.not_eq_true, hcoherent.startReplay_ok_iff, not_not, and_comm]

/-- A command that leaves the consumers and the topology as they are. -/
theorem Settled.replace (h : runtime.Settled) (hcontrol : runtime.control = some engine)
    {runtime' : PluginCaptureRuntime} {engine' : CaptureControlEngine PluginEncoderController}
    (hmodel : runtime'.topologyModel = runtime.topologyModel)
    (hreplay : runtime'.replayConfiguration = runtime.replayConfiguration)
    (hcontrol' : runtime'.control = some engine') (hcoherent : engine'.Coherent)
    (hconfiguration : engine'.configuration = engine.configuration)
    (hused : engine'.inUse = engine.inUse) : runtime'.Settled := by
  have hsuits := h.suits engine hcontrol
  have hepoch := h.epoch_iff hcontrol
  apply Settled.of_some
  · rw [hmodel]
    exact h.topology
  · exact hcontrol'
  · constructor
    · exact hcoherent
    · rw [hconfiguration, hsuits.streams, hmodel]
    · rw [hconfiguration, hsuits.replay, hreplay]
    · rw [hused, hmodel]
      exact hepoch.mpr
  · rw [hused, hmodel]
    exact hepoch.mp

theorem saveReplay_settled (h : runtime.Settled) (profile : ReplayConfiguration)
    (rebuild : Rebuild) (output : OutputDirectory) (library : Nat → MuxLibrary) :
    (runtime.saveReplay profile rebuild output library).2.Settled := by
  have hrefreshed := applyReplayConfiguration_settled h profile rebuild
  unfold saveReplay refreshReplayConfiguration
  dsimp only
  split
  · exact hrefreshed
  · rename_i engine hcontrol
    generalize outputPaths engine .replay output _ = paths
    have hcoherent := (hrefreshed.suits engine hcontrol).coherent
    have hsame := engine.saveReplay_sameConsumers paths library
    exact hrefreshed.replace hcontrol rfl rfl rfl (hcoherent.saveReplay paths library)
      hsame.configuration hsame.inUse

theorem pollReplaySave_settled (h : runtime.Settled) : runtime.pollReplaySave.2.Settled := by
  unfold pollReplaySave
  split
  · exact h
  · rename_i engine hcontrol
    have hpolled (polled : PluginCaptureRuntime)
        (hmodel : polled.topologyModel = runtime.topologyModel)
        (hreplay : polled.replayConfiguration = runtime.replayConfiguration)
        (hengine : polled.control = some engine.pollReplaySave) : polled.Settled :=
      h.replace hcontrol hmodel hreplay hengine (h.suits engine hcontrol).coherent.pollReplaySave
        engine.pollReplaySave_sameConsumers.configuration engine.pollReplaySave_sameConsumers.inUse
    dsimp only
    split
    · exact hpolled _ rfl rfl rfl
    · split_ifs
      · exact hpolled _ rfl rfl rfl
      · exact hpolled _ rfl rfl rfl

theorem ingest_settled (h : runtime.Settled) (streamId : CaptureStreamId) (packet : EncodedPacket)
    (codecExtraData : List UInt8) :
    (runtime.ingest streamId packet codecExtraData).2.Settled := by
  unfold ingest
  split
  · exact h
  · rename_i engine hcontrol
    exact h.replace hcontrol rfl rfl rfl
      ((h.suits engine hcontrol).coherent.step (.ingest streamId packet codecExtraData)) rfl rfl

theorem saveFinishes_settled (h : runtime.Settled) : runtime.saveFinishes.Settled := by
  cases hcontrol : runtime.control with
  | none =>
      exact Settled.of_none h.topology (h.idle_of_none hcontrol) (by simp [saveFinishes, hcontrol])
  | some engine =>
      have hfinished : runtime.saveFinishes.control = some engine.saveFinishes := by
        simp [saveFinishes, hcontrol]
      exact h.replace hcontrol rfl rfl hfinished
        ((h.suits engine hcontrol).coherent.step .saveFinishes) rfl rfl

theorem refreshSceneTopology_settled (h : runtime.Settled) (discovered : List DiscoveredScene)
    (rebuild : Rebuild) : (runtime.refreshSceneTopology discovered rebuild).2.Settled := by
  have hdiscovered : (runtime.topologyModel.applyDiscovery discovered
      runtime.topologyModel.captureEpochActive).2.Reachable :=
    h.topology.step (.applyDiscovery discovered)
  have hsame : (runtime.topologyModel.applyDiscovery discovered
      runtime.topologyModel.captureEpochActive).2.captureEpochActive =
        runtime.topologyModel.captureEpochActive := by simp
  unfold refreshSceneTopology
  split_ifs with hmissing
  · exact h
  · obtain ⟨engine, hcontrol⟩ := Option.ne_none_iff_exists'.mp (by simpa using hmissing)
    dsimp only
    split
    · rename_i model hupdate
      obtain rfl := SceneTopologyModel.applyDiscovery_unchanged hupdate
      exact h
    · rename_i update model hnot hupdate
      rw [hupdate] at hdiscovered hsame
      split_ifs with hactive
      · have hparticipants := SceneTopologyModel.participants_applyDiscovery hactive discovered
        rw [hupdate] at hparticipants
        have hsuits := h.suits engine hcontrol
        apply Settled.of_some
        · exact hdiscovered
        · exact hcontrol
        · constructor
          · exact hsuits.coherent
          · rw [hsuits.streams]
            exact (identities_of_participants hparticipants).symm
          · exact hsuits.replay
          · intro _
            exact hsame.trans hactive
        · intro _
          exact (h.epoch_iff hcontrol).mp hactive
      · have hidle : model.captureEpochActive = false := by
          dsimp only at hsame
          simpa [hsame] using hactive
        have hrebuilt : Rebuilt { runtime with topologyModel := model } _ :=
          rebuildControl_rebuilt discovered rebuild
        have hsettled := hrebuilt.settled hdiscovered hidle
        split <;> rename_i rebuilt hrebuild <;> rw [hrebuild] at hsettled
        · exact hsettled
        · exact hsettled

theorem initializeRuntime_settled (h : runtime.Settled) (discovered : List DiscoveredScene)
    (rebuild : Rebuild) : (runtime.initializeRuntime discovered rebuild).2.Settled := by
  unfold initializeRuntime
  split_ifs with hcontrol
  · exact h
  · have hnone : runtime.control = none := by simpa using hcontrol
    have hidle := h.idle_of_none hnone
    have hdiscovered : (runtime.topologyModel.applyDiscovery discovered false).2.Reachable := by
      rw [← hidle]
      exact h.topology.step (.applyDiscovery discovered)
    have hstill : (runtime.topologyModel.applyDiscovery discovered
        false).2.captureEpochActive = false := by simpa using hidle
    have hbuilt (scenes : List SceneTopologyEntry) : Rebuilt { runtime with
        topologyModel := (runtime.topologyModel.applyDiscovery discovered false).2
        pendingScenes := [], scenes := scenes } _ :=
      buildControlState_rebuilt (by exact hnone) rebuild
    unfold installSceneTargets
    dsimp only
    cases installTargets (runtime.topologyModel.applyDiscovery discovered false).2.current.streams
        rebuild.views discovered [] with
    | none => exact Settled.of_none hdiscovered hstill rfl
    | some scenes =>
        have hrebuilt := hbuilt scenes
        dsimp only
        split <;> rename_i built hbuild <;> rw [hbuild] at hrebuilt
        · have hsettled := hrebuilt.settled hdiscovered hstill
          apply Settled.of_none
          · exact hsettled.topology
          · rw [show built.stop.topologyModel = _ from hrebuilt.topology]
            exact hstill
          · rfl
        · exact hrebuilt.settled hdiscovered hstill

theorem Settled.step (h : runtime.Settled) {call : Call} (hcall : call ≠ .stop) :
    (runtime.step call).2.Settled := by
  cases call with
  | initializeRuntime discovered rebuild => exact initializeRuntime_settled h discovered rebuild
  | startRecording output starts => exact (startRecording_settled h output starts).1
  | stopRecording recorded rebuild => exact stopRecording_settled h recorded rebuild
  | startReplay profile rebuild => exact (startReplay_settled h profile rebuild).1
  | saveReplay profile rebuild output library =>
      exact saveReplay_settled h profile rebuild output library
  | stopReplay rebuild => exact stopReplay_settled h rebuild
  | applyReplayConfiguration configuration rebuild =>
      exact applyReplayConfiguration_settled h configuration rebuild
  | refreshReplayConfiguration profile rebuild =>
      exact applyReplayConfiguration_settled h profile rebuild
  | refreshSceneTopology discovered rebuild =>
      exact refreshSceneTopology_settled h discovered rebuild
  | pollReplaySave => exact pollReplaySave_settled h
  | stop => exact absurd rfl hcall
  | ingest streamId packet codecExtraData => exact ingest_settled h streamId packet codecExtraData
  | saveFinishes => exact saveFinishes_settled h

theorem settled_new (profile : ReplayConfiguration) :
    Settled { replayConfiguration := profile } :=
  Settled.of_none ⟨[], .start⟩ rfl rfl

/-- The configuration that the engine has for a profile. -/
def configured (runtime : PluginCaptureRuntime)
    (engine : CaptureControlEngine PluginEncoderController) (profile : ReplayConfiguration) :
    CaptureControlEngine PluginEncoderController :=
  if runtime.replayConfiguration = profile then engine
  else (engine.applyReplayConfiguration profile).2

/-- The engine at the point where a command deals with the topology: it has stopped what the
command stops, and started nothing yet. -/
def settling (runtime : PluginCaptureRuntime)
    (engine : CaptureControlEngine PluginEncoderController) :
    Call → CaptureControlEngine PluginEncoderController
  | .stopRecording recorded _ => (engine.stopRecording recorded).2
  | .stopReplay _ => engine.stopReplay.2
  | .startReplay profile _ => runtime.configured engine profile
  | .saveReplay profile _ _ _ => runtime.configured engine profile
  | .applyReplayConfiguration configuration _ => runtime.configured engine configuration
  | .refreshReplayConfiguration profile _ => runtime.configured engine profile
  | _ => engine

/-- The runtime goes on with the engine that it had, on the topology that it had. -/
structure Continued (runtime runtime' : PluginCaptureRuntime)
    (engine : CaptureControlEngine PluginEncoderController) : Prop where
  control : ∃ calls, runtime'.control =
    some (Runs.exec CaptureControlEngine.step engine calls)
  scenes : runtime'.scenes = runtime.scenes
  participants : participants runtime'.topologyModel.current =
    participants runtime.topologyModel.current

/-- A profile that leaves a consumer on only changes the configuration. -/
theorem applyReplayConfiguration_of_inUse (hcontrol : runtime.control = some engine)
    {profile : ReplayConfiguration} (hused : (runtime.configured engine profile).inUse = true)
    (rebuild : Rebuild) :
    (runtime.applyReplayConfiguration profile rebuild).2 = { runtime with
      replayConfiguration := profile, control := some (runtime.configured engine profile) } := by
  unfold applyReplayConfiguration configured at *
  split_ifs at hused ⊢ with hsame
  · rw [← hsame, ← hcontrol]
  · have hset : { runtime with
        replayConfiguration := profile
        control := some (engine.applyReplayConfiguration profile).2 }.control =
          some (engine.applyReplayConfiguration profile).2 := rfl
    rw [hcontrol]
    exact finishCaptureEpochIfIdle_of_inUse hset hused rebuild

theorem configured_exec (runtime : PluginCaptureRuntime)
    (engine : CaptureControlEngine PluginEncoderController) (profile : ReplayConfiguration) :
    ∃ calls, runtime.configured engine profile =
      Runs.exec CaptureControlEngine.step engine calls := by
  unfold configured
  split_ifs
  · exact ⟨[], rfl⟩
  · exact ⟨[.applyReplayConfiguration profile], rfl⟩

theorem Continued.of_current {runtime' : PluginCaptureRuntime} (calls : List ControlCall)
    (hcontrol : runtime'.control = some (Runs.exec CaptureControlEngine.step engine calls))
    (hscenes : runtime'.scenes = runtime.scenes)
    (hcurrent : runtime'.topologyModel.current = runtime.topologyModel.current) :
    Continued runtime runtime' engine :=
  ⟨⟨calls, hcontrol⟩, hscenes, congrArg _ hcurrent⟩

theorem startReplay_continued (h : runtime.Settled) (hcontrol : runtime.control = some engine)
    {profile : ReplayConfiguration} (hused : (runtime.configured engine profile).inUse = true)
    (rebuild : Rebuild) : Continued runtime (runtime.startReplay profile rebuild).2 engine := by
  have hrefreshed := applyReplayConfiguration_of_inUse hcontrol hused rebuild
  have hcurrent := (startReplay_settled h profile rebuild).2
  obtain ⟨calls, hcalls⟩ := configured_exec runtime engine profile
  refine .of_current (calls ++ [.startReplay]) ?_ ?_ ?_
  · unfold startReplay refreshReplayConfiguration
    rw [hrefreshed, Runs.exec_append, ← hcalls]
    rfl
  · unfold startReplay refreshReplayConfiguration
    rw [hrefreshed]
  · rw [hcurrent]
    unfold refreshReplayConfiguration
    rw [hrefreshed]

theorem saveReplay_continued (hcontrol : runtime.control = some engine)
    {profile : ReplayConfiguration} (hused : (runtime.configured engine profile).inUse = true)
    (rebuild : Rebuild) (output : OutputDirectory) (library : Nat → MuxLibrary) :
    Continued runtime (runtime.saveReplay profile rebuild output library).2 engine := by
  have hrefreshed := applyReplayConfiguration_of_inUse hcontrol hused rebuild
  obtain ⟨calls, hcalls⟩ := configured_exec runtime engine profile
  unfold saveReplay refreshReplayConfiguration
  rw [hrefreshed]
  dsimp only
  generalize outputPaths _ .replay output _ = paths
  refine .of_current (calls ++ [.saveReplay paths library]) ?_ rfl rfl
  rw [Runs.exec_append, ← hcalls]
  rfl

theorem refreshSceneTopology_continued (h : runtime.Settled)
    (hcontrol : runtime.control = some engine) (hused : engine.inUse = true)
    (discovered : List DiscoveredScene) (rebuild : Rebuild) :
    Continued runtime (runtime.refreshSceneTopology discovered rebuild).2 engine := by
  have hactive := (h.epoch_iff hcontrol).mpr hused
  have hparticipants := SceneTopologyModel.participants_applyDiscovery hactive discovered
  unfold refreshSceneTopology
  rw [if_neg (by simp [hcontrol])]
  dsimp only
  split <;> rename_i hupdate <;> rw [hupdate] at hparticipants
  · exact ⟨⟨[], hcontrol⟩, rfl, hparticipants⟩
  · rw [if_pos hactive]
    exact ⟨⟨[], hcontrol⟩, rfl, hparticipants⟩

theorem pollReplaySave_continued (hcontrol : runtime.control = some engine) :
    Continued runtime runtime.pollReplaySave.2 engine := by
  unfold pollReplaySave
  rw [hcontrol]
  dsimp only
  split
  · exact .of_current [.pollReplaySave] rfl rfl rfl
  · split_ifs
    · exact .of_current [.pollReplaySave] rfl rfl rfl
    · exact .of_current [.pollReplaySave] rfl rfl rfl

/-- While a consumer is on no topology is installed. -/
theorem step_continued (h : runtime.Settled) (hcontrol : runtime.control = some engine)
    {call : Call} (hcall : call ≠ .stop) (hused : (runtime.settling engine call).inUse = true) :
    Continued runtime (runtime.step call).2 engine := by
  cases call with
  | initializeRuntime discovered rebuild =>
      have hkept : (runtime.initializeRuntime discovered rebuild).2 = runtime := by
        unfold initializeRuntime
        rw [if_pos (by simp [hcontrol])]
      rw [step, Prod.map_snd, hkept]
      exact .of_current [] hcontrol rfl rfl
  | startRecording output starts =>
      have hcurrent := (startRecording_settled h output starts).2
      rw [step, Prod.map_snd, id]
      unfold startRecording at hcurrent ⊢
      rw [hcontrol] at hcurrent ⊢
      dsimp only at hcurrent ⊢
      generalize outputPaths engine .recording output _ = paths at hcurrent ⊢
      exact .of_current [.startRecording paths starts] rfl rfl hcurrent
  | stopRecording recorded rebuild =>
      have hset : { runtime with control := some (engine.stopRecording recorded).2 }.control =
          some (engine.stopRecording recorded).2 := rfl
      have hkept := finishCaptureEpochIfIdle_of_inUse hset hused rebuild
      simp only [step, Prod.map_snd, stopRecording, hcontrol, id]
      rw [hkept]
      exact .of_current [.stopRecording recorded] rfl rfl rfl
  | startReplay profile rebuild => exact startReplay_continued h hcontrol hused rebuild
  | saveReplay profile rebuild output library =>
      exact saveReplay_continued hcontrol hused rebuild output library
  | stopReplay rebuild =>
      have hset : { runtime with control := some engine.stopReplay.2 }.control =
          some engine.stopReplay.2 := rfl
      have hkept := finishCaptureEpochIfIdle_of_inUse hset hused rebuild
      simp only [step, Prod.map_snd, stopReplay, hcontrol, id]
      rw [hkept]
      exact .of_current [.stopReplay] rfl rfl rfl
  | applyReplayConfiguration configuration rebuild =>
      obtain ⟨calls, hcalls⟩ := configured_exec runtime engine configuration
      rw [step, Prod.map_snd, applyReplayConfiguration_of_inUse hcontrol hused]
      exact .of_current calls (congrArg some hcalls) rfl rfl
  | refreshReplayConfiguration profile rebuild =>
      obtain ⟨calls, hcalls⟩ := configured_exec runtime engine profile
      rw [step, Prod.map_snd, refreshReplayConfiguration,
        applyReplayConfiguration_of_inUse hcontrol hused]
      exact .of_current calls (congrArg some hcalls) rfl rfl
  | refreshSceneTopology discovered rebuild =>
      exact refreshSceneTopology_continued h hcontrol hused discovered rebuild
  | pollReplaySave => exact pollReplaySave_continued hcontrol
  | stop => exact absurd rfl hcall
  | ingest streamId packet codecExtraData =>
      simp only [step, Prod.map_snd, ingest, hcontrol, id]
      exact .of_current [.ingest streamId packet codecExtraData] rfl rfl rfl
  | saveFinishes =>
      refine .of_current [.saveFinishes] ?_ rfl rfl
      simp [step, saveFinishes, hcontrol, CaptureControlEngine.step]

/-- The engine, the topology and the configuration agree. -/
structure InAccord (runtime : PluginCaptureRuntime)
    (engine : CaptureControlEngine PluginEncoderController) : Prop where
  epoch : runtime.topologyModel.captureEpochActive = true ↔
    engine.recordingState ≠ .off ∨ engine.replayState ≠ .off
  streams : engine.configuration.streams.map ConfiguredStream.identity =
    identities runtime.topologyModel.current
  epochStreams : runtime.topologyModel.captureEpochActive = true →
    engine.configuration.streams.map ConfiguredStream.identity =
      identities runtime.topologyModel.activeEpoch
  replay : engine.configuration.replay = runtime.replayConfiguration

theorem Settled.inAccord (h : runtime.Settled) (hcontrol : runtime.control = some engine) :
    runtime.InAccord engine := by
  have hsuits := h.suits engine hcontrol
  constructor
  · rw [h.epoch_iff hcontrol, CaptureControlEngine.inUse_eq_true]
  · exact hsuits.streams
  · intro hactive
    rw [hsuits.streams]
    exact identities_of_participants (h.topology.participants hactive)
  · exact hsuits.replay

/-- In every run up to the end of the plugin the engine is in accord with the topology and
with the configuration between the commands, and no command installs another topology while
a consumer is on. -/
theorem runtime_in_accord {profile : ReplayConfiguration} {past : List Transition}
    (hrun : Runs.Run step { replayConfiguration := profile } past runtime)
    (hcalls : ∀ t ∈ past, t.input ≠ .stop) :
    (∀ engine ∈ runtime.control, runtime.InAccord engine) ∧
      ∀ t ∈ past, ∀ engine ∈ t.before.control,
        (t.before.settling engine t.input).inUse = true → Continued t.before t.after engine := by
  suffices hkept : (∀ t ∈ past, t.input ≠ .stop) → runtime.Settled ∧
      ∀ t ∈ past, ∀ engine ∈ t.before.control,
        (t.before.settling engine t.input).inUse = true → Continued t.before t.after engine by
    obtain ⟨hsettled, hcontinued⟩ := hkept hcalls
    exact ⟨fun engine hengine => hsettled.inAccord hengine, hcontinued⟩
  apply hrun.invariant (P := fun past runtime => (∀ t ∈ past, t.input ≠ .stop) →
    runtime.Settled ∧ ∀ t ∈ past, ∀ engine ∈ t.before.control,
      (t.before.settling engine t.input).inUse = true → Continued t.before t.after engine)
  · exact fun _ => ⟨settled_new profile, by simp⟩
  · intro past runtime call _ h hcalls
    simp only [List.forall_mem_append, List.forall_mem_singleton] at hcalls ⊢
    obtain ⟨hsettled, hcontinued⟩ := h hcalls.1
    refine ⟨hsettled.step hcalls.2, hcontinued, fun engine hengine hused => ?_⟩
    exact step_continued hsettled hengine hcalls.2 hused

/-- A scene is added while both consumers are on, and comes with a new engine when the second
one is stopped. -/
def stagedCalls : List Call :=
  [.initializeRuntime [⟨"uuid-a", "Alpha"⟩] {}, .startRecording ⟨some "output", 0⟩ true,
    .refreshSceneTopology [⟨"uuid-a", "Alpha"⟩, ⟨"uuid-b", "Beta"⟩] {},
    .startReplay { enabled := true } {}, .stopRecording none {}, .stopReplay {}]

theorem stagedCalls_not_stop : ∀ call ∈ stagedCalls, call ≠ .stop := by simp [stagedCalls]

theorem runtime_in_accord_sample :
    (Runs.exec step { replayConfiguration := {} } stagedCalls).control.map (fun engine =>
        engine.configuration.streams.map ConfiguredStream.identity) =
          some [.master, .scene "uuid-a", .scene "uuid-b"] ∧
      ∀ engine ∈ (Runs.exec step { replayConfiguration := {} } stagedCalls).control,
        (Runs.exec step { replayConfiguration := {} } stagedCalls).InAccord engine :=
  ⟨by decide, (runtime_in_accord (Runs.run_exec _ stagedCalls)
    (Runs.forall_history_input.mpr stagedCalls_not_stop)).1⟩

/-- Before the second consumer is stopped the new scene is only staged. -/
example : ((Runs.exec step { replayConfiguration := {} } stagedCalls.dropLast).control.map
    (fun engine => (engine.configuration.streams.map ConfiguredStream.identity,
      engine.recordingState, engine.replayState))) =
        some ([.master, .scene "uuid-a"], .off, .running) := by decide

end PluginCaptureRuntime

end ObsSyncReplay
