import ObsSyncReplay.Capture.CaptureRuns
import ObsSyncReplay.Control.CaptureControl

/-!
The states that the control engine is in between two commands: the two consumers, the
capture session and what is subscribed to it belong together. The engine is the only
controller of a capture session that is new when it begins.
-/

namespace ObsSyncReplay

namespace CaptureControlEngine

variable {ε : Type} {engine : CaptureControlEngine ε}

/-- One of the consumers is on. -/
def inUse (engine : CaptureControlEngine ε) : Bool :=
  isRecordingActive engine.recordingState || isReplayActive engine.replayState

/-- No capture session accepts the streams. -/
def Unregistrable (streams : List ConfiguredStream) : Prop :=
  ∀ capture, (registerStreams streams 0 capture).1 = false

/-- The streams of a configuration that can be captured. -/
def enabledCount (streams : List ConfiguredStream) : Nat :=
  streams.countP (fun stream => stream.mode ≠ .disabled)

/-- What holds also within a command, before an unused capture is stopped. An engine that
has failed to register its streams will not register them later. -/
structure Settling (engine : CaptureControlEngine ε) : Prop where
  running : engine.inUse = true → engine.capture.running = true
  active : engine.inUse = true → engine.captureState = .active
  ready : engine.inUse = true → engine.initialized = true
  numbered : engine.initialized = true → enabledCount engine.configuration.streams < 256
  failed : engine.captureState = .failed → engine.initialized = false ∧
    (engine.capture.streams.length ≠ 0 ∨ Unregistrable engine.configuration.streams)
  registered : engine.initialized = true → engine.capture.streams.length ≠ 0
  attached : engine.recordingConsumer.isSome = isRecordingActive engine.recordingState
  subscribed : engine.capture.consumers =
    (engine.recordingConsumer.map AttachedRecording.address).toList
  fresh : ∀ recording ∈ engine.recordingConsumer, recording.address < engine.nextAddress
  retention : engine.inUse = true →
    engine.capture.replayRetentionEnabled = isReplayActive engine.replayState
  enabled : isReplayActive engine.replayState = true → engine.configuration.replay.enabled = true
  saving : engine.replayState = .saving → engine.replayConsumer.isSome = true

structure Coherent (engine : CaptureControlEngine ε) : Prop extends Settling engine where
  recording : engine.recordingState = .off ∨ engine.recordingState = .running
  replay : engine.replayState = .off ∨ engine.replayState = .running ∨
    engine.replayState = .saving
  stopped : engine.inUse = false → engine.capture.running = false ∧ engine.captureState ≠ .active

theorem inUse_eq_false : engine.inUse = false ↔
    engine.recordingState = .off ∧ engine.replayState = .off := by
  simp [inUse, isRecordingActive, isReplayActive]

theorem inUse_eq_true : engine.inUse = true ↔
    engine.recordingState ≠ .off ∨ engine.replayState ≠ .off := by
  simp [inUse, isRecordingActive, isReplayActive]

/-- The encoders, the results and the epoch do not count. -/
theorem Settling.congr {engine' : CaptureControlEngine ε} (h : engine.Settling)
    (hrecording : engine'.recordingState = engine.recordingState)
    (hreplay : engine'.replayState = engine.replayState)
    (hcapture : engine'.capture = engine.capture)
    (hstate : engine'.captureState = engine.captureState)
    (hinitialized : engine'.initialized = engine.initialized)
    (hattached : engine'.recordingConsumer = engine.recordingConsumer)
    (haddress : engine'.nextAddress = engine.nextAddress)
    (hconfiguration : engine'.configuration = engine.configuration)
    (hconsumer : engine'.replayConsumer.isSome = engine.replayConsumer.isSome) :
    engine'.Settling := by
  have huse : engine'.inUse = engine.inUse := by rw [inUse, hrecording, hreplay, inUse]
  constructor
  · rw [huse, hcapture]
    exact h.running
  · rw [huse, hstate]
    exact h.active
  · rw [huse, hinitialized]
    exact h.ready
  · rw [hinitialized, hconfiguration]
    exact h.numbered
  · rw [hstate, hinitialized, hcapture, hconfiguration]
    exact h.failed
  · rw [hinitialized, hcapture]
    exact h.registered
  · rw [hattached, hrecording]
    exact h.attached
  · rw [hcapture, hattached]
    exact h.subscribed
  · rw [hattached, haddress]
    exact h.fresh
  · rw [huse, hcapture, hreplay]
    exact h.retention
  · rw [hreplay, hconfiguration]
    exact h.enabled
  · rw [hreplay, hconsumer]
    exact h.saving

theorem detachRecording_capture
    (hsubscribed : engine.capture.consumers =
      (engine.recordingConsumer.map AttachedRecording.address).toList) :
    engine.detachRecording.capture = { engine.capture with consumers := [] } := by
  unfold detachRecording SynchronizedCaptureSession.unsubscribe
  cases hconsumer : engine.recordingConsumer with
  | none =>
      rw [hconsumer] at hsubscribed
      simp only [Option.map_none, Option.toList_none] at hsubscribed ⊢
      rw [← hsubscribed]
  | some recording =>
      rw [hconsumer] at hsubscribed
      simp only [Option.map_some, Option.toList_some] at hsubscribed ⊢
      rw [if_pos (by simp [hsubscribed])]
      simp [hsubscribed]

theorem Settling.detachRecording (h : engine.Settling) : engine.detachRecording.Settling := by
  have huse (hclaim : engine.detachRecording.inUse = true) : engine.inUse = true := by
    rw [inUse_eq_true] at hclaim ⊢
    exact Or.inr (hclaim.resolve_left (by simp [CaptureControlEngine.detachRecording]))
  have hcapture := detachRecording_capture h.subscribed
  exact {
    running := fun hclaim => by
      rw [hcapture]
      exact h.running (huse hclaim)
    active := fun hclaim => h.active (huse hclaim)
    ready := fun hclaim => h.ready (huse hclaim)
    numbered := h.numbered
    failed := by
      rw [hcapture]
      exact h.failed
    registered := fun hinitialized => by
      rw [hcapture]
      exact h.registered hinitialized
    attached := rfl
    subscribed := by rw [hcapture]; rfl
    fresh := by simp [CaptureControlEngine.detachRecording]
    retention := fun hclaim => by
      rw [hcapture]
      exact h.retention (huse hclaim)
    enabled := h.enabled
    saving := h.saving }

/-- The engine without replay, before an unused capture is stopped. -/
def detachReplay (engine : CaptureControlEngine ε) : CaptureControlEngine ε :=
  { engine with
    replayState := .off
    capture := engine.capture.setReplayRetentionEnabled false }

theorem Settling.detachReplay (h : engine.Settling) : engine.detachReplay.Settling := by
  have huse (hclaim : engine.detachReplay.inUse = true) : engine.inUse = true := by
    rw [inUse_eq_true] at hclaim ⊢
    exact Or.inl (hclaim.resolve_right (by simp [CaptureControlEngine.detachReplay]))
  exact {
    running := fun hclaim => by
      simpa [CaptureControlEngine.detachReplay] using h.running (huse hclaim)
    active := fun hclaim => h.active (huse hclaim)
    ready := fun hclaim => h.ready (huse hclaim)
    numbered := h.numbered
    failed := by simpa [CaptureControlEngine.detachReplay] using h.failed
    registered := fun hinitialized => by
      simpa [CaptureControlEngine.detachReplay] using h.registered hinitialized
    attached := h.attached
    subscribed := by simpa [CaptureControlEngine.detachReplay] using h.subscribed
    fresh := h.fresh
    retention := fun _ => by simp [CaptureControlEngine.detachReplay, isReplayActive]
    enabled := fun hclaim => by simp [CaptureControlEngine.detachReplay, isReplayActive] at hclaim
    saving := fun hclaim => by simp [CaptureControlEngine.detachReplay] at hclaim }

/-- What `EnsureCaptureActive` leaves when it succeeds. -/
def captureActivated (engine : CaptureControlEngine ε) : CaptureControlEngine ε :=
  { engine with
    capture := { engine.capture with running := true }
    captureState := .active
    captureEpoch := if engine.capture.running then engine.captureEpoch
      else engine.captureEpoch + 1 }

/-- A capture session that runs is kept; one that is stopped is started. -/
theorem ensureCaptureActive_eq
    (hrunning : engine.capture.running = true → engine.captureState = .active)
    (hstopped : engine.capture.running = false →
      engine.captureState ≠ .active ∧ engine.captureState ≠ .failed ∧
        engine.capture.streams.length ≠ 0) :
    engine.ensureCaptureActive = (true, engine.captureActivated) := by
  unfold ensureCaptureActive captureActivated
  cases hcapture : engine.capture.running with
  | true =>
      have hactive := hrunning hcapture
      rw [if_pos ⟨hactive, rfl⟩]
      have hsame : { engine.capture with running := true } = engine.capture := by
        rw [← hcapture]
      rw [hsame]
      simp only [if_true, ← hactive]
  | false =>
      obtain ⟨hinactive, hsound, hstreams⟩ := hstopped hcapture
      rw [if_neg (by simp), if_neg hsound,
        SynchronizedCaptureSession.start_of_stopped hcapture hstreams]
      rfl

/-- `StartRecording` gets as far as a new consumer that starts. -/
def BeginsRecording (engine : CaptureControlEngine ε) (paths : List String) (starts : Bool) :
    Prop :=
  engine.initialized = true ∧ engine.recordingState = .off ∧
    paths.length = (engine.configuration.selectedCaptureIds .recording).length ∧ paths ≠ [] ∧
    starts = true

instance (engine : CaptureControlEngine ε) (paths : List String) (starts : Bool) :
    Decidable (engine.BeginsRecording paths starts) := by
  unfold BeginsRecording
  infer_instance

/-- The engine with its new recording consumer subscribed. -/
def attachRecording (engine : CaptureControlEngine ε) (paths : List String) :
    CaptureControlEngine ε :=
  { engine with
    recordingState := .starting
    recordingResult := none
    recordingConsumer := some ⟨engine.nextAddress,
      engine.configuration.selectedPacketConfigs .recording, paths,
      engine.configuration.selectedCaptureIds .recording⟩
    nextAddress := engine.nextAddress + 1
    capture := { engine.capture with
      consumers := engine.capture.consumers ++ [engine.nextAddress] }.setReplayRetentionEnabled
        (isReplayActive engine.replayState) }

theorem Settling.ensureCaptureActive (h : engine.Settling)
    (hstopped : engine.inUse = false → engine.capture.running = false ∧
      engine.captureState ≠ .active) (hinitialized : engine.initialized = true)
    (engine' : CaptureControlEngine ε) (hrunning : engine'.capture.running = engine.capture.running)
    (hlength : engine'.capture.streams.length = engine.capture.streams.length)
    (hstate : engine'.captureState = engine.captureState) :
    engine'.ensureCaptureActive = (true, engine'.captureActivated) := by
  apply ensureCaptureActive_eq
  · rw [hrunning, hstate]
    intro hrun
    cases huse : engine.inUse with
    | true => exact h.active huse
    | false => simp [(hstopped huse).1] at hrun
  · rw [hrunning, hstate, hlength]
    intro hidle
    cases huse : engine.inUse with
    | true => simp [h.running huse] at hidle
    | false =>
        refine ⟨(hstopped huse).2, ?_, h.registered hinitialized⟩
        intro hfailed
        simp [(h.failed hfailed).1] at hinitialized

theorem Coherent.recordingConsumer_eq_none (h : engine.Coherent)
    (hoff : engine.recordingState = .off) : engine.recordingConsumer = none := by
  have hattached := h.attached
  simp only [hoff, isRecordingActive, ne_eq, not_true_eq_false, decide_false,
    Option.isSome_eq_false_iff, Option.isNone_iff_eq_none] at hattached
  exact hattached

/-- `StartReplay` gets as far as the capture. -/
def BeginsReplay (engine : CaptureControlEngine ε) : Prop :=
  engine.initialized = true ∧ engine.configuration.replay.enabled = true ∧
    engine.replayState = .off ∧ engine.configuration.selectedCaptureIds .replay ≠ []

instance (engine : CaptureControlEngine ε) : Decidable engine.BeginsReplay := by
  unfold BeginsReplay
  infer_instance

/-- The engine with its replay consumer and the ring switched on. -/
def attachReplay (engine : CaptureControlEngine ε) : CaptureControlEngine ε :=
  { engine with
    replayState := .starting
    replayResult := none
    replayConsumer := some (engine.replayConsumer.getD {})
    capture := engine.capture.setReplayRetentionEnabled true }

theorem Coherent.recordingAttached (h : engine.Coherent) {paths : List String} {starts : Bool}
    (hbegins : engine.BeginsRecording paths starts) :
    (engine.attachRecording paths).captureActivated.Settling where
  running _ := rfl
  active _ := rfl
  ready _ := hbegins.1
  numbered := h.numbered
  failed := by simp [captureActivated]
  registered hinitialized := by
    simpa [captureActivated, attachRecording] using h.registered hinitialized
  attached := rfl
  subscribed := by
    have hnone : engine.capture.consumers = [] := by
      rw [h.subscribed, h.recordingConsumer_eq_none hbegins.2.1]
      rfl
    simp [captureActivated, attachRecording, hnone]
  fresh := by simp [captureActivated, attachRecording]
  retention _ := by simp [captureActivated, attachRecording]
  enabled := h.enabled
  saving := h.saving

theorem Coherent.replayAttached (h : engine.Coherent) (hbegins : engine.BeginsReplay) :
    engine.attachReplay.captureActivated.Settling where
  running _ := rfl
  active _ := rfl
  ready _ := hbegins.1
  numbered := h.numbered
  failed := by simp [captureActivated]
  registered hinitialized := by
    simpa [captureActivated, attachReplay] using h.registered hinitialized
  attached := h.attached
  subscribed := by
    simpa [captureActivated, attachReplay] using h.subscribed
  fresh := h.fresh
  retention _ := by simp [captureActivated, attachReplay, isReplayActive]
  enabled _ := hbegins.2.1
  saving _ := rfl

theorem Settling.withEncoders (h : engine.Settling) (encoders : ObservedEncoders ε) :
    { engine with encoders := encoders }.Settling :=
  h.congr rfl rfl rfl rfl rfl rfl rfl rfl rfl

/-- Once a consumer that is on has settled, its start is over. -/
theorem Settling.recordingStarted (h : engine.Settling)
    (hstarting : engine.recordingState = .starting)
    (hreplay : engine.replayState = .off ∨ engine.replayState = .running ∨
      engine.replayState = .saving) : { engine with recordingState := .running }.Coherent := by
  have huse : engine.inUse = true := inUse_eq_true.mpr (Or.inl (by simp [hstarting]))
  exact {
    running := fun _ => h.running huse
    active := fun _ => h.active huse
    ready := fun _ => h.ready huse
    numbered := h.numbered
    failed := h.failed
    registered := h.registered
    attached := by
      rw [h.attached, hstarting]
      rfl
    subscribed := h.subscribed
    fresh := h.fresh
    retention := fun _ => h.retention huse
    enabled := h.enabled
    saving := h.saving
    recording := Or.inr rfl
    replay := hreplay
    stopped := fun hunused => by simp [inUse, isRecordingActive] at hunused }

theorem Settling.replayStarted (h : engine.Settling) (hstarting : engine.replayState = .starting)
    (hrecording : engine.recordingState = .off ∨ engine.recordingState = .running) :
    { engine with replayState := .running }.Coherent := by
  have huse : engine.inUse = true := inUse_eq_true.mpr (Or.inr (by simp [hstarting]))
  exact {
    running := fun _ => h.running huse
    active := fun _ => h.active huse
    ready := fun _ => h.ready huse
    numbered := h.numbered
    failed := h.failed
    registered := h.registered
    attached := h.attached
    subscribed := h.subscribed
    fresh := h.fresh
    retention := fun _ => by
      rw [h.retention huse, hstarting]
      rfl
    enabled := fun _ => h.enabled (by simp [hstarting, isReplayActive])
    saving := fun hclaim => by cases hclaim
    recording := hrecording
    replay := Or.inr (Or.inl rfl)
    stopped := fun hunused => by simp [inUse, isReplayActive] at hunused }

theorem waitForReplaySave_of_not_saving (h : engine.replayState ≠ .saving) :
    engine.waitForReplaySave = { engine with
      replayConsumer := engine.replayConsumer.map SynchronizedReplayConsumer.wait } := by
  unfold waitForReplaySave
  cases hconsumer : engine.replayConsumer with
  | none =>
      simp only [Option.map_none]
      rw [← hconsumer]
  | some consumer => simp [h]

theorem Coherent.withCapture (h : engine.Coherent) {capture : SynchronizedCaptureSession}
    (hsame : SynchronizedCaptureSession.SameSwitches engine.capture capture) :
    { engine with capture := capture }.Coherent where
  running huse := hsame.running.trans (h.running huse)
  active := h.active
  ready := h.ready
  numbered := h.numbered
  failed := by
    rw [hsame.length]
    exact h.failed
  registered hinitialized := by
    rw [hsame.length]
    exact h.registered hinitialized
  attached := h.attached
  subscribed := hsame.consumers.trans h.subscribed
  fresh := h.fresh
  retention huse := hsame.retention.trans (h.retention huse)
  enabled := h.enabled
  saving := h.saving
  recording := h.recording
  replay := h.replay
  stopped hunused := ⟨hsame.running.trans (h.stopped hunused).1, (h.stopped hunused).2⟩

/-- Replay goes from running to saving and back. -/
theorem Coherent.withReplay (h : engine.Coherent) (hon : engine.replayState ≠ .off)
    {state : ReplayConsumerState} (hstate : state = .running ∨ state = .saving)
    (consumer : SynchronizedReplayConsumer) (result : Option ReplaySaveResult) :
    { engine with
      replayConsumer := some consumer
      replayResult := result
      replayState := state }.Coherent := by
  have hactive : isReplayActive state = isReplayActive engine.replayState := by
    rcases hstate with rfl | rfl <;> simp [isReplayActive, hon]
  have huse : engine.inUse = true := inUse_eq_true.mpr (Or.inr hon)
  exact {
    running := fun _ => h.running huse
    active := fun _ => h.active huse
    ready := fun _ => h.ready huse
    numbered := h.numbered
    failed := h.failed
    registered := h.registered
    attached := h.attached
    subscribed := h.subscribed
    fresh := h.fresh
    retention := fun _ => (h.retention huse).trans hactive.symm
    enabled := fun hclaim => h.enabled (hactive ▸ hclaim)
    saving := fun _ => rfl
    recording := h.recording
    replay := Or.inr hstate
    stopped := fun hunused => absurd (inUse_eq_false.mp hunused).2 (by
      rcases hstate with rfl | rfl <;> simp) }

theorem Coherent.waitForReplaySave (h : engine.Coherent) : engine.waitForReplaySave.Coherent := by
  by_cases hsaving : engine.replayState = .saving
  · unfold CaptureControlEngine.waitForReplaySave
    split
    · exact h
    · simp only [hsaving, if_true]
      exact h.withReplay (by simp [hsaving]) (Or.inl rfl) _ _
  · rw [waitForReplaySave_of_not_saving hsaving]
    exact { h with
      toSettling := h.toSettling.congr rfl rfl rfl rfl rfl rfl rfl rfl (by simp) }

theorem Coherent.pollReplaySave (h : engine.Coherent) : engine.pollReplaySave.Coherent := by
  unfold CaptureControlEngine.pollReplaySave
  split
  · exact h
  · split_ifs with hidle
    · exact h
    · push Not at hidle
      exact h.withReplay (by simp [hidle.1]) (Or.inl rfl) _ _

/-- What the consumer answers to a save. -/
def requestSave (engine : CaptureControlEngine ε) (paths : List String)
    (library : Nat → MuxLibrary) : Bool × SynchronizedReplayConsumer :=
  (engine.replayConsumer.getD {}).requestSave engine.capture library paths
    engine.configuration.replay.targetDurationNs
    (engine.configuration.selectedCaptureIds .replay)

/-- A save is refused, by the engine or by the consumer, or it is started. -/
theorem saveReplay_eq (engine : CaptureControlEngine ε) (paths : List String)
    (library : Nat → MuxLibrary) :
    (∃ refusal : ControlCommandResult, refusal.ok = false ∧
      engine.saveReplay paths library = (refusal, engine)) ∨
    (engine.replayState = .running ∧ ∃ (refusal : ControlCommandResult) (consumer : _),
      engine.requestSave paths library = (false, consumer) ∧ refusal.ok = false ∧
      engine.saveReplay paths library =
        (refusal, { engine with replayConsumer := some consumer })) ∨
    (engine.replayState = .running ∧ ∃ consumer,
      engine.requestSave paths library = (true, consumer) ∧
      engine.saveReplay paths library = (⟨.succeeded, "replay-save-started"⟩,
        { engine with replayConsumer := some consumer, replayState := .saving })) := by
  generalize hanswer : engine.saveReplay paths library = answer
  unfold saveReplay at hanswer
  dsimp only at hanswer
  split_ifs at hanswer with henabled hoff hready hsaving hcount hcapture <;> subst hanswer
  · exact Or.inl ⟨_, rfl, rfl⟩
  · exact Or.inl ⟨_, rfl, rfl⟩
  · exact Or.inl ⟨_, rfl, rfl⟩
  · exact Or.inl ⟨_, rfl, rfl⟩
  · exact Or.inl ⟨_, rfl, rfl⟩
  · exact Or.inl ⟨_, rfl, rfl⟩
  · have hrunning : engine.replayState = .running := by
      by_contra hother
      exact hready ⟨hother, hsaving⟩
    unfold requestSave
    right
    rcases (engine.replayConsumer.getD {}).requestSave engine.capture library paths
        engine.configuration.replay.targetDurationNs
        (engine.configuration.selectedCaptureIds .replay) with ⟨_ | _, consumer⟩
    · exact Or.inl ⟨hrunning, _, consumer, rfl, rfl, rfl⟩
    · exact Or.inr ⟨hrunning, consumer, rfl, rfl⟩

theorem Coherent.saveReplay (h : engine.Coherent) (paths : List String)
    (library : Nat → MuxLibrary) : (engine.saveReplay paths library).2.Coherent := by
  rcases engine.saveReplay_eq paths library with ⟨_, -, hsave⟩ |
    ⟨hrunning, _, consumer, -, -, hsave⟩ | ⟨hrunning, consumer, -, hsave⟩
  · rwa [hsave]
  · rw [hsave]
    have hkept := h.withReplay (by simp [hrunning]) (Or.inl rfl) consumer engine.replayResult
    rw [← hrunning] at hkept
    exact hkept
  · rw [hsave]
    exact h.withReplay (by simp [hrunning]) (Or.inr rfl) consumer engine.replayResult

/-- The engine with this replay configuration in place of its own. -/
def withReplayConfiguration (engine : CaptureControlEngine ε)
    (configuration : ReplayConfiguration) : CaptureControlEngine ε :=
  { engine with
    configuration := { engine.configuration with replay := configuration }
    capture := engine.capture.setRingCapacityBytes configuration.memoryBudgetBytes }

theorem Coherent.configured (h : engine.Coherent) (configuration : ReplayConfiguration)
    (henabled : engine.replayState ≠ .off → configuration.enabled = true) :
    (engine.withReplayConfiguration configuration).Coherent :=
  { h.withCapture (engine.capture.sameSwitches_setRingCapacityBytes _) with
    enabled := fun hactive => henabled (of_decide_eq_true hactive) }

/-- Registering the streams of the configuration subscribes nobody and starts nothing. -/
theorem registerStreams_frame {streams : List ConfiguredStream} {captureId : CaptureStreamId}
    {capture capture' : SynchronizedCaptureSession} {ok : Bool}
    (h : registerStreams streams captureId capture = (ok, capture')) :
    capture'.running = capture.running ∧ capture'.consumers = capture.consumers := by
  induction streams generalizing captureId capture with
  | nil =>
      obtain ⟨_, rfl⟩ := Prod.mk.inj h
      exact ⟨rfl, rfl⟩
  | cons stream rest ih =>
      unfold registerStreams at h
      split_ifs at h
      · exact ih h
      · have hstep : (capture.registerStream captureId stream.name stream.packetConfig).2.running =
            capture.running ∧
            (capture.registerStream captureId stream.name stream.packetConfig).2.consumers =
              capture.consumers := by
          unfold SynchronizedCaptureSession.registerStream
          split_ifs <;> exact ⟨rfl, rfl⟩
        split at h <;> rename_i registered hregister <;> rw [hregister] at hstep
        · obtain ⟨_, rfl⟩ := Prod.mk.inj h
          exact hstep
        · obtain ⟨hrunning, hconsumers⟩ := ih h
          exact ⟨hrunning.trans hstep.1, hconsumers.trans hstep.2⟩

theorem registerStream_true {captureId : CaptureStreamId} {name : String}
    {config : PacketStreamConfig} {capture capture' : SynchronizedCaptureSession}
    (h : capture.registerStream captureId name config = (true, capture')) :
    captureId.toNat = capture.streams.length ∧
      capture'.streams.length = capture.streams.length + 1 := by
  unfold SynchronizedCaptureSession.registerStream at h
  split_ifs at h with hinvalid hname hdense
  · cases congrArg Prod.fst h
  · cases congrArg Prod.fst h
  · cases congrArg Prod.fst h
  · obtain ⟨-, rfl⟩ := Prod.mk.inj h
    exact ⟨not_not.mp hdense, by simp⟩

/-- The ids of the registered streams do not wrap around. -/
theorem registerStreams_true {streams : List ConfiguredStream} {captureId : CaptureStreamId}
    {capture capture' : SynchronizedCaptureSession}
    (h : registerStreams streams captureId capture = (true, capture')) :
    (enabledCount streams = 0 ∧ 0 < captureId.toNat ∧ capture' = capture) ∨
      (captureId.toNat = capture.streams.length ∧ 0 < enabledCount streams ∧
        capture'.streams.length = captureId.toNat + enabledCount streams ∧
        captureId.toNat + enabledCount streams < 256) := by
  induction streams generalizing captureId capture with
  | nil =>
      obtain ⟨hpositive, rfl⟩ := Prod.mk.inj h
      exact Or.inl ⟨rfl, by simpa [UInt8.lt_iff_toNat_lt] using hpositive, rfl⟩
  | cons stream rest ih =>
      unfold registerStreams at h
      split_ifs at h with hdisabled
      · have hcount : enabledCount (stream :: rest) = enabledCount rest := by
          simp [enabledCount, hdisabled]
        rw [hcount]
        exact ih h
      · have hcount : enabledCount (stream :: rest) = enabledCount rest + 1 := by
          simp [enabledCount, hdisabled]
        rw [hcount]
        split at h <;> rename_i registered hregister
        · cases congrArg Prod.fst h
        · obtain ⟨hid, hlength⟩ := registerStream_true hregister
          have hnext : (captureId + 1).toNat = (captureId.toNat + 1) % 256 := by
            simp [UInt8.toNat_add]
          have hbound := captureId.toNat_lt
          rcases ih h with ⟨hnone, hpositive, rfl⟩ | ⟨hid', hsome, hlength', hfits⟩
          · refine Or.inr ⟨hid, ?_, ?_, ?_⟩ <;> omega
          · refine Or.inr ⟨hid, ?_, ?_, ?_⟩ <;> omega

theorem coherent_create (configuration : CaptureConfiguration) (ringCapacityBytes : Nat)
    (controller : ε) :
    (create configuration (.create ringCapacityBytes) controller).Coherent where
  running huse := by cases huse
  active huse := by cases huse
  ready huse := by cases huse
  numbered hinitialized := by cases hinitialized
  failed hfailed := by cases hfailed
  registered hinitialized := by cases hinitialized
  attached := rfl
  subscribed := rfl
  fresh := by simp [create]
  retention huse := by cases huse
  enabled hactive := by cases hactive
  saving hsaving := by cases hsaving
  recording := Or.inl rfl
  replay := Or.inl rfl
  stopped _ := ⟨rfl, by simp [create]⟩

theorem registerStreams_length {streams : List ConfiguredStream} {captureId : CaptureStreamId}
    {capture capture' : SynchronizedCaptureSession} {ok : Bool}
    (h : registerStreams streams captureId capture = (ok, capture')) :
    capture.streams.length ≤ capture'.streams.length := by
  induction streams generalizing captureId capture with
  | nil =>
      obtain ⟨_, rfl⟩ := Prod.mk.inj h
      exact le_rfl
  | cons stream rest ih =>
      unfold registerStreams at h
      split_ifs at h
      · exact ih h
      · have hstep : capture.streams.length ≤
            (capture.registerStream captureId stream.name
              stream.packetConfig).2.streams.length := by
          unfold SynchronizedCaptureSession.registerStream
          split_ifs <;> simp
        split at h <;> rename_i registered hregister <;> rw [hregister] at hstep
        · obtain ⟨_, rfl⟩ := Prod.mk.inj h
          exact hstep
        · exact hstep.trans (ih h)

/-- A session without streams turns the first one down only for what this stream is. -/
theorem registerStream_false {name : String} {config : PacketStreamConfig}
    {capture capture' : SynchronizedCaptureSession} (hstopped : capture.running = false)
    (hempty : capture.streams.length = 0)
    (h : capture.registerStream 0 name config = (false, capture')) :
    name = "" ∨ config.width = 0 ∨ config.height = 0 := by
  have hnone : capture.streams = [] := List.eq_nil_of_length_eq_zero hempty
  unfold SynchronizedCaptureSession.registerStream at h
  split_ifs at h with hinvalid hname hdense
  · simpa [hstopped] using hinvalid
  · simp [hnone] at hname
  · simp [hnone] at hdense
  · cases congrArg Prod.fst h

/-- A registration that fails has left streams behind, or fails on the first stream for
what this stream is. -/
theorem registerStreams_false {streams : List ConfiguredStream}
    {capture capture' : SynchronizedCaptureSession} (hstopped : capture.running = false)
    (h : registerStreams streams 0 capture = (false, capture')) :
    capture'.streams.length ≠ 0 ∨ Unregistrable streams := by
  by_cases hempty : capture.streams.length = 0
  · induction streams with
    | nil => exact Or.inr (fun _ => rfl)
    | cons stream rest ih =>
        unfold registerStreams at h
        split_ifs at h with hdisabled
        · rcases ih h with hleft | hunregistrable
          · exact Or.inl hleft
          · refine Or.inr (fun other => ?_)
            unfold registerStreams
            rw [if_pos hdisabled]
            exact hunregistrable other
        · split at h <;> rename_i registered hregister
          · have hinvalid := registerStream_false hstopped hempty hregister
            refine Or.inr (fun other => ?_)
            unfold registerStreams SynchronizedCaptureSession.registerStream
            rw [if_neg hdisabled, if_pos (Or.inr hinvalid)]
          · have hlength := registerStreams_length h
            have hnew := (registerStream_true hregister).2
            exact Or.inl (by omega)
  · have hlength := registerStreams_length h
    exact Or.inl (by omega)

theorem Coherent.initializeEngine (h : engine.Coherent) :
    engine.initializeEngine.2.Coherent := by
  unfold CaptureControlEngine.initializeEngine
  split_ifs with hinitialized
  · exact h
  have hunused : engine.inUse = false := by
    by_contra huse
    exact hinitialized (h.ready (by simpa using huse))
  have hno (hclaim : engine.inUse = true) : False := by simp [hunused] at hclaim
  rcases hregister : registerStreams engine.configuration.streams 0 engine.capture with
    ⟨ok, capture⟩
  obtain ⟨hrunning, hconsumers⟩ := registerStreams_frame hregister
  have hstopped : capture.running = false := hrunning.trans (h.stopped hunused).1
  cases ok with
  | false =>
      exact {
        running := fun huse => (hno huse).elim
        active := fun huse => (hno huse).elim
        ready := fun huse => (hno huse).elim
        numbered := fun hclaim => by cases hclaim
        failed := fun _ =>
          ⟨rfl, registerStreams_false (h.stopped hunused).1 hregister⟩
        registered := fun hclaim => by cases hclaim
        attached := h.attached
        subscribed := hconsumers.trans h.subscribed
        fresh := h.fresh
        retention := fun huse => (hno huse).elim
        enabled := h.enabled
        saving := h.saving
        recording := h.recording
        replay := h.replay
        stopped := fun _ => ⟨hstopped, by simp⟩ }
  | true =>
      obtain ⟨hfirst, hregistered, hfits⟩ :
          engine.capture.streams.length = 0 ∧ capture.streams.length ≠ 0 ∧
            enabledCount engine.configuration.streams < 256 := by
        rcases registerStreams_true hregister with
          ⟨_, hpositive, _⟩ | ⟨hid, hsome, hlength, hbound⟩
        · simp at hpositive
        · exact ⟨hid.symm, by omega, by omega⟩
      exact {
        running := fun huse => (hno huse).elim
        active := fun huse => (hno huse).elim
        ready := fun huse => (hno huse).elim
        numbered := fun _ => hfits
        failed := fun hfailed => by
          rcases (h.failed hfailed).2 with hleft | hunregistrable
          · exact absurd hfirst hleft
          · simpa [hregister] using hunregistrable engine.capture
        registered := fun _ => hregistered
        attached := h.attached
        subscribed := hconsumers.trans h.subscribed
        fresh := h.fresh
        retention := fun huse => (hno huse).elim
        enabled := h.enabled
        saving := h.saving
        recording := h.recording
        replay := h.replay
        stopped := fun _ => ⟨hstopped, (h.stopped hunused).2⟩ }

/-! ### Commands that start and stop no consumer -/

/-- The consumers that are on stay on, the others stay off, and no encoder is asked. -/
structure SameConsumers (engine engine' : CaptureControlEngine ε) : Prop where
  configuration : engine'.configuration = engine.configuration
  encoders : engine'.encoders = engine.encoders
  epoch : engine'.captureEpoch = engine.captureEpoch
  recordingState : engine'.recordingState = engine.recordingState
  recordingConsumer : engine'.recordingConsumer = engine.recordingConsumer
  address : engine'.nextAddress = engine.nextAddress
  subscribed : engine'.capture.consumers = engine.capture.consumers
  replayActive : isReplayActive engine'.replayState = isReplayActive engine.replayState

theorem SameConsumers.refl : SameConsumers engine engine :=
  ⟨rfl, rfl, rfl, rfl, rfl, rfl, rfl, rfl⟩

theorem SameConsumers.inUse {engine' : CaptureControlEngine ε} (h : SameConsumers engine engine') :
    engine'.inUse = engine.inUse := by
  unfold CaptureControlEngine.inUse
  rw [h.recordingState, h.replayActive]

theorem initializeEngine_sameConsumers (engine : CaptureControlEngine ε) :
    SameConsumers engine engine.initializeEngine.2 := by
  unfold CaptureControlEngine.initializeEngine
  split_ifs
  · exact .refl
  · rcases hregister : registerStreams engine.configuration.streams 0 engine.capture with
      ⟨_ | _, capture⟩ <;> obtain ⟨-, hconsumers⟩ := registerStreams_frame hregister
    · exact ⟨rfl, rfl, rfl, rfl, rfl, rfl, hconsumers, rfl⟩
    · exact ⟨rfl, rfl, rfl, rfl, rfl, rfl, hconsumers, rfl⟩

/-- A save begins and ends while replay is on. -/
theorem saveReplay_sameConsumers (engine : CaptureControlEngine ε) (paths : List String)
    (library : Nat → MuxLibrary) : SameConsumers engine (engine.saveReplay paths library).2 := by
  rcases engine.saveReplay_eq paths library with ⟨_, -, hsave⟩ | ⟨-, _, consumer, -, -, hsave⟩ |
    ⟨hrunning, consumer, -, hsave⟩
  · rw [hsave]
    exact .refl
  · rw [hsave]
    exact ⟨rfl, rfl, rfl, rfl, rfl, rfl, rfl, rfl⟩
  · rw [hsave]
    exact ⟨rfl, rfl, rfl, rfl, rfl, rfl, rfl, by simp [isReplayActive, hrunning]⟩

theorem pollReplaySave_sameConsumers (engine : CaptureControlEngine ε) :
    SameConsumers engine engine.pollReplaySave := by
  unfold CaptureControlEngine.pollReplaySave
  split
  · exact .refl
  · split_ifs with hidle
    · exact .refl
    · push Not at hidle
      exact ⟨rfl, rfl, rfl, rfl, rfl, rfl, rfl, by simp [isReplayActive, hidle.1]⟩

theorem waitForReplaySave_sameConsumers (engine : CaptureControlEngine ε) :
    SameConsumers engine engine.waitForReplaySave := by
  unfold CaptureControlEngine.waitForReplaySave
  split
  · exact .refl
  · dsimp only
    split_ifs with hsaving
    · exact ⟨rfl, rfl, rfl, rfl, rfl, rfl, rfl, by simp [isReplayActive, hsaving]⟩
    · exact ⟨rfl, rfl, rfl, rfl, rfl, rfl, rfl, rfl⟩

variable [EncoderController ε]

section Frame

variable (engine : CaptureControlEngine ε)

@[simp] theorem stopCaptureIfUnused_recordingState :
    engine.stopCaptureIfUnused.recordingState = engine.recordingState := by
  unfold stopCaptureIfUnused
  split_ifs <;> rfl

@[simp] theorem stopCaptureIfUnused_replayState :
    engine.stopCaptureIfUnused.replayState = engine.replayState := by
  unfold stopCaptureIfUnused
  split_ifs <;> rfl

@[simp] theorem stopCaptureIfUnused_configuration :
    engine.stopCaptureIfUnused.configuration = engine.configuration := by
  unfold stopCaptureIfUnused
  split_ifs <;> rfl

@[simp] theorem stopCaptureIfUnused_initialized :
    engine.stopCaptureIfUnused.initialized = engine.initialized := by
  unfold stopCaptureIfUnused
  split_ifs <;> rfl

@[simp] theorem stopCaptureIfUnused_replayConsumer :
    engine.stopCaptureIfUnused.replayConsumer = engine.replayConsumer := by
  unfold stopCaptureIfUnused
  split_ifs <;> rfl

@[simp] theorem stopCaptureIfUnused_replayResult :
    engine.stopCaptureIfUnused.replayResult = engine.replayResult := by
  unfold stopCaptureIfUnused
  split_ifs <;> rfl

end Frame

theorem stopCaptureIfUnused_of_inUse (h : engine.inUse = true) :
    engine.stopCaptureIfUnused = engine := by
  unfold stopCaptureIfUnused
  rw [if_pos (by simpa [inUse] using h)]

/-- The fields that `StopCaptureIfUnused` sets on an unused capture. -/
theorem stopCaptureIfUnused_of_not_inUse (h : engine.inUse = false) :
    engine.stopCaptureIfUnused = { engine with
      captureState := .idle
      capture := engine.capture.stop.setReplayRetentionEnabled false
      encoders := ObservedEncoders.releasePass engine.demanded engine.configuration.addressed
        engine.encoders } := by
  have hunused : ¬(isRecordingActive engine.recordingState = true ∨
      isReplayActive engine.replayState = true) := by
    simpa [inUse] using h
  unfold stopCaptureIfUnused
  rw [if_neg hunused]
  rfl

theorem Settling.stopCaptureIfUnused (h : engine.Settling)
    (hrecording : engine.recordingState = .off ∨ engine.recordingState = .running)
    (hreplay : engine.replayState = .off ∨ engine.replayState = .running ∨
      engine.replayState = .saving) : engine.stopCaptureIfUnused.Coherent := by
  cases huse : engine.inUse with
  | true =>
      rw [stopCaptureIfUnused_of_inUse huse]
      exact { h with
        recording := hrecording, replay := hreplay
        stopped := fun hunused => by simp [huse] at hunused }
  | false =>
      rw [stopCaptureIfUnused_of_not_inUse huse]
      have hunused (hclaim : engine.inUse = true) : False := by simp [huse] at hclaim
      exact {
        running := fun hclaim => (hunused hclaim).elim
        active := fun hclaim => (hunused hclaim).elim
        ready := fun hclaim => (hunused hclaim).elim
        numbered := h.numbered
        failed := by simp
        registered := fun hinitialized => by simpa using h.registered hinitialized
        attached := h.attached
        subscribed := by simpa using h.subscribed
        fresh := h.fresh
        retention := fun hclaim => (hunused hclaim).elim
        enabled := h.enabled
        saving := h.saving
        recording := hrecording
        replay := hreplay
        stopped := fun _ => ⟨by simp, by simp⟩ }

theorem Settling.detachRecording_coherent (h : engine.Settling)
    (hreplay : engine.replayState = .off ∨ engine.replayState = .running ∨
      engine.replayState = .saving) : engine.detachRecording.stopCaptureIfUnused.Coherent :=
  h.detachRecording.stopCaptureIfUnused (Or.inl rfl) hreplay

/-- Reconciling the demand touches nothing but the encoders. -/
theorem reconcileEncoderDemand_eq {ok : Bool} {engine' : CaptureControlEngine ε}
    (h : engine.reconcileEncoderDemand = (ok, engine')) :
    engine' = { engine with encoders := engine'.encoders } := by
  unfold reconcileEncoderDemand at h
  split at h <;> obtain ⟨rfl, rfl⟩ := Prod.mk.inj h <;> rfl

/-- While the encoders are asked, a capture that runs goes on running. -/
theorem reconcileEncoderDemand_running {answer : Type}
    (hrunning : engine.capture.running = true) (failed started : CaptureControlEngine ε → answer) :
    (match engine.reconcileEncoderDemand with
      | (false, engine) => failed engine
      | (true, engine) => if !engine.capture.running then failed engine else started engine) =
    match engine.reconcileEncoderDemand with
      | (false, engine) => failed engine
      | (true, engine) => started engine := by
  rcases hreconcile : engine.reconcileEncoderDemand with ⟨_ | _, engine'⟩
  · rfl
  · have hkept : engine'.capture.running = true := by
      rw [reconcileEncoderDemand_eq hreconcile]
      exact hrunning
    simp [hkept]

/-- A recording that begins is subscribed, and the capture runs when the encoders are
asked. -/
theorem Coherent.startRecording_of_begins (h : engine.Coherent) {paths : List String}
    {starts : Bool} (hbegins : engine.BeginsRecording paths starts) :
    engine.startRecording paths starts =
      match (engine.attachRecording paths).captureActivated.reconcileEncoderDemand with
      | (false, engine) => engine.abandonRecording
      | (true, engine) => (⟨.succeeded, "recording-started"⟩,
          { engine with recordingState := .running }) := by
  obtain ⟨hinitialized, hoff, hcount, hpaths, rfl⟩ := hbegins
  have hnew : engine.nextAddress ∉ engine.capture.consumers := by
    rw [h.subscribed, h.recordingConsumer_eq_none hoff]
    simp
  have hactivate : (engine.attachRecording paths).ensureCaptureActive =
      (true, (engine.attachRecording paths).captureActivated) :=
    h.toSettling.ensureCaptureActive h.stopped hinitialized _ (by simp [attachRecording])
      (by simp [attachRecording]) rfl
  unfold startRecording
  dsimp only
  rw [if_neg (by simp [hinitialized]), if_neg (by simp [hoff]),
    if_neg (by simp [hoff, hcount, hpaths])]
  simp only [if_true, Option.map_some, SynchronizedCaptureSession.subscribe_of_new hnew,
    Bool.not_true, Bool.false_eq_true, if_false]
  have hcontinue : (engine.attachRecording paths).ensureCaptureActive = _ := hactivate
  unfold attachRecording at hcontinue
  rw [hcontinue]
  exact reconcileEncoderDemand_running rfl _ _

/-- Otherwise the command has no effect but on the result of the last recording. -/
theorem Coherent.startRecording_of_not_begins (h : engine.Coherent) {paths : List String}
    {starts : Bool} (hbegins : ¬engine.BeginsRecording paths starts) :
    (engine.startRecording paths starts).2 = engine ∨
      (engine.recordingState = .off ∧ (engine.startRecording paths starts).2 =
        { engine with recordingResult := none, nextAddress := engine.nextAddress + 1 }) := by
  unfold startRecording
  dsimp only
  by_cases hinitialized : (!engine.initialized) = true
  · rw [if_pos hinitialized]
    exact Or.inl rfl
  rw [if_neg hinitialized]
  by_cases hactive : engine.recordingState = .running ∨ engine.recordingState = .starting
  · rw [if_pos hactive]
    exact Or.inl rfl
  rw [if_neg hactive]
  by_cases hcount : engine.recordingState ≠ .off ∨
      paths.length ≠ (engine.configuration.selectedCaptureIds .recording).length ∨
        paths.isEmpty = true
  · rw [if_pos hcount]
    exact Or.inl rfl
  rw [if_neg hcount]
  push Not at hcount
  obtain ⟨hoff, hlength, hpaths⟩ := hcount
  have hstarts : starts = false := by
    by_contra hstarts
    apply hbegins
    exact ⟨by simpa using hinitialized, hoff, hlength, by simpa using hpaths,
      by simpa using hstarts⟩
  have hnone := h.recordingConsumer_eq_none hoff
  subst hstarts
  refine Or.inr ⟨hoff, ?_⟩
  simp only [Bool.false_eq_true, if_false, Bool.not_false, if_true]
  rw [← hnone, ← hoff]

theorem Coherent.startReplay_of_begins (h : engine.Coherent) (hbegins : engine.BeginsReplay) :
    engine.startReplay =
      match engine.attachReplay.captureActivated.reconcileEncoderDemand with
      | (false, engine) => engine.abandonReplay
      | (true, engine) => (⟨.succeeded, "replay-started"⟩,
          { engine with replayState := .running }) := by
  obtain ⟨hinitialized, henabled, hoff, hstreams⟩ := hbegins
  have hactivate : engine.attachReplay.ensureCaptureActive =
      (true, engine.attachReplay.captureActivated) :=
    h.toSettling.ensureCaptureActive h.stopped hinitialized _ (by simp [attachReplay])
      (by simp [attachReplay]) rfl
  unfold startReplay
  rw [if_neg (by simp [hinitialized]), if_neg (by simp [henabled]), if_neg (by simp [hoff]),
    if_neg (by simp [hoff, hstreams])]
  dsimp only
  have hcontinue : engine.attachReplay.ensureCaptureActive = _ := hactivate
  unfold attachReplay at hcontinue
  rw [hcontinue]
  exact reconcileEncoderDemand_running rfl _ _

theorem startReplay_of_not_begins (hbegins : ¬engine.BeginsReplay) :
    engine.startReplay.2 = engine := by
  unfold startReplay
  split_ifs with hinitialized henabled hactive hcount
  · rfl
  · rfl
  · rfl
  · rfl
  · push Not at hcount
    exact absurd ⟨by simpa using hinitialized, by simpa using henabled, hcount.1,
      by simpa using hcount.2⟩ hbegins

theorem Coherent.startRecording (h : engine.Coherent) (paths : List String) (starts : Bool) :
    (engine.startRecording paths starts).2.Coherent := by
  by_cases hbegins : engine.BeginsRecording paths starts
  · rw [h.startRecording_of_begins hbegins]
    have hattached := h.recordingAttached hbegins
    rcases hreconcile : (engine.attachRecording paths).captureActivated.reconcileEncoderDemand with
      ⟨_ | _, engine'⟩
    · have hsettling : engine'.Settling := by
        rw [reconcileEncoderDemand_eq hreconcile]
        exact hattached.withEncoders _
      apply hsettling.detachRecording_coherent
      rw [reconcileEncoderDemand_eq hreconcile]
      exact h.replay
    · have hsettling : engine'.Settling := by
        rw [reconcileEncoderDemand_eq hreconcile]
        exact hattached.withEncoders _
      apply hsettling.recordingStarted
      · rw [reconcileEncoderDemand_eq hreconcile]
        rfl
      · rw [reconcileEncoderDemand_eq hreconcile]
        exact h.replay
  · rcases h.startRecording_of_not_begins hbegins with hsame | ⟨hoff, hsame⟩
    · rwa [hsame]
    · rw [hsame]
      have hnone := h.recordingConsumer_eq_none hoff
      exact { h with fresh := by simp [hnone] }

theorem Coherent.startReplay (h : engine.Coherent) : engine.startReplay.2.Coherent := by
  by_cases hbegins : engine.BeginsReplay
  · rw [h.startReplay_of_begins hbegins]
    have hattached := h.replayAttached hbegins
    rcases hreconcile : engine.attachReplay.captureActivated.reconcileEncoderDemand with
      ⟨_ | _, engine'⟩
    · have hsettling : engine'.Settling := by
        rw [reconcileEncoderDemand_eq hreconcile]
        exact hattached.withEncoders _
      apply hsettling.detachReplay.stopCaptureIfUnused _ (Or.inl rfl)
      rw [reconcileEncoderDemand_eq hreconcile]
      exact h.recording
    · have hsettling : engine'.Settling := by
        rw [reconcileEncoderDemand_eq hreconcile]
        exact hattached.withEncoders _
      apply hsettling.replayStarted
      · rw [reconcileEncoderDemand_eq hreconcile]
        rfl
      · rw [reconcileEncoderDemand_eq hreconcile]
        exact h.recording
  · rwa [startReplay_of_not_begins hbegins]

theorem Coherent.stopRecording (h : engine.Coherent)
    (result : Option SynchronizedRecordingConsumerResult) :
    (engine.stopRecording result).2.Coherent := by
  unfold CaptureControlEngine.stopRecording
  split_ifs with hoff hmissing
  · exact h
  · have hattached := h.attached
    simp [Option.isNone_iff_eq_none.mp hmissing, isRecordingActive, hoff] at hattached
  · have hdetached : { engine.detachRecording with recordingResult := result }.Settling :=
      h.toSettling.detachRecording.congr rfl rfl rfl rfl rfl rfl rfl rfl rfl
    exact (hdetached.withEncoders _).stopCaptureIfUnused (Or.inl rfl) h.replay

/-- `StopReplay` lets the worker finish, but the engine is no longer saving by then. -/
theorem stopReplay_eq (h : engine.replayState ≠ .off) :
    engine.stopReplay.2 =
      ({ engine with
        replayConsumer := engine.replayConsumer.map SynchronizedReplayConsumer.wait
        }.detachReplay.releaseUndemandedEncoders).stopCaptureIfUnused := by
  unfold stopReplay
  rw [if_neg h, waitForReplaySave_of_not_saving (by simp)]
  rfl

theorem Coherent.stopReplay (h : engine.Coherent) : engine.stopReplay.2.Coherent := by
  by_cases hoff : engine.replayState = .off
  · unfold CaptureControlEngine.stopReplay
    rwa [if_pos hoff]
  · rw [stopReplay_eq hoff]
    have hwaited : { engine with
        replayConsumer := engine.replayConsumer.map SynchronizedReplayConsumer.wait }.Settling :=
      h.toSettling.congr rfl rfl rfl rfl rfl rfl rfl rfl (by simp)
    exact (hwaited.detachReplay.withEncoders _).stopCaptureIfUnused h.recording (Or.inl rfl)

theorem stopReplay_off : engine.stopReplay.2.replayState = .off := by
  by_cases hoff : engine.replayState = .off
  · unfold stopReplay
    rwa [if_pos hoff]
  · rw [stopReplay_eq hoff, stopCaptureIfUnused_replayState]
    rfl

theorem stopReplay_ok : engine.stopReplay.1.ok = true := by
  unfold stopReplay
  split_ifs <;> rfl

/-- A configuration that disables replay while it is on stops it first. -/
theorem applyReplayConfiguration_cases (engine : CaptureControlEngine ε)
    (configuration : ReplayConfiguration) :
    (engine.replayState ≠ .off ∧ configuration.enabled = false ∧
      (engine.applyReplayConfiguration configuration).2 =
        engine.stopReplay.2.withReplayConfiguration configuration) ∨
    ((engine.replayState ≠ .off → configuration.enabled = true) ∧
      (engine.applyReplayConfiguration configuration).2 =
        engine.withReplayConfiguration configuration) := by
  unfold applyReplayConfiguration
  cases hstops : isReplayActive engine.replayState && !configuration.enabled with
  | true =>
      obtain ⟨hon, hdisabled⟩ : engine.replayState ≠ .off ∧ configuration.enabled = false := by
        simpa [isReplayActive] using hstops
      simp only [if_true, stopReplay_ok, Bool.not_true, Bool.false_eq_true, if_false]
      exact Or.inl ⟨hon, hdisabled, rfl⟩
  | false =>
      refine Or.inr ⟨fun hon => ?_, rfl⟩
      simpa [isReplayActive, hon] using hstops

theorem Coherent.applyReplayConfiguration (h : engine.Coherent)
    (configuration : ReplayConfiguration) :
    (engine.applyReplayConfiguration configuration).2.Coherent := by
  rcases engine.applyReplayConfiguration_cases configuration with ⟨-, -, happlied⟩ |
    ⟨henabled, happlied⟩
  · rw [happlied]
    exact h.stopReplay.configured configuration fun hon => absurd stopReplay_off hon
  · rw [happlied]
    exact h.configured configuration henabled

theorem stopRecording_off {result : Option SynchronizedRecordingConsumerResult} :
    (engine.stopRecording result).2.recordingState = .off := by
  unfold stopRecording
  split_ifs with hoff
  · exact hoff
  · rfl
  · exact stopCaptureIfUnused_recordingState _

theorem stopRecording_replayState {result : Option SynchronizedRecordingConsumerResult} :
    (engine.stopRecording result).2.replayState = engine.replayState := by
  unfold stopRecording
  split_ifs with hoff
  · rfl
  · rfl
  · exact stopCaptureIfUnused_replayState _

theorem stopped_inUse {result : Option SynchronizedRecordingConsumerResult} :
    (engine.stopReplay.2.stopRecording result).2.inUse = false :=
  inUse_eq_false.mpr ⟨stopRecording_off, stopRecording_replayState.trans stopReplay_off⟩

theorem Coherent.shutdown (h : engine.Coherent)
    (result : Option SynchronizedRecordingConsumerResult) : (engine.shutdown result).Coherent := by
  unfold CaptureControlEngine.shutdown
  split_ifs with hnew
  · exact h
  · have hstopped := h.stopReplay.stopRecording result
    have hno (hclaim : (engine.stopReplay.2.stopRecording result).2.inUse = true) : False := by
      simp [stopped_inUse] at hclaim
    exact {
      running := fun huse => (hno huse).elim
      active := fun huse => (hno huse).elim
      ready := fun huse => (hno huse).elim
      numbered := hstopped.numbered
      failed := by simp
      registered := fun hinitialized => by simpa using hstopped.registered hinitialized
      attached := hstopped.attached
      subscribed := by simpa using hstopped.subscribed
      fresh := hstopped.fresh
      retention := fun huse => (hno huse).elim
      enabled := hstopped.enabled
      saving := hstopped.saving
      recording := hstopped.recording
      replay := hstopped.replay
      stopped := fun _ => ⟨by simp, by simp⟩ }

theorem Coherent.step (h : engine.Coherent) (call : ControlCall) :
    (engine.step call).2.Coherent := by
  cases call with
  | initializeEngine => exact h.initializeEngine
  | startRecording paths starts => exact h.startRecording paths starts
  | stopRecording result => exact h.stopRecording result
  | startReplay => exact h.startReplay
  | stopReplay => exact h.stopReplay
  | saveReplay paths library => exact h.saveReplay paths library
  | applyReplayConfiguration configuration => exact h.applyReplayConfiguration configuration
  | pollReplaySave => exact h.pollReplaySave
  | waitForReplaySave => exact h.waitForReplaySave
  | shutdown result => exact h.shutdown result
  | ingest streamId packet codecExtraData =>
      exact h.withCapture (engine.capture.sameSwitches_ingest streamId packet codecExtraData)
  | saveFinishes =>
      exact { h with
        toSettling := h.toSettling.congr rfl rfl rfl rfl rfl rfl rfl rfl (by
          simp [CaptureControlEngine.step, saveFinishes]) }

/-! ### The streams stay those of the constructor -/

theorem Coherent.startRecording_configuration (h : engine.Coherent) (paths : List String)
    (starts : Bool) : (engine.startRecording paths starts).2.configuration =
      engine.configuration := by
  by_cases hbegins : engine.BeginsRecording paths starts
  · rw [h.startRecording_of_begins hbegins]
    rcases hreconcile : (engine.attachRecording paths).captureActivated.reconcileEncoderDemand with
      ⟨_ | _, engine'⟩ <;> have hkept := reconcileEncoderDemand_eq hreconcile
    · simp only [abandonRecording, stopCaptureIfUnused_configuration]
      rw [hkept]
      rfl
    · dsimp only
      rw [hkept]
      rfl
  · rcases h.startRecording_of_not_begins hbegins with hsame | ⟨-, hsame⟩ <;> rw [hsame]

theorem Coherent.startReplay_configuration (h : engine.Coherent) :
    engine.startReplay.2.configuration = engine.configuration := by
  by_cases hbegins : engine.BeginsReplay
  · rw [h.startReplay_of_begins hbegins]
    rcases hreconcile : engine.attachReplay.captureActivated.reconcileEncoderDemand with
      ⟨_ | _, engine'⟩ <;> have hkept := reconcileEncoderDemand_eq hreconcile
    · simp only [abandonReplay, stopCaptureIfUnused_configuration]
      rw [hkept]
      rfl
    · dsimp only
      rw [hkept]
      rfl
  · rw [startReplay_of_not_begins hbegins]

theorem stopRecording_configuration {result : Option SynchronizedRecordingConsumerResult} :
    (engine.stopRecording result).2.configuration = engine.configuration := by
  unfold stopRecording
  split_ifs
  · rfl
  · rfl
  · exact stopCaptureIfUnused_configuration _

theorem stopReplay_configuration : engine.stopReplay.2.configuration = engine.configuration := by
  by_cases hoff : engine.replayState = .off
  · unfold stopReplay
    rw [if_pos hoff]
  · rw [stopReplay_eq hoff, stopCaptureIfUnused_configuration]
    rfl

theorem applyReplayConfiguration_configuration {configuration : ReplayConfiguration} :
    (engine.applyReplayConfiguration configuration).2.configuration =
      { engine.configuration with replay := configuration } := by
  rcases engine.applyReplayConfiguration_cases configuration with ⟨-, -, happlied⟩ |
    ⟨-, happlied⟩
  · rw [happlied, withReplayConfiguration, stopReplay_configuration]
  · rw [happlied, withReplayConfiguration]

theorem Coherent.step_streams (h : engine.Coherent) (call : ControlCall) :
    (engine.step call).2.configuration.streams = engine.configuration.streams := by
  cases call with
  | initializeEngine =>
      exact congrArg CaptureConfiguration.streams
        engine.initializeEngine_sameConsumers.configuration
  | startRecording paths starts =>
      exact congrArg CaptureConfiguration.streams (h.startRecording_configuration paths starts)
  | stopRecording result =>
      exact congrArg CaptureConfiguration.streams stopRecording_configuration
  | startReplay => exact congrArg CaptureConfiguration.streams h.startReplay_configuration
  | stopReplay => exact congrArg CaptureConfiguration.streams stopReplay_configuration
  | saveReplay paths library =>
      exact congrArg CaptureConfiguration.streams
        (engine.saveReplay_sameConsumers paths library).configuration
  | applyReplayConfiguration configuration =>
      change (engine.applyReplayConfiguration configuration).2.configuration.streams = _
      rw [applyReplayConfiguration_configuration]
  | pollReplaySave =>
      exact congrArg CaptureConfiguration.streams
        engine.pollReplaySave_sameConsumers.configuration
  | waitForReplaySave =>
      exact congrArg CaptureConfiguration.streams
        engine.waitForReplaySave_sameConsumers.configuration
  | shutdown result =>
      simp only [CaptureControlEngine.step, CaptureControlEngine.shutdown]
      split_ifs
      · rfl
      · exact congrArg CaptureConfiguration.streams
          (stopRecording_configuration.trans stopReplay_configuration)
  | ingest streamId packet codecExtraData => rfl
  | saveFinishes => rfl

theorem coherent_run {configuration : CaptureConfiguration} {ringCapacityBytes : Nat}
    {controller : ε} {past : List (Transition ε)}
    (hrun : Runs.Run step (create configuration (.create ringCapacityBytes) controller) past
      engine) : engine.Coherent :=
  hrun.stateInvariant (coherent_create configuration ringCapacityBytes controller)
    (fun _ call h => h.step call)

end CaptureControlEngine

end ObsSyncReplay
