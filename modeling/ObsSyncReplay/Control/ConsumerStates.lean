import ObsSyncReplay.Control.EncoderDemand

/-!
The two consumers and the capture that they share, as they are between two commands. Every
recording consumer has an address of its own, so what is subscribed can only be the one that
the engine owns.
-/

namespace ObsSyncReplay

namespace CaptureControlEngine

variable {ε : Type} {engine engine' : CaptureControlEngine ε}

/-- The states of the consumers and of the capture belong together. -/
structure InStep (engine : CaptureControlEngine ε) : Prop where
  recording : engine.recordingState = .off ∨ engine.recordingState = .running
  replay : engine.replayState = .off ∨ engine.replayState = .running ∨
    engine.replayState = .saving
  active : engine.captureState = .active ↔ engine.capture.running = true
  running : engine.capture.running = true ↔
    engine.recordingState ≠ .off ∨ engine.replayState ≠ .off
  attached : engine.recordingState = .running ↔ ∃ recording,
    engine.recordingConsumer = some recording ∧ recording.address ∈ engine.capture.consumers
  subscribed : engine.capture.consumers =
    (engine.recordingConsumer.map AttachedRecording.address).toList
  retention : engine.capture.running = true →
    (engine.capture.replayRetentionEnabled = true ↔ engine.replayState ≠ .off)
  enabled : engine.replayState ≠ .off → engine.configuration.replay.enabled = true

theorem Coherent.inStep (h : engine.Coherent) : engine.InStep := by
  have hrunning : engine.capture.running = true ↔ engine.inUse = true := by
    cases huse : engine.inUse with
    | true => simp [h.running huse]
    | false => simp [(h.stopped huse).1]
  have hactive : engine.captureState = .active ↔ engine.inUse = true := by
    cases huse : engine.inUse with
    | true => simp [h.active huse]
    | false => simp [(h.stopped huse).2]
  have hattached : engine.recordingConsumer.isSome = true ↔ engine.recordingState = .running := by
    rw [h.attached]
    rcases h.recording with hoff | hon
    · simp [hoff, isRecordingActive]
    · simp [hon, isRecordingActive]
  constructor
  · exact h.recording
  · exact h.replay
  · rw [hactive, hrunning]
  · rw [hrunning, inUse_eq_true]
  · rw [← hattached, Option.isSome_iff_exists, h.subscribed]
    constructor
    · rintro ⟨recording, hrecording⟩
      exact ⟨recording, hrecording, by simp [hrecording]⟩
    · rintro ⟨recording, hrecording, -⟩
      exact ⟨recording, hrecording⟩
  · exact h.subscribed
  · intro hrun
    rw [h.retention (hrunning.mp hrun)]
    simp [isReplayActive]
  · intro hon
    apply h.enabled
    simp [isReplayActive, hon]

/-- The recording consumer and its subscription are as before. -/
structure SameRecording (engine engine' : CaptureControlEngine ε) : Prop where
  state : engine'.recordingState = engine.recordingState
  consumer : engine'.recordingConsumer = engine.recordingConsumer
  address : engine'.nextAddress = engine.nextAddress
  subscribed : engine'.capture.consumers = engine.capture.consumers

theorem SameRecording.trans {engine'' : CaptureControlEngine ε}
    (h : SameRecording engine engine') (h' : SameRecording engine' engine'') :
    SameRecording engine engine'' where
  state := h'.state.trans h.state
  consumer := h'.consumer.trans h.consumer
  address := h'.address.trans h.address
  subscribed := h'.subscribed.trans h.subscribed

theorem SameRecording.active (h : SameRecording engine engine')
    (hon : isRecordingActive engine'.recordingState = true) :
    isRecordingActive engine.recordingState = true := by
  rwa [h.state] at hon

theorem SameConsumers.sameRecording (h : SameConsumers engine engine') :
    SameRecording engine engine' :=
  ⟨h.recordingState, h.recordingConsumer, h.address, h.subscribed⟩

variable [EncoderController ε]

theorem stopCaptureIfUnused_sameRecording :
    SameRecording engine engine.stopCaptureIfUnused := by
  cases huse : engine.inUse with
  | true =>
      rw [stopCaptureIfUnused_of_inUse huse]
      exact ⟨rfl, rfl, rfl, rfl⟩
  | false =>
      rw [stopCaptureIfUnused_of_not_inUse huse]
      exact ⟨rfl, rfl, rfl, by simp⟩

theorem Coherent.startReplay_sameRecording (h : engine.Coherent) :
    SameRecording engine engine.startReplay.2 := by
  by_cases hbegins : engine.BeginsReplay
  · have hattached : SameRecording engine engine.attachReplay.captureActivated :=
      ⟨rfl, rfl, rfl, by simp [captureActivated, attachReplay]⟩
    rw [h.startReplay_of_begins hbegins]
    rcases hreconcile : engine.attachReplay.captureActivated.reconcileEncoderDemand with
      ⟨_ | _, reconciled⟩
    · have hdetached : SameRecording engine.attachReplay.captureActivated
          reconciled.detachReplay := by
        rw [reconcileEncoderDemand_eq hreconcile]
        exact ⟨rfl, rfl, rfl, by simp [CaptureControlEngine.detachReplay]⟩
      exact (hattached.trans hdetached).trans stopCaptureIfUnused_sameRecording
    · apply hattached.trans
      dsimp only
      rw [reconcileEncoderDemand_eq hreconcile]
      exact ⟨rfl, rfl, rfl, rfl⟩
  · rw [startReplay_of_not_begins hbegins]
    exact ⟨rfl, rfl, rfl, rfl⟩

theorem stopReplay_sameRecording : SameRecording engine engine.stopReplay.2 := by
  by_cases hoff : engine.replayState = .off
  · unfold stopReplay
    rw [if_pos hoff]
    exact ⟨rfl, rfl, rfl, rfl⟩
  · rw [stopReplay_eq hoff]
    refine SameRecording.trans ?_ stopCaptureIfUnused_sameRecording
    exact ⟨rfl, rfl, rfl, by simp [releaseUndemandedEncoders, detachReplay]⟩

theorem applyReplayConfiguration_sameRecording {configuration : ReplayConfiguration} :
    SameRecording engine (engine.applyReplayConfiguration configuration).2 := by
  have hconfigured (stopped : CaptureControlEngine ε) :
      SameRecording stopped (stopped.withReplayConfiguration configuration) :=
    ⟨rfl, rfl, rfl,
      (SynchronizedCaptureSession.sameSwitches_setRingCapacityBytes _ _).consumers⟩
  rcases engine.applyReplayConfiguration_cases configuration with ⟨-, -, happlied⟩ |
    ⟨-, happlied⟩
  · rw [happlied]
    exact stopReplay_sameRecording.trans (hconfigured _)
  · rw [happlied]
    exact hconfigured engine

/-- A recording consumer that is there afterwards was there before or has a new address. -/
structure KeepsAddresses (engine engine' : CaptureControlEngine ε) : Prop where
  next : engine.nextAddress ≤ engine'.nextAddress
  known : ∀ recording ∈ engine'.recordingConsumer,
    recording ∈ engine.recordingConsumer ∨ engine.nextAddress ≤ recording.address

omit [EncoderController ε] in
theorem SameRecording.keepsAddresses (h : SameRecording engine engine') :
    KeepsAddresses engine engine' := by
  constructor
  · rw [h.address]
  · intro recording hrecording
    rw [h.consumer] at hrecording
    exact Or.inl hrecording

theorem Coherent.startRecording_keepsAddresses (h : engine.Coherent) (paths : List String)
    (starts : Bool) : KeepsAddresses engine (engine.startRecording paths starts).2 := by
  by_cases hbegins : engine.BeginsRecording paths starts
  · rw [h.startRecording_of_begins hbegins]
    rcases hreconcile : (engine.attachRecording paths).captureActivated.reconcileEncoderDemand
      with ⟨_ | _, reconciled⟩ <;> have hkept := reconcileEncoderDemand_eq hreconcile
    · have hdropped : SameRecording reconciled.detachRecording reconciled.abandonRecording.2 :=
        stopCaptureIfUnused_sameRecording
      constructor
      · rw [hdropped.address, hkept]
        exact Nat.le_succ _
      · intro recording hrecording
        rw [hdropped.consumer] at hrecording
        cases hrecording
    · dsimp only
      rw [hkept]
      constructor
      · exact Nat.le_succ _
      · rintro recording hrecording
        obtain rfl := Option.some.inj hrecording
        exact Or.inr le_rfl
  · rcases h.startRecording_of_not_begins hbegins with hsame | ⟨-, hsame⟩ <;> rw [hsame]
    · exact ⟨le_rfl, fun _ hrecording => Or.inl hrecording⟩
    · exact ⟨Nat.le_succ _, fun _ hrecording => Or.inl hrecording⟩

theorem stopRecording_keepsAddresses {result : Option SynchronizedRecordingConsumerResult} :
    KeepsAddresses engine (engine.stopRecording result).2 := by
  unfold stopRecording
  split_ifs
  · exact ⟨le_rfl, fun _ hrecording => Or.inl hrecording⟩
  · exact ⟨le_rfl, fun _ hrecording => Or.inl hrecording⟩
  · have hdropped : SameRecording { engine.detachRecording with recordingResult := result }
        ({ engine.detachRecording with
          recordingResult := result }.releaseUndemandedEncoders.stopCaptureIfUnused) := by
      refine SameRecording.trans ?_ stopCaptureIfUnused_sameRecording
      exact ⟨rfl, rfl, rfl, rfl⟩
    constructor
    · dsimp only
      rw [hdropped.address]
      exact le_rfl
    · intro recording hrecording
      dsimp only at hrecording
      rw [hdropped.consumer] at hrecording
      cases hrecording

theorem shutdown_keepsAddresses {result : Option SynchronizedRecordingConsumerResult} :
    KeepsAddresses engine (engine.shutdown result) := by
  unfold shutdown
  split_ifs
  · exact ⟨le_rfl, fun _ hrecording => Or.inl hrecording⟩
  · have hreplay : KeepsAddresses engine engine.stopReplay.2 :=
      stopReplay_sameRecording.keepsAddresses
    have hrecording :
        KeepsAddresses engine.stopReplay.2 (engine.stopReplay.2.stopRecording result).2 :=
      stopRecording_keepsAddresses
    constructor
    · exact hreplay.next.trans hrecording.next
    · intro recording hmem
      rcases hrecording.known recording hmem with hold | hnew
      · exact hreplay.known recording hold
      · exact Or.inr (hreplay.next.trans hnew)

theorem Coherent.step_keepsAddresses (h : engine.Coherent) (call : ControlCall) :
    KeepsAddresses engine (engine.step call).2 := by
  cases call with
  | startRecording paths starts => exact h.startRecording_keepsAddresses paths starts
  | stopRecording result => exact stopRecording_keepsAddresses
  | shutdown result => exact shutdown_keepsAddresses
  | initializeEngine =>
      exact engine.initializeEngine_sameConsumers.sameRecording.keepsAddresses
  | startReplay => exact h.startReplay_sameRecording.keepsAddresses
  | stopReplay => exact stopReplay_sameRecording.keepsAddresses
  | saveReplay paths library =>
      exact (engine.saveReplay_sameConsumers paths library).sameRecording.keepsAddresses
  | applyReplayConfiguration configuration =>
      exact applyReplayConfiguration_sameRecording.keepsAddresses
  | pollReplaySave => exact engine.pollReplaySave_sameConsumers.sameRecording.keepsAddresses
  | waitForReplaySave =>
      exact engine.waitForReplaySave_sameConsumers.sameRecording.keepsAddresses
  | ingest streamId packet codecExtraData =>
      exact ⟨le_rfl, fun _ hrecording => Or.inl hrecording⟩
  | saveFinishes => exact ⟨le_rfl, fun _ hrecording => Or.inl hrecording⟩

/-- No two recording consumers of a run have one address. -/
def AddressesUnique (past : List (Transition ε)) (engine : CaptureControlEngine ε) : Prop :=
  ∀ t ∈ past, ∀ earlier ∈ t.after.recordingConsumer, earlier.address < engine.nextAddress ∧
    ∀ recording ∈ engine.recordingConsumer, recording.address = earlier.address →
      recording = earlier

theorem AddressesUnique.step {past : List (Transition ε)} (h : AddressesUnique past engine)
    (hcoherent : engine.Coherent) (call : ControlCall) :
    AddressesUnique (past ++ [Runs.transition CaptureControlEngine.step engine call])
      (engine.step call).2 := by
  have hkeeps := hcoherent.step_keepsAddresses call
  intro t ht earlier hearlier
  rcases List.mem_append.mp ht with hold | hnew
  · obtain ⟨hless, hunique⟩ := h t hold earlier hearlier
    refine ⟨lt_of_lt_of_le hless hkeeps.next, fun recording hrecording hsame => ?_⟩
    rcases hkeeps.known recording hrecording with hbefore | hnext
    · exact hunique recording hbefore hsame
    · rw [hsame] at hnext
      exact absurd hless (not_lt.mpr hnext)
  · obtain rfl := List.mem_singleton.mp hnew
    refine ⟨(hcoherent.step call).fresh earlier hearlier, fun recording hrecording _ => ?_⟩
    exact Option.mem_unique hrecording hearlier

/-- In every run the two consumers and the capture are in step between the commands, and
nothing of an earlier recording is still subscribed. -/
theorem consumers_in_step {configuration : CaptureConfiguration} {ringCapacityBytes : Nat}
    {controller : ε} {past : List (Transition ε)}
    (hrun : Runs.Run step (create configuration (.create ringCapacityBytes) controller) past
      engine) :
    engine.InStep ∧ ∀ t ∈ past, ∀ earlier ∈ t.after.recordingConsumer,
      engine.recordingConsumer ≠ some earlier → earlier.address ∉ engine.capture.consumers := by
  have hcoherent := coherent_run hrun
  have hunique : AddressesUnique past engine := by
    apply hrun.invariant
    · intro t ht
      cases ht
    · exact fun past engine call hprior h => h.step (coherent_run hprior) call
  refine ⟨hcoherent.inStep, fun t ht earlier hearlier hother hsubscribed => ?_⟩
  rw [hcoherent.subscribed] at hsubscribed
  cases hconsumer : engine.recordingConsumer with
  | none => simp [hconsumer] at hsubscribed
  | some recording =>
      have hsame : earlier.address = recording.address := by
        simpa [hconsumer] using hsubscribed
      have heq := (hunique t ht earlier hearlier).2 recording hconsumer hsame.symm
      exact hother (by rw [hconsumer, heq])

/-- A recording beside the replay, and after it another one. -/
def twoRecordings : List ControlCall :=
  recordingJoins ++ [.stopRecording none, .startRecording ["alpha.mkv", "beta.mkv"] true]

theorem consumers_in_step_sample :
    (Runs.exec step (refusedAfter 5) twoRecordings).recordingState = .running ∧
      (Runs.exec step (refusedAfter 5) twoRecordings).capture.consumers = [1] ∧
      (Runs.exec step (refusedAfter 5) twoRecordings).InStep ∧
      ∀ t ∈ Runs.history step (refusedAfter 5) twoRecordings,
        ∀ earlier ∈ t.after.recordingConsumer,
          (Runs.exec step (refusedAfter 5) twoRecordings).recordingConsumer ≠ some earlier →
            earlier.address ∉ (Runs.exec step (refusedAfter 5) twoRecordings).capture.consumers :=
  ⟨by decide, by decide, consumers_in_step (Runs.run_exec _ _)⟩

end CaptureControlEngine

end ObsSyncReplay
