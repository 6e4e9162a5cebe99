import ObsSyncReplay.Control.ConsumerStates
import ObsSyncReplay.Control.EncoderLog

/-!
A command that is about one of the two consumers leaves alone what the other one uses: its
encoders, the epoch of the capture, the ring of a replay, the subscription of a recording.
-/

namespace ObsSyncReplay

namespace CaptureControlEngine

variable {ε : Type} [EncoderController ε] {engine engine' : CaptureControlEngine ε}

end CaptureControlEngine

/-- The call activates or releases the encoder. -/
def EncoderCall.Disturbs (captureId : CaptureStreamId) : EncoderCall → Prop
  | .ensureCreated _ _ => False
  | .activate streamId _ => streamId = captureId
  | .release streamId _ => streamId = captureId

instance {ε : Type} [EncoderController ε] [LawfulEncoderController ε] :
    LawfulEncoderController (LoggedEncoders ε) where
  isActive_ensureCreated log captureId other stream :=
    LawfulEncoderController.isActive_ensureCreated log.controller captureId other stream
  isActive_activate log captureId other stream :=
    LawfulEncoderController.isActive_activate log.controller captureId other stream
  isActive_release log captureId other stream :=
    LawfulEncoderController.isActive_release log.controller captureId other stream

namespace LoggedEncoders

variable {ε : Type} [EncoderController ε] {first log : LoggedEncoders ε}
  {captureId : CaptureStreamId}

/-- Since `first`, the encoder has been active and was neither activated nor released. -/
structure Undisturbed (captureId : CaptureStreamId) (first log : LoggedEncoders ε) : Prop where
  active : EncoderController.isActive log captureId = true
  calls : ∃ later, log.past = first.past ++ later ∧
    ∀ moment ∈ later, ¬moment.input.Disturbs captureId

theorem undisturbed_refl (h : EncoderController.isActive log captureId = true) :
    Undisturbed captureId log log :=
  ⟨h, [], (List.append_nil _).symm, by simp⟩

variable [LawfulEncoderController ε]

theorem Undisturbed.call (h : Undisturbed captureId first log) {call : EncoderCall}
    (hcall : ¬call.Disturbs captureId) : Undisturbed captureId first (log.call call).2 := by
  obtain ⟨later, hpast, hlater⟩ := h.calls
  have hactive : EncoderController.isActive log.controller captureId = true := h.active
  constructor
  · cases call with
    | ensureCreated streamId stream =>
        exact (LawfulEncoderController.isActive_ensureCreated log.controller streamId captureId
          stream).trans hactive
    | activate streamId stream =>
        apply (LawfulEncoderController.isActive_activate log.controller streamId captureId
          stream).trans
        rw [hactive, Bool.true_or]
    | release streamId stream =>
        apply (LawfulEncoderController.isActive_release log.controller streamId captureId
          stream).trans
        rw [hactive, Bool.true_and, decide_eq_true_eq]
        exact fun hsame => hcall hsame.symm
  · refine ⟨later ++ [Runs.transition EncoderCall.run log.controller call], ?_, ?_⟩
    · simp only [LoggedEncoders.call, hpast, List.append_assoc]
    · rw [List.forall_mem_append, List.forall_mem_singleton]
      exact ⟨hlater, hcall⟩

end LoggedEncoders

open LoggedEncoders (Undisturbed undisturbed_refl)

namespace ObservedEncoders

variable {ε : Type} [EncoderController ε] [LawfulEncoderController ε]
  {first : LoggedEncoders ε} {encoders : ObservedEncoders (LoggedEncoders ε)}
  {streams : List (CaptureStreamId × ConfiguredStream)}
  {demanded : StreamParticipationMode → Bool} {captureId : CaptureStreamId}

theorem createPass_undisturbed (h : Undisturbed captureId first encoders.controller) :
    Undisturbed captureId first (createPass streams encoders).2.controller := by
  have hcreate (log : LoggedEncoders ε) (streamId : CaptureStreamId) (stream : ConfiguredStream)
      (hlog : Undisturbed captureId first log) :
      Undisturbed captureId first (EncoderController.ensureCreated log streamId stream).2 :=
    hlog.call (fun hdisturbs => hdisturbs)
  exact createPass_keeps hcreate h

/-- An encoder that is active is not activated. -/
theorem activatePass_undisturbed (h : Undisturbed captureId first encoders.controller) :
    Undisturbed captureId first (activatePass demanded streams encoders).2.controller := by
  induction streams generalizing encoders with
  | nil => exact h
  | cons entry rest ih =>
      unfold activatePass
      split_ifs with hskip hmissing
      · exact ih h
      · have hother : ¬(EncoderCall.activate entry.1 entry.2).Disturbs captureId := by
          rintro rfl
          simp [h.active] at hmissing
        have hkept := h.call hother
        change Undisturbed captureId first
          (EncoderController.activate encoders.controller entry.1 entry.2).2 at hkept
        split <;> rename_i answer controller hactivate <;> rw [hactivate] at hkept
        · exact hkept
        · exact ih hkept
      · exact ih h

/-- An encoder is not released if all its streams demand it. -/
theorem releasePass_undisturbed (h : Undisturbed captureId first encoders.controller)
    (hdemanded : ∀ entry ∈ streams, entry.1 = captureId → demanded entry.2.mode = true) :
    Undisturbed captureId first (releasePass demanded streams encoders).controller := by
  induction streams generalizing encoders with
  | nil => exact h
  | cons entry rest ih =>
      rw [List.forall_mem_cons] at hdemanded
      unfold releasePass
      split_ifs with hskip
      · exact ih h hdemanded.2
      · have hother : ¬(EncoderCall.release entry.1 entry.2).Disturbs captureId := by
          intro hsame
          simp [hdemanded.1 hsame] at hskip
        exact ih (h.call hother) hdemanded.2

end ObservedEncoders

namespace CaptureControlEngine

section Demand

variable {ε : Type} {engine engine' : CaptureControlEngine ε} {captureId : CaptureStreamId}

/-- Streams have the encoder, and `StreamNeedsEncoder` demands it for each of them. -/
def EncoderDemanded (engine : CaptureControlEngine ε) (captureId : CaptureStreamId) : Prop :=
  (∃ stream ∈ engine.configuration.streams,
    engine.configuration.captureIdFor stream.identity = some captureId) ∧
  ∀ stream ∈ engine.configuration.streams,
    engine.configuration.captureIdFor stream.identity = some captureId →
      streamNeedsEncoder stream.mode (isRecordingActive engine.recordingState)
        (isReplayActive engine.replayState) = true

theorem EncoderDemanded.entries (h : engine.EncoderDemanded captureId) :
    ∀ entry ∈ engine.configuration.addressed, entry.1 = captureId →
      engine.demanded entry.2.mode = true := by
  rintro entry hentry rfl
  obtain ⟨hstream, hid⟩ := CaptureConfiguration.mem_addressed.mp hentry
  exact h.2 entry.2 hstream hid

theorem EncoderDemanded.inUse (h : engine.EncoderDemanded captureId) : engine.inUse = true := by
  obtain ⟨⟨stream, hstream, hid⟩, hall⟩ := h
  have hneeded := hall stream hstream hid
  cases huse : engine.inUse with
  | true => rfl
  | false =>
      have hnone := demanded_of_not_inUse huse stream.mode
      unfold demanded at hnone
      rw [hneeded] at hnone
      cases hnone

/-- What is demanded with fewer consumers on is demanded with more. -/
theorem EncoderDemanded.mono (h : engine'.EncoderDemanded captureId)
    (hstreams : engine'.configuration.streams = engine.configuration.streams)
    (hrecording : isRecordingActive engine'.recordingState = true →
      isRecordingActive engine.recordingState = true)
    (hreplay : isReplayActive engine'.replayState = true →
      isReplayActive engine.replayState = true) : engine.EncoderDemanded captureId := by
  unfold EncoderDemanded CaptureConfiguration.captureIdFor at h ⊢
  rw [hstreams] at h
  refine ⟨h.1, fun stream hstream hid => ?_⟩
  have hneeded := h.2 stream hstream hid
  simp only [streamNeedsEncoder, Bool.or_eq_true, Bool.and_eq_true] at hneeded ⊢
  rcases hneeded with ⟨hon, hpart⟩ | ⟨hon, hpart⟩
  · exact Or.inl ⟨hrecording hon, hpart⟩
  · exact Or.inr ⟨hreplay hon, hpart⟩

end Demand

/-- The demanded encoders are active. -/
def Served {ε : Type} [EncoderController ε] (engine : CaptureControlEngine ε) : Prop :=
  ∀ captureId, engine.EncoderDemanded captureId →
    EncoderController.isActive engine.encoders.controller captureId = true

section Handoff

variable {ε : Type} [EncoderController ε] [LawfulEncoderController ε]
  {engine : CaptureControlEngine (LoggedEncoders ε)} {captureId : CaptureStreamId}
  {first : LoggedEncoders ε}

omit [LawfulEncoderController ε] in
theorem demanded_of_stopCaptureIfUnused
    (h : engine.stopCaptureIfUnused.EncoderDemanded captureId) :
    engine.EncoderDemanded captureId := by
  apply h.mono
  · rw [stopCaptureIfUnused_configuration]
  · rw [stopCaptureIfUnused_recordingState]
    exact id
  · rw [stopCaptureIfUnused_replayState]
    exact id

omit [LawfulEncoderController ε] in
theorem stopCaptureIfUnused_undisturbed (h : Undisturbed captureId first engine.encoders.controller)
    (hdemanded : engine.stopCaptureIfUnused.EncoderDemanded captureId) :
    Undisturbed captureId first engine.stopCaptureIfUnused.encoders.controller := by
  have hused := (demanded_of_stopCaptureIfUnused hdemanded).inUse
  rwa [stopCaptureIfUnused_of_inUse hused]

theorem reconcileEncoderDemand_undisturbed
    (h : Undisturbed captureId first engine.encoders.controller) :
    Undisturbed captureId first engine.reconcileEncoderDemand.2.encoders.controller := by
  have hcreated : Undisturbed captureId first (ObservedEncoders.createPass
      engine.configuration.addressed engine.encoders).2.controller :=
    ObservedEncoders.createPass_undisturbed h
  unfold reconcileEncoderDemand
  rcases hcreate : ObservedEncoders.createPass engine.configuration.addressed engine.encoders with
    ⟨_ | _, created⟩ <;> rw [hcreate] at hcreated
  · exact hcreated
  · exact ObservedEncoders.activatePass_undisturbed hcreated

/-- When the demand has been reconciled, what is demanded is active. -/
theorem reconcileEncoderDemand_serves {reconciled : CaptureControlEngine (LoggedEncoders ε)}
    (h : engine.reconcileEncoderDemand = (true, reconciled))
    (hdemanded : engine.EncoderDemanded captureId) :
    EncoderController.isActive reconciled.encoders.controller captureId = true := by
  unfold reconcileEncoderDemand at h
  rcases hcreate : ObservedEncoders.createPass engine.configuration.addressed engine.encoders with
    ⟨_ | _, created⟩ <;> rw [hcreate] at h
  · cases congrArg Prod.fst h
  · obtain ⟨hactivated, rfl⟩ := Prod.mk.inj h
    have hpass : ObservedEncoders.activatePass engine.demanded engine.configuration.addressed
        created = (true, (ObservedEncoders.activatePass engine.demanded
          engine.configuration.addressed created).2) := by
      rw [← hactivated]
    obtain ⟨⟨stream, hstream, hid⟩, -⟩ := id hdemanded
    have hentry := CaptureConfiguration.mem_addressed.mpr ⟨hstream, hid⟩
    apply (ObservedEncoders.activatePass_true hpass captureId).mpr
    exact Or.inr ⟨_, hentry, rfl, hdemanded.entries _ hentry rfl⟩

/-- What a command does to the encoders that are demanded after it. -/
structure Handoff (engine engine' : CaptureControlEngine (LoggedEncoders ε)) : Prop where
  served : engine'.Served
  undisturbed : ∀ captureId, engine.EncoderDemanded captureId →
    engine'.EncoderDemanded captureId →
      Undisturbed captureId engine.encoders.controller engine'.encoders.controller

omit [LawfulEncoderController ε] in
/-- A command that adds no demand. -/
theorem handoff_of_undisturbed {engine' : CaptureControlEngine (LoggedEncoders ε)}
    (h : ∀ captureId, engine'.EncoderDemanded captureId →
      Undisturbed captureId engine.encoders.controller engine'.encoders.controller) :
    Handoff engine engine' :=
  ⟨fun captureId hdemanded => (h captureId hdemanded).active,
    fun captureId _ hdemanded => h captureId hdemanded⟩

omit [LawfulEncoderController ε] in
/-- A command that leaves the encoders alone and does not start a consumer. -/
theorem Served.handoff_of_encoders (h : engine.Served)
    {engine' : CaptureControlEngine (LoggedEncoders ε)}
    (hencoders : engine'.encoders = engine.encoders)
    (hstreams : engine'.configuration.streams = engine.configuration.streams)
    (hrecording : isRecordingActive engine'.recordingState = true →
      isRecordingActive engine.recordingState = true)
    (hreplay : isReplayActive engine'.replayState = true →
      isReplayActive engine.replayState = true) : Handoff engine engine' := by
  apply handoff_of_undisturbed
  intro captureId hdemanded
  rw [hencoders]
  exact undisturbed_refl (h captureId (hdemanded.mono hstreams hrecording hreplay))

omit [LawfulEncoderController ε] in
theorem Served.handoff_of_sameConsumers (h : engine.Served)
    {engine' : CaptureControlEngine (LoggedEncoders ε)} (hsame : SameConsumers engine engine') :
    Handoff engine engine' := by
  apply h.handoff_of_encoders hsame.encoders
  · rw [hsame.configuration]
  · exact hsame.sameRecording.active
  · rw [hsame.replayActive]
    exact id

theorem Served.stopRecording_undisturbed (h : engine.Served)
    (result : Option SynchronizedRecordingConsumerResult)
    (hdemanded : (engine.stopRecording result).2.EncoderDemanded captureId) :
    Undisturbed captureId engine.encoders.controller
      (engine.stopRecording result).2.encoders.controller := by
  have hbefore : engine.EncoderDemanded captureId := by
    apply hdemanded.mono
    · rw [stopRecording_configuration]
    · rw [stopRecording_off]
      exact fun hon => absurd hon (by decide)
    · rw [stopRecording_replayState]
      exact id
  have hactive := undisturbed_refl (h captureId hbefore)
  unfold CaptureControlEngine.stopRecording at hdemanded ⊢
  split_ifs at hdemanded ⊢
  · exact hactive
  · exact hactive
  · have hleft := demanded_of_stopCaptureIfUnused hdemanded
    apply stopCaptureIfUnused_undisturbed _ hdemanded
    exact ObservedEncoders.releasePass_undisturbed hactive hleft.entries

theorem Served.stopReplay_undisturbed (h : engine.Served)
    (hdemanded : engine.stopReplay.2.EncoderDemanded captureId) :
    Undisturbed captureId engine.encoders.controller
      engine.stopReplay.2.encoders.controller := by
  have hbefore : engine.EncoderDemanded captureId := by
    apply hdemanded.mono
    · rw [stopReplay_configuration]
    · rw [stopReplay_sameRecording.state]
      exact id
    · rw [stopReplay_off]
      exact fun hon => absurd hon (by decide)
  have hactive := undisturbed_refl (h captureId hbefore)
  by_cases hoff : engine.replayState = .off
  · unfold CaptureControlEngine.stopReplay
    rwa [if_pos hoff]
  · rw [stopReplay_eq hoff] at hdemanded ⊢
    have hleft := demanded_of_stopCaptureIfUnused hdemanded
    apply stopCaptureIfUnused_undisturbed _ hdemanded
    exact ObservedEncoders.releasePass_undisturbed hactive hleft.entries

theorem Served.startRecording_handoff (h : engine.Served) (hcoherent : engine.Coherent)
    (paths : List String) (starts : Bool) :
    Handoff engine (engine.startRecording paths starts).2 := by
  by_cases hbegins : engine.BeginsRecording paths starts
  · rw [hcoherent.startRecording_of_begins hbegins]
    have hundisturbed {captureId : CaptureStreamId} (hbefore : engine.EncoderDemanded captureId) :
        Undisturbed captureId engine.encoders.controller
          (engine.attachRecording paths).captureActivated.reconcileEncoderDemand.2.encoders.controller :=
      reconcileEncoderDemand_undisturbed (undisturbed_refl (h captureId hbefore))
    rcases hreconcile : (engine.attachRecording paths).captureActivated.reconcileEncoderDemand
      with ⟨_ | _, reconciled⟩ <;> have hkept := reconcileEncoderDemand_eq hreconcile <;>
      rw [hreconcile] at hundisturbed
    · apply handoff_of_undisturbed
      intro captureId hdemanded
      apply stopCaptureIfUnused_undisturbed _ hdemanded
      have hleft := demanded_of_stopCaptureIfUnused hdemanded
      apply hundisturbed
      apply hleft.mono
      · rw [hkept]
        rfl
      · exact fun hon => absurd hon Bool.false_ne_true
      · rw [hkept]
        exact id
    · refine ⟨fun captureId hdemanded => ?_, fun captureId hbefore _ => hundisturbed hbefore⟩
      apply reconcileEncoderDemand_serves hreconcile
      apply hdemanded.mono
      · rw [hkept]
      · exact fun _ => rfl
      · rw [hkept]
        exact id
  · rcases hcoherent.startRecording_of_not_begins hbegins with hsame | ⟨-, hsame⟩ <;> rw [hsame] <;>
      exact h.handoff_of_encoders rfl rfl id id

theorem Served.startReplay_handoff (h : engine.Served) (hcoherent : engine.Coherent) :
    Handoff engine engine.startReplay.2 := by
  by_cases hbegins : engine.BeginsReplay
  · rw [hcoherent.startReplay_of_begins hbegins]
    have hundisturbed {captureId : CaptureStreamId} (hbefore : engine.EncoderDemanded captureId) :
        Undisturbed captureId engine.encoders.controller
          engine.attachReplay.captureActivated.reconcileEncoderDemand.2.encoders.controller :=
      reconcileEncoderDemand_undisturbed (undisturbed_refl (h captureId hbefore))
    rcases hreconcile : engine.attachReplay.captureActivated.reconcileEncoderDemand with
      ⟨_ | _, reconciled⟩ <;> have hkept := reconcileEncoderDemand_eq hreconcile <;>
      rw [hreconcile] at hundisturbed
    · apply handoff_of_undisturbed
      intro captureId hdemanded
      apply stopCaptureIfUnused_undisturbed _ hdemanded
      have hleft := demanded_of_stopCaptureIfUnused hdemanded
      apply hundisturbed
      apply hleft.mono
      · rw [hkept]
        rfl
      · rw [hkept]
        exact id
      · exact fun hon => absurd hon Bool.false_ne_true
    · refine ⟨fun captureId hdemanded => ?_, fun captureId hbefore _ => hundisturbed hbefore⟩
      apply reconcileEncoderDemand_serves hreconcile
      apply hdemanded.mono
      · rw [hkept]
      · rw [hkept]
        exact id
      · exact fun _ => rfl
  · rw [startReplay_of_not_begins hbegins]
    exact h.handoff_of_encoders rfl rfl id id

theorem Served.step (h : engine.Served) (hcoherent : engine.Coherent) (call : ControlCall) :
    Handoff engine (engine.step call).2 := by
  cases call with
  | startRecording paths starts => exact h.startRecording_handoff hcoherent paths starts
  | startReplay => exact h.startReplay_handoff hcoherent
  | stopRecording result =>
      exact handoff_of_undisturbed fun _ hdemanded =>
        h.stopRecording_undisturbed result hdemanded
  | stopReplay =>
      exact handoff_of_undisturbed fun _ hdemanded => h.stopReplay_undisturbed hdemanded
  | shutdown result =>
      simp only [CaptureControlEngine.step, CaptureControlEngine.shutdown]
      split_ifs
      · exact h.handoff_of_encoders rfl rfl id id
      · apply handoff_of_undisturbed
        intro captureId hdemanded
        have hused := hdemanded.inUse
        exact absurd (hused.symm.trans stopped_inUse) (by decide)
  | applyReplayConfiguration configuration =>
      change Handoff engine (engine.applyReplayConfiguration configuration).2
      rcases engine.applyReplayConfiguration_cases configuration with ⟨-, -, happlied⟩ |
        ⟨-, happlied⟩
      · rw [happlied]
        exact handoff_of_undisturbed fun _ hdemanded => h.stopReplay_undisturbed hdemanded
      · rw [happlied]
        exact h.handoff_of_encoders rfl rfl id id
  | initializeEngine =>
      exact h.handoff_of_sameConsumers engine.initializeEngine_sameConsumers
  | saveReplay paths library =>
      exact h.handoff_of_sameConsumers (engine.saveReplay_sameConsumers paths library)
  | pollReplaySave => exact h.handoff_of_sameConsumers engine.pollReplaySave_sameConsumers
  | waitForReplaySave =>
      exact h.handoff_of_sameConsumers engine.waitForReplaySave_sameConsumers
  | ingest streamId packet codecExtraData => exact h.handoff_of_encoders rfl rfl id id
  | saveFinishes => exact h.handoff_of_encoders rfl rfl id id

end Handoff

section Run

variable {ε : Type} [EncoderController ε] [LawfulEncoderController ε]
  {engine : CaptureControlEngine (LoggedEncoders ε)}

end Run

end CaptureControlEngine

end ObsSyncReplay
