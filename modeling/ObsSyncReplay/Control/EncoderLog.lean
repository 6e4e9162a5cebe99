import ObsSyncReplay.Control.ControlInvariant

/-!
The encoders together with the log of what the control engine has asked of them, so that a
property may speak about the moments within a command. What a command asks is a first pass
that creates, a second one that activates, and releases.
-/

namespace ObsSyncReplay

inductive EncoderCall where
  | ensureCreated (streamId : CaptureStreamId) (stream : ConfiguredStream)
  | activate (streamId : CaptureStreamId) (stream : ConfiguredStream)
  | release (streamId : CaptureStreamId) (stream : ConfiguredStream)
deriving DecidableEq

/-- The calls of the interface on one controller; a release is always answered. -/
def EncoderCall.run {ε : Type} [EncoderController ε] (controller : ε) : EncoderCall → Bool × ε
  | .ensureCreated streamId stream => EncoderController.ensureCreated controller streamId stream
  | .activate streamId stream => EncoderController.activate controller streamId stream
  | .release streamId stream => (true, EncoderController.release controller streamId stream)

structure LoggedEncoders (ε : Type) where
  controller : ε
  past : List (Runs.Transition ε EncoderCall Bool) := []

namespace LoggedEncoders

variable {ε : Type} [EncoderController ε] {log : LoggedEncoders ε} {Good : ε → Prop}

def call (log : LoggedEncoders ε) (call : EncoderCall) : Bool × LoggedEncoders ε :=
  ((call.run log.controller).1,
    ⟨(call.run log.controller).2,
      log.past ++ [Runs.transition EncoderCall.run log.controller call]⟩)

instance : EncoderController (LoggedEncoders ε) where
  ensureCreated log streamId stream := log.call (.ensureCreated streamId stream)
  activate log streamId stream := log.call (.activate streamId stream)
  release log streamId stream := (log.call (.release streamId stream)).2
  isActive log streamId := EncoderController.isActive log.controller streamId
  activeCount log := EncoderController.activeCount log.controller

/-- Every state that the controller has been in. -/
def Always (Good : ε → Prop) (log : LoggedEncoders ε) : Prop :=
  (∀ moment ∈ log.past, Good moment.before) ∧ Good log.controller

theorem always_call (call : EncoderCall) :
    (log.call call).2.Always Good ↔ log.Always Good ∧ Good (call.run log.controller).2 := by
  simp only [Always, LoggedEncoders.call, List.forall_mem_append, List.forall_mem_singleton,
    Runs.transition]

end LoggedEncoders

namespace ObservedEncoders

variable {ε : Type} [EncoderController ε] {Kept : ε → Prop} {encoders : ObservedEncoders ε}
  {streams : List (CaptureStreamId × ConfiguredStream)}
  {demanded : StreamParticipationMode → Bool}

theorem createPass_keeps
    (hcreate : ∀ controller streamId stream, Kept controller →
      Kept (EncoderController.ensureCreated controller streamId stream).2)
    (h : Kept encoders.controller) : Kept (createPass streams encoders).2.controller := by
  induction streams generalizing encoders with
  | nil => exact h
  | cons entry rest ih =>
      unfold createPass
      split_ifs
      · exact ih h
      · exact ih h
      · have hkept := hcreate encoders.controller entry.1 entry.2 h
        split <;> rename_i answer controller hanswer <;> rw [hanswer] at hkept
        · exact hkept
        · exact ih hkept

theorem activatePass_keeps
    (hactivate : ∀ controller streamId stream, Kept controller →
      Kept (EncoderController.activate controller streamId stream).2)
    (h : Kept encoders.controller) :
    Kept (activatePass demanded streams encoders).2.controller := by
  induction streams generalizing encoders with
  | nil => exact h
  | cons entry rest ih =>
      unfold activatePass
      split_ifs
      · exact ih h
      · have hkept := hactivate encoders.controller entry.1 entry.2 h
        split <;> rename_i answer controller hanswer <;> rw [hanswer] at hkept
        · exact hkept
        · exact ih hkept
      · exact ih h

theorem releasePass_keeps
    (hrelease : ∀ controller streamId stream, Kept controller →
      Kept (EncoderController.release controller streamId stream))
    (h : Kept encoders.controller) :
    Kept (releasePass demanded streams encoders).controller := by
  induction streams generalizing encoders with
  | nil => exact h
  | cons entry rest ih =>
      unfold releasePass
      split_ifs
      · exact ih h
      · exact ih (hrelease encoders.controller entry.1 entry.2 h)

end ObservedEncoders

namespace CaptureControlEngine

variable {ε : Type} {engine : CaptureControlEngine ε}

/-- The engine as a start command has it when it asks for the encoders, if it gets so far. -/
def joining (engine : CaptureControlEngine ε) : ControlCall → Option (CaptureControlEngine ε)
  | .startRecording paths starts =>
      if engine.BeginsRecording paths starts then
        some (engine.attachRecording paths).captureActivated
      else none
  | .startReplay => if engine.BeginsReplay then some engine.attachReplay.captureActivated else none
  | _ => none

theorem joining_encoders {joined : CaptureControlEngine ε} {call : ControlCall}
    (h : engine.joining call = some joined) :
    joined.encoders = engine.encoders ∧ joined.configuration = engine.configuration := by
  cases call with
  | startRecording paths starts =>
      simp only [joining, Option.ite_none_right_eq_some, Option.some.injEq] at h
      obtain ⟨-, rfl⟩ := h
      exact ⟨rfl, rfl⟩
  | startReplay =>
      simp only [joining, Option.ite_none_right_eq_some, Option.some.injEq] at h
      obtain ⟨-, rfl⟩ := h
      exact ⟨rfl, rfl⟩
  | _ => cases h

variable [EncoderController ε] {Kept : ε → Prop}

omit [EncoderController ε] in
theorem SameConsumers.keeps {engine' : CaptureControlEngine ε}
    (hsame : SameConsumers engine engine') (h : Kept engine.encoders.controller) :
    Kept engine'.encoders.controller := by
  rwa [hsame.encoders]

section Releases

variable (hrelease : ∀ controller streamId stream, Kept controller →
  Kept (EncoderController.release controller streamId stream))

include hrelease

theorem stopCaptureIfUnused_keeps (h : Kept engine.encoders.controller) :
    Kept engine.stopCaptureIfUnused.encoders.controller := by
  cases huse : engine.inUse with
  | true => rwa [stopCaptureIfUnused_of_inUse huse]
  | false =>
      rw [stopCaptureIfUnused_of_not_inUse huse]
      exact ObservedEncoders.releasePass_keeps hrelease h

theorem stopRecording_keeps (h : Kept engine.encoders.controller)
    (result : Option SynchronizedRecordingConsumerResult) :
    Kept (engine.stopRecording result).2.encoders.controller := by
  unfold stopRecording
  split_ifs
  · exact h
  · exact h
  · apply stopCaptureIfUnused_keeps hrelease
    exact ObservedEncoders.releasePass_keeps hrelease h

theorem stopReplay_keeps (h : Kept engine.encoders.controller) :
    Kept engine.stopReplay.2.encoders.controller := by
  by_cases hoff : engine.replayState = .off
  · unfold stopReplay
    rwa [if_pos hoff]
  · rw [stopReplay_eq hoff]
    apply stopCaptureIfUnused_keeps hrelease
    exact ObservedEncoders.releasePass_keeps hrelease h

/-- A command that does not get to the encoders only releases some. -/
theorem Coherent.step_keeps (hcoherent : engine.Coherent) {call : ControlCall}
    (hcall : engine.joining call = none) (h : Kept engine.encoders.controller) :
    Kept (engine.step call).2.encoders.controller := by
  cases call with
  | startRecording paths starts =>
      have hbegins : ¬engine.BeginsRecording paths starts := by
        simpa [joining] using hcall
      have hsame : (engine.startRecording paths starts).2.encoders = engine.encoders := by
        rcases hcoherent.startRecording_of_not_begins hbegins with hsame | ⟨-, hsame⟩ <;>
          rw [hsame]
      exact (congrArg (Kept ·.controller) hsame).mpr h
  | startReplay =>
      have hbegins : ¬engine.BeginsReplay := by
        simpa [joining] using hcall
      have hsame : engine.startReplay.2.encoders = engine.encoders := by
        rw [startReplay_of_not_begins hbegins]
      exact (congrArg (Kept ·.controller) hsame).mpr h
  | initializeEngine => exact engine.initializeEngine_sameConsumers.keeps h
  | stopRecording result => exact stopRecording_keeps hrelease h result
  | stopReplay => exact stopReplay_keeps hrelease h
  | saveReplay paths library => exact (engine.saveReplay_sameConsumers paths library).keeps h
  | applyReplayConfiguration configuration =>
      change Kept (engine.applyReplayConfiguration configuration).2.encoders.controller
      rcases engine.applyReplayConfiguration_cases configuration with ⟨-, -, happlied⟩ |
        ⟨-, happlied⟩
      · rw [happlied]
        exact stopReplay_keeps hrelease h
      · rw [happlied]
        exact h
  | pollReplaySave => exact engine.pollReplaySave_sameConsumers.keeps h
  | waitForReplaySave => exact engine.waitForReplaySave_sameConsumers.keeps h
  | shutdown result =>
      simp only [CaptureControlEngine.step, CaptureControlEngine.shutdown]
      split_ifs
      · exact h
      · apply ObservedEncoders.releasePass_keeps hrelease
        exact stopRecording_keeps hrelease (stopReplay_keeps hrelease h) result
  | ingest streamId packet codecExtraData => exact h
  | saveFinishes => exact h

/-- Nor does one that does get to them do more afterwards. -/
theorem Coherent.joining_keeps (hcoherent : engine.Coherent) {call : ControlCall}
    {joined : CaptureControlEngine ε} (hcall : engine.joining call = some joined)
    (h : Kept joined.reconcileEncoderDemand.2.encoders.controller) :
    Kept (engine.step call).2.encoders.controller := by
  cases call with
  | startRecording paths starts =>
      simp only [joining, Option.ite_none_right_eq_some, Option.some.injEq] at hcall
      obtain ⟨hbegins, rfl⟩ := hcall
      simp only [CaptureControlEngine.step, hcoherent.startRecording_of_begins hbegins]
      rcases hreconcile : (engine.attachRecording paths).captureActivated.reconcileEncoderDemand
        with ⟨_ | _, reconciled⟩ <;> rw [hreconcile] at h
      · exact stopCaptureIfUnused_keeps hrelease h
      · exact h
  | startReplay =>
      simp only [joining, Option.ite_none_right_eq_some, Option.some.injEq] at hcall
      obtain ⟨hbegins, rfl⟩ := hcall
      simp only [CaptureControlEngine.step, hcoherent.startReplay_of_begins hbegins]
      rcases hreconcile : engine.attachReplay.captureActivated.reconcileEncoderDemand with
        ⟨_ | _, reconciled⟩ <;> rw [hreconcile] at h
      · exact stopCaptureIfUnused_keeps hrelease h
      · exact h
  | _ => cases hcall

end Releases

end CaptureControlEngine

end ObsSyncReplay
