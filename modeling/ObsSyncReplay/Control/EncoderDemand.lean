import ObsSyncReplay.Control.ControlInvariant
import ObsSyncReplay.Control.StreamRegistration

/-!
The encoders that run are the ones that are demanded, as long as every start of a second
consumer has its encoders activated either all or not at all, and the streams that share an
encoder agree on whether it is needed. The encoders themselves are only known to do what they
answer.
-/

namespace ObsSyncReplay

/-- Encoders that are active from the activation they accept to their release. -/
class LawfulEncoderController (ε : Type) [EncoderController ε] : Prop where
  isActive_ensureCreated (controller : ε) (captureId other : CaptureStreamId)
    (stream : ConfiguredStream) :
    EncoderController.isActive (EncoderController.ensureCreated controller captureId stream).2
      other = EncoderController.isActive controller other
  isActive_activate (controller : ε) (captureId other : CaptureStreamId)
    (stream : ConfiguredStream) :
    EncoderController.isActive (EncoderController.activate controller captureId stream).2 other =
      (EncoderController.isActive controller other ||
        (EncoderController.activate controller captureId stream).1 && other = captureId)
  isActive_release (controller : ε) (captureId other : CaptureStreamId)
    (stream : ConfiguredStream) :
    EncoderController.isActive (EncoderController.release controller captureId stream) other =
      (EncoderController.isActive controller other && other ≠ captureId)

attribute [simp] LawfulEncoderController.isActive_ensureCreated
  LawfulEncoderController.isActive_activate LawfulEncoderController.isActive_release

/-- The controller after every missing encoder of the streams has been created. -/
def allCreated {ε : Type} [EncoderController ε] :
    List (CaptureStreamId × ConfiguredStream) → ε → Option ε
  | [], controller => some controller
  | (captureId, stream) :: rest, controller =>
      if stream.mode = .disabled ∨ EncoderController.isActive controller captureId then
        allCreated rest controller
      else
        match EncoderController.ensureCreated controller captureId stream with
        | (false, _) => none
        | (true, controller) => allCreated rest controller

/-- What the controller answers when it is asked for every missing encoder of these modes in
turn. -/
def activationAnswers {ε : Type} [EncoderController ε] (demanded : StreamParticipationMode → Bool) :
    List (CaptureStreamId × ConfiguredStream) → ε → List Bool
  | [], _ => []
  | (captureId, stream) :: rest, controller =>
      if !demanded stream.mode || EncoderController.isActive controller captureId then
        activationAnswers demanded rest controller
      else
        let (answer, controller) := EncoderController.activate controller captureId stream
        answer :: activationAnswers demanded rest controller

/-- Each encoder is active as the modes of its streams demand. -/
def Meets {ε : Type} [EncoderController ε] (demanded : StreamParticipationMode → Bool)
    (streams : List (CaptureStreamId × ConfiguredStream)) (controller : ε) : Prop :=
  ∀ entry ∈ streams, entry.2.mode ≠ .disabled →
    EncoderController.isActive controller entry.1 = demanded entry.2.mode

/-- Streams that share an encoder make the same demand on it. -/
def SharedDemand (demanded : StreamParticipationMode → Bool)
    (streams : List (CaptureStreamId × ConfiguredStream)) : Prop :=
  ∀ entry ∈ streams, ∀ other ∈ streams, entry.1 = other.1 →
    demanded entry.2.mode = demanded other.2.mode

namespace ObservedEncoders

variable {ε : Type} [EncoderController ε] {encoders encoders' : ObservedEncoders ε}
  {streams : List (CaptureStreamId × ConfiguredStream)}
  {demanded demanded' : StreamParticipationMode → Bool}

@[simp] theorem emit_controller (event : EncoderLifecycleEvent) (streamId : CaptureStreamId) :
    (encoders.emit event streamId).controller = encoders.controller := rfl

theorem createPass_controller :
    allCreated streams encoders.controller =
      if (createPass streams encoders).1 then some (createPass streams encoders).2.controller
      else none := by
  induction streams generalizing encoders with
  | nil => rfl
  | cons entry rest ih =>
      unfold allCreated createPass
      by_cases hdisabled : entry.2.mode = .disabled
      · simp only [hdisabled, true_or, if_true]
        exact ih
      by_cases hactive : EncoderController.isActive encoders.controller entry.1 = true
      · simp only [hdisabled, hactive, or_true, if_true, if_false]
        exact ih
      · simp only [hdisabled, hactive, or_self, if_false, Bool.false_eq_true]
        rcases EncoderController.ensureCreated encoders.controller entry.1 entry.2 with
          ⟨_ | _, controller⟩
        · rfl
        · exact @ih { encoders with controller := controller }

variable [LawfulEncoderController ε]

theorem createPass_isActive (captureId : CaptureStreamId) :
    EncoderController.isActive (createPass streams encoders).2.controller captureId =
      EncoderController.isActive encoders.controller captureId := by
  induction streams generalizing encoders with
  | nil => rfl
  | cons entry rest ih =>
      unfold createPass
      split_ifs
      · exact ih
      · exact ih
      · have hkept := LawfulEncoderController.isActive_ensureCreated encoders.controller entry.1
          captureId entry.2
        split <;> rename_i answer controller hcreate <;> rw [hcreate] at hkept
        · exact hkept
        · exact ih.trans hkept

theorem releasePass_isActive (captureId : CaptureStreamId) :
    EncoderController.isActive (releasePass demanded streams encoders).controller captureId =
        true ↔
      EncoderController.isActive encoders.controller captureId = true ∧
        ∀ entry ∈ streams, entry.1 = captureId → demanded entry.2.mode = true := by
  induction streams generalizing encoders with
  | nil => simp [releasePass]
  | cons entry rest ih =>
      unfold releasePass
      rw [List.forall_mem_cons]
      split_ifs with hskip
      · rw [ih]
        constructor
        · rintro ⟨hactive, hrest⟩
          refine ⟨hactive, ?_, hrest⟩
          rintro rfl
          simpa [hactive] using hskip
        · rintro ⟨hactive, -, hrest⟩
          exact ⟨hactive, hrest⟩
      · dsimp only
        rw [ih]
        simp only [emit_controller, LawfulEncoderController.isActive_release, Bool.and_eq_true,
          decide_eq_true_eq]
        simp only [Bool.or_eq_true, Bool.not_eq_true', not_or, Bool.not_eq_true,
          Bool.not_eq_false] at hskip
        constructor
        · rintro ⟨⟨hactive, hother⟩, hrest⟩
          exact ⟨hactive, fun hsame => absurd hsame.symm hother, hrest⟩
        · rintro ⟨hactive, hhead, hrest⟩
          refine ⟨⟨hactive, fun hsame => ?_⟩, hrest⟩
          simp [hhead hsame.symm] at hskip

theorem activatePass_isActive {captureId : CaptureStreamId}
    (h : EncoderController.isActive encoders.controller captureId = true) :
    EncoderController.isActive (activatePass demanded streams encoders).2.controller captureId =
      true := by
  induction streams generalizing encoders with
  | nil => exact h
  | cons entry rest ih =>
      unfold activatePass
      split_ifs
      · exact ih h
      · have hkept := LawfulEncoderController.isActive_activate encoders.controller entry.1
          captureId entry.2
        rw [h, Bool.true_or] at hkept
        split <;> rename_i answer controller hactivate <;> rw [hactivate] at hkept
        · exact hkept
        · exact ih hkept
      · exact ih h

/-- A pass that succeeds has activated what was demanded and nothing else. -/
theorem activatePass_true (h : activatePass demanded streams encoders = (true, encoders'))
    (captureId : CaptureStreamId) :
    EncoderController.isActive encoders'.controller captureId = true ↔
      EncoderController.isActive encoders.controller captureId = true ∨
        ∃ entry ∈ streams, entry.1 = captureId ∧ demanded entry.2.mode = true := by
  induction streams generalizing encoders with
  | nil =>
      obtain ⟨-, rfl⟩ := Prod.mk.inj h
      simp
  | cons entry rest ih =>
      unfold activatePass at h
      simp only [List.mem_cons, exists_eq_or_imp]
      split_ifs at h with hskip hmissing
      · rw [ih h]
        simp only [Bool.not_eq_true'] at hskip
        simp [hskip]
      · have hnew := LawfulEncoderController.isActive_activate encoders.controller entry.1
          captureId entry.2
        rcases hactivate : EncoderController.activate encoders.controller entry.1 entry.2 with
          ⟨_ | _, controller⟩ <;> rw [hactivate] at h hnew
        · cases congrArg Prod.fst h
        · have hactive : EncoderController.isActive controller captureId = true ↔
              EncoderController.isActive encoders.controller captureId = true ∨
                captureId = entry.1 := by
            simp [hnew]
          rw [ih h, emit_controller, hactive, or_assoc, eq_comm (a := captureId)]
          simp only [Bool.not_eq_true', Bool.not_eq_false] at hskip
          simp [hskip]
      · rw [ih h]
        simp only [Bool.not_eq_true', Bool.not_eq_false] at hskip hmissing
        simp only [emit_controller, hskip, and_true]
        constructor
        · rintro (hactive | hrest)
          · exact Or.inl hactive
          · exact Or.inr (Or.inr hrest)
        · rintro (hactive | rfl | hrest)
          · exact Or.inl hactive
          · exact Or.inl hmissing
          · exact Or.inr hrest

omit [LawfulEncoderController ε] in
theorem activatePass_fst : (activatePass demanded streams encoders).1 = true ↔
    false ∉ activationAnswers demanded streams encoders.controller := by
  induction streams generalizing encoders with
  | nil => simp [activatePass, activationAnswers]
  | cons entry rest ih =>
      unfold activatePass activationAnswers
      cases hwanted : demanded entry.2.mode with
      | false => exact ih
      | true =>
          cases hactive : EncoderController.isActive encoders.controller entry.1 with
          | true => exact @ih (encoders.emit .retained entry.1)
          | false =>
              simp only [Bool.not_true, Bool.false_eq_true, if_false, Bool.not_false, if_true,
                Bool.or_self]
              rcases EncoderController.activate encoders.controller entry.1 entry.2 with
                ⟨_ | _, controller⟩
              · simp
              · simpa using @ih (ObservedEncoders.emit { encoders with controller := controller }
                  .activated entry.1)

/-- A pass that fails leaves the encoders as they were exactly if it was refused the first
one it asked for. -/
theorem activatePass_false (h : activatePass demanded streams encoders = (false, encoders')) :
    (∀ entry ∈ streams, demanded entry.2.mode = true →
      EncoderController.isActive encoders'.controller entry.1 =
        EncoderController.isActive encoders.controller entry.1) ↔
      (activationAnswers demanded streams encoders.controller).head? ≠ some true := by
  have hkept (captureId : CaptureStreamId)
      (hactive : EncoderController.isActive encoders.controller captureId = true) :
      EncoderController.isActive encoders'.controller captureId = true := by
    have hpass : EncoderController.isActive
        (activatePass demanded streams encoders).2.controller captureId = true :=
      activatePass_isActive hactive
    rwa [h] at hpass
  induction streams generalizing encoders with
  | nil => cases congrArg Prod.fst h
  | cons entry rest ih =>
      unfold activatePass at h
      unfold activationAnswers
      rw [List.forall_mem_cons]
      split_ifs at h with hskip hmissing
      · have hundemanded : demanded entry.2.mode = false := by simpa using hskip
        simp only [hundemanded, Bool.not_false, Bool.true_or, if_true, ← ih h hkept]
        simp
      · have hwanted : demanded entry.2.mode = true := by simpa using hskip
        have hinactive : EncoderController.isActive encoders.controller entry.1 = false := by
          simpa using hmissing
        have hnew (captureId : CaptureStreamId) :=
          LawfulEncoderController.isActive_activate encoders.controller entry.1 captureId entry.2
        simp only [hwanted, hinactive, Bool.not_true, Bool.or_self, Bool.false_eq_true, if_false]
        rcases hactivate : EncoderController.activate encoders.controller entry.1 entry.2 with
          ⟨_ | _, controller⟩ <;> rw [hactivate] at h hnew
        · obtain ⟨-, rfl⟩ := Prod.mk.inj h
          apply iff_of_true _ (by simp)
          exact ⟨fun _ => by simpa [hinactive] using hnew entry.1,
            fun other _ _ => by simpa using hnew other.1⟩
        · apply iff_of_false _ (by simp)
          rintro ⟨hsame, -⟩
          have hpass : EncoderController.isActive (activatePass demanded rest
              (ObservedEncoders.emit { encoders with controller := controller } .activated
                entry.1)).2.controller entry.1 = true :=
            activatePass_isActive (by simpa using hnew entry.1)
          dsimp only at h
          rw [h, hsame trivial] at hpass
          cases hpass
      · have hactive : EncoderController.isActive encoders.controller entry.1 = true := by
          simpa using hmissing
        have hiff := ih h hkept
        rw [emit_controller] at hiff
        simp only [hactive, Bool.or_true, if_true, ← hiff, hkept _ hactive]
        simp

/-- Of encoders that all run, a release leaves what is demanded exactly if the streams that share
one agree on it. -/
theorem releasePass_meets_iff (hdisabled : demanded .disabled = false)
    (hall : Meets (fun _ => true) streams encoders.controller) :
    Meets demanded streams (releasePass demanded streams encoders).controller ↔
      SharedDemand demanded streams := by
  constructor
  · intro hmeets entry hentry other hother hsame
    -- a stream that is demanded keeps its encoder only if no other stream releases it
    have hdemands {first second : CaptureStreamId × ConfiguredStream} (hfirst : first ∈ streams)
        (hsecond : second ∈ streams) (hid : second.1 = first.1)
        (hwanted : demanded first.2.mode = true) : demanded second.2.mode = true := by
      have henabled : first.2.mode ≠ .disabled := by
        intro hclaim
        rw [hclaim, hdisabled] at hwanted
        cases hwanted
      have hactive := (hmeets first hfirst henabled).trans hwanted
      exact (releasePass_isActive first.1 |>.mp hactive).2 second hsecond hid
    rw [Bool.eq_iff_iff]
    exact ⟨hdemands hentry hother hsame.symm, hdemands hother hentry hsame⟩
  · intro hshared entry hentry henabled
    rw [Bool.eq_iff_iff, releasePass_isActive, hall entry hentry henabled]
    constructor
    · rintro ⟨-, hothers⟩
      exact hothers entry hentry rfl
    · intro hwanted
      refine ⟨rfl, fun other hother hsame => ?_⟩
      rwa [hshared other hother entry hentry hsame]

/-- Without demand nothing is left active. -/
theorem releasePass_meets_none (hnone : ∀ mode, demanded mode = false) :
    Meets demanded streams (releasePass demanded streams encoders).controller := by
  intro entry hentry _
  rw [Bool.eq_iff_iff, releasePass_isActive]
  apply iff_of_false
  · rintro ⟨-, hothers⟩
    simpa [hnone] using hothers entry hentry rfl
  · simp [hnone]

/-- Of encoders of which none runs, an activation leaves what is demanded exactly if the streams
that share one agree on it. -/
theorem activatePass_meets_iff (hdisabled : demanded .disabled = false)
    (hnone : Meets (fun _ => false) streams encoders.controller)
    (h : activatePass demanded streams encoders = (true, encoders')) :
    Meets demanded streams encoders'.controller ↔
      SharedDemand demanded (streams.filter (fun entry => entry.2.mode ≠ .disabled)) := by
  have hactive {entry : CaptureStreamId × ConfiguredStream} (hentry : entry ∈ streams)
      (henabled : entry.2.mode ≠ .disabled) :
      EncoderController.isActive encoders'.controller entry.1 = true ↔
        ∃ other ∈ streams, other.1 = entry.1 ∧ demanded other.2.mode = true := by
    rw [activatePass_true h, hnone entry hentry henabled]
    simp
  unfold SharedDemand
  simp only [List.mem_filter, decide_eq_true_eq]
  constructor
  · rintro hmeets entry ⟨hentry, henabled⟩ other ⟨hother, henabled'⟩ hsame
    rw [← hmeets entry hentry henabled, ← hmeets other hother henabled', hsame]
  · intro hshared entry hentry henabled
    rw [Bool.eq_iff_iff, hactive hentry henabled]
    constructor
    · rintro ⟨other, hother, hsame, hwanted⟩
      have henabled' : other.2.mode ≠ .disabled := by
        intro hclaim
        rw [hclaim, hdisabled] at hwanted
        cases hwanted
      rwa [hshared entry ⟨hentry, henabled⟩ other ⟨hother, henabled'⟩ hsame.symm]
    · exact fun hwanted => ⟨entry, hentry, rfl, hwanted⟩

/-- Where every mode is demanded there is nothing to disagree on. -/
theorem activatePass_meets_all (hall : ∀ mode, demanded mode = true ↔ mode ≠ .disabled)
    (h : activatePass demanded streams encoders = (true, encoders')) :
    Meets demanded streams encoders'.controller := by
  intro entry hentry henabled
  have hwanted := (hall entry.2.mode).mpr henabled
  rw [hwanted, activatePass_true h]
  exact Or.inr ⟨entry, hentry, rfl, hwanted⟩

theorem meets_createPass :
    Meets demanded streams (createPass streams encoders).2.controller ↔
      Meets demanded streams encoders.controller := by
  unfold Meets
  simp only [createPass_isActive]

end ObservedEncoders

theorem captureIdFrom_ge {identity : StreamIdentity} {streams : List ConfiguredStream}
    {first captureId : CaptureStreamId}
    (hfits : first.toNat + CaptureControlEngine.enabledCount streams < 256)
    (h : captureIdFrom identity streams first = some captureId) :
    first.toNat ≤ captureId.toNat := by
  induction streams generalizing first with
  | nil => cases h
  | cons stream rest ih =>
      unfold captureIdFrom at h
      simp only [CaptureControlEngine.enabledCount, List.countP_cons] at hfits ih
      split_ifs at h with hdisabled hfound
      · exact ih (by omega) h
      · obtain rfl := Option.some.inj h
        exact le_rfl
      · rw [if_pos (by simpa using hdisabled)] at hfits
        have hnext : (first + 1).toNat = first.toNat + 1 := by
          rw [UInt8.toNat_add]
          exact Nat.mod_eq_of_lt (by simp; omega)
        have hbound := ih (by omega) h
        omega

theorem captureIdFrom_injective {identity other : StreamIdentity}
    {streams : List ConfiguredStream} {first captureId : CaptureStreamId}
    (hfits : first.toNat + CaptureControlEngine.enabledCount streams < 256)
    (h : captureIdFrom identity streams first = some captureId)
    (hother : captureIdFrom other streams first = some captureId) : identity = other := by
  induction streams generalizing first with
  | nil => cases h
  | cons stream rest ih =>
      unfold captureIdFrom at h hother
      have hcount := hfits
      simp only [CaptureControlEngine.enabledCount, List.countP_cons] at hcount ih
      by_cases hdisabled : stream.mode = .disabled
      · rw [if_pos hdisabled] at h hother
        exact ih (by omega) h hother
      rw [if_neg hdisabled] at h hother
      rw [if_pos (by simpa using hdisabled)] at hcount
      have hnext : (first + 1).toNat = first.toNat + 1 := by
        rw [UInt8.toNat_add]
        exact Nat.mod_eq_of_lt (by simp; omega)
      -- an id that a later stream has is not the first one
      have hlater {wanted : StreamIdentity}
          (hrest : captureIdFrom wanted rest (first + 1) = some first) : False := by
        have hge := captureIdFrom_ge (by simp only [CaptureControlEngine.enabledCount]; omega) hrest
        omega
      split_ifs at h hother with hfirst hsecond hsecond
      · exact hfirst.symm.trans hsecond
      · obtain rfl := Option.some.inj h
        exact (hlater hother).elim
      · obtain rfl := Option.some.inj hother
        exact (hlater h).elim
      · exact ih (by omega) h hother

theorem captureIdFrom_isSome {stream : ConfiguredStream} {streams : List ConfiguredStream}
    (hstream : stream ∈ streams) (henabled : stream.mode ≠ .disabled)
    (first : CaptureStreamId) : (captureIdFrom stream.identity streams first).isSome = true := by
  induction streams generalizing first with
  | nil => cases hstream
  | cons head rest ih =>
      unfold captureIdFrom
      split_ifs with hdisabled hfound
      · apply ih
        rcases List.mem_cons.mp hstream with rfl | hrest
        · exact absurd hdisabled henabled
        · exact hrest
      · rfl
      · apply ih
        rcases List.mem_cons.mp hstream with rfl | hrest
        · exact absurd rfl hfound
        · exact hrest

/-- The streams of one identity, which share their encoder, agree on whether it is needed. -/
def AgreeOnNeed (streams : List ConfiguredStream) (recordingActive replayActive : Bool) : Prop :=
  ∀ stream ∈ streams, ∀ other ∈ streams, stream.identity = other.identity →
    streamNeedsEncoder stream.mode recordingActive replayActive =
      streamNeedsEncoder other.mode recordingActive replayActive

namespace CaptureConfiguration

variable {configuration : CaptureConfiguration}

theorem mem_addressed {captureId : CaptureStreamId} {stream : ConfiguredStream} :
    (captureId, stream) ∈ configuration.addressed ↔
      stream ∈ configuration.streams ∧
        configuration.captureIdFor stream.identity = some captureId := by
  simp only [addressed, List.mem_filterMap, Option.map_eq_some_iff, Prod.mk.injEq]
  constructor
  · rintro ⟨_, hstream, _, hid, rfl, rfl⟩
    exact ⟨hstream, hid⟩
  · rintro ⟨hstream, hid⟩
    exact ⟨stream, hstream, captureId, hid, rfl, rfl⟩

theorem captureIdFor_isSome {stream : ConfiguredStream} (hstream : stream ∈ configuration.streams)
    (henabled : stream.mode ≠ .disabled) :
    ∃ captureId, configuration.captureIdFor stream.identity = some captureId :=
  Option.isSome_iff_exists.mp (captureIdFrom_isSome hstream henabled 0)

theorem sharedDemand_iff (hfits : CaptureControlEngine.enabledCount configuration.streams < 256)
    (included : ConfiguredStream → Bool) {recordingActive replayActive : Bool} :
    SharedDemand (streamNeedsEncoder · recordingActive replayActive)
        (configuration.addressed.filter (fun entry => included entry.2)) ↔
      AgreeOnNeed (configuration.streams.filter included) recordingActive replayActive := by
  unfold SharedDemand AgreeOnNeed
  simp only [List.mem_filter]
  constructor
  · rintro hshared stream ⟨hstream, hincluded⟩ other ⟨hother, hincluded'⟩ hsame
    by_cases hdisabled : stream.mode = .disabled ∧ other.mode = .disabled
    · rw [hdisabled.1, hdisabled.2]
    -- one of the two has an id, which is that of the other as well
    · obtain ⟨captureId, hid⟩ : ∃ captureId,
          configuration.captureIdFor stream.identity = some captureId := by
        rcases not_and_or.mp hdisabled with henabled | henabled
        · exact captureIdFor_isSome hstream henabled
        · rw [hsame]
          exact captureIdFor_isSome hother henabled
      exact hshared (captureId, stream) ⟨mem_addressed.mpr ⟨hstream, hid⟩, hincluded⟩
        (captureId, other) ⟨mem_addressed.mpr ⟨hother, hsame ▸ hid⟩, hincluded'⟩ rfl
  · rintro hagree entry ⟨hentry, hincluded⟩ other ⟨hother, hincluded'⟩ hsame
    obtain ⟨hstream, hid⟩ := mem_addressed.mp hentry
    obtain ⟨hstream', hid'⟩ := mem_addressed.mp hother
    rw [← hsame] at hid'
    exact hagree _ ⟨hstream, hincluded⟩ _ ⟨hstream', hincluded'⟩
      (captureIdFrom_injective (by simpa using hfits) hid hid')

theorem sharedDemand_addressed_iff
    (hfits : CaptureControlEngine.enabledCount configuration.streams < 256)
    {recordingActive replayActive : Bool} :
    SharedDemand (streamNeedsEncoder · recordingActive replayActive) configuration.addressed ↔
      AgreeOnNeed configuration.streams recordingActive replayActive := by
  simpa using @sharedDemand_iff configuration hfits (fun _ => true) recordingActive replayActive

end CaptureConfiguration

namespace CaptureControlEngine

variable {ε : Type} [EncoderController ε] {engine : CaptureControlEngine ε}

/-- The encoder of every stream that is not disabled is active exactly if a consumer which
is on needs it. -/
def DemandMet (engine : CaptureControlEngine ε) : Prop :=
  ∀ stream ∈ engine.configuration.streams, stream.mode ≠ .disabled →
    ∃ captureId, engine.configuration.captureIdFor stream.identity = some captureId ∧
      EncoderController.isActive engine.encoders.controller captureId =
        streamNeedsEncoder stream.mode (isRecordingActive engine.recordingState)
          (isReplayActive engine.replayState)

/-- The missing encoders of these modes are all created, and then all activated. -/
def AcceptsAll (engine : CaptureControlEngine ε) (demanded : StreamParticipationMode → Bool) :
    Prop :=
  ∃ controller ∈ allCreated engine.configuration.addressed engine.encoders.controller,
    false ∉ activationAnswers demanded engine.configuration.addressed controller

/-- The missing encoders, once all are created, are activated either all or not at all: a
refusal comes for the first one or does not come. -/
def ActivatesAllOrNone (engine : CaptureControlEngine ε)
    (demanded : StreamParticipationMode → Bool) : Prop :=
  ∀ controller ∈ allCreated engine.configuration.addressed engine.encoders.controller,
    (activationAnswers demanded engine.configuration.addressed controller).head? = some true →
      false ∉ activationAnswers demanded engine.configuration.addressed controller

/-- A consumer that joins the other one has its encoders activated all or not at all. One that
begins alone finds the streams in agreement on its encoders, unless one of them is refused. -/
def BeginsWhole (engine : CaptureControlEngine ε) (recordingActive replayActive : Bool) : Prop :=
  if recordingActive && replayActive then
    engine.ActivatesAllOrNone (streamNeedsEncoder · recordingActive replayActive)
  else
    engine.AcceptsAll (streamNeedsEncoder · recordingActive replayActive) →
      AgreeOnNeed (enabledStreams engine.configuration.streams) recordingActive replayActive

/-- The consumer that goes on alone finds the streams in agreement on its encoders, the disabled
ones as well: each stream that does not need its encoder releases it. -/
def EndsWhole (engine : CaptureControlEngine ε) (recordingActive replayActive : Bool) : Prop :=
  engine.recordingState ≠ .off → engine.replayState ≠ .off →
    AgreeOnNeed engine.configuration.streams recordingActive replayActive

def KeepsDemand (engine : CaptureControlEngine ε) : ControlCall → Prop
  | .startRecording paths starts => engine.BeginsRecording paths starts →
      engine.BeginsWhole true (isReplayActive engine.replayState)
  | .startReplay => engine.BeginsReplay →
      engine.BeginsWhole (isRecordingActive engine.recordingState) true
  | .stopRecording _ => engine.EndsWhole false true
  | .stopReplay => engine.EndsWhole true false
  | .applyReplayConfiguration configuration =>
      configuration.enabled = false → engine.EndsWhole true false
  | _ => True

instance (streams : List ConfiguredStream) (recordingActive replayActive : Bool) :
    Decidable (AgreeOnNeed streams recordingActive replayActive) := by
  unfold AgreeOnNeed
  infer_instance

instance (engine : CaptureControlEngine ε) (recordingActive replayActive : Bool) :
    Decidable (engine.BeginsWhole recordingActive replayActive) := by
  unfold BeginsWhole ActivatesAllOrNone AcceptsAll
  infer_instance

instance (engine : CaptureControlEngine ε) (recordingActive replayActive : Bool) :
    Decidable (engine.EndsWhole recordingActive replayActive) := by
  unfold EndsWhole
  infer_instance

instance (engine : CaptureControlEngine ε) (call : ControlCall) :
    Decidable (engine.KeepsDemand call) :=
  match call with
  | .startRecording paths starts => inferInstanceAs (Decidable
      (engine.BeginsRecording paths starts →
        engine.BeginsWhole true (isReplayActive engine.replayState)))
  | .startReplay => inferInstanceAs (Decidable
      (engine.BeginsReplay → engine.BeginsWhole (isRecordingActive engine.recordingState) true))
  | .stopRecording _ => inferInstanceAs (Decidable (engine.EndsWhole false true))
  | .stopReplay => inferInstanceAs (Decidable (engine.EndsWhole true false))
  | .applyReplayConfiguration configuration => inferInstanceAs (Decidable
      (configuration.enabled = false → engine.EndsWhole true false))
  | .initializeEngine | .saveReplay _ _ | .pollReplaySave | .waitForReplaySave | .shutdown _ |
    .ingest _ _ _ | .saveFinishes => instDecidableTrue

/-- `DemandMet` over the streams that have an encoder. -/
def Met (engine : CaptureControlEngine ε) : Prop :=
  Meets engine.demanded engine.configuration.addressed engine.encoders.controller

theorem demandMet_iff : engine.DemandMet ↔ engine.Met := by
  constructor
  · intro h entry hentry henabled
    obtain ⟨hstream, hid⟩ := CaptureConfiguration.mem_addressed.mp hentry
    obtain ⟨captureId, hfound, hactive⟩ := h _ hstream henabled
    obtain rfl := Option.some.inj (hid.symm.trans hfound)
    exact hactive
  · intro h stream hstream henabled
    obtain ⟨captureId, hid⟩ := CaptureConfiguration.captureIdFor_isSome hstream henabled
    exact ⟨captureId, hid, h _ (CaptureConfiguration.mem_addressed.mpr ⟨hstream, hid⟩) henabled⟩

omit [EncoderController ε] in
theorem demanded_of_not_inUse (h : engine.inUse = false) (mode : StreamParticipationMode) :
    engine.demanded mode = false := by
  obtain ⟨hrecording, hreplay⟩ := inUse_eq_false.mp h
  simp [demanded, hrecording, hreplay, isRecordingActive, isReplayActive, streamNeedsEncoder]

omit [EncoderController ε] in
theorem demanded_disabled (engine : CaptureControlEngine ε) : engine.demanded .disabled = false := by
  simp [demanded, streamNeedsEncoder, streamParticipates]

theorem Met.congr {engine' : CaptureControlEngine ε} (h : engine.Met)
    (hstreams : engine'.configuration.streams = engine.configuration.streams)
    (hencoders : engine'.encoders.controller = engine.encoders.controller)
    (hrecording : isRecordingActive engine'.recordingState =
      isRecordingActive engine.recordingState)
    (hreplay : isReplayActive engine'.replayState = isReplayActive engine.replayState) :
    engine'.Met := by
  unfold Met demanded CaptureConfiguration.addressed CaptureConfiguration.captureIdFor at h ⊢
  rwa [hstreams, hencoders, hrecording, hreplay]

theorem SameConsumers.met {engine' : CaptureControlEngine ε} (hsame : SameConsumers engine engine')
    (hmet : engine.Met) : engine'.Met := by
  apply hmet.congr
  · rw [hsame.configuration]
  · rw [hsame.encoders]
  · rw [hsame.recordingState]
  · exact hsame.replayActive

section Reconciliation

/-! `joining` is the engine with one consumer more that is on. -/

variable [LawfulEncoderController ε] {joining engine' : CaptureControlEngine ε}

omit [LawfulEncoderController ε] in
theorem reconcileEncoderDemand_fst :
    joining.reconcileEncoderDemand.1 = true ↔ joining.AcceptsAll joining.demanded := by
  unfold AcceptsAll reconcileEncoderDemand
  rw [ObservedEncoders.createPass_controller]
  rcases hcreate : ObservedEncoders.createPass joining.configuration.addressed joining.encoders
    with ⟨_ | _, created⟩
  · simp
  · have hall : (ObservedEncoders.activatePass joining.demanded joining.configuration.addressed
          created).1 = true ↔
        false ∉ activationAnswers joining.demanded joining.configuration.addressed
          created.controller :=
      ObservedEncoders.activatePass_fst
    simpa using hall

/-- What an attempt that succeeds has done is what the activation pass has done. -/
theorem reconcileEncoderDemand_true {demanded : StreamParticipationMode → Bool}
    (hmeets : Meets demanded joining.configuration.addressed joining.encoders.controller)
    (h : joining.reconcileEncoderDemand = (true, engine')) :
    ∃ created, Meets demanded joining.configuration.addressed created.controller ∧
      ObservedEncoders.activatePass joining.demanded joining.configuration.addressed created =
        (true, engine'.encoders) := by
  unfold reconcileEncoderDemand at h
  rcases hcreate : ObservedEncoders.createPass joining.configuration.addressed joining.encoders
    with ⟨_ | _, created⟩ <;> rw [hcreate] at h
  · cases congrArg Prod.fst h
  · have hcreated := ObservedEncoders.meets_createPass.mpr hmeets
    rw [hcreate] at hcreated
    obtain ⟨hactivated, rfl⟩ := Prod.mk.inj h
    exact ⟨created, hcreated, Prod.ext hactivated rfl⟩

/-- With both consumers on, the attempt succeeds or leaves the encoders as they were
exactly if they are activated all or not at all. -/
theorem reconcileEncoderDemand_joined
    (hmeets : Meets engine.demanded joining.configuration.addressed joining.encoders.controller)
    (hboth : ∀ mode, joining.demanded mode = true ↔ mode ≠ .disabled) :
    joining.ActivatesAllOrNone joining.demanded ↔
      (joining.reconcileEncoderDemand.1 = false →
        Meets engine.demanded joining.configuration.addressed
          joining.reconcileEncoderDemand.2.encoders.controller) := by
  unfold ActivatesAllOrNone reconcileEncoderDemand
  rw [ObservedEncoders.createPass_controller]
  have hcreated := ObservedEncoders.meets_createPass.mpr hmeets
  rcases hcreate : ObservedEncoders.createPass joining.configuration.addressed joining.encoders
    with ⟨_ | _, created⟩ <;> rw [hcreate] at hcreated
  · exact iff_of_true (by simp) (fun _ => hcreated)
  · have hall : (ObservedEncoders.activatePass joining.demanded joining.configuration.addressed
          created).1 = true ↔
        false ∉ activationAnswers joining.demanded joining.configuration.addressed
          created.controller :=
      ObservedEncoders.activatePass_fst
    simp only [if_true, Option.mem_some, forall_eq']
    rcases hactivate : ObservedEncoders.activatePass joining.demanded
      joining.configuration.addressed created with ⟨_ | _, activated⟩ <;> rw [hactivate] at hall
    · have hkept := ObservedEncoders.activatePass_false hactivate
      have hrefused : false ∈ activationAnswers joining.demanded joining.configuration.addressed
          created.controller := by
        simpa using hall
      simp only [hrefused, not_true_eq_false, imp_false, forall_const]
      rw [← ne_eq, ← hkept]
      constructor
      · intro hsame entry hentry henabled
        rw [hsame entry hentry ((hboth _).mpr henabled)]
        exact hcreated entry hentry henabled
      · intro hafter entry hentry hwanted
        have henabled := (hboth _).mp hwanted
        rw [hafter entry hentry henabled, hcreated entry hentry henabled]
    · exact iff_of_true (fun _ => hall.mp rfl) (by simp)

variable {abandoned begun : CaptureControlEngine ε → ControlCommandResult × CaptureControlEngine ε}

/-- A consumer that begins alone: the demand is met afterwards unless its encoders are accepted
and the streams disagree on them. -/
theorem begin_alone_met_iff (hfits : enabledCount joining.configuration.streams < 256)
    (hnone : Meets (fun _ => false) joining.configuration.addressed joining.encoders.controller)
    (habandoned : ∀ encoders, (abandoned { joining with encoders := encoders }).2.Met)
    (hbegun : ∀ encoders, (begun { joining with encoders := encoders }).2.Met ↔
      Meets joining.demanded joining.configuration.addressed encoders.controller) :
    (match joining.reconcileEncoderDemand with
      | (false, engine) => abandoned engine
      | (true, engine) => begun engine).2.Met ↔
        (joining.AcceptsAll joining.demanded →
          AgreeOnNeed (enabledStreams joining.configuration.streams)
            (isRecordingActive joining.recordingState) (isReplayActive joining.replayState)) := by
  have haccepts := @reconcileEncoderDemand_fst ε _ joining
  rcases hreconcile : joining.reconcileEncoderDemand with ⟨_ | _, engine'⟩ <;>
    rw [hreconcile] at haccepts <;> have hkept := reconcileEncoderDemand_eq hreconcile
  · apply iff_of_true
    · rw [hkept]
      exact habandoned _
    · exact fun hclaim => absurd (haccepts.mpr hclaim) Bool.false_ne_true
  · obtain ⟨created, hcreated, hactivate⟩ := reconcileEncoderDemand_true hnone hreconcile
    have hagree := @CaptureConfiguration.sharedDemand_iff joining.configuration hfits
      (fun stream => stream.mode ≠ .disabled) (isRecordingActive joining.recordingState)
      (isReplayActive joining.replayState)
    rw [forall_prop_of_true (haccepts.mp rfl)]
    dsimp only
    rw [hkept, hbegun]
    exact (ObservedEncoders.activatePass_meets_iff joining.demanded_disabled hcreated
      hactivate).trans hagree

/-- A consumer that joins the other one: the demand is met afterwards unless it gets a part of its
encoders. -/
theorem begin_joining_met_iff
    (hmeets : Meets engine.demanded joining.configuration.addressed joining.encoders.controller)
    (hboth : ∀ mode, joining.demanded mode = true ↔ mode ≠ .disabled)
    (habandoned : ∀ encoders, (abandoned { joining with encoders := encoders }).2.Met ↔
      Meets engine.demanded joining.configuration.addressed encoders.controller)
    (hbegun : ∀ encoders, (begun { joining with encoders := encoders }).2.Met ↔
      Meets joining.demanded joining.configuration.addressed encoders.controller) :
    (match joining.reconcileEncoderDemand with
      | (false, engine) => abandoned engine
      | (true, engine) => begun engine).2.Met ↔ joining.ActivatesAllOrNone joining.demanded := by
  rw [reconcileEncoderDemand_joined hmeets hboth]
  rcases hreconcile : joining.reconcileEncoderDemand with ⟨_ | _, engine'⟩ <;>
    have hkept := reconcileEncoderDemand_eq hreconcile
  · simp only [forall_const]
    rw [hkept, habandoned]
  · obtain ⟨created, -, hactivate⟩ := reconcileEncoderDemand_true hmeets hreconcile
    apply iff_of_true
    · dsimp only
      rw [hkept, hbegun]
      exact ObservedEncoders.activatePass_meets_all hboth hactivate
    · simp

/-- A consumer that begins, alone or with the other one. -/
theorem begin_met_iff (hfits : enabledCount joining.configuration.streams < 256)
    (hmeets : Meets engine.demanded joining.configuration.addressed joining.encoders.controller)
    (hinUse : engine.inUse =
      (isRecordingActive joining.recordingState && isReplayActive joining.replayState))
    (hunused : engine.inUse = false → ∀ encoders,
      (abandoned { joining with encoders := encoders }).2.Met)
    (hused : engine.inUse = true → ∀ encoders,
      (abandoned { joining with encoders := encoders }).2.Met ↔
        Meets engine.demanded joining.configuration.addressed encoders.controller)
    (hbegun : ∀ encoders, (begun { joining with encoders := encoders }).2.Met ↔
      Meets joining.demanded joining.configuration.addressed encoders.controller) :
    (match joining.reconcileEncoderDemand with
      | (false, engine) => abandoned engine
      | (true, engine) => begun engine).2.Met ↔
        joining.BeginsWhole (isRecordingActive joining.recordingState)
          (isReplayActive joining.replayState) := by
  unfold BeginsWhole
  rw [← hinUse]
  cases huse : engine.inUse with
  | false =>
      have hnone : Meets (fun _ => false) joining.configuration.addressed
          joining.encoders.controller :=
        fun entry hentry henabled =>
          (hmeets entry hentry henabled).trans (demanded_of_not_inUse huse entry.2.mode)
      exact begin_alone_met_iff hfits hnone (hunused huse) hbegun
  | true =>
      obtain ⟨hrecording, hreplay⟩ := (Bool.and_eq_true _ _).mp (hinUse.symm.trans huse)
      have hboth (mode : StreamParticipationMode) :
          joining.demanded mode = true ↔ mode ≠ .disabled := by
        cases mode <;> simp [demanded, hrecording, hreplay, streamNeedsEncoder, streamParticipates]
      exact begin_joining_met_iff hmeets hboth (hused huse) hbegun

end Reconciliation

section Commands

variable [LawfulEncoderController ε]

theorem stopCaptureIfUnused_met (h : engine.inUse = true → engine.Met) :
    engine.stopCaptureIfUnused.Met := by
  cases huse : engine.inUse with
  | true =>
      rw [stopCaptureIfUnused_of_inUse huse]
      exact h huse
  | false =>
      rw [stopCaptureIfUnused_of_not_inUse huse]
      exact ObservedEncoders.releasePass_meets_none (demanded_of_not_inUse huse)

theorem Coherent.startRecording_met_iff (h : engine.Coherent) (hmet : engine.Met)
    (paths : List String) (starts : Bool) : (engine.startRecording paths starts).2.Met ↔
      engine.KeepsDemand (.startRecording paths starts) := by
  by_cases hbegins : engine.BeginsRecording paths starts
  · have hoff := hbegins.2.1
    rw [h.startRecording_of_begins hbegins]
    have hfits : enabledCount (engine.attachRecording paths).captureActivated.configuration.streams <
        256 := h.numbered hbegins.1
    have hbegin : engine.KeepsDemand (.startRecording paths starts) ↔
        (engine.attachRecording paths).captureActivated.BeginsWhole
          (isRecordingActive (engine.attachRecording paths).captureActivated.recordingState)
          (isReplayActive (engine.attachRecording paths).captureActivated.replayState) :=
      forall_prop_of_true hbegins
    rw [hbegin]
    apply begin_met_iff hfits hmet
    · simp [inUse, hoff, isRecordingActive, attachRecording, captureActivated]
    · intro hunused encoders
      apply stopCaptureIfUnused_met
      intro huse
      have hsame : engine.inUse = true := by
        rwa [inUse, hoff]
      simp [hunused] at hsame
    · intro huse encoders
      have hkept : ({ (engine.attachRecording paths).captureActivated with
          encoders := encoders }.detachRecording).inUse = true := by
        rwa [inUse, hoff] at huse
      have hdemanded : ({ (engine.attachRecording paths).captureActivated with
          encoders := encoders }.detachRecording).demanded = engine.demanded := by
        funext mode
        simp only [demanded, hoff]
        rfl
      unfold abandonRecording
      dsimp only
      rw [stopCaptureIfUnused_of_inUse hkept, Met, hdemanded]
      rfl
    · intro encoders
      rfl
  · apply iff_of_true _ (fun hclaim => absurd hclaim hbegins)
    rcases h.startRecording_of_not_begins hbegins with hsame | ⟨hoff, hsame⟩ <;> rw [hsame] <;>
      exact hmet

theorem Coherent.startReplay_met_iff (h : engine.Coherent) (hmet : engine.Met) :
    engine.startReplay.2.Met ↔ engine.KeepsDemand .startReplay := by
  by_cases hbegins : engine.BeginsReplay
  · have hoff := hbegins.2.2.1
    rw [h.startReplay_of_begins hbegins]
    have hfits : enabledCount engine.attachReplay.captureActivated.configuration.streams < 256 :=
      h.numbered hbegins.1
    have hbegin : engine.KeepsDemand .startReplay ↔
        engine.attachReplay.captureActivated.BeginsWhole
          (isRecordingActive engine.attachReplay.captureActivated.recordingState)
          (isReplayActive engine.attachReplay.captureActivated.replayState) :=
      forall_prop_of_true hbegins
    rw [hbegin]
    apply begin_met_iff hfits hmet
    · simp [inUse, hoff, isReplayActive, attachReplay, captureActivated]
    · intro hunused encoders
      apply stopCaptureIfUnused_met
      intro huse
      have hsame : engine.inUse = true := by
        rwa [inUse, hoff]
      simp [hunused] at hsame
    · intro huse encoders
      have hkept : ({ engine.attachReplay.captureActivated with
          encoders := encoders }.detachReplay).inUse = true := by
        rwa [inUse, hoff] at huse
      have hdemanded : ({ engine.attachReplay.captureActivated with
          encoders := encoders }.detachReplay).demanded = engine.demanded := by
        funext mode
        simp only [demanded, hoff]
        rfl
      have habandon : ({ engine.attachReplay.captureActivated with
          encoders := encoders }.abandonReplay).2 =
            ({ engine.attachReplay.captureActivated with
              encoders := encoders }.detachReplay).stopCaptureIfUnused := rfl
      rw [habandon, stopCaptureIfUnused_of_inUse hkept, Met, hdemanded]
      rfl
    · intro encoders
      rfl
  · apply iff_of_true _ (fun hclaim => absurd hclaim hbegins)
    rwa [startReplay_of_not_begins hbegins]

/-- A consumer that ends leaves the other one with what it needs exactly if the streams agree on
that; one that was alone leaves nothing. -/
theorem Coherent.end_met_iff (h : engine.Coherent) (hmet : engine.Met) (huse : engine.inUse = true)
    {left : CaptureControlEngine ε} {recordingActive replayActive : Bool}
    (hconfiguration : left.configuration = engine.configuration)
    (hencoders : left.encoders = engine.encoders)
    (hleft : left.inUse = true ↔ engine.recordingState ≠ .off ∧ engine.replayState ≠ .off)
    (hdemanded : left.inUse = true →
      left.demanded = (streamNeedsEncoder · recordingActive replayActive)) :
    left.releaseUndemandedEncoders.stopCaptureIfUnused.Met ↔
      engine.EndsWhole recordingActive replayActive := by
  cases hon : left.inUse with
  | false =>
      apply iff_of_true
      · apply stopCaptureIfUnused_met
        exact fun hclaim => absurd (hon.symm.trans hclaim) Bool.false_ne_true
      · intro hrecording hreplay
        rw [hleft.mpr ⟨hrecording, hreplay⟩] at hon
        cases hon
  | true =>
      obtain ⟨hrecording, hreplay⟩ := hleft.mp hon
      have hall : Meets (fun _ => true) engine.configuration.addressed
          engine.encoders.controller := by
        intro entry hentry henabled
        rw [hmet entry hentry henabled]
        revert henabled
        cases entry.2.mode <;> simp [demanded, isRecordingActive, isReplayActive,
          streamNeedsEncoder, streamParticipates, hrecording, hreplay]
      have hreleased := ObservedEncoders.releasePass_meets_iff left.demanded_disabled hall
      rw [stopCaptureIfUnused_of_inUse (show left.releaseUndemandedEncoders.inUse = true from hon)]
      unfold EndsWhole releaseUndemandedEncoders Met
      rw [forall_prop_of_true hrecording, forall_prop_of_true hreplay, hconfiguration, hencoders]
      refine hreleased.trans ?_
      rw [hdemanded hon]
      exact CaptureConfiguration.sharedDemand_addressed_iff (h.numbered (h.ready huse))

theorem Coherent.stopRecording_met_iff (h : engine.Coherent) (hmet : engine.Met)
    (result : Option SynchronizedRecordingConsumerResult) :
    (engine.stopRecording result).2.Met ↔ engine.KeepsDemand (.stopRecording result) := by
  unfold CaptureControlEngine.stopRecording
  split_ifs with hoff hmissing
  · exact iff_of_true hmet (fun hon => absurd hoff hon)
  · have hattached := h.attached
    simp [Option.isNone_iff_eq_none.mp hmissing, isRecordingActive, hoff] at hattached
  · apply h.end_met_iff hmet (inUse_eq_true.mpr (Or.inl hoff))
    · rfl
    · rfl
    · rw [inUse_eq_true]
      simp [CaptureControlEngine.detachRecording, hoff]
    · intro hon
      have hreplay : isReplayActive engine.replayState = true := by
        simpa [inUse, CaptureControlEngine.detachRecording, isRecordingActive] using hon
      rw [← hreplay]
      rfl

theorem Coherent.stopReplay_met_iff (h : engine.Coherent) (hmet : engine.Met) :
    engine.stopReplay.2.Met ↔ engine.EndsWhole true false := by
  by_cases hoff : engine.replayState = .off
  · unfold CaptureControlEngine.stopReplay
    rw [if_pos hoff]
    exact iff_of_true hmet (fun _ hon => absurd hoff hon)
  · rw [stopReplay_eq hoff]
    apply h.end_met_iff hmet (inUse_eq_true.mpr (Or.inr hoff))
    · rfl
    · rfl
    · rw [inUse_eq_true]
      simp [CaptureControlEngine.detachReplay, hoff]
    · intro hon
      have hrecording : isRecordingActive engine.recordingState = true := by
        simpa [inUse, CaptureControlEngine.detachReplay, isReplayActive] using hon
      rw [← hrecording]
      rfl

theorem shutdown_met (hmet : engine.Met)
    (result : Option SynchronizedRecordingConsumerResult) :
    (engine.shutdown result).Met := by
  unfold CaptureControlEngine.shutdown
  split_ifs with hnew
  · exact hmet
  · have hunused : (engine.stopReplay.2.stopRecording result).2.inUse = false := stopped_inUse
    have hnone := demanded_of_not_inUse hunused
    intro entry hentry henabled
    have hreleased {encoders : ObservedEncoders ε}
        {streams : List (CaptureStreamId × ConfiguredStream)} :
        Meets (fun _ => false) streams
          (ObservedEncoders.releasePass (fun _ => false) streams encoders).controller :=
      ObservedEncoders.releasePass_meets_none (fun _ => rfl)
    exact (hreleased entry hentry henabled).trans (hnone entry.2.mode).symm

theorem Coherent.applyReplayConfiguration_met_iff (h : engine.Coherent) (hmet : engine.Met)
    (configuration : ReplayConfiguration) :
    (engine.applyReplayConfiguration configuration).2.Met ↔
      engine.KeepsDemand (.applyReplayConfiguration configuration) := by
  rcases engine.applyReplayConfiguration_cases configuration with ⟨-, hdisabled, happlied⟩ |
    ⟨henabled, happlied⟩
  · rw [happlied]
    simp only [KeepsDemand, hdisabled, forall_const]
    rw [← h.stopReplay_met_iff hmet]
    exact ⟨fun hafter => hafter.congr rfl rfl rfl rfl, fun hafter => hafter.congr rfl rfl rfl rfl⟩
  · rw [happlied]
    apply iff_of_true (hmet.congr rfl rfl rfl rfl)
    intro hdisabled _ hon
    rw [henabled hon] at hdisabled
    cases hdisabled

theorem Coherent.step_met_iff (h : engine.Coherent) (hmet : engine.Met) (call : ControlCall) :
    (engine.step call).2.Met ↔ engine.KeepsDemand call := by
  cases call with
  | startRecording paths starts => exact h.startRecording_met_iff hmet paths starts
  | startReplay => exact h.startReplay_met_iff hmet
  | stopRecording result => exact h.stopRecording_met_iff hmet result
  | stopReplay => exact h.stopReplay_met_iff hmet
  | applyReplayConfiguration configuration =>
      exact h.applyReplayConfiguration_met_iff hmet configuration
  | initializeEngine => exact iff_of_true (engine.initializeEngine_sameConsumers.met hmet) trivial
  | saveReplay paths library =>
      exact iff_of_true ((engine.saveReplay_sameConsumers paths library).met hmet) trivial
  | pollReplaySave => exact iff_of_true (engine.pollReplaySave_sameConsumers.met hmet) trivial
  | waitForReplaySave =>
      exact iff_of_true (engine.waitForReplaySave_sameConsumers.met hmet) trivial
  | shutdown result => exact iff_of_true (shutdown_met hmet result) trivial
  | ingest streamId packet codecExtraData => exact iff_of_true hmet trivial
  | saveFinishes => exact iff_of_true hmet trivial

/-- In every run of new encoders, the demand is met between all commands if and only if no
consumer joins the other one with only a part of its encoders, and each that begins or goes on
alone finds the streams that share an encoder in agreement on it. -/
theorem encoder_demand_iff {configuration : CaptureConfiguration} {ringCapacityBytes : Nat}
    {controller : ε} {past : List (Transition ε)}
    (hidle : ∀ captureId, EncoderController.isActive controller captureId = false)
    (hrun : Runs.Run step (create configuration (.create ringCapacityBytes) controller) past
      engine) :
    (∀ t ∈ past, t.after.DemandMet) ↔ ∀ t ∈ past, t.before.KeepsDemand t.input := by
  apply hrun.always_iff
  · apply demandMet_iff.mpr
    intro entry _ _
    exact (hidle entry.1).trans (demanded_of_not_inUse rfl _).symm
  · intro past engine call hrun hmet
    rw [demandMet_iff, (coherent_run hrun).step_met_iff (demandMet_iff.mp hmet)]

end Commands

end CaptureControlEngine

/-! ### Encoders that answer from a script -/

/-- `answers` are given to the activations in turn, and then all are accepted. -/
structure ScriptedEncoders where
  active : List CaptureStreamId := []
  answers : List Bool := []
deriving DecidableEq

instance : EncoderController ScriptedEncoders where
  ensureCreated encoders _ _ := (true, encoders)
  activate encoders captureId _ :=
    if encoders.answers.headD true then
      (true, ⟨captureId :: encoders.active, encoders.answers.tail⟩)
    else (false, { encoders with answers := encoders.answers.tail })
  release encoders captureId _ :=
    { encoders with active := encoders.active.filter (· ≠ captureId) }
  isActive encoders captureId := captureId ∈ encoders.active
  activeCount encoders := encoders.active.length

instance : LawfulEncoderController ScriptedEncoders where
  isActive_ensureCreated _ _ _ _ := rfl
  isActive_activate encoders captureId other _ := by
    simp only [EncoderController.activate, EncoderController.isActive]
    split_ifs <;> simp [Bool.or_comm]
  isActive_release encoders captureId other _ := by
    simp [EncoderController.isActive, EncoderController.release]

namespace CaptureControlEngine

/-- One stream for replay, two for recording. -/
def threeStreams : CaptureConfiguration where
  replay := { enabled := true }
  streams :=
    [⟨.master, "Master", .replay, { width := 16, height := 9 }⟩,
      ⟨.scene "uuid-a", "Alpha", .recording, { width := 16, height := 9 }⟩,
      ⟨.scene "uuid-b", "Beta", .recording, { width := 16, height := 9 }⟩]

def recordingJoins : List ControlCall :=
  [.initializeEngine, .startReplay, .startRecording ["alpha.mkv", "beta.mkv"] true]

/-- The activation after `accepted` others is refused. -/
def refusedAfter (accepted : Nat) : CaptureControlEngine ScriptedEncoders :=
  create threeStreams (.create 0) { answers := List.replicate accepted true ++ [false] }

theorem encoder_demand_iff_sample :
    (Runs.exec step (refusedAfter 1) recordingJoins).encoders.controller.active = [0] ∧
      ∀ t ∈ Runs.history step (refusedAfter 1) recordingJoins, t.after.DemandMet :=
  ⟨by decide, (encoder_demand_iff (by simp [EncoderController.isActive])
    (Runs.run_exec _ recordingJoins)).mpr (by decide)⟩

/-- The recording has failed on its second encoder, and its first one runs on for the
replay that goes on without it. -/
theorem failed_recording_leaves_encoder :
    (Runs.exec step (refusedAfter 2) recordingJoins).recordingState = .off ∧
      (Runs.exec step (refusedAfter 2) recordingJoins).encoders.controller.active = [1, 0] ∧
      ¬(Runs.exec step (refusedAfter 2) recordingJoins).DemandMet := by
  refine ⟨by decide, by decide, fun h => ?_⟩
  obtain ⟨captureId, hid, hactive⟩ := h
    ⟨.scene "uuid-a", "Alpha", .recording, { width := 16, height := 9 }⟩ (by decide) (by decide)
  obtain rfl : captureId = 1 := Option.some.inj (hid.symm.trans (by decide))
  exact absurd hactive (by decide)

end CaptureControlEngine

end ObsSyncReplay
