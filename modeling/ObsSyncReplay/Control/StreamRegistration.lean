import ObsSyncReplay.Capture.CaptureRuns
import ObsSyncReplay.Control.CaptureControl

/-!
Which configurations `Initialize` accepts. It registers the streams that are not disabled, one
after the other, with ids that count up in eight bits. It accepts exactly those whose names can
be told apart and whose ids do not wrap, and then the capture session holds them in this order.
-/

namespace ObsSyncReplay

/-- The streams that are registered. -/
def enabledStreams (streams : List ConfiguredStream) : List ConfiguredStream :=
  streams.filter (fun stream => stream.mode ≠ .disabled)

/-- The state of a stream as it is registered. -/
def ConfiguredStream.registered (stream : ConfiguredStream) : StreamState where
  name := stream.name
  config := stream.packetConfig

/-- The session takes the stream for what it is. -/
def ConfiguredStream.WellFormed (stream : ConfiguredStream) : Prop :=
  stream.name ≠ "" ∧ stream.packetConfig.width ≠ 0 ∧ stream.packetConfig.height ≠ 0

structure Registrable (streams : List ConfiguredStream) : Prop where
  wellFormed : ∀ stream ∈ enabledStreams streams, stream.WellFormed
  distinct : ((enabledStreams streams).map ConfiguredStream.name).Nodup
  nonempty : enabledStreams streams ≠ []
  fits : (enabledStreams streams).length < 256

theorem enabledStreams_cons_disabled {stream : ConfiguredStream} {rest : List ConfiguredStream}
    (h : stream.mode = .disabled) : enabledStreams (stream :: rest) = enabledStreams rest := by
  simp [enabledStreams, h]

theorem enabledStreams_cons {stream : ConfiguredStream} {rest : List ConfiguredStream}
    (h : stream.mode ≠ .disabled) :
    enabledStreams (stream :: rest) = stream :: enabledStreams rest := by
  simp [enabledStreams, h]

theorem captureIdFrom_getElem {streams : List ConfiguredStream}
    (hdistinct : ((enabledStreams streams).map ConfiguredStream.identity).Nodup)
    {position : Nat} {stream : ConfiguredStream}
    (h : (enabledStreams streams)[position]? = some stream) (first : CaptureStreamId) :
    captureIdFrom stream.identity streams first = some (first + UInt8.ofNat position) := by
  induction streams generalizing first position with
  | nil => simp [enabledStreams] at h
  | cons head rest ih =>
      by_cases hdisabled : head.mode = .disabled
      · rw [enabledStreams_cons_disabled hdisabled] at hdistinct h
        rw [captureIdFrom, if_pos hdisabled]
        exact ih hdistinct h first
      rw [enabledStreams_cons hdisabled] at hdistinct h
      rw [List.map_cons, List.nodup_cons] at hdistinct
      rw [captureIdFrom, if_neg hdisabled]
      cases position with
      | zero =>
          obtain rfl : head = stream := by simpa using h
          simp
      | succ position =>
          have hrest : (enabledStreams rest)[position]? = some stream := by simpa using h
          have hother : head.identity ≠ stream.identity := by
            intro hsame
            apply hdistinct.1
            rw [hsame]
            exact List.mem_map_of_mem (List.mem_of_getElem? hrest)
          rw [if_neg hother, ih hdistinct.2 hrest]
          congr 1
          rw [Nat.add_comm, UInt8.ofNat_add]
          exact UInt8.add_assoc _ _ _

theorem registerStream_iff {capture capture' : SynchronizedCaptureSession}
    (hstopped : capture.running = false) {captureId : CaptureStreamId}
    {stream : ConfiguredStream} :
    capture.registerStream captureId stream.name stream.packetConfig = (true, capture') ↔
      stream.WellFormed ∧ stream.name ∉ capture.streams.map StreamState.name ∧
        captureId.toNat = capture.streams.length ∧
        capture' = { capture with streams := capture.streams ++ [stream.registered] } := by
  unfold SynchronizedCaptureSession.registerStream ConfiguredStream.WellFormed
  split_ifs with hinvalid hname hdense
  · simp only [Prod.mk.injEq, Bool.false_eq_true, false_and, false_iff]
    rintro ⟨⟨hnamed, hwidth, hheight⟩, -⟩
    simp [hstopped, hnamed, hwidth, hheight] at hinvalid
  · simp only [Prod.mk.injEq, Bool.false_eq_true, false_and, false_iff]
    rintro ⟨-, hnew, -⟩
    obtain ⟨other, hother, hsame⟩ := List.any_eq_true.mp hname
    exact hnew (List.mem_map.mpr ⟨other, hother, of_decide_eq_true hsame⟩)
  · simp only [Prod.mk.injEq, Bool.false_eq_true, false_and, false_iff]
    rintro ⟨-, -, hid, -⟩
    exact hdense hid
  · have hnew : stream.name ∉ capture.streams.map StreamState.name := by
      intro hmem
      obtain ⟨other, hother, hsame⟩ := List.mem_map.mp hmem
      exact hname (List.any_eq_true.mpr ⟨other, hother, decide_eq_true hsame⟩)
    simp only [hstopped, Bool.false_eq_true, false_or, not_or] at hinvalid
    rw [Prod.mk.injEq]
    constructor
    · rintro ⟨-, rfl⟩
      exact ⟨hinvalid, hnew, not_not.mp hdense, rfl⟩
    · rintro ⟨-, -, -, rfl⟩
      exact ⟨rfl, rfl⟩

/-- The ids are those of the positions, so they may have wrapped once the last one is given. -/
theorem registerStreams_iff {streams : List ConfiguredStream} {captureId : CaptureStreamId}
    {capture capture' : SynchronizedCaptureSession} (hstopped : capture.running = false)
    (hid : captureId.toNat = capture.streams.length % 256)
    (hfits : capture.streams.length ≤ 256) :
    registerStreams streams captureId capture = (true, capture') ↔
      (∀ stream ∈ enabledStreams streams, stream.WellFormed) ∧
      ((enabledStreams streams).map ConfiguredStream.name).Nodup ∧
      (∀ stream ∈ enabledStreams streams,
        stream.name ∉ capture.streams.map StreamState.name) ∧
      0 < capture.streams.length + (enabledStreams streams).length ∧
      capture.streams.length + (enabledStreams streams).length < 256 ∧
      capture' = { capture with
        streams := capture.streams ++
          (enabledStreams streams).map ConfiguredStream.registered } := by
  induction streams generalizing captureId capture with
  | nil =>
      have hpositive : captureId > 0 ↔ 0 < capture.streams.length ∧
          capture.streams.length < 256 := by
        rw [gt_iff_lt, UInt8.lt_iff_toNat_lt, hid, UInt8.toNat_zero]
        omega
      simp only [registerStreams, Prod.mk.injEq, decide_eq_true_eq, hpositive, enabledStreams,
        List.filter_nil, List.not_mem_nil, false_implies, implies_true, List.map_nil,
        List.nodup_nil, List.length_nil, add_zero, List.append_nil, true_and, and_assoc]
      exact and_congr_right (fun _ => and_congr_right (fun _ => eq_comm))
  | cons stream rest ih =>
      by_cases hdisabled : stream.mode = .disabled
      · rw [registerStreams, if_pos hdisabled, enabledStreams_cons_disabled hdisabled]
        exact ih hstopped hid hfits
      rw [registerStreams, if_neg hdisabled, enabledStreams_cons hdisabled]
      let next : SynchronizedCaptureSession :=
        { capture with streams := capture.streams ++ [stream.registered] }
      have hnextLength : next.streams.length = capture.streams.length + 1 := by simp [next]
      have hnext (hbound : capture.streams.length < 256) :
          (captureId + 1).toNat = next.streams.length % 256 := by
        rw [hnextLength, UInt8.toNat_add, hid]
        simp
      have hnames : next.streams.map StreamState.name =
          capture.streams.map StreamState.name ++ [stream.name] := by
        simp [next, ConfiguredStream.registered]
      have hstreams : next.streams ++ (enabledStreams rest).map ConfiguredStream.registered =
          capture.streams ++ (stream :: enabledStreams rest).map ConfiguredStream.registered := by
        simp [next]
      simp only [List.map_cons, List.nodup_cons, List.forall_mem_cons, List.length_cons]
      constructor
      · intro h
        split at h <;> rename_i registered hregister
        · cases congrArg Prod.fst h
        obtain ⟨hformed, hnew, hdense, rfl⟩ := (registerStream_iff hstopped).mp hregister
        have hbound : capture.streams.length < 256 := by
          rw [← hdense]
          exact captureId.toNat_lt
        obtain ⟨hrest, hdistinct, hfresh, -, hlength, rfl⟩ :=
          (@ih _ next hstopped (hnext hbound) (by omega)).mp h
        rw [hnames] at hfresh
        refine ⟨⟨hformed, hrest⟩, ⟨fun hmem => ?_, hdistinct⟩, ⟨hnew, fun other hother => ?_⟩,
          by omega, by omega, ?_⟩
        · obtain ⟨other, hother, hsame⟩ := List.mem_map.mp hmem
          exact hfresh other hother (by simp [hsame])
        · exact fun hmem => hfresh other hother (List.mem_append_left _ hmem)
        · rw [hstreams]
          rfl
      · rintro ⟨⟨hformed, hrest⟩, ⟨hsingle, hdistinct⟩, ⟨hnew, hfresh⟩, -, hlength, rfl⟩
        have hregister : capture.registerStream captureId stream.name stream.packetConfig =
            (true, next) :=
          (registerStream_iff hstopped).mpr ⟨hformed, hnew, by omega, rfl⟩
        rw [hregister]
        apply (@ih _ next hstopped (hnext (by omega)) (by omega)).mpr
        refine ⟨hrest, hdistinct, fun other hother => ?_, by omega, by omega, ?_⟩
        · rw [hnames, List.mem_append, List.mem_singleton, not_or]
          refine ⟨hfresh other hother, fun hsame => hsingle ?_⟩
          exact List.mem_map.mpr ⟨other, hother, hsame⟩
        · rw [hstreams]
          rfl

namespace CaptureControlEngine

variable {ε : Type} [EncoderController ε] {configuration : CaptureConfiguration}
  {ringCapacityBytes : Nat} {controller : ε} {engine : CaptureControlEngine ε}

omit [EncoderController ε] in
theorem initializeEngine_create (configuration : CaptureConfiguration)
    (capture : SynchronizedCaptureSession) (controller : ε) :
    (create configuration capture controller).initializeEngine =
      ((registerStreams configuration.streams 0 capture).1,
        { create configuration (registerStreams configuration.streams 0 capture).2 controller with
          initialized := (registerStreams configuration.streams 0 capture).1
          captureState :=
            if (registerStreams configuration.streams 0 capture).1 then .idle else .failed }) := by
  unfold initializeEngine create
  rw [if_neg (by simp)]
  dsimp only
  rcases registerStreams configuration.streams 0 capture with ⟨_ | _, capture⟩ <;> rfl

/-- The capture session that holds the streams of the configuration. -/
def filledCapture (configuration : CaptureConfiguration) (ringCapacityBytes : Nat) :
    SynchronizedCaptureSession :=
  { SynchronizedCaptureSession.create ringCapacityBytes with
    streams := (enabledStreams configuration.streams).map ConfiguredStream.registered }

/-- The engine after an `Initialize` that was accepted. -/
def filledEngine (configuration : CaptureConfiguration) (ringCapacityBytes : Nat)
    (controller : ε) : CaptureControlEngine ε :=
  { create configuration (filledCapture configuration ringCapacityBytes) controller with
    initialized := true }

omit [EncoderController ε] in
@[simp] theorem filledEngine_configuration :
    (filledEngine configuration ringCapacityBytes controller).configuration = configuration := rfl

omit [EncoderController ε] in
@[simp] theorem filledEngine_streams :
    (filledEngine configuration ringCapacityBytes controller).capture.streams =
      (enabledStreams configuration.streams).map ConfiguredStream.registered := rfl

theorem registerStreams_create_iff {capture : SynchronizedCaptureSession} :
    registerStreams configuration.streams 0 (.create ringCapacityBytes) = (true, capture) ↔
      Registrable configuration.streams ∧
        capture = filledCapture configuration ringCapacityBytes := by
  have hempty : (SynchronizedCaptureSession.create ringCapacityBytes).streams = [] := rfl
  have hiff := @registerStreams_iff configuration.streams 0 (.create ringCapacityBytes) capture
    rfl rfl (Nat.zero_le _)
  simp only [hempty, List.map_nil, List.not_mem_nil, not_false_eq_true, implies_true,
    List.length_nil, Nat.zero_add, List.nil_append, true_and, List.length_pos_iff] at hiff
  rw [hiff]
  constructor
  · rintro ⟨hformed, hdistinct, hnonempty, hfits, rfl⟩
    exact ⟨⟨hformed, hdistinct, hnonempty, hfits⟩, rfl⟩
  · rintro ⟨⟨hformed, hdistinct, hnonempty, hfits⟩, rfl⟩
    exact ⟨hformed, hdistinct, hnonempty, hfits, rfl⟩

omit [EncoderController ε] in
/-- What `Initialize` accepts on a new capture session, and what it leaves there. -/
theorem initializeEngine_create_iff :
    (create configuration (.create ringCapacityBytes) controller).initializeEngine =
        (true, engine) ↔
      Registrable configuration.streams ∧
        engine = filledEngine configuration ringCapacityBytes controller := by
  rw [initializeEngine_create, Prod.mk.injEq]
  constructor
  · rintro ⟨htrue, rfl⟩
    obtain ⟨hregistrable, hfilled⟩ := registerStreams_create_iff.mp (Prod.ext htrue rfl)
    refine ⟨hregistrable, ?_⟩
    simp only [htrue, hfilled, filledEngine, create, if_true]
  · rintro ⟨hregistrable, rfl⟩
    rw [registerStreams_create_iff.mpr ⟨hregistrable, rfl⟩]
    exact ⟨rfl, rfl⟩

end CaptureControlEngine

end ObsSyncReplay
