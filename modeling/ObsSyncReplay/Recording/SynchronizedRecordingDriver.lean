import ObsSyncReplay.Recording.SinkProtocol

/-!
`recording/obs-synchronized-recording`: one timed recording of two encoders. The thread that
drives it and the two encoder threads, which enter through the packet callbacks, share nothing but
the session, whose calls are atomic; so a run is any interleaving of the driver's steps with the
two steps of a callback. libobs calls back only while a callback is registered, and a callback
cannot be removed while it runs.
-/

namespace ObsSyncReplay

/-- An `encoder_packet` with its `encoder_packet_time`, and the extra data of its encoder. -/
structure EncoderPacket where
  video : Bool
  packetTimeCts : Option UInt64
  pts : Int
  dts : Int
  timebaseNum : Int
  timebaseDen : Int
  keyframe : Bool
  data : List UInt8
  extraData : Option (List UInt8)
deriving DecidableEq

namespace EncoderPacket

/-- The packet that is submitted, of one that comes with its time, its data and its timebase. -/
def copy (packet : EncoderPacket) : Option EncodedPacket :=
  match packet.packetTimeCts with
  | none => none
  | some cts =>
      if packet.data.isEmpty ∨ packet.timebaseNum ≤ 0 ∨ packet.timebaseDen ≤ 0 then none
      else
        some {
          sourceCts := cts.toNat
          pts := packet.pts
          dts := packet.dts
          timebaseNum := packet.timebaseNum
          timebaseDen := packet.timebaseDen
          keyframe := packet.keyframe
          payload := packet.data
          sourceCts_lt := cts.toNat_lt }

end EncoderPacket

/-- Where `RunSynchronizedRecording` stands, from the construction of the session on. The body of
its polling loop is cut at each of its accesses to the session. -/
inductive DriverStage where
  | start
  | addCallbackA
  | addCallbackB
  | startOutputs
  | warmUp
  | firstPoll
  | loopCondition
  | loopState
  | loopPoll
  | loopFailed
  | afterLoop
  | requestStop
  | stopOutputs
  | removeCallbackA
  | removeCallbackB
  | ending
  | completeDrain
  | abort
  | returned
deriving DecidableEq

/-- What a step of the driver reads: the time of the video frame, whether the group and the
outputs could be set up, whether the warm-up and the recording are still within their time, and
the request to shut down. -/
structure DriverReadings where
  videoFrameTime : Nat
  grouped : Bool
  startsA : Bool
  startsB : Bool
  warmingUp : Bool
  withinDuration : Bool
  shutdownRequested : Bool
deriving DecidableEq

/-- `callback` holds the packet that a running callback still has to submit. -/
structure SynchronizedRecordingDriver where
  session : SynchronizedRecordingSession
  stage : DriverStage := .start
  registered : PerStream Bool := .both false
  callback : PerStream (Option EncodedPacket) := .both none

namespace SynchronizedRecordingDriver

/-- The call on the session that a step makes, and its answer. -/
abbrev Answer := Option (SessionCall × Bool)

def recordingConfig (observedFrameIntervalNs : Nat) : SynchronizedRecordingConfig where
  preRollCapacityBytes := 2 * 1024 * 1024
  tailCapacityBytes := 8 * 1024 * 1024
  reorderSafetyCts := 5000000000
  expectedSourceCtsStep :=
    if observedFrameIntervalNs ≠ 0 then observedFrameIntervalNs else 16666667
  maxStartWaitCts := 2000000000

/-- `stream_config_a` and `stream_config_b`, with the limits of the muxer taken from the session's. -/
def recordingStreamConfig (config : SynchronizedRecordingConfig) (encoder : PacketStreamConfig) :
    PacketStreamConfig :=
  { encoder with
    muxerTailCapacityBytes := config.tailCapacityBytes
    muxerReorderSafetyCts := config.reorderSafetyCts }

def create (observedFrameIntervalNs : Nat) (encoder : PerStream PacketStreamConfig)
    (sink : PerStream PacketSink) : SynchronizedRecordingDriver where
  session :=
    let config := recordingConfig observedFrameIntervalNs
    .create config (encoder.map (recordingStreamConfig config)) (sink.map some)

def call (driver : SynchronizedRecordingDriver) (request : SessionCall) :
    Answer × SynchronizedRecordingDriver :=
  let (ok, session) := driver.session.step request
  (some (request, ok), { driver with session := session })

/-- The callback up to `SetStreamExtraData`. -/
def enterCallback (driver : SynchronizedRecordingDriver) (stream : RecordingStream)
    (packet : EncoderPacket) : Answer × SynchronizedRecordingDriver :=
  if !packet.video then (none, driver)
  else
    match packet.copy with
    | none => driver.call .abort
    | some copy =>
        let driver := { driver with callback := driver.callback.set stream (some copy) }
        match packet.extraData with
        | some extraData =>
            if extraData.isEmpty then (none, driver)
            else driver.call (.setStreamExtraData stream extraData)
        | none => (none, driver)

/-- The callback from `SubmitPacket` on. -/
def leaveCallback (driver : SynchronizedRecordingDriver) (stream : RecordingStream) :
    Answer × SynchronizedRecordingDriver :=
  match driver.callback.get stream with
  | none => (none, driver)
  | some copy =>
      { driver with callback := driver.callback.set stream none }.call (.submitPacket stream copy)

def goTo (driver : SynchronizedRecordingDriver) (stage : DriverStage) :
    Answer × SynchronizedRecordingDriver :=
  (none, { driver with stage := stage })

/-- `obs_output_remove_packet_callback`, which waits for a running callback. -/
def removeCallback (driver : SynchronizedRecordingDriver) (stream : RecordingStream)
    (next : DriverStage) : Answer × SynchronizedRecordingDriver :=
  if (driver.callback.get stream).isSome then (none, driver)
  else
    (none, { driver with registered := driver.registered.set stream false, stage := next })

/-- The next step of the thread that drives the recording. -/
def advance (driver : SynchronizedRecordingDriver) (readings : DriverReadings) :
    Answer × SynchronizedRecordingDriver :=
  match driver.stage with
  | .start => { driver with stage := .addCallbackA }.call (.start readings.videoFrameTime)
  | .addCallbackA =>
      (none, { driver with
        registered := driver.registered.set .A true
        stage := .addCallbackB })
  | .addCallbackB =>
      (none, { driver with
        registered := driver.registered.set .B true
        stage := .startOutputs })
  | .startOutputs =>
      driver.goTo
        (if readings.grouped ∧ readings.startsA ∧ readings.startsB then .warmUp else .stopOutputs)
  | .warmUp =>
      driver.goTo (if !readings.shutdownRequested ∧ readings.warmingUp then .warmUp else .firstPoll)
  | .firstPoll =>
      { driver with stage := .loopCondition }.call (.pollStart readings.videoFrameTime)
  | .loopCondition =>
      driver.goTo
        (if !readings.shutdownRequested ∧
            (driver.session.state = .starting ∨ readings.withinDuration) then .loopState
          else .afterLoop)
  | .loopState =>
      driver.goTo (if driver.session.state = .starting then .loopPoll else .loopFailed)
  | .loopPoll =>
      let (answer, driver) := driver.call (.pollStart readings.videoFrameTime)
      let started := answer.any Prod.snd
      (answer, { driver with stage := if started then .loopFailed else .afterLoop })
  | .loopFailed =>
      driver.goTo (if driver.session.state = .failed then .afterLoop else .loopCondition)
  | .afterLoop =>
      driver.goTo (if driver.session.state = .running then .requestStop else .stopOutputs)
  | .requestStop =>
      { driver with stage := .stopOutputs }.call (.requestStop readings.videoFrameTime)
  | .stopOutputs => driver.goTo .removeCallbackA
  | .removeCallbackA => driver.removeCallback .A .removeCallbackB
  | .removeCallbackB => driver.removeCallback .B .ending
  | .ending =>
      driver.goTo
        (if driver.session.state = .draining then .completeDrain
          else if driver.session.state ≠ .stopped ∧ driver.session.state ≠ .failed then .abort
          else .returned)
  | .completeDrain => { driver with stage := .returned }.call .completeDrain
  | .abort => { driver with stage := .returned }.call .abort
  | .returned => (none, driver)

/-! ### The driver and its callbacks as a machine -/

inductive Input where
  | advance (readings : DriverReadings)
  | enterCallback (stream : RecordingStream) (packet : EncoderPacket)
  | leaveCallback (stream : RecordingStream)
deriving DecidableEq

/-- libobs enters a callback that is registered, and one call of it at a time. -/
def step (driver : SynchronizedRecordingDriver) : Input → Answer × SynchronizedRecordingDriver
  | .advance readings => driver.advance readings
  | .enterCallback stream packet =>
      if driver.registered.get stream ∧ (driver.callback.get stream).isNone then
        driver.enterCallback stream packet
      else (none, driver)
  | .leaveCallback stream => driver.leaveCallback stream

abbrev Transition := Runs.Transition SynchronizedRecordingDriver Input Answer

/-- What a step does to the session. -/
def sessionTransitions (t : Transition) : List SessionTransition :=
  t.output.toList.map (fun (request, ok) =>
    ⟨t.before.session, request, ok, t.after.session⟩)

/-- The calls that a run has made on the session. -/
def sessionHistory (past : List Transition) : List SessionTransition :=
  past.flatMap sessionTransitions

variable {driver : SynchronizedRecordingDriver} {past : List Transition}

/-- A step makes one call on the session, or leaves it alone. -/
def Touches (driver : SynchronizedRecordingDriver)
    (result : Answer × SynchronizedRecordingDriver) : Prop :=
  (result.1 = none ∧ result.2.session = driver.session) ∨
    ∃ request, result.1 = some (request, (driver.session.step request).1) ∧
      result.2.session = (driver.session.step request).2

theorem touches_call (driver : SynchronizedRecordingDriver) (request : SessionCall) :
    Touches driver (driver.call request) :=
  Or.inr ⟨request, rfl, rfl⟩

theorem touches_enterCallback (stream : RecordingStream) (packet : EncoderPacket) :
    Touches driver (driver.enterCallback stream packet) := by
  unfold enterCallback
  split_ifs with hvideo
  · exact Or.inl ⟨rfl, rfl⟩
  cases packet.copy with
  | none => exact touches_call driver _
  | some copy =>
      cases packet.extraData with
      | none => exact Or.inl ⟨rfl, rfl⟩
      | some extraData =>
          dsimp only
          split_ifs
          · exact Or.inl ⟨rfl, rfl⟩
          · exact touches_call _ _

theorem touches_leaveCallback (stream : RecordingStream) :
    Touches driver (driver.leaveCallback stream) := by
  unfold leaveCallback
  cases driver.callback.get stream with
  | none => exact Or.inl ⟨rfl, rfl⟩
  | some copy => exact touches_call _ _

theorem touches_removeCallback (stream : RecordingStream) (next : DriverStage) :
    Touches driver (driver.removeCallback stream next) := by
  unfold removeCallback
  split_ifs <;> exact Or.inl ⟨rfl, rfl⟩

theorem touches_advance (readings : DriverReadings) : Touches driver (driver.advance readings) := by
  unfold advance
  cases driver.stage with
  | start => exact touches_call _ _
  | firstPoll => exact touches_call _ _
  | loopPoll => exact touches_call driver _
  | requestStop => exact touches_call _ _
  | completeDrain => exact touches_call _ _
  | abort => exact touches_call _ _
  | removeCallbackA => exact touches_removeCallback _ _
  | removeCallbackB => exact touches_removeCallback _ _
  | _ => exact Or.inl ⟨rfl, rfl⟩

theorem touches_step (input : Input) : Touches driver (driver.step input) := by
  cases input with
  | advance readings => exact touches_advance readings
  | enterCallback stream packet =>
      unfold step
      dsimp only
      split_ifs
      · exact touches_enterCallback stream packet
      · exact Or.inl ⟨rfl, rfl⟩
  | leaveCallback stream => exact touches_leaveCallback stream

/-- The session sees an interleaving of calls, and nothing of the threads. -/
theorem session_run {after : SynchronizedRecordingDriver} (hrun : Runs.Run step driver past after) :
    Runs.Run SynchronizedRecordingSession.step driver.session (sessionHistory past)
      after.session := by
  apply hrun.refines session sessionTransitions
  intro past driver input _
  rcases driver.touches_step input with ⟨hnone, hsession⟩ | ⟨request, hsome, hsession⟩
  · simp only [sessionTransitions, Runs.transition, hnone, hsession]
    exact .start
  · simp only [sessionTransitions, Runs.transition, hsome, hsession]
    exact Runs.run_one driver.session request

/-- What the driver can rely on at each stage: a callback runs only while it is registered, and
once both are removed the session is the driver's alone. -/
structure Ordered (driver : SynchronizedRecordingDriver) : Prop where
  callbacks : ∀ stream, (driver.callback.get stream).isSome = true →
    driver.registered.get stream = true
  removedA : driver.stage = .removeCallbackB → driver.registered.get .A = false
  removed : driver.stage ∈ [.ending, .completeDrain, .abort, .returned] →
    ∀ stream, driver.registered.get stream = false
  draining : driver.stage = .completeDrain → driver.session.state = .draining
  unfinished : driver.stage = .abort → driver.session.state ≠ .stopped
  ended : driver.stage = .returned →
    driver.session.state = .stopped ∨ driver.session.state = .failed

/-- A step of a callback leaves the driver where it is, and is made by a registered callback if it
does anything. -/
structure ByCallback (driver : SynchronizedRecordingDriver) (stream : RecordingStream)
    (after : SynchronizedRecordingDriver) : Prop where
  stage : after.stage = driver.stage
  registered : after.registered = driver.registered
  callbacks : ∀ other, other ≠ stream → after.callback.get other = driver.callback.get other
  registeredHere : driver.registered.get stream = true

theorem Ordered.byCallback {stream : RecordingStream} {after : SynchronizedRecordingDriver}
    (h : Ordered driver) (hafter : ByCallback driver stream after) : Ordered after := by
  have hopen : driver.stage ∉ [.ending, .completeDrain, .abort, .returned] := by
    intro hstage
    have hregistered := h.removed hstage stream
    rw [hafter.registeredHere] at hregistered
    cases hregistered
  simp only [List.mem_cons, List.not_mem_nil, or_false, not_or] at hopen
  constructor
  · intro other hcallback
    rw [hafter.registered]
    by_cases hsame : other = stream
    · rw [hsame]
      exact hafter.registeredHere
    · rw [hafter.callbacks other hsame] at hcallback
      exact h.callbacks other hcallback
  · rw [hafter.stage, hafter.registered]
    exact h.removedA
  · rw [hafter.stage, hafter.registered]
    exact h.removed
  · rw [hafter.stage]
    exact fun hstage => absurd hstage hopen.2.1
  · rw [hafter.stage]
    exact fun hstage => absurd hstage hopen.2.2.1
  · rw [hafter.stage]
    exact fun hstage => absurd hstage hopen.2.2.2

theorem byCallback_enterCallback {stream : RecordingStream} (packet : EncoderPacket)
    (hregistered : driver.registered.get stream = true) :
    ByCallback driver stream (driver.enterCallback stream packet).2 := by
  have hset : ∀ copy, ∀ other, other ≠ stream →
      (driver.callback.set stream copy).get other = driver.callback.get other :=
    fun copy other hother => PerStream.get_set_of_ne _ copy hother
  unfold enterCallback
  split_ifs with hvideo
  · exact ⟨rfl, rfl, fun _ _ => rfl, hregistered⟩
  cases packet.copy with
  | none => exact ⟨rfl, rfl, fun _ _ => rfl, hregistered⟩
  | some copy =>
      cases packet.extraData with
      | none => exact ⟨rfl, rfl, hset _, hregistered⟩
      | some extraData =>
          dsimp only
          split_ifs <;> exact ⟨rfl, rfl, hset _, hregistered⟩

theorem byCallback_leaveCallback {stream : RecordingStream}
    (hregistered : driver.registered.get stream = true) :
    ByCallback driver stream (driver.leaveCallback stream).2 := by
  unfold leaveCallback
  cases driver.callback.get stream with
  | none => exact ⟨rfl, rfl, fun _ _ => rfl, hregistered⟩
  | some copy =>
      exact ⟨rfl, rfl, fun other hother => PerStream.get_set_of_ne _ _ hother, hregistered⟩

/-- A step to a stage at which nothing new is promised. -/
theorem Ordered.goTo (h : Ordered driver) {after : SynchronizedRecordingDriver}
    (hcallback : after.callback = driver.callback)
    (hregistered : ∀ stream, driver.registered.get stream = true →
      after.registered.get stream = true)
    (hstage : after.stage ∉
      [.removeCallbackB, .ending, .completeDrain, .abort, .returned]) : Ordered after := by
  simp only [List.mem_cons, List.not_mem_nil, or_false, not_or] at hstage
  obtain ⟨hremoving, hending, hdraining, haborting, hreturned⟩ := hstage
  constructor
  · intro stream hsome
    rw [hcallback] at hsome
    exact hregistered stream (h.callbacks stream hsome)
  · exact fun hstage => absurd hstage hremoving
  · intro hstage
    simp only [List.mem_cons, List.not_mem_nil, or_false] at hstage
    rcases hstage with hstage | hstage | hstage | hstage
    · exact absurd hstage hending
    · exact absurd hstage hdraining
    · exact absurd hstage haborting
    · exact absurd hstage hreturned
  · exact fun hstage => absurd hstage hdraining
  · exact fun hstage => absurd hstage haborting
  · exact fun hstage => absurd hstage hreturned

/-- A drain of a session that is consistent ends it. -/
theorem completeDrain_ends {accepted : RecordingStream → List EncodedPacket}
    {session : SynchronizedRecordingSession}
    (h : SynchronizedRecordingSession.Consistent accepted session)
    (hdraining : session.state = .draining) :
    session.completeDrain.2.state = .stopped ∨ session.completeDrain.2.state = .failed := by
  cases h with
  | waiting hstate _ => rcases hstate with h | h <;> simp [h] at hdraining
  | live _ hlive =>
      rcases hlive.completeDrain hdraining Prod.mk.eta.symm with hfailed | ⟨_, _, hstopped, _⟩
      · exact Or.inr hfailed
      · exact Or.inl hstopped
  | finished hstate _ => simp [hstate] at hdraining
  | failed hstate => simp [hstate] at hdraining

theorem Ordered.removeCallbackA (h : Ordered driver) :
    Ordered (driver.removeCallback .A .removeCallbackB).2 := by
  unfold removeCallback
  split_ifs with hbusy
  · exact h
  · constructor
    · intro stream hsome
      cases stream with
      | A => exact absurd hsome hbusy
      | B => exact h.callbacks .B hsome
    · exact fun _ => rfl
    all_goals simp

theorem Ordered.removeCallbackB (h : Ordered driver) (hstage : driver.stage = .removeCallbackB) :
    Ordered (driver.removeCallback .B .ending).2 := by
  unfold removeCallback
  split_ifs with hbusy
  · exact h
  · constructor
    · intro stream hsome
      cases stream with
      | A => exact h.callbacks .A hsome
      | B => exact absurd hsome hbusy
    · simp
    · intro _ stream
      cases stream with
      | A => exact h.removedA hstage
      | B => rfl
    all_goals simp

/-- Once both callbacks are removed the driver sees the session as it left it. -/
theorem Ordered.ending (h : Ordered driver) (hstage : driver.stage = .ending)
    (readings : DriverReadings) : Ordered (driver.advance readings).2 := by
  have hremoved := h.removed (by simp [hstage])
  simp only [advance, hstage, SynchronizedRecordingDriver.goTo]
  split_ifs with hdraining hopen
  · exact ⟨h.callbacks, by simp, fun _ => hremoved, fun _ => hdraining, by simp, by simp⟩
  · exact ⟨h.callbacks, by simp, fun _ => hremoved, by simp, fun _ => hopen.1, by simp⟩
  · refine ⟨h.callbacks, by simp, fun _ => hremoved, by simp, by simp, fun _ => ?_⟩
    by_contra hnot
    rw [not_or] at hnot
    exact hopen hnot

theorem Ordered.completeDrain (h : Ordered driver) (hstage : driver.stage = .completeDrain)
    {accepted : RecordingStream → List EncodedPacket}
    (hconsistent : SynchronizedRecordingSession.Consistent accepted driver.session)
    (readings : DriverReadings) : Ordered (driver.advance readings).2 := by
  have hremoved := h.removed (by simp [hstage])
  simp only [advance, hstage]
  exact ⟨h.callbacks, by simp [call], fun _ => hremoved, by simp [call], by simp [call],
    fun _ => completeDrain_ends hconsistent (h.draining hstage)⟩

theorem Ordered.abort (h : Ordered driver) (hstage : driver.stage = .abort)
    (readings : DriverReadings) : Ordered (driver.advance readings).2 := by
  have hremoved := h.removed (by simp [hstage])
  simp only [advance, hstage]
  exact ⟨h.callbacks, by simp [call], fun _ => hremoved, by simp [call], by simp [call],
    fun _ => Or.inr (SynchronizedRecordingSession.abort_state (h.unfinished hstage))⟩

theorem Ordered.advance (h : Ordered driver)
    {accepted : RecordingStream → List EncodedPacket}
    (hconsistent : SynchronizedRecordingSession.Consistent accepted driver.session)
    (readings : DriverReadings) : Ordered (driver.advance readings).2 := by
  cases hstage : driver.stage with
  | removeCallbackA =>
      simp only [SynchronizedRecordingDriver.advance, hstage]
      exact h.removeCallbackA
  | removeCallbackB =>
      simp only [SynchronizedRecordingDriver.advance, hstage]
      exact h.removeCallbackB hstage
  | ending => exact h.ending hstage readings
  | completeDrain => exact h.completeDrain hstage hconsistent readings
  | abort => exact h.abort hstage readings
  | returned => simpa only [SynchronizedRecordingDriver.advance, hstage] using h
  | addCallbackA =>
      simp only [SynchronizedRecordingDriver.advance, hstage]
      refine Ordered.goTo h rfl ?_ (by simp)
      intro stream hold
      cases stream with
      | A => rfl
      | B => exact hold
  | addCallbackB =>
      simp only [SynchronizedRecordingDriver.advance, hstage]
      refine Ordered.goTo h rfl ?_ (by simp)
      intro stream hold
      cases stream with
      | A => exact hold
      | B => rfl
  | _ =>
      simp only [SynchronizedRecordingDriver.advance, hstage, call,
        SynchronizedRecordingDriver.goTo]
      refine Ordered.goTo h rfl (fun _ hold => hold) ?_
      (try split_ifs) <;> simp

theorem create_ordered {observedFrameIntervalNs : Nat} {encoder : PerStream PacketStreamConfig}
    {sink : PerStream PacketSink} : Ordered (create observedFrameIntervalNs encoder sink) := by
  constructor
  · intro stream hsome
    cases stream <;> cases hsome
  all_goals simp [create]

theorem Ordered.step (h : Ordered driver) {accepted : RecordingStream → List EncodedPacket}
    (hconsistent : SynchronizedRecordingSession.Consistent accepted driver.session)
    (input : Input) : Ordered (driver.step input).2 := by
  cases input with
  | advance readings => exact h.advance hconsistent readings
  | enterCallback stream packet =>
      unfold SynchronizedRecordingDriver.step
      dsimp only
      split_ifs with hregistered
      · exact h.byCallback (byCallback_enterCallback packet hregistered.1)
      · exact h
  | leaveCallback stream =>
      cases hcallback : driver.callback.get stream with
      | none =>
          simp only [SynchronizedRecordingDriver.step, leaveCallback, hcallback]
          exact h
      | some copy =>
          have hregistered := h.callbacks stream (by rw [hcallback]; rfl)
          exact h.byCallback (byCallback_leaveCallback hregistered)

variable {observedFrameIntervalNs : Nat} {encoder : PerStream PacketStreamConfig}
  {sink : PerStream PacketSink}

theorem consistent_run
    (hrun : Runs.Run step (create observedFrameIntervalNs encoder sink) past driver) :
    SynchronizedRecordingSession.Consistent (acceptedPackets (sessionHistory past))
      driver.session :=
  SynchronizedRecordingSession.run_consistent (session_run hrun)

theorem ordered_run
    (hrun : Runs.Run step (create observedFrameIntervalNs encoder sink) past driver) :
    Ordered driver := by
  apply hrun.invariant (P := fun _ driver => Ordered driver)
  · exact create_ordered
  · exact fun past driver input hrun h => h.step (consistent_run hrun) input

open SynchronizedRecordingSession in
/-- However the encoder threads run beside the driver, when it returns no callback is left to
reach the session, and the recording is whole or not at all: the session has stopped, and both
files hold the same source CTS, with every accepted packet from the common start to the common end
at which both are finalized; or it has failed, and an abort is the last call on both sinks. -/
theorem recording_ends_whole
    (hrun : Runs.Run step (create observedFrameIntervalNs encoder sink) past driver)
    (hcts : ∀ stream, ∀ packet ∈ submittedPackets (sessionHistory past) stream,
      packet.sourceCts < uint64Size - 1)
    (hreturned : driver.stage = .returned) :
    (∀ input, driver.step input = (none, driver)) ∧
      ((driver.session.state = .stopped ∧ ∃ startCts endCts,
          FilesAgree (sessionHistory past) driver.session startCts ∧
            FilesFinalized driver.session startCts endCts) ∨
        (driver.session.state = .failed ∧ driver.session.AbortedLast)) := by
  have hordered := ordered_run hrun
  have hremoved := hordered.removed (by simp [hreturned])
  have hidle : ∀ stream, driver.callback.get stream = none := by
    intro stream
    by_contra hsome
    have hregistered := hordered.callbacks stream (Option.isSome_iff_ne_none.mpr hsome)
    rw [hremoved stream] at hregistered
    cases hregistered
  refine ⟨?_, ?_⟩
  · intro input
    cases input with
    | advance readings =>
        simp only [SynchronizedRecordingDriver.step, SynchronizedRecordingDriver.advance, hreturned]
    | enterCallback stream packet =>
        simp [SynchronizedRecordingDriver.step, hremoved stream]
    | leaveCallback stream =>
        simp only [SynchronizedRecordingDriver.step, leaveCallback, hidle stream]
  · have hbound : ∀ stream, ∀ packet ∈ acceptedPackets (sessionHistory past) stream,
        packet.sourceCts + 1 < uint64Size := by
      intro stream packet hmem
      have hlt := hcts stream packet (acceptedPackets_subset stream hmem)
      omega
    have hstage : SinkStage driver.session := (session_run hrun).stateInvariant
      (.unopened (Or.inl rfl) ⟨rfl, rfl⟩) (fun _ request h => h.step request)
    rcases hordered.ended hreturned with hstopped | hfailed
    · refine Or.inl ⟨hstopped, ?_⟩
      cases consistent_run hrun with
      | waiting hearly _ => rcases hearly with h | h <;> simp [h] at hstopped
      | live hlate _ => rcases hlate with h | h <;> simp [h] at hstopped
      | @finished startCts endCts log _ hfinished =>
          obtain ⟨rest, hrecorded⟩ := hfinished.recorded
          exact ⟨startCts, endCts, hrecorded.filesAgree ⟨endCts, hfinished.range⟩,
            hfinished.filesFinalized hbound⟩
      | failed hfailed => simp [hfailed] at hstopped
    · refine Or.inr ⟨hfailed, ?_⟩
      cases hstage with
      | failed hrolled => exact hrolled.abortedLast
      | unopened hunopened _ => rcases hunopened with h | h <;> simp [h] at hfailed
      | between hlive _ => rcases hlive with h | h <;> simp [h] at hfailed
      | stopped hstopped _ => simp [hstopped] at hfailed

/-- One frame on each stream, delivered while the driver polls. -/
def samplePacketOf (cts : UInt64) : EncoderPacket where
  video := true
  packetTimeCts := some cts
  pts := 0
  dts := 0
  timebaseNum := 1
  timebaseDen := 1000
  keyframe := true
  data := [0]
  extraData := some [1]

/-- The two encoders deliver a common keyframe between the steps of the driver. -/
def sampleInputs : List Input :=
  let readings : DriverReadings := ⟨100, true, true, true, false, true, false⟩
  let stop : DriverReadings := { readings with shutdownRequested := true }
  List.replicate 6 (.advance readings) ++
    [.enterCallback .A (samplePacketOf 100), .enterCallback .B (samplePacketOf 100),
      .leaveCallback .B, .advance readings, .leaveCallback .A] ++
    List.replicate 12 (.advance stop)

theorem recording_ends_whole_sample :
    (Runs.exec step (create 10 (.both {}) (.both .accepting)) sampleInputs).session.state =
        .stopped ∧
      ∃ startCts endCts, SynchronizedRecordingSession.FilesFinalized
        (Runs.exec step (create 10 (.both {}) (.both .accepting)) sampleInputs).session
          startCts endCts := by
  have hstopped : (Runs.exec step (create 10 (.both {}) (.both .accepting))
      sampleInputs).session.state = .stopped := by decide
  have hwhole := recording_ends_whole
    (Runs.run_exec (create 10 (.both {}) (.both .accepting)) sampleInputs)
    (by intro stream; cases stream <;> decide) (by decide)
  rcases hwhole.2 with ⟨-, startCts, endCts, -, hfinalized⟩ | ⟨hfailed, -⟩
  · exact ⟨hstopped, startCts, endCts, hfinalized⟩
  · exact absurd (hstopped.symm.trans hfailed) (by simp)

end SynchronizedRecordingDriver

end ObsSyncReplay
