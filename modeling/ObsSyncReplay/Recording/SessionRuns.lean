import ObsSyncReplay.Recording.SessionInvariant

/-!
Every public call, on every consistent session, and from that every run. The
last part states what two finished files agree on.
-/

namespace ObsSyncReplay

namespace SynchronizedRecordingSession

variable {session session' : SynchronizedRecordingSession}
  {accepted : RecordingStream → List EncodedPacket}

/-- The session from whose buffers a call flushes: a submitted packet is in
them by then. -/
def flushing (session : SynchronizedRecordingSession) :
    SessionCall → SynchronizedRecordingSession
  | .submitPacket stream packet =>
      session.admitted stream packet ((session.buffer.get stream).push packet).2
  | _ => session

/-- `SubmitPacket` takes the packet into its buffer. -/
def admits (session : SynchronizedRecordingSession) (stream : RecordingStream)
    (packet : EncodedPacket) : Bool :=
  (∀ range ∈ session.selectedRange, range.startCts ≤ packet.sourceCts ∧
    ∀ last ∈ session.lastFlushedCts, last < packet.sourceCts) ∧
    ((session.buffer.get stream).push packet).1 = .retained

theorem admits_eq_true {stream : RecordingStream} {packet : EncodedPacket}
    {buffer : EncodedPacketBuffer}
    (hpush : (session.buffer.get stream).push packet = (.retained, buffer))
    (habove : ∀ range ∈ session.selectedRange, range.startCts ≤ packet.sourceCts ∧
      ∀ last ∈ session.lastFlushedCts, last < packet.sourceCts) :
    session.admits stream packet = true := by
  simp only [admits, hpush, decide_eq_true_eq, and_true]
  exact habove

/-- The CTS a call may flush up to: the watermark when a running session takes
a packet, the requested stop in a drain. -/
def flushBound (session : SynchronizedRecordingSession) (call : SessionCall) : Option Nat :=
  match call, session.state with
  | .submitPacket stream packet, .running =>
      if session.admits stream packet then (session.flushing call).runningWatermark else none
  | .completeDrain, .draining => some session.requestedStopCts
  | _, _ => none

/-- The calls that a session answers with a failure once it has ended. -/
def refusedAtEnd : SessionCall → Bool
  | .start _ => true
  | .submitPacket _ _ => true
  | _ => false

/-- After the end `Start` and `SubmitPacket` fail the session, whatever it
ended with; every other call leaves it as it is. -/
theorem step_of_ended (call : SessionCall)
    (hended : session.state = .stopped ∨ session.state = .failed) :
    if refusedAtEnd call then session.step call = session.fail .invalidTransition
    else (session.step call).2 = session := by
  have hstarting : session.state ≠ .starting := by rcases hended with h | h <;> simp [h]
  have hidle : session.state ≠ .idle := by rcases hended with h | h <;> simp [h]
  cases call with
  | start requestedStartCts => simp [refusedAtEnd, step, start, hidle]
  | submitPacket stream packet =>
      rcases hended with h | h <;> simp [refusedAtEnd, step, submitPacket, h]
  | setStreamExtraData stream extraData =>
      simp [refusedAtEnd, step, setStreamExtraData, hstarting]
  | pollStart currentSourceCts => simp [refusedAtEnd, step, pollStart, hstarting]
  | requestStop requestedStopCts =>
      rcases hended with h | h <;> simp [refusedAtEnd, step, requestStop, h]
  | completeDrain => rcases hended with h | h <;> simp [refusedAtEnd, step, completeDrain, h]
  | abort => rcases hended with h | h <;> simp [refusedAtEnd, step, abort, abortUnlocked, h]

theorem step_of_refused {call : SessionCall} (hrefused : refusedAtEnd call = true)
    (hended : session.state = .stopped ∨ session.state = .failed) :
    (session.step call).2.state = .failed := by
  have hstep := step_of_ended call hended
  rw [if_pos hrefused] at hstep
  rw [hstep]
  exact fail_state _

theorem step_of_not_refused {call : SessionCall} (hrefused : refusedAtEnd call = false)
    (hended : session.state = .stopped ∨ session.state = .failed) :
    (session.step call).2 = session := by
  have hstep := step_of_ended call hended
  rwa [if_neg (by simp [hrefused])] at hstep

theorem step_of_failed (call : SessionCall) (hfailed : session.state = .failed) :
    (session.step call).2.state = .failed := by
  cases hrefused : refusedAtEnd call with
  | true => exact step_of_refused hrefused (Or.inr hfailed)
  | false =>
      rw [step_of_not_refused hrefused (Or.inr hfailed)]
      exact hfailed

theorem acceptCall_of_not_refused {call : SessionCall} {ok : Bool}
    (hrefused : refusedAtEnd call = false) : acceptCall accepted call ok = accepted := by
  cases call with
  | submitPacket stream packet => cases hrefused
  | start _ => rfl
  | setStreamExtraData _ _ => rfl
  | pollStart _ => rfl
  | requestStop _ => rfl
  | completeDrain => rfl
  | abort => rfl

theorem abort_state (hopen : session.state ≠ .stopped) : session.abort.state = .failed := by
  unfold abort abortUnlocked
  split_ifs with h
  · exact h.resolve_left hopen
  · rfl

theorem Live.submitPacket {startCts : Nat} {log : AscendingLog Nat} {stream : RecordingStream}
    {packet : EncodedPacket} {ok : Bool} (hlive : Live accepted session startCts log)
    (hstate : session.state = .running ∨ session.state = .draining)
    (h : session.submitPacket stream packet = (ok, session')) :
    session'.state = .failed ∨
    (ok = true ∧ session'.state = session.state ∧ ∃ log',
      Appends (session.flushing (.submitPacket stream packet)) startCts
        (session.flushBound (.submitPacket stream packet)) log log' ∧
      Live (accept accepted stream packet) session' startCts log') := by
  have haccepting : session.Accepting := Or.inr hstate
  rcases submitPacket_cases haccepting h with
    ⟨rfl, hsame, range, hrange, hbelow⟩ | ⟨_, hfailed, _⟩ | ⟨buffer, hpush, habove, hadvance⟩
  · have hbound : session.flushBound (.submitPacket stream packet) = none := by
      have hrefused : session.admits stream packet = false := by
        simp only [admits, decide_eq_false_iff_not]
        exact fun h => absurd (h.1 range hrange).1 (not_le.mpr hbelow)
      rcases hstate with hstate | hstate <;> simp [flushBound, hstate, hrefused]
    obtain rfl : range = ⟨startCts, startCts⟩ := Option.some.inj (hrange.symm.trans hlive.range)
    rw [hsame]
    exact Or.inr ⟨rfl, rfl, log, hbound ▸ .unbounded _ _ _, hlive.drop hbelow⟩
  · exact Or.inl hfailed.state
  obtain ⟨hstart, hlast⟩ := habove _ hlive.range
  have hadmitted := hlive.admission hpush hstart hlast
  have hflushing : session.flushing (.submitPacket stream packet) =
      session.admitted stream packet buffer := by rw [flushing, hpush]
  rw [hflushing]
  unfold advance at hadvance
  rw [admitted_state] at hadvance
  rcases hstate with hrunning | hdraining
  · rw [if_neg (by simp [hrunning]), if_pos hrunning] at hadvance
    have hbound : session.flushBound (.submitPacket stream packet) =
        (session.admitted stream packet buffer).runningWatermark := by
      simp only [flushBound, hrunning, hflushing, admits_eq_true hpush habove, if_true]
    rw [hbound]
    rcases hadmitted.flushStablePackets hadvance with
      ⟨_, hfailed⟩ | ⟨rfl, hsame, log', hlive', happends⟩
    · exact Or.inl hfailed
    · exact Or.inr ⟨rfl, hsame.trans admitted_state, log', happends, hlive'⟩
  · rw [if_neg (by simp [hdraining]), if_neg (by simp [hdraining])] at hadvance
    obtain ⟨rfl, rfl⟩ := Prod.mk.inj hadvance
    have hbound : session.flushBound (.submitPacket stream packet) = none := by
      simp only [flushBound, hdraining]
    exact Or.inr ⟨rfl, admitted_state, log, hbound ▸ .unbounded _ _ _, hadmitted⟩

/-- One call on a live session: the session fails, or the common log grows by
at most one batch, and the session stays live or is finished. -/
theorem Live.step {startCts : Nat} {log : AscendingLog Nat} {call : SessionCall} {ok : Bool}
    (hlive : Live accepted session startCts log)
    (hstate : session.state = .running ∨ session.state = .draining)
    (h : session.step call = (ok, session')) :
    session'.state = .failed ∨
    ∃ log', Appends (session.flushing call) startCts (session.flushBound call) log log' ∧
      (((session'.state = .running ∨ session'.state = .draining) ∧
          Live (acceptCall accepted call ok) session' startCts log') ∨
        (session'.state = .stopped ∧
          ∃ endCts, Finished (acceptCall accepted call ok) session' startCts endCts log')) := by
  have hstarting : session.state ≠ .starting := by rcases hstate with h | h <;> simp [h]
  have hidle : session.state ≠ .idle := by rcases hstate with h | h <;> simp [h]
  cases call with
  | start requestedStartCts =>
      simp only [SynchronizedRecordingSession.step, start] at h
      rw [if_pos (Or.inl hidle)] at h
      obtain ⟨_, rfl⟩ := eq_fail h
      exact Or.inl (fail_state _)
  | setStreamExtraData stream extraData =>
      simp only [SynchronizedRecordingSession.step, setStreamExtraData] at h
      rw [if_pos (Or.inl hstarting)] at h
      obtain ⟨_, rfl⟩ := Prod.mk.inj h
      exact Or.inr ⟨log, .unbounded _ _ _, Or.inl ⟨hstate, hlive⟩⟩
  | submitPacket stream packet =>
      rcases hlive.submitPacket hstate h with hfailed | ⟨rfl, hsame, log', happends, hlive'⟩
      · exact Or.inl hfailed
      · exact Or.inr ⟨log', happends, Or.inl ⟨by rwa [hsame], hlive'⟩⟩
  | pollStart currentSourceCts =>
      simp only [SynchronizedRecordingSession.step, pollStart] at h
      rw [if_pos hstarting] at h
      obtain ⟨_, rfl⟩ := Prod.mk.inj h
      exact Or.inr ⟨log, .unbounded _ _ _, Or.inl ⟨hstate, hlive⟩⟩
  | requestStop requestedStopCts =>
      refine Or.inr ⟨log, .unbounded _ _ _, Or.inl ?_⟩
      rcases hstate with hrunning | hdraining
      · simp only [SynchronizedRecordingSession.step, requestStop, hrunning, reduceCtorEq,
          or_self, if_false, ne_eq, not_true_eq_false, false_and, if_true] at h
        obtain ⟨_, rfl⟩ := Prod.mk.inj h
        exact ⟨Or.inr rfl, hlive.congr rfl rfl rfl rfl rfl⟩
      · simp only [SynchronizedRecordingSession.step, requestStop] at h
        rw [if_pos (Or.inl hdraining)] at h
        obtain ⟨_, rfl⟩ := Prod.mk.inj h
        exact ⟨Or.inr hdraining, hlive⟩
  | completeDrain =>
      rcases hstate with hrunning | hdraining
      · have hsame : session.completeDrain = (false, session) := by
          simp [SynchronizedRecordingSession.completeDrain, hrunning]
        obtain ⟨_, rfl⟩ := Prod.mk.inj (hsame.symm.trans h)
        have hbound : session.flushBound .completeDrain = none := by
          simp only [flushBound, hrunning]
        exact Or.inr ⟨log, hbound ▸ .unbounded _ _ _, Or.inl ⟨Or.inl hrunning, hlive⟩⟩
      · rcases hlive.completeDrain hdraining h with hfailed | ⟨log', happends, hfinished⟩
        · exact Or.inl hfailed
        · refine Or.inr ⟨log', ?_, Or.inr hfinished⟩
          simp only [flushBound, hdraining]
          exact happends
  | abort =>
      obtain ⟨_, rfl⟩ := Prod.mk.inj h
      exact Or.inl (abort_state (by rcases hstate with h | h <;> simp [h]))

/-- What becomes of a waiting session that looks for its common start. -/
theorem Waiting.establishCommonStart {ok : Bool} (hwaiting : Waiting accepted session)
    (hstate : session.state = .starting)
    (h : session.establishCommonStart = (ok, session')) :
    (ok = false ∧ session'.state = .failed) ∨ (ok = true ∧ session' = session) ∨
    (ok = true ∧ session'.state = .running ∧
      ∃ range ∈ (selectCommonStart session.buffer.a session.buffer.b
        session.requestedStartCts).range,
      ∃ log, Appends (session.opened range) range.startCts
          (session.opened range).runningWatermark .empty log ∧
        Live accepted session' range.startCts log) := by
  rcases establishCommonStart_cases hstate h with
    ⟨rfl, rfl, _⟩ | ⟨range, hrange, ⟨rfl, hfailed⟩ | hflush⟩
  · exact Or.inr (Or.inl ⟨rfl, rfl⟩)
  · exact Or.inl ⟨rfl, hfailed.state⟩
  · rcases (hwaiting.opened hrange).flushStablePackets hflush with
      ⟨rfl, hfailed⟩ | ⟨rfl, hrunning, log, hlive, happends⟩
    · exact Or.inl ⟨rfl, hfailed⟩
    · exact Or.inr (Or.inr ⟨rfl, hrunning, range, hrange, log, happends, hlive⟩)

/-- What a packet does to a waiting session. -/
theorem Waiting.submitPacket {stream : RecordingStream} {packet : EncodedPacket} {ok : Bool}
    (hwaiting : Waiting accepted session) (hstate : session.state = .starting)
    (h : session.submitPacket stream packet = (ok, session')) :
    session'.state = .failed ∨
    (ok = true ∧ session'.state = .starting ∧
      Waiting (accept accepted stream packet) session') ∨
    (ok = true ∧ session'.state = .running ∧
      ∃ range ∈ (selectCommonStart (session.flushing (.submitPacket stream packet)).buffer.a
        (session.flushing (.submitPacket stream packet)).buffer.b
        (session.flushing (.submitPacket stream packet)).requestedStartCts).range,
      ∃ log, Appends ((session.flushing (.submitPacket stream packet)).opened range)
          range.startCts
          ((session.flushing (.submitPacket stream packet)).opened range).runningWatermark
          .empty log ∧
        Live (accept accepted stream packet) session' range.startCts log) := by
  rcases submitPacket_cases (Or.inl hstate) h with
    ⟨_, _, range, hrange, _⟩ | ⟨_, hfailed, _⟩ | ⟨buffer, hpush, _, hadvance⟩
  · rw [hwaiting.range] at hrange
    cases hrange
  · exact Or.inl hfailed.state
  have hadmitted := hwaiting.admission hpush
  have hstarting : (session.admitted stream packet buffer).state = .starting :=
    admitted_state.trans hstate
  have hflushing : session.flushing (.submitPacket stream packet) =
      session.admitted stream packet buffer := by rw [flushing, hpush]
  rw [hflushing]
  rw [advance, if_pos hstarting] at hadvance
  rcases hadmitted.establishCommonStart hstarting hadvance with
    ⟨_, hfailed⟩ | ⟨rfl, rfl⟩ | ⟨rfl, hrunning, hlive⟩
  · exact Or.inl hfailed
  · exact Or.inr (Or.inl ⟨rfl, hstarting, hadmitted⟩)
  · exact Or.inr (Or.inr ⟨rfl, hrunning, hlive⟩)

/-- What a poll of the start does to a waiting session. -/
theorem Waiting.pollStart {currentSourceCts : Nat} {ok : Bool}
    (hwaiting : Waiting accepted session) (hstate : session.state = .starting)
    (h : session.pollStart currentSourceCts = (ok, session')) :
    session'.state = .failed ∨ session' = session ∨
    (session'.state = .running ∧
      ∃ range ∈ (selectCommonStart session.buffer.a session.buffer.b
        session.requestedStartCts).range,
      ∃ log, Appends (session.opened range) range.startCts
          (session.opened range).runningWatermark .empty log ∧
        Live accepted session' range.startCts log) := by
  unfold SynchronizedRecordingSession.pollStart at h
  rw [if_neg (not_not.mpr hstate)] at h
  split at h
  · rename_i middle hestablish
    obtain ⟨rfl, rfl⟩ := Prod.mk.inj h
    rcases hwaiting.establishCommonStart hstate hestablish with ⟨hfalse, _⟩ | ⟨_, hsame⟩ | hfound
    · cases hfalse
    · exact Or.inr (Or.inl hsame)
    · exact Or.inr (Or.inr hfound.2)
  · rename_i middle hestablish
    rcases hwaiting.establishCommonStart hstate hestablish with
      ⟨_, hfailed⟩ | ⟨hfalse, _⟩ | ⟨hfalse, _⟩
    · split_ifs at h
      · obtain ⟨_, rfl⟩ := eq_fail h
        exact Or.inl (fail_state _)
      · obtain ⟨_, rfl⟩ := Prod.mk.inj h
        exact Or.inl hfailed
    · cases hfalse
    · cases hfalse

/-- One call on a waiting session: it fails, it goes on waiting, or the call
finds the common start and the session is live from then on. -/
theorem Waiting.step {call : SessionCall} {ok : Bool} (hwaiting : Waiting accepted session)
    (hstate : session.state = .idle ∨ session.state = .starting)
    (h : session.step call = (ok, session')) :
    session'.state = .failed ∨
    ((session'.state = .idle ∨ session'.state = .starting) ∧
      Waiting (acceptCall accepted call ok) session') ∨
    (session.state = .starting ∧ session'.state = .running ∧
      ∃ range ∈ (selectCommonStart (session.flushing call).buffer.a
        (session.flushing call).buffer.b (session.flushing call).requestedStartCts).range,
      ∃ log, Appends ((session.flushing call).opened range) range.startCts
          ((session.flushing call).opened range).runningWatermark .empty log ∧
        Live (acceptCall accepted call ok) session' range.startCts log) := by
  cases call with
  | start requestedStartCts =>
      simp only [SynchronizedRecordingSession.step, start] at h
      split_ifs at h with hrefused
      · obtain ⟨_, rfl⟩ := eq_fail h
        exact Or.inl (fail_state _)
      · obtain ⟨_, rfl⟩ := Prod.mk.inj h
        exact Or.inr (Or.inl ⟨Or.inr rfl, hwaiting.range, hwaiting.lastFlushed, hwaiting.calls,
          hwaiting.keyed, hwaiting.conserved⟩)
  | setStreamExtraData stream extraData =>
      simp only [SynchronizedRecordingSession.step, setStreamExtraData] at h
      refine Or.inr (Or.inl ?_)
      split_ifs at h with hignored
      · obtain ⟨_, rfl⟩ := Prod.mk.inj h
        exact ⟨hstate, hwaiting⟩
      · obtain ⟨_, rfl⟩ := Prod.mk.inj h
        exact ⟨hstate, hwaiting.range, hwaiting.lastFlushed, hwaiting.calls, hwaiting.keyed,
          hwaiting.conserved⟩
  | submitPacket stream packet =>
      rcases hstate with hidle | hstarting
      · simp only [SynchronizedRecordingSession.step, SynchronizedRecordingSession.submitPacket,
          hidle, ne_eq, reduceCtorEq, not_false_eq_true, and_self, if_true] at h
        obtain ⟨_, rfl⟩ := eq_fail h
        exact Or.inl (fail_state _)
      rcases hwaiting.submitPacket hstarting h with
        hfailed | ⟨rfl, hstate', hwaiting'⟩ | ⟨rfl, hrunning, hlive⟩
      · exact Or.inl hfailed
      · exact Or.inr (Or.inl ⟨Or.inr hstate', hwaiting'⟩)
      · exact Or.inr (Or.inr ⟨hstarting, hrunning, hlive⟩)
  | pollStart currentSourceCts =>
      rcases hstate with hidle | hstarting
      · simp only [SynchronizedRecordingSession.step, SynchronizedRecordingSession.pollStart,
          hidle, ne_eq, reduceCtorEq, not_false_eq_true, if_true] at h
        obtain ⟨_, rfl⟩ := Prod.mk.inj h
        exact Or.inr (Or.inl ⟨Or.inl hidle, hwaiting⟩)
      · rcases hwaiting.pollStart hstarting h with hfailed | rfl | ⟨hrunning, hlive⟩
        · exact Or.inl hfailed
        · exact Or.inr (Or.inl ⟨Or.inr hstarting, hwaiting⟩)
        · exact Or.inr (Or.inr ⟨hstarting, hrunning, hlive⟩)
  | requestStop requestedStopCts =>
      simp only [SynchronizedRecordingSession.step, requestStop] at h
      rcases hstate with hidle | hstarting
      · simp only [hidle, reduceCtorEq, or_self, if_false, ne_eq, not_false_eq_true, and_self,
          if_true] at h
        obtain ⟨_, rfl⟩ := eq_fail h
        exact Or.inl (fail_state _)
      · simp only [hstarting, reduceCtorEq, or_self, if_false, ne_eq, not_true_eq_false,
          and_false] at h
        obtain ⟨_, rfl⟩ := Prod.mk.inj h
        exact Or.inr (Or.inl ⟨Or.inr rfl, hwaiting.range, hwaiting.lastFlushed, hwaiting.calls,
          hwaiting.keyed, hwaiting.conserved⟩)
  | completeDrain =>
      have hsame : session.completeDrain = (false, session) := by
        rcases hstate with hstate | hstate <;> simp [completeDrain, hstate]
      obtain ⟨_, rfl⟩ := Prod.mk.inj (hsame.symm.trans h)
      exact Or.inr (Or.inl ⟨hstate, hwaiting⟩)
  | abort =>
      obtain ⟨_, rfl⟩ := Prod.mk.inj h
      exact Or.inl (abort_state (by rcases hstate with h | h <;> simp [h]))

/-- What every reachable session satisfies, state by state. -/
inductive Consistent (accepted : RecordingStream → List EncodedPacket)
    (session : SynchronizedRecordingSession) : Prop
  | waiting (hstate : session.state = .idle ∨ session.state = .starting)
      (hwaiting : Waiting accepted session)
  | live {startCts : Nat} {log : AscendingLog Nat}
      (hstate : session.state = .running ∨ session.state = .draining)
      (hlive : Live accepted session startCts log)
  | finished {startCts endCts : Nat} {log : AscendingLog Nat} (hstate : session.state = .stopped)
      (hfinished : Finished accepted session startCts endCts log)
  | failed (hstate : session.state = .failed)

theorem Consistent.waiting_of_starting (h : Consistent accepted session)
    (hstarting : session.state = .starting) : Waiting accepted session := by
  cases h with
  | waiting _ hwaiting => exact hwaiting
  | live hstate _ => rcases hstate with h | h <;> simp [h] at hstarting
  | finished hstate _ => simp [hstate] at hstarting
  | failed hstate => simp [hstate] at hstarting

theorem Consistent.step {call : SessionCall} (h : Consistent accepted session) :
    Consistent (acceptCall accepted call (session.step call).1) (session.step call).2 := by
  have hstep : session.step call = ((session.step call).1, (session.step call).2) := rfl
  cases h with
  | waiting hstate hwaiting =>
      rcases hwaiting.step hstate hstep with
        hfailed | ⟨hstate', hwaiting'⟩ | ⟨_, hrunning, _, _, _, _, hlive⟩
      · exact .failed hfailed
      · exact .waiting hstate' hwaiting'
      · exact .live (Or.inl hrunning) hlive
  | live hstate hlive =>
      rcases hlive.step hstate hstep with
        hfailed | ⟨_, _, ⟨hstate', hlive'⟩ | ⟨hstopped, _, hfinished⟩⟩
      · exact .failed hfailed
      · exact .live hstate' hlive'
      · exact .finished hstopped hfinished
  | finished hstate hfinished =>
      cases hrefused : refusedAtEnd call with
      | true => exact .failed (step_of_refused hrefused (Or.inl hstate))
      | false =>
          rw [acceptCall_of_not_refused hrefused, step_of_not_refused hrefused (Or.inl hstate)]
          exact .finished hstate hfinished
  | failed hstate => exact .failed (step_of_failed call hstate)

variable {config : SynchronizedRecordingConfig} {streamConfig : PerStream PacketStreamConfig}
  {sink : PerStream (Option PacketSink)} {past : List SessionTransition}

theorem waiting_create : Waiting (acceptedPackets []) (create config streamConfig sink) where
  range := rfl
  lastFlushed := rfl
  calls := rfl
  keyed stream := by
    rw [create, PerStream.get_both]
    exact EncodedPacketBuffer.keyed_empty _
  conserved stream := by
    rw [create, PerStream.get_both]
    exact List.Perm.refl _

/-- Every reachable session is consistent with the packets it accepted. -/
theorem run_consistent
    (hrun : Runs.Run step (create config streamConfig sink) past session) :
    Consistent (acceptedPackets past) session := by
  refine hrun.invariant (P := fun past session => Consistent (acceptedPackets past) session)
    (.waiting (Or.inl rfl) waiting_create) ?_
  intro past session call _ hconsistent
  rw [acceptedPackets_append]
  exact hconsistent.step

end SynchronizedRecordingSession

end ObsSyncReplay
