import ObsSyncReplay.Recording.SessionStop

/-!
How long a session waits for its common start. `PollStart` looks for the start
before it looks at the clock, and `EstablishCommonStart` answers `true` for a
start that is still pending. Each packet is searched as it comes in, so this is
the only answer a waiting session gets, and the check of `max_start_wait_cts`
after it is never made.
-/

namespace ObsSyncReplay

namespace SynchronizedRecordingSession

variable {session session' : SynchronizedRecordingSession}

/-! ### A waiting session has no common start -/

/-- No keyframe at or above the requested start is in both buffers. -/
def NoCommonStart (session : SynchronizedRecordingSession) : Prop :=
  ∀ cts, session.requestedStartCts ≤ cts → ¬ ∀ stream,
    ∃ packet ∈ (session.buffer.get stream).snapshot,
      packet.sourceCts = cts ∧ packet.keyframe = true

/-- What the search for the start leaves behind: nothing is buffered before
`Start`, and while the session starts the last search found nothing. -/
structure Searched (session : SynchronizedRecordingSession) : Prop where
  idle : session.state = .idle → ∀ stream, (session.buffer.get stream).snapshot = []
  starting : session.state = .starting →
    (selectCommonStart session.buffer.a session.buffer.b session.requestedStartCts).range = none

theorem Searched.of_past (hidle : session.state ≠ .idle) (hstarting : session.state ≠ .starting) :
    Searched session :=
  ⟨fun h => absurd h hidle, fun h => absurd h hstarting⟩

theorem Searched.of_failed (h : session.state = .failed) : Searched session := by
  apply Searched.of_past <;> simp [h]

theorem searched_create {config : SynchronizedRecordingConfig}
    {streamConfig : PerStream PacketStreamConfig} {sink : PerStream (Option PacketSink)} :
    Searched (create config streamConfig sink) where
  idle _ stream := by
    rw [create, PerStream.get_both]
    rfl
  starting h := by cases h

/-- A search that leaves the session starting has found nothing. -/
theorem searched_establishCommonStart {ok : Bool} (hstate : session.state = .starting)
    (h : session.establishCommonStart = (ok, session')) : Searched session' := by
  rcases establishCommonStart_cases hstate h with
    ⟨_, rfl, hnone⟩ | ⟨range, _, ⟨_, hfailed⟩ | hflush⟩
  · exact ⟨fun hidle => by simp [hidle] at hstate, fun _ => hnone⟩
  · exact .of_failed hfailed.state
  · cases ok with
    | false => exact .of_failed (flushStablePackets_false hflush)
    | true =>
        have hrunning : session'.state = .running := flushStablePackets_true hflush
        apply Searched.of_past <;> simp [hrunning]

theorem Searched.start (hsearched : Searched session) (requestedStartCts : Nat) :
    Searched (session.start requestedStartCts).2 := by
  unfold SynchronizedRecordingSession.start
  split_ifs with hrefused
  · exact .of_failed (fail_state _)
  · have hidle : session.state = .idle := by
      by_contra h
      exact hrefused (Or.inl h)
    have hempty : session.buffer.a.snapshot = [] := hsearched.idle hidle .A
    refine ⟨fun h => (by cases h), fun _ => ?_⟩
    simp [selectCommonStart, hempty]

theorem Searched.submitPacket (session : SynchronizedRecordingSession)
    (stream : RecordingStream) (packet : EncodedPacket) :
    Searched (session.submitPacket stream packet).2 ∨
      (session.submitPacket stream packet).2 = session := by
  by_cases haccepting : session.Accepting
  swap
  · rw [submitPacket_of_not_accepting haccepting]
    exact Or.inl (.of_failed (fail_state _))
  rcases submitPacket_cases haccepting
      (Prod.mk.eta (p := session.submitPacket stream packet)).symm with
    ⟨_, hsame, _⟩ | ⟨_, hfailed, _⟩ | ⟨buffer, _, _, hadvance⟩
  · exact Or.inr hsame
  · exact Or.inl (.of_failed hfailed.state)
  left
  unfold advance at hadvance
  split_ifs at hadvance with hstarting hrunning
  · exact searched_establishCommonStart hstarting hadvance
  · cases hok : (session.submitPacket stream packet).1 with
    | false =>
        rw [hok] at hadvance
        exact .of_failed (flushStablePackets_false hadvance)
    | true =>
        rw [hok] at hadvance
        have hsame := (flushStablePackets_true hadvance).trans hrunning
        apply Searched.of_past <;> simp [hsame]
  · rw [← (Prod.mk.inj hadvance).2]
    have hlate : session.state = .draining := by
      rw [admitted_state] at hstarting hrunning
      rcases haccepting with h | h | h
      · exact absurd h hstarting
      · exact absurd h hrunning
      · exact h
    apply Searched.of_past <;> simp [hlate]

/-- Whatever the clock says, `PollStart` finds no start that an earlier call
has not found: it reports whether the session has failed and changes nothing. -/
theorem Searched.pollStart (hsearched : Searched session) (currentSourceCts : Nat) :
    session.pollStart currentSourceCts = (decide (session.state ≠ .failed), session) := by
  unfold SynchronizedRecordingSession.pollStart
  split_ifs with hignored
  · rfl
  have hstarting : session.state = .starting := not_not.mp hignored
  have hpending : session.establishCommonStart = (true, session) := by
    unfold establishCommonStart
    rw [if_neg hignored, hsearched.starting hstarting]
  rw [hpending]
  simp [hstarting]

theorem Searched.step (hsearched : Searched session) (call : SessionCall) :
    Searched (session.step call).2 := by
  cases call with
  | start requestedStartCts => exact hsearched.start requestedStartCts
  | setStreamExtraData stream extraData =>
      simp only [SynchronizedRecordingSession.step, setStreamExtraData]
      split_ifs
      · exact hsearched
      · exact ⟨hsearched.idle, hsearched.starting⟩
  | submitPacket stream packet =>
      rcases Searched.submitPacket session stream packet with hafter | hsame
      · exact hafter
      · rw [SynchronizedRecordingSession.step, hsame]
        exact hsearched
  | pollStart currentSourceCts =>
      rw [SynchronizedRecordingSession.step, hsearched.pollStart]
      exact hsearched
  | requestStop requestedStopCts =>
      simp only [SynchronizedRecordingSession.step, requestStop]
      split_ifs with hended hfailed hwrong hrunning
      · exact hsearched
      · exact hsearched
      · exact .of_failed (fail_state _)
      · apply Searched.of_past <;> simp
      · exact ⟨hsearched.idle, hsearched.starting⟩
  | completeDrain =>
      rcases completeDrain_ends (Prod.mk.eta (p := session.completeDrain)).symm with
        hsame | hstopped | hfailed
      · rw [SynchronizedRecordingSession.step, hsame]
        exact hsearched
      · apply Searched.of_past <;> simp [SynchronizedRecordingSession.step, hstopped]
      · exact .of_failed hfailed
  | abort =>
      by_cases hstopped : session.state = .stopped
      · rw [step_of_not_refused rfl (Or.inl hstopped)]
        exact hsearched
      · exact .of_failed (abort_state hstopped)

/-- The search that found nothing, said of the packets. -/
theorem Searched.noCommonStart (hsearched : Searched session)
    (hkeyed : ∀ stream, (session.buffer.get stream).Keyed) (hstarting : session.state = .starting) :
    NoCommonStart session := by
  intro cts hrequested hcommon
  obtain ⟨packet, hmem, rfl, hkey⟩ := hcommon .A
  have hother : findsKeyframe session.buffer.b packet.sourceCts = true :=
    (findsKeyframe_iff (hkeyed .B)).mpr (hcommon .B)
  have hnone := hsearched.starting hstarting
  unfold selectCommonStart at hnone
  split at hnone
  · cases hnone
  · rename_i hfind
    have hmiss := List.find?_eq_none.mp hfind packet hmem
    simp [hrequested, hkey, hother] at hmiss

/-- A session that still starts is polled more than `max_start_wait_cts` after
the requested start. -/
def overdue (session : SynchronizedRecordingSession) (currentSourceCts : Nat) : Bool :=
  session.state = .starting ∧ session.requestedStartCts ≤ currentSourceCts ∧
    session.config.maxStartWaitCts < currentSourceCts - session.requestedStartCts

/-- The call is no `PollStart` that comes overdue. -/
def pollsInTime (transition : SessionTransition) : Bool :=
  match transition.input with
  | .pollStart currentSourceCts => !transition.before.overdue currentSourceCts
  | _ => true

/-- What the timeout promises of one call. -/
structure EnforcesTimeout (transition : SessionTransition) : Prop where
  expires : ∀ currentSourceCts, transition.input = .pollStart currentSourceCts →
    transition.before.overdue currentSourceCts = true →
      transition.output = false ∧ transition.after.state = .failed ∧
        transition.after.failure = .startTimeout ∧
        transition.after.calls =
          transition.before.calls ++ [⟨.A, .abort, true⟩, ⟨.B, .abort, true⟩]
  waits : ∀ currentSourceCts, transition.input = .pollStart currentSourceCts →
    transition.before.state = .starting → transition.before.overdue currentSourceCts = false →
      transition.output = true ∧ transition.after = transition.before
  answers : ∀ currentSourceCts, transition.input = .pollStart currentSourceCts →
    transition.output = true → transition.after.state ≠ .failed

/-- A call on a session that has searched meets the promise exactly if it is
not an overdue poll. -/
theorem enforcesTimeout_iff (hsearched : Searched session) (call : SessionCall) :
    EnforcesTimeout (Runs.transition step session call) ↔
      pollsInTime (Runs.transition step session call) = true := by
  have hpoll (currentSourceCts : Nat) (hcall : call = .pollStart currentSourceCts) :
      session.step call = (decide (session.state ≠ .failed), session) := by
    rw [hcall]
    exact hsearched.pollStart currentSourceCts
  constructor
  · intro henforces
    unfold pollsInTime
    split
    · rename_i currentSourceCts hcall
      cases hlate : overdue (Runs.transition step session call).before currentSourceCts with
      | false => rfl
      | true =>
          have hfailed := (henforces.expires currentSourceCts hcall hlate).2.1
          have hsame := hpoll currentSourceCts hcall
          simp only [Runs.transition, hsame] at hfailed hlate
          simp [overdue, hfailed] at hlate
    · rfl
  · intro htime
    refine ⟨fun currentSourceCts hcall hlate => ?_, fun currentSourceCts hcall hstarting _ => ?_,
      fun currentSourceCts hcall htrue => ?_⟩
    · simp [pollsInTime, hcall, hlate] at htime
    · simp only [Runs.transition, hpoll currentSourceCts hcall] at hstarting ⊢
      simp [hstarting]
    · simpa only [Runs.transition, hpoll currentSourceCts hcall, decide_eq_true_eq] using htrue

variable {config : SynchronizedRecordingConfig} {streamConfig : PerStream PacketStreamConfig}
  {sink : PerStream (Option PacketSink)} {past : List SessionTransition}

theorem run_searched (hrun : Runs.Run step (create config streamConfig sink) past session) :
    Searched session :=
  hrun.stateInvariant searched_create (fun _ call hsearched => hsearched.step call)

/-- In every run a session that still starts has no common start in its
buffers, and the start timeout is enforced all along the run if and only if no
poll of the run comes overdue. -/
theorem start_timeout (hrun : Runs.Run step (create config streamConfig sink) past session) :
    (session.state = .starting → NoCommonStart session) ∧
      ((∀ transition ∈ past, EnforcesTimeout transition) ↔
        ∀ transition ∈ past, pollsInTime transition = true) := by
  constructor
  · intro hstarting
    exact (run_searched hrun).noCommonStart
      ((run_consistent hrun).waiting_of_starting hstarting).keyed hstarting
  · apply hrun.invariant (P := fun past _ =>
      (∀ transition ∈ past, EnforcesTimeout transition) ↔
        ∀ transition ∈ past, pollsInTime transition = true) (by simp)
    intro past session call hrun hiff
    simp only [List.forall_mem_append, List.forall_mem_singleton]
    rw [hiff, enforcesTimeout_iff (run_searched hrun) call]

/-- A packet in each buffer, but no common keyframe, and polls in time. -/
def waitingCalls : List SessionCall :=
  [.start 90, .submitPacket .A (samplePacket 100 true), .pollStart 80,
    .submitPacket .B (samplePacket 100), .pollStart 2000000090]

theorem start_timeout_in_time :
    (Runs.exec step (sampleSession 10 0) waitingCalls).state = .starting ∧
      NoCommonStart (Runs.exec step (sampleSession 10 0) waitingCalls) ∧
      ∀ transition ∈ Runs.history step (sampleSession 10 0) waitingCalls,
        EnforcesTimeout transition := by
  have htimeout := start_timeout (Runs.run_exec (sampleSession 10 0) waitingCalls)
  exact ⟨by decide, htimeout.1 (by decide), htimeout.2.mpr (by decide)⟩

/-- One nanosecond past the longest wait the session is polled, answers `true`
and goes on starting. -/
theorem start_timeout_missed :
    (Runs.exec step (sampleSession 10 0) waitingCalls).overdue 2000000091 = true ∧
      ((Runs.exec step (sampleSession 10 0) waitingCalls).pollStart 2000000091).1 = true ∧
      ((Runs.exec step (sampleSession 10 0) waitingCalls).pollStart 2000000091).2.state =
        .starting ∧
      ¬ EnforcesTimeout (Runs.transition step
        (Runs.exec step (sampleSession 10 0) waitingCalls) (.pollStart 2000000091)) := by
  refine ⟨by decide, by decide, by decide, fun henforces => ?_⟩
  have hfailed := (henforces.expires 2000000091 rfl (by decide)).2.1
  exact absurd hfailed (by decide)

end SynchronizedRecordingSession

end ObsSyncReplay
