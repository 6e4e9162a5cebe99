import ObsSyncReplay.Recording.SessionMismatch

/-!
What becomes of a stop request. A session that was running drains and writes
nothing above the requested stop. A session that was still starting keeps the
request only in `requested_stop_cts_`: a call that then finds the common start
sets it running all the same, unless a sink refuses it.
-/

namespace ObsSyncReplay

namespace SynchronizedRecordingSession

variable {session session' : SynchronizedRecordingSession}

/-- The common start that a call on a starting session finds. -/
def foundStart (session : SynchronizedRecordingSession) (call : SessionCall) :
    Option CommonPacketRange :=
  match call, session.state with
  | .submitPacket stream packet, .starting =>
      if session.admits stream packet then
        (selectCommonStart (session.flushing call).buffer.a (session.flushing call).buffer.b
          session.requestedStartCts).range
      else none
  | .pollStart _, .starting =>
      (selectCommonStart session.buffer.a session.buffer.b session.requestedStartCts).range
  | _, _ => none

/-- A session that has taken a stop at `stopCts`. -/
structure Stopping (stopCts : Nat) (session : SynchronizedRecordingSession) : Prop where
  started : session.state ≠ .idle
  notRunning : session.state ≠ .running
  bounded : session.state = .draining → session.requestedStopCts = stopCts

theorem Stopping.of_failed {stopCts : Nat} (h : session.state = .failed) :
    Stopping stopCts session :=
  ⟨by simp [h], by simp [h], by simp [h]⟩

theorem wroteUpTo_fail (bound : Nat) (failure : SynchronizedRecordingFailure) :
    WroteUpTo bound session (session.fail failure).2 := by
  obtain ⟨events, heq, habort⟩ := fail_eq session failure
  rw [heq]
  exact ⟨events, rfl, writesUpTo_of_abort habort⟩

theorem completeDrain_ends {ok : Bool} (h : session.completeDrain = (ok, session')) :
    session' = session ∨ session'.state = .stopped ∨ session'.state = .failed := by
  by_cases hdraining : session.state = .draining
  swap
  · have hsame : session.completeDrain.2 = session := completeDrain_of_not_draining hdraining
    exact Or.inl ((congrArg Prod.snd h).symm.trans hsame)
  cases hrange : session.selectedRange with
  | none =>
      have hsame : session.completeDrain = (false, session) := by
        simp [completeDrain, hdraining, hrange]
      exact Or.inl (Prod.mk.inj (hsame.symm.trans h)).2.symm
  | some range =>
      rcases completeDrain_cases hdraining hrange h with
        ⟨_, hfailed⟩ | ⟨_, ⟨_, hflush⟩ | ⟨middle, _, hfinal⟩⟩
      · exact Or.inr (Or.inr hfailed.state)
      · exact Or.inr (Or.inr (flushThrough_false hflush).state)
      · rcases finalizeAt_cases hfinal with ⟨_, hfailed⟩ | ⟨_, hstopped, _⟩
        · exact Or.inr (Or.inr hfailed.state)
        · exact Or.inr (Or.inl hstopped)

/-- What a call on a stopping session may do. -/
structure StopStep (stopCts : Nat) (session session' : SynchronizedRecordingSession) : Prop where
  stopping : Stopping stopCts session'
  wrote : WroteUpTo stopCts session session'

theorem StopStep.same {stopCts : Nat} (hstopping : Stopping stopCts session) :
    StopStep stopCts session session :=
  ⟨hstopping, .of_calls_eq rfl⟩

theorem StopStep.failed {stopCts : Nat} (hfailed : session'.state = .failed)
    (hwrote : WroteUpTo stopCts session session') : StopStep stopCts session session' :=
  ⟨.of_failed hfailed, hwrote⟩

theorem StopStep.submitPacket {stopCts : Nat} {stream : RecordingStream}
    {packet : EncodedPacket} (hstopping : Stopping stopCts session)
    (hstart : session.foundStart (.submitPacket stream packet) = none) :
    StopStep stopCts session (session.submitPacket stream packet).2 := by
  by_cases haccepting : session.Accepting
  swap
  · rw [submitPacket_of_not_accepting haccepting]
    exact .failed (fail_state _) (wroteUpTo_fail _ _)
  rcases submitPacket_cases haccepting
      (Prod.mk.eta (p := session.submitPacket stream packet)).symm with
    ⟨_, hsame, _⟩ | ⟨_, hfailed, _⟩ | ⟨buffer, hpush, habove, hadvance⟩
  · rw [hsame]
    exact .same hstopping
  · exact .failed hfailed.state (hfailed.calls.mono (Nat.zero_le _))
  have hadmitted : StopStep stopCts session (session.admitted stream packet buffer) :=
    ⟨⟨by simpa using hstopping.started, by simpa using hstopping.notRunning,
      by simpa using hstopping.bounded⟩, .of_calls_eq admitted_calls⟩
  unfold advance at hadvance
  split_ifs at hadvance with hstarting hrunning
  · have hflushing : session.flushing (.submitPacket stream packet) =
        session.admitted stream packet buffer := by rw [flushing, hpush]
    rcases establishCommonStart_cases hstarting hadvance with
      ⟨_, hsame, _⟩ | ⟨range, hrange, _⟩
    · rw [hsame]
      exact hadmitted
    · rw [admitted_state] at hstarting
      rw [admitted_requestedStartCts] at hrange
      simp only [foundStart, hstarting, admits_eq_true hpush habove, hflushing, if_true] at hstart
      rw [hstart] at hrange
      cases hrange
  · exact absurd (admitted_state.symm.trans hrunning) hstopping.notRunning
  · rw [← (Prod.mk.inj hadvance).2]
    exact hadmitted

theorem WroteUpTo.split {bound bound' bound'' : Nat}
    {middle : SynchronizedRecordingSession} (h : WroteUpTo bound session session')
    (hfirst : WroteUpTo bound' session middle) (hrest : WroteUpTo bound'' middle session') :
    WroteUpTo bound session middle ∧ WroteUpTo bound middle session' := by
  obtain ⟨events, hevents, hwrites⟩ := h
  obtain ⟨first, hfirst, -⟩ := hfirst
  obtain ⟨rest, hrest, -⟩ := hrest
  have hsame : events = first ++ rest := by
    rw [hevents, hfirst, List.append_assoc, List.append_cancel_left_eq] at hrest
    exact hrest
  subst hsame
  exact ⟨⟨first, hfirst, fun event hmem => hwrites event (List.mem_append_left _ hmem)⟩,
    ⟨rest, hrest, fun event hmem => hwrites event (List.mem_append_right _ hmem)⟩⟩

variable {accepted : RecordingStream → List EncodedPacket}

variable {stopped final : SynchronizedRecordingSession} {later : List SessionTransition}
  {config : SynchronizedRecordingConfig} {streamConfig : PerStream PacketStreamConfig}
  {sink : PerStream (Option PacketSink)}

end SynchronizedRecordingSession

end ObsSyncReplay
