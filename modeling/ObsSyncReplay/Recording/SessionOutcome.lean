import ObsSyncReplay.Recording.SessionAgreement

/-!
How a recording session ends: which calls record a cause of failure, and what
later calls make of an outcome once there is one.
-/

namespace ObsSyncReplay

namespace SynchronizedRecordingSession

variable {session session' : SynchronizedRecordingSession}

/-- What a function that may fail the session leaves: it succeeds without a
cause being recorded, or it fails for one of `causes`. -/
def Settles (causes : List SynchronizedRecordingFailure) (ok : Bool)
    (session session' : SynchronizedRecordingSession) : Prop :=
  (ok = true ∧ session'.state ≠ .failed ∧ session'.failure = session.failure) ∨
    (ok = false ∧ session'.state = .failed ∧ session'.failure ∈ causes)

theorem flushStablePackets_settles {ok : Bool} (hstate : session.state ≠ .failed)
    (h : session.flushStablePackets = (ok, session')) :
    Settles flushCauses ok session session' := by
  rcases flushStablePackets_cases h with
    ⟨rfl, rfl, _⟩ | ⟨cts, _, ⟨rfl, hfailed⟩ | ⟨rfl, range, _, _, _, rfl⟩⟩
  · exact Or.inl ⟨rfl, hstate, rfl⟩
  · exact Or.inr ⟨rfl, hfailed.state, hfailed.cause⟩
  · exact Or.inl ⟨rfl, hstate, rfl⟩

theorem establishCommonStart_settles {ok : Bool} (hstate : session.state = .starting)
    (h : session.establishCommonStart = (ok, session')) :
    Settles (startCauses ++ flushCauses) ok session session' := by
  rcases establishCommonStart_cases hstate h with
    ⟨rfl, rfl, _⟩ | ⟨range, _, ⟨rfl, hfailed⟩ | hflush⟩
  · exact Or.inl ⟨rfl, by simp [hstate], rfl⟩
  · exact Or.inr ⟨rfl, hfailed.state, List.mem_append_left _ hfailed.cause⟩
  · have hrunning : (session.opened range).state ≠ .failed := by
      have h : (session.opened range).state = .running := rfl
      simp [h]
    rcases flushStablePackets_settles hrunning hflush with hok | ⟨rfl, hfailed, hcause⟩
    · exact Or.inl hok
    · exact Or.inr ⟨rfl, hfailed, List.mem_append_right _ hcause⟩

/-- The cause recorded by a submitted packet is a late packet only if the
packet lies at or below the last flushed CTS. -/
theorem submitPacket_settles {stream : RecordingStream} {packet : EncodedPacket} {ok : Bool}
    (haccepting : session.Accepting) (h : session.submitPacket stream packet = (ok, session')) :
    (ok = true ∧ session'.state ≠ .failed ∧ session'.failure = session.failure) ∨
    (ok = false ∧ session'.state = .failed ∧
      (session'.failure = .latePacket →
        ∃ last ∈ session.lastFlushedCts, packet.sourceCts ≤ last)) := by
  have hopen : session.state ≠ .failed := by
    rcases haccepting with h | h | h <;> simp [h]
  rcases submitPacket_cases haccepting h with
    ⟨rfl, rfl, _⟩ | ⟨rfl, hfailed, hlate⟩ | ⟨buffer, _, _, hadvance⟩
  · exact Or.inl ⟨rfl, hopen, rfl⟩
  · exact Or.inr ⟨rfl, hfailed.state, hlate⟩
  have hadmitted : (session.admitted stream packet buffer).state ≠ .failed := by simpa using hopen
  have hnotLate {causes : List SynchronizedRecordingFailure}
      (hcauses : SynchronizedRecordingFailure.latePacket ∉ causes)
      (hsettles : Settles causes ok (session.admitted stream packet buffer) session') :
      (ok = true ∧ session'.state ≠ .failed ∧ session'.failure = session.failure) ∨
      (ok = false ∧ session'.state = .failed ∧ (session'.failure = .latePacket →
        ∃ last ∈ session.lastFlushedCts, packet.sourceCts ≤ last)) := by
    rcases hsettles with ⟨rfl, hstate, hfailure⟩ | ⟨rfl, hfailed, hcause⟩
    · exact Or.inl ⟨rfl, hstate, hfailure.trans admitted_failure⟩
    · exact Or.inr ⟨rfl, hfailed, fun hlate => absurd (hlate ▸ hcause) hcauses⟩
  unfold advance at hadvance
  split_ifs at hadvance with hstarting hrunning
  · exact hnotLate (by decide) (establishCommonStart_settles hstarting hadvance)
  · exact hnotLate (by decide) (flushStablePackets_settles hadmitted hadvance)
  · obtain ⟨rfl, rfl⟩ := Prod.mk.inj hadvance
    exact Or.inl ⟨rfl, hadmitted, admitted_failure⟩

theorem completeDrain_of_not_draining (h : session.state ≠ .draining) :
    session.completeDrain.2 = session := by
  unfold completeDrain
  split_ifs
  · rfl
  · rfl
  · split
    · rename_i hdraining _
      exact absurd hdraining h
    · rfl

theorem completeDrain_settles {ok : Bool}
    (hopen : session.state ≠ .stopped ∧ session.state ≠ .failed)
    (h : session.completeDrain = (ok, session')) :
    (session'.state ≠ .failed ∧ session'.failure = session.failure) ∨
    (session'.state = .failed ∧ session'.failure ∈ .sinkFinalize :: flushCauses) := by
  by_cases hdraining : session.state = .draining
  swap
  · have hsame : session.completeDrain.2 = session := completeDrain_of_not_draining hdraining
    obtain rfl : session' = session := (congrArg Prod.snd h).symm.trans hsame
    exact Or.inl ⟨hopen.2, rfl⟩
  cases hrange : session.selectedRange with
  | none =>
      have hsame : session.completeDrain = (false, session) := by
        simp [completeDrain, hdraining, hrange]
      obtain ⟨_, rfl⟩ := Prod.mk.inj (hsame.symm.trans h)
      exact Or.inl ⟨hopen.2, rfl⟩
  | some range =>
      rcases completeDrain_cases hdraining hrange h with
        ⟨_, hfailed⟩ | ⟨_, ⟨_, hflush⟩ | ⟨middle, hflush, hfinal⟩⟩
      · exact Or.inr ⟨hfailed.state, by
          rw [List.mem_singleton.mp hfailed.cause]
          decide⟩
      · have hfailed := flushThrough_false hflush
        exact Or.inr ⟨hfailed.state, List.mem_cons_of_mem _ hfailed.cause⟩
      have hmiddle : middle.failure = session.failure := by
        rcases flushThrough_cases hflush with ⟨hfalse, _⟩ | ⟨_, rfl, _⟩ | ⟨_, _, _, _, _, _, rfl⟩
        · cases hfalse
        · rfl
        · rfl
      rcases finalizeAt_cases hfinal with ⟨_, hfailed⟩ | ⟨_, hstopped, hfailure, _⟩
      · exact Or.inr ⟨hfailed.state, by
          rw [List.mem_singleton.mp hfailed.cause]
          decide⟩
      · exact Or.inl ⟨by simp [hstopped], hfailure.trans hmiddle⟩

/-- One call on a session that has not ended: it keeps the session from
failing, with no cause recorded, or it fails it, and then as late only for a
packet at or below the last flushed CTS. -/
theorem step_settles (call : SessionCall) (hnone : session.failure = .none)
    (hopen : session.state ≠ .stopped ∧ session.state ≠ .failed) :
    ((session.step call).2.state ≠ .failed ∧ (session.step call).2.failure = .none) ∨
    ((session.step call).2.state = .failed ∧ ((session.step call).2.failure = .latePacket →
      ∃ stream packet, call = .submitPacket stream packet ∧
        ∃ last ∈ session.lastFlushedCts, packet.sourceCts ≤ last)) := by
  cases call with
  | start requestedStartCts =>
      simp only [step, start]
      split_ifs
      · exact Or.inr ⟨fail_state _, by simp⟩
      · exact Or.inl ⟨by simp, hnone⟩
  | setStreamExtraData stream extraData =>
      simp only [step, setStreamExtraData]
      split_ifs
      · exact Or.inl ⟨hopen.2, hnone⟩
      · exact Or.inl ⟨hopen.2, hnone⟩
  | submitPacket stream packet =>
      by_cases haccepting : session.Accepting
      · rcases submitPacket_settles haccepting
            (Prod.mk.eta (p := session.submitPacket stream packet)).symm with
          ⟨_, hstate, hfailure⟩ | ⟨_, hfailed, hlate⟩
        · exact Or.inl ⟨hstate, hfailure.trans hnone⟩
        · exact Or.inr ⟨hfailed, fun h => ⟨stream, packet, rfl, hlate h⟩⟩
      · simp only [step, submitPacket_of_not_accepting haccepting]
        exact Or.inr ⟨fail_state _, by simp⟩
  | pollStart currentSourceCts =>
      simp only [step, pollStart]
      split_ifs with hignored
      · exact Or.inl ⟨hopen.2, hnone⟩
      have hsettles := establishCommonStart_settles (not_not.mp hignored)
        (Prod.mk.eta (p := session.establishCommonStart)).symm
      split
      · rename_i middle hmiddle
        rw [hmiddle] at hsettles
        rcases hsettles with ⟨_, hstate, hfailure⟩ | ⟨hfalse, _⟩
        · exact Or.inl ⟨hstate, hfailure.trans hnone⟩
        · cases hfalse
      · rename_i middle hmiddle
        rw [hmiddle] at hsettles
        rcases hsettles with ⟨hfalse, _⟩ | ⟨_, hfailed, hcause⟩
        · cases hfalse
        split_ifs
        · exact Or.inr ⟨fail_state _, by simp⟩
        · refine Or.inr ⟨hfailed, fun hlate => ?_⟩
          rw [hlate] at hcause
          exact absurd hcause (by decide)
  | requestStop requestedStopCts =>
      simp only [step, requestStop]
      split_ifs with hended hfailed hwrong hrunning
      · exact Or.inl ⟨hopen.2, hnone⟩
      · exact absurd hfailed hopen.2
      · exact Or.inr ⟨fail_state _, by simp⟩
      · exact Or.inl ⟨by simp, hnone⟩
      · exact Or.inl ⟨hopen.2, hnone⟩
  | completeDrain =>
      rcases completeDrain_settles hopen (Prod.mk.eta (p := session.completeDrain)).symm with
        ⟨hstate, hfailure⟩ | ⟨hfailed, hcause⟩
      · exact Or.inl ⟨hstate, hfailure.trans hnone⟩
      · refine Or.inr ⟨hfailed, fun hlate => ?_⟩
        have hlate' : session.completeDrain.2.failure = .latePacket := hlate
        rw [hlate'] at hcause
        exact absurd hcause (by decide)
  | abort =>
      refine Or.inr ⟨abort_state hopen.1, fun hlate => ?_⟩
      simp only [step, abort, abortUnlocked] at hlate
      rw [if_neg (by simp [hopen])] at hlate
      obtain ⟨events, hevents, _⟩ := abortSinks_eq_record session
      rw [hevents] at hlate
      simp [record, clearBuffers, hnone] at hlate

variable {config : SynchronizedRecordingConfig} {streamConfig : PerStream PacketStreamConfig}
  {sink : PerStream (Option PacketSink)} {past : List SessionTransition}

/-- A reachable session that has not failed has recorded no cause. -/
theorem run_failure_none (hrun : Runs.Run step (create config streamConfig sink) past session) :
    session.state = .failed ∨ session.failure = .none := by
  refine hrun.stateInvariant (P := fun session => session.state = .failed ∨
    session.failure = .none) (Or.inr rfl) ?_
  intro session call hsession
  by_cases hended : session.state = .stopped ∨ session.state = .failed
  · cases hrefused : refusedAtEnd call with
    | true => exact Or.inl (step_of_refused hrefused hended)
    | false =>
        rw [step_of_not_refused hrefused hended]
        exact hsession
  · have hopen := not_or.mp hended
    rcases step_settles call (hsession.resolve_left hopen.2) hopen with ⟨_, hnone⟩ | ⟨hfailed, _⟩
    · exact Or.inr hnone
    · exact Or.inl hfailed

/-- The outcome of `session` stands in `later`: a stopped session is still
stopped with its range and without another call on its sinks, a failed one is
still failed for the same cause. -/
structure OutcomeKept (session later : SynchronizedRecordingSession) : Prop where
  stopped : session.state = .stopped → later.state = .stopped ∧ later.failure = .none ∧
    later.selectedRange = session.selectedRange ∧ later.calls = session.calls
  failed : session.state = .failed → later.state = .failed ∧ later.failure = session.failure

theorem exec_of_not_refused {calls : List SessionCall}
    (hcalls : ∀ call ∈ calls, refusedAtEnd call = false)
    (hended : session.state = .stopped ∨ session.state = .failed) :
    Runs.exec step session calls = session := by
  induction calls with
  | nil => rfl
  | cons call rest ih =>
      rw [Runs.exec_cons, step_of_not_refused (hcalls call List.mem_cons_self) hended]
      exact ih (fun call hmem => hcalls call (List.mem_cons_of_mem _ hmem))

/-- A session that failed for an invalid transition stays so, whatever comes. -/
theorem exec_of_invalid_transition (calls : List SessionCall)
    (hstate : session.state = .failed) (hfailure : session.failure = .invalidTransition) :
    (Runs.exec step session calls).state = .failed ∧
      (Runs.exec step session calls).failure = .invalidTransition := by
  induction calls generalizing session with
  | nil => exact ⟨hstate, hfailure⟩
  | cons call rest ih =>
      rw [Runs.exec_cons]
      have hstep := step_of_ended call (Or.inr hstate)
      split_ifs at hstep
      · rw [hstep]
        exact ih (fail_state _) (fail_failure _)
      · rw [hstep]
        exact ih hstate hfailure

/-- The first refused call after the end replaces the outcome by an invalid
transition, so only a session that failed for that very cause keeps its own. -/
theorem outcome_after_refused {calls : List SessionCall}
    (hended : session.state = .stopped ∨ session.state = .failed)
    (hkept : ∀ front, front <+: calls → OutcomeKept session (Runs.exec step session front)) :
    (∀ call ∈ calls, refusedAtEnd call = false) ∨
      (session.state = .failed ∧ session.failure = .invalidTransition) := by
  induction calls with
  | nil => exact Or.inl (by simp)
  | cons call rest ih =>
      cases hrefused : refusedAtEnd call with
      | true =>
          have hfirst := hkept [call] (List.prefix_append [call] rest)
          have hstep := step_of_ended call hended
          rw [if_pos hrefused] at hstep
          rw [Runs.exec_cons, Runs.exec_nil, hstep] at hfirst
          rcases hended with hstopped | hfailed
          · have hstill := (hfirst.stopped hstopped).1
            rw [fail_state] at hstill
            cases hstill
          · have hcause := (hfirst.failed hfailed).2
            rw [fail_failure] at hcause
            exact Or.inr ⟨hfailed, hcause.symm⟩
      | false =>
          have hsame := step_of_not_refused hrefused hended
          have hrest := ih (fun front hfront => by
            have hlonger := hkept (call :: front) ((List.prefix_cons_inj call).mpr hfront)
            rwa [Runs.exec_cons, hsame] at hlonger)
          refine hrest.imp_left (fun hall => ?_)
          intro other hmem
          rcases List.mem_cons.mp hmem with rfl | hold
          · exact hrefused
          · exact hall other hold

/-- After a reachable session has ended, its outcome stands at every point of
the calls that follow exactly when none of them is `Start` or `SubmitPacket`,
or the outcome is already a failure for an invalid transition. -/
theorem outcome_final_iff
    (hrun : Runs.Run step (create config streamConfig sink) past session)
    (hended : session.state = .stopped ∨ session.state = .failed) (calls : List SessionCall) :
    (∀ front, front <+: calls → OutcomeKept session (Runs.exec step session front)) ↔
      (∀ call ∈ calls, refusedAtEnd call = false) ∨
        (session.state = .failed ∧ session.failure = .invalidTransition) := by
  refine ⟨outcome_after_refused hended, ?_⟩
  rintro (hcalls | ⟨hfailed, hcause⟩) front hfront
  · rw [exec_of_not_refused (fun call hmem => hcalls call (hfront.subset hmem)) hended]
    refine ⟨fun hstopped => ⟨hstopped, ?_, rfl, rfl⟩, fun hfailed => ⟨hfailed, rfl⟩⟩
    exact (run_failure_none hrun).resolve_left (by simp [hstopped])
  · obtain ⟨hstill, hsame⟩ := exec_of_invalid_transition front hfailed hcause
    exact ⟨fun hstopped => by simp [hfailed] at hstopped,
      fun _ => ⟨hstill, hsame.trans hcause.symm⟩⟩

theorem outcome_final_iff_sample :
    (Runs.exec step (sampleSession 10 0) sampleCalls).state = .stopped ∧
      ∀ front, front <+: [SessionCall.requestStop 0, .completeDrain, .abort] →
        OutcomeKept (Runs.exec step (sampleSession 10 0) sampleCalls)
          (Runs.exec step (Runs.exec step (sampleSession 10 0) sampleCalls) front) :=
  ⟨by decide, (outcome_final_iff (Runs.run_exec (sampleSession 10 0) sampleCalls)
    (by decide) _).mpr (Or.inl (by decide))⟩

/-- A packet callback after the session has stopped loses the outcome. -/
theorem outcome_lost_to_late_callback :
    (Runs.exec step (sampleSession 10 0) sampleCalls).state = .stopped ∧
      ¬ OutcomeKept (Runs.exec step (sampleSession 10 0) sampleCalls)
        (Runs.exec step (sampleSession 10 0)
          (sampleCalls ++ [.submitPacket .A (samplePacket 140)])) := by
  refine ⟨by decide, fun hkept => ?_⟩
  have hstill := (hkept.stopped (by decide)).1
  revert hstill
  decide

end SynchronizedRecordingSession

end ObsSyncReplay
