import ObsSyncReplay.Recording.SessionOutcome

/-!
The cadence of what is committed. A selected prefix is checked step by step,
but the step from the last flushed CTS to the first one of the next flush lies
in no prefix. `SeamOnCadence` says of one call that this step, if the call
makes it, is on cadence; it decides whether the committed CTS are free of gaps.
-/

namespace ObsSyncReplay

namespace SynchronizedRecordingSession

variable {session session' : SynchronizedRecordingSession}
  {accepted : RecordingStream → List EncodedPacket}

theorem flushStablePackets_cadence (hne : session.sourceCtsStep ≠ 0)
    (h : session.flushStablePackets = (true, session')) :
    session'.sourceCtsStep = session.sourceCtsStep := by
  rcases flushStablePackets_cases h with
    ⟨_, rfl, _⟩ | ⟨_, _, ⟨hfalse, _⟩ | ⟨_, _, _, _, _, rfl⟩⟩
  · exact inferredStep_of_ne_zero hne
  · cases hfalse
  · exact inferredStep_of_ne_zero hne

theorem opened_cadence (hne : session.sourceCtsStep ≠ 0) (range : CommonPacketRange) :
    (session.opened range).sourceCtsStep = session.sourceCtsStep := by
  simp only [opened, inferSourceCtsStep, inferredStep, record, sizeTails, discardBoth, ne_eq, hne,
    not_false_eq_true, if_true]

theorem establishCommonStart_cadence {ok : Bool} (hne : session.sourceCtsStep ≠ 0)
    (hstate : session.state = .starting) (h : session.establishCommonStart = (ok, session')) :
    session'.state = .failed ∨ session'.sourceCtsStep = session.sourceCtsStep := by
  rcases establishCommonStart_cases hstate h with
    ⟨_, rfl, _⟩ | ⟨range, _, ⟨_, hfailed⟩ | hflush⟩
  · exact Or.inr rfl
  · exact Or.inl hfailed.state
  · cases ok with
    | true =>
        have hopened := opened_cadence hne range
        exact Or.inr ((flushStablePackets_cadence (hopened ▸ hne) hflush).trans hopened)
    | false => exact Or.inl (flushStablePackets_false hflush)

theorem submitPacket_cadence {stream : RecordingStream} {packet : EncodedPacket} {ok : Bool}
    (hne : session.sourceCtsStep ≠ 0) (h : session.submitPacket stream packet = (ok, session')) :
    session'.state = .failed ∨ session'.sourceCtsStep = session.sourceCtsStep := by
  by_cases haccepting : session.Accepting
  swap
  · obtain ⟨_, rfl⟩ := eq_fail ((submitPacket_of_not_accepting haccepting).symm.trans h)
    exact Or.inl (fail_state _)
  rcases submitPacket_cases haccepting h with
    ⟨_, rfl, _⟩ | ⟨_, hfailed, _⟩ | ⟨buffer, _, _, hadvance⟩
  · exact Or.inr rfl
  · exact Or.inl hfailed.state
  have hadmitted : (session.admitted stream packet buffer).sourceCtsStep ≠ 0 := by simpa using hne
  unfold advance at hadvance
  split_ifs at hadvance with hstarting hrunning
  · exact (establishCommonStart_cadence hadmitted hstarting hadvance).imp_right
      (fun h => h.trans admitted_sourceCtsStep)
  · cases ok with
    | true =>
        exact Or.inr ((flushStablePackets_cadence hadmitted hadvance).trans
          admitted_sourceCtsStep)
    | false => exact Or.inl (flushStablePackets_false hadvance)
  · obtain ⟨_, rfl⟩ := Prod.mk.inj hadvance
    exact Or.inr admitted_sourceCtsStep

/-- A configured cadence is never replaced before the session ends. -/
theorem step_cadence {call : SessionCall} (hne : session.sourceCtsStep ≠ 0)
    (hopen : (session.step call).2.state ≠ .stopped ∧ (session.step call).2.state ≠ .failed)
    (hconsistent : Consistent accepted session) :
    (session.step call).2.sourceCtsStep = session.sourceCtsStep := by
  cases call with
  | start requestedStartCts =>
      simp only [step, start] at hopen ⊢
      split_ifs at hopen ⊢
      · exact absurd (fail_state _) hopen.2
      · rfl
  | setStreamExtraData stream extraData =>
      simp only [step, setStreamExtraData]
      split_ifs <;> rfl
  | submitPacket stream packet =>
      exact (submitPacket_cadence hne
        (Prod.mk.eta (p := session.submitPacket stream packet)).symm).resolve_left hopen.2
  | pollStart currentSourceCts =>
      simp only [step, pollStart] at hopen ⊢
      split_ifs at hopen ⊢ with hignored
      · rfl
      have hestablish := establishCommonStart_cadence hne (not_not.mp hignored)
        (Prod.mk.eta (p := session.establishCommonStart)).symm
      split at hopen
      · rename_i middle hmiddle
        rw [hmiddle] at hestablish
        exact hestablish.resolve_left hopen.2
      · rename_i middle hmiddle
        rw [hmiddle] at hestablish
        split_ifs at hopen ⊢
        · exact absurd (fail_state _) hopen.2
        · exact hestablish.resolve_left hopen.2
  | requestStop requestedStopCts =>
      simp only [step, requestStop] at hopen ⊢
      split_ifs at hopen ⊢
      · rfl
      · rfl
      · exact absurd (fail_state _) hopen.2
      · rfl
      · rfl
  | completeDrain =>
      by_cases hdraining : session.state = .draining
      · cases hconsistent with
        | waiting hearly _ => rcases hearly with h | h <;> simp [h] at hdraining
        | live _ hlive =>
            rcases hlive.completeDrain hdraining
              (Prod.mk.eta (p := session.completeDrain)).symm with hfailed | ⟨_, _, hstopped, _⟩
            · exact absurd hfailed hopen.2
            · exact absurd hstopped hopen.1
        | finished hlate _ => simp [hlate] at hdraining
        | failed hlate => simp [hlate] at hdraining
      · rw [step, completeDrain_of_not_draining hdraining]
  | abort =>
      by_cases hstopped : session.state = .stopped
      · rw [step_of_not_refused rfl (Or.inl hstopped)]
      · exact absurd (abort_state hstopped) hopen.2

/-- If the two buffers begin with the same source CTS above the last flushed
one and within the bound of the call, then it is on cadence after the last
flushed one. -/
def SeamOnCadence (session : SynchronizedRecordingSession) (call : SessionCall) : Prop :=
  ∀ range ∈ session.selectedRange, ∀ last ∈ session.lastFlushedCts,
    ∀ upper ∈ session.flushBound call, ∀ next ≤ upper, last < next →
      CommonHead (session.flushing call) range.startCts next →
      OnCadence session.sourceCtsStep last next

/-- The batch of a flush is on cadence within. -/
theorem CommonBatch.isChain {flushing : SynchronizedRecordingSession} {startCts cts : Nat}
    {batch : List Nat} {expectedCtsStep : Nat} (hbatch : CommonBatch flushing startCts cts batch)
    (hne : expectedCtsStep ≠ 0) (hstep : flushing.inferredStep = expectedCtsStep)
    (hascending : batch.Pairwise (· < ·)) : batch.IsChain (OnCadence expectedCtsStep) := by
  have hbreaks := hbatch.onCadence
  rw [hstep] at hbreaks
  exact (isChain_onCadence_iff hne hascending).mp hbreaks

/-- A call leaves the log on cadence exactly when the log was and the seam of
the call is. -/
theorem Appends.onCadence_iff {flushing : SynchronizedRecordingSession} {startCts : Nat}
    {bound : Option Nat} {log log' : AscendingLog Nat} {expectedCtsStep : Nat}
    (happends : Appends flushing startCts bound log log') (hne : expectedCtsStep ≠ 0)
    (hstep : flushing.inferredStep = expectedCtsStep) :
    log'.entries.IsChain (OnCadence expectedCtsStep) ↔
      log.entries.IsChain (OnCadence expectedCtsStep) ∧
        ∀ last ∈ log.last?, ∀ upper ∈ bound, ∀ next ≤ upper, last < next →
          CommonHead flushing startCts next → OnCadence expectedCtsStep last next := by
  cases happends with
  | nothing hidle =>
      refine ⟨fun hlog => ⟨hlog, ?_⟩, And.left⟩
      intro last hlast upper hupper next hle hlt hhead
      refine absurd hhead (hidle upper hupper next hle (fun last' hlast' => ?_))
      rwa [Option.some.inj (hlast'.symm.trans hlast)]
  | @batch cts upper batch _ hbatch hupper hle hentries =>
      have hascending := log'.ascending
      rw [hentries] at hascending ⊢
      obtain ⟨_, hbatchAscending, hcross⟩ := List.pairwise_append.mp hascending
      have hinner := hbatch.isChain hne hstep hbatchAscending
      rw [List.isChain_append]
      constructor
      · rintro ⟨hlog, _, hseam⟩
        refine ⟨hlog, fun last hlast upper' _ next _ _ hhead => ?_⟩
        exact hseam last hlast next ((hbatch.starts .A).symm.trans (hhead .A))
      · rintro ⟨hlog, hseam⟩
        refine ⟨hlog, hinner, fun last hlast next hnext => ?_⟩
        have hmem := List.mem_of_head? hnext
        have hnextLe : next ≤ cts := by
          rw [← hbatch.held .A] at hmem
          simpa using (List.mem_filter.mp hmem).2
        exact hseam last hlast upper hupper next (hnextLe.trans hle)
          (hcross last (List.mem_of_getLast? hlast) next (List.mem_of_head? hnext))
          (fun stream => (hbatch.starts stream).trans hnext)

/-- The source CTS committed to one sink, in increasing order. -/
def committedCts (session : SynchronizedRecordingSession) (stream : RecordingStream) : List Nat :=
  (session.writtenCts stream).insertionSort (· ≤ ·)

/-- Neighbours among the committed CTS are on cadence, on both sinks. -/
def GapFree (expectedCtsStep : Nat) (session : SynchronizedRecordingSession) : Prop :=
  ∀ stream, (session.committedCts stream).IsChain (OnCadence expectedCtsStep)

theorem Recorded.gapFree_iff {rest : RecordingStream → List EncodedPacket} {startCts : Nat}
    {log : AscendingLog Nat} {expectedCtsStep : Nat}
    (hrecorded : Recorded accepted rest session startCts log) :
    GapFree expectedCtsStep session ↔ log.entries.IsChain (OnCadence expectedCtsStep) := by
  have hcommitted (stream : RecordingStream) : session.committedCts stream = log.entries :=
    AscendingLog.sorted_eq_of_perm (hrecorded.written stream)
  refine ⟨fun h => ?_, fun h stream => ?_⟩
  · rw [← hcommitted .A]
    exact h .A
  · rw [hcommitted stream]
    exact h

theorem Waiting.gapFree (hwaiting : Waiting accepted session) (expectedCtsStep : Nat) :
    GapFree expectedCtsStep session := by
  intro stream
  rw [committedCts, writtenCts, hwaiting.calls]
  exact .nil

theorem Waiting.seamOnCadence (hwaiting : Waiting accepted session) (call : SessionCall) :
    SeamOnCadence session call := by
  intro range hrange
  rw [hwaiting.range] at hrange
  cases hrange

theorem seamOnCadence_of_stopped (hstopped : session.state = .stopped) (call : SessionCall) :
    SeamOnCadence session call := by
  intro range _ last _ upper hupper
  have hbound : session.flushBound call = none := by
    cases call <;> simp [flushBound, hstopped]
  rw [hbound] at hupper
  cases hupper

/-- What is committed after a call is free of gaps exactly when it was before
and the seam of the call is on cadence. -/
theorem step_gapFree_iff {call : SessionCall} {expectedCtsStep : Nat} (hne : expectedCtsStep ≠ 0)
    (hcadence : session.state ≠ .stopped ∧ session.state ≠ .failed →
      session.sourceCtsStep = expectedCtsStep)
    (hconsistent : Consistent accepted session) (hopen : (session.step call).2.state ≠ .failed) :
    GapFree expectedCtsStep (session.step call).2 ↔
      GapFree expectedCtsStep session ∧ SeamOnCadence session call := by
  have hstep : session.step call = ((session.step call).1, (session.step call).2) := rfl
  cases hconsistent with
  | waiting hstate hwaiting =>
      have hcts := hcadence (by rcases hstate with h | h <;> simp [h])
      refine iff_of_true ?_ ⟨hwaiting.gapFree _, hwaiting.seamOnCadence call⟩
      rcases hwaiting.step hstate hstep with
        hfailed | ⟨_, hwaiting'⟩ | ⟨_, _, range, _, log, happends, hlive⟩
      · exact absurd hfailed hopen
      · exact hwaiting'.gapFree expectedCtsStep
      · have hflushing : (session.flushing call).sourceCtsStep = expectedCtsStep := by
          rw [← hcts]
          cases call <;> simp [flushing]
        have hopened : ((session.flushing call).opened range).sourceCtsStep = expectedCtsStep :=
          (opened_cadence (hflushing ▸ hne) range).trans hflushing
        rw [hlive.toRecorded.gapFree_iff, happends.onCadence_iff hne
          ((inferredStep_of_ne_zero (hopened ▸ hne)).trans hopened)]
        exact ⟨.nil, by simp⟩
  | @live startCts log hstate hlive =>
      have hcts := hcadence (by rcases hstate with h | h <;> simp [h])
      have hflushing : (session.flushing call).inferredStep = expectedCtsStep := by
        have hsame : (session.flushing call).sourceCtsStep = expectedCtsStep := by
          rw [← hcts]
          cases call <;> simp [flushing]
        exact (inferredStep_of_ne_zero (hsame ▸ hne)).trans hsame
      have hseam : SeamOnCadence session call ↔ ∀ last ∈ log.last?,
          ∀ upper ∈ session.flushBound call, ∀ next ≤ upper, last < next →
            CommonHead (session.flushing call) startCts next →
            OnCadence expectedCtsStep last next := by
        unfold SeamOnCadence
        rw [hlive.range, hlive.lastFlushed, hcts]
        simp only [Option.mem_def, Option.some.injEq, forall_eq']
      rcases hlive.step hstate hstep with hfailed | ⟨log', happends, hafter⟩
      · exact absurd hfailed hopen
      have hlog' : GapFree expectedCtsStep (session.step call).2 ↔
          log'.entries.IsChain (OnCadence expectedCtsStep) := by
        rcases hafter with ⟨_, hlive'⟩ | ⟨_, _, hfinished⟩
        · exact hlive'.toRecorded.gapFree_iff
        · obtain ⟨rest, hrecorded⟩ := hfinished.recorded
          exact hrecorded.gapFree_iff
      rw [hlog', happends.onCadence_iff hne hflushing, hlive.toRecorded.gapFree_iff, hseam]
  | finished hstate _ =>
      cases hrefused : refusedAtEnd call with
      | true => exact absurd (step_of_refused hrefused (Or.inl hstate)) hopen
      | false =>
          rw [step_of_not_refused hrefused (Or.inl hstate)]
          exact (and_iff_left (seamOnCadence_of_stopped hstate call)).symm
  | failed hstate => exact absurd (step_of_failed call hstate) hopen

variable {config : SynchronizedRecordingConfig} {streamConfig : PerStream PacketStreamConfig}
  {sink : PerStream (Option PacketSink)} {past : List SessionTransition}

theorem run_cadence (hrun : Runs.Run step (create config streamConfig sink) past session)
    (hne : config.expectedSourceCtsStep ≠ 0)
    (hopen : session.state ≠ .stopped ∧ session.state ≠ .failed) :
    session.sourceCtsStep = config.expectedSourceCtsStep := by
  have hall := hrun.invariant (P := fun _ session =>
    session.state ≠ .stopped ∧ session.state ≠ .failed →
      session.sourceCtsStep = config.expectedSourceCtsStep) (fun _ => rfl) ?_
  · exact hall hopen
  intro past session call hrun hbefore hopen'
  have hopen : session.state ≠ .stopped ∧ session.state ≠ .failed := by
    refine not_or.mp (fun hended => ?_)
    cases hrefused : refusedAtEnd call with
    | true => exact hopen'.2 (step_of_refused hrefused hended)
    | false =>
        rw [step_of_not_refused hrefused hended] at hopen'
        exact hended.elim hopen'.1 hopen'.2
  have hcts := hbefore hopen
  exact (step_cadence (hcts ▸ hne) hopen' (run_consistent hrun)).trans hcts

/-- With a configured cadence, a run that has not failed has committed its
source CTS without a gap, neighbours one step apart give or take one, exactly
when the seam of each of its calls was on cadence. -/
theorem committed_gap_free_iff
    (hrun : Runs.Run step (create config streamConfig sink) past session)
    (hne : config.expectedSourceCtsStep ≠ 0) (hopen : session.state ≠ .failed) :
    GapFree config.expectedSourceCtsStep session ↔
      ∀ transition ∈ past, SeamOnCadence transition.before transition.input := by
  have hall := hrun.invariant (P := fun past session => session.state ≠ .failed →
    (GapFree config.expectedSourceCtsStep session ↔
      ∀ transition ∈ past, SeamOnCadence transition.before transition.input))
    (fun _ => iff_of_true (waiting_create.gapFree _) (by simp)) ?_
  · exact hall hopen
  intro past session call hrun hbefore hopen'
  have hopen : session.state ≠ .failed := fun hfailed => hopen' (step_of_failed call hfailed)
  rw [step_gapFree_iff hne (run_cadence hrun hne) (run_consistent hrun) hopen', hbefore hopen]
  simp only [List.mem_append, List.mem_singleton, or_imp, forall_and, forall_eq]
  rfl

/-- A run at cadence ten, one packet after the other on both streams. -/
def steadyCalls : List SessionCall :=
  [.start 90, .submitPacket .A (samplePacket 100 true), .submitPacket .B (samplePacket 100 true),
    .submitPacket .A (samplePacket 110), .submitPacket .B (samplePacket 110),
    .submitPacket .A (samplePacket 120), .submitPacket .B (samplePacket 120),
    .requestStop 120, .completeDrain]

theorem committed_gap_free_iff_steady :
    (Runs.exec step (sampleSession 10 10) steadyCalls).committedCts .A = [100, 110, 120] ∧
      GapFree 10 (Runs.exec step (sampleSession 10 10) steadyCalls) := by
  -- the head of one of the two buffers is enough here
  have hseams : ∀ transition ∈ Runs.history step (sampleSession 10 10) steadyCalls,
      ∀ range ∈ transition.before.selectedRange, ∀ last ∈ transition.before.lastFlushedCts,
        ∀ next ∈ (((transition.before.flushing transition.input).buffer.get .A).ctsFrom
            range.startCts).head?,
          last < next → OnCadence transition.before.sourceCtsStep last next := by
    unfold OnCadence
    decide
  refine ⟨by decide, (committed_gap_free_iff (Runs.run_exec (sampleSession 10 10) steadyCalls)
    (by decide) (by decide)).mpr ?_⟩
  intro transition htransition range hrange last hlast _ _ next _ hafter hcommon
  exact hseams transition htransition range hrange last hlast next (hcommon .A) hafter

/-- The slot 120 is missing from both streams. It lies between the flush that
ends at 110 and the one that begins at 130, and the second is made. -/
def gapCalls : List SessionCall :=
  [.start 90, .submitPacket .A (samplePacket 100 true), .submitPacket .B (samplePacket 100 true),
    .submitPacket .A (samplePacket 110), .submitPacket .B (samplePacket 110),
    .submitPacket .A (samplePacket 130), .submitPacket .B (samplePacket 130),
    .submitPacket .A (samplePacket 140), .submitPacket .B (samplePacket 140)]

theorem gap_committed_across_flushes :
    (Runs.exec step (sampleSession 10 10) gapCalls).state = .running ∧
      (Runs.exec step (sampleSession 10 10) gapCalls).committedCts .A = [100, 110, 130] ∧
      ¬ GapFree 10 (Runs.exec step (sampleSession 10 10) gapCalls) := by
  have hcommitted :
      (Runs.exec step (sampleSession 10 10) gapCalls).committedCts .A = [100, 110, 130] := by
    decide
  refine ⟨by decide, hcommitted, fun hgapFree => ?_⟩
  have hchain := hgapFree .A
  rw [hcommitted] at hchain
  revert hchain
  decide

end SynchronizedRecordingSession

end ObsSyncReplay
