import ObsSyncReplay.Recording.SessionOutcome

/-!
The reorder budget. A running session flushes only what lies at least the
budget below the newest CTS of both streams, so packets that stay within the
budget of their own stream never arrive below what was flushed.
-/

namespace ObsSyncReplay

/-- No source CTS repeats, and none lies more than the budget below an earlier
one of the same stream. -/
def WithinReorderBudget (reorderSafetyCts : Nat) (packets : List EncodedPacket) : Prop :=
  packets.Pairwise (fun earlier later => later.sourceCts ≠ earlier.sourceCts ∧
    earlier.sourceCts ≤ later.sourceCts + reorderSafetyCts)

instance (reorderSafetyCts : Nat) (packets : List EncodedPacket) :
    Decidable (WithinReorderBudget reorderSafetyCts packets) :=
  inferInstanceAs (Decidable (packets.Pairwise _))

theorem submittedPackets_append (past : List SessionTransition)
    (transition : SessionTransition) :
    submittedPackets (past ++ [transition]) =
      acceptCall (submittedPackets past) transition.input true := by
  obtain ⟨before, input, output, after⟩ := transition
  funext stream
  rw [submittedPackets, List.filterMap_append, ← submittedPackets]
  cases input with
  | submitPacket other packet =>
      by_cases h : stream = other
      · subst h
        simp [acceptCall]
      · simp [acceptCall, accept_of_ne _ _ h, Ne.symm h]
  | start _ => simp [acceptCall]
  | setStreamExtraData _ _ => simp [acceptCall]
  | pollStart _ => simp [acceptCall]
  | requestStop _ => simp [acceptCall]
  | completeDrain => simp [acceptCall]
  | abort => simp [acceptCall]

namespace SynchronizedRecordingSession

variable {session session' : SynchronizedRecordingSession}
  {accepted submitted : RecordingStream → List EncodedPacket}
  {config : SynchronizedRecordingConfig}

/-- The last flushed CTS leaves the budget below the newest CTS of each
stream, and that one was submitted, unless nothing was observed yet. -/
structure Budget (config : SynchronizedRecordingConfig)
    (submitted : RecordingStream → List EncodedPacket)
    (session : SynchronizedRecordingSession) : Prop where
  config_eq : session.config = config
  lag : ∀ last ∈ session.lastFlushedCts, ∀ stream,
    last + config.reorderSafetyCts ≤ session.maxObservedCts.get stream
  observed : ∀ stream, session.maxObservedCts.get stream = 0 ∨
    ∃ packet ∈ submitted stream, packet.sourceCts = session.maxObservedCts.get stream

theorem Budget.congr {submitted' : RecordingStream → List EncodedPacket}
    (hbudget : Budget config submitted session)
    (hsubmitted : ∀ stream, submitted stream ⊆ submitted' stream)
    (hconfig : session'.config = session.config)
    (hlast : session'.lastFlushedCts = session.lastFlushedCts)
    (hmax : session'.maxObservedCts = session.maxObservedCts) :
    Budget config submitted' session' where
  config_eq := hconfig.trans hbudget.config_eq
  lag := by
    rw [hlast, hmax]
    exact hbudget.lag
  observed stream := by
    rw [hmax]
    refine (hbudget.observed stream).imp_right ?_
    rintro ⟨packet, hmem, hpacket⟩
    exact ⟨packet, hsubmitted stream hmem, hpacket⟩

/-- A stable flush stays the budget below both newest CTS. -/
theorem Budget.flushStablePackets (hbudget : Budget config submitted session)
    (h : session.flushStablePackets = (true, session')) : Budget config submitted session' := by
  rcases flushStablePackets_cases h with
    ⟨_, rfl, _⟩ | ⟨cts, hend, ⟨hfalse, _⟩ | ⟨_, range, _, _, _, rfl⟩⟩
  · exact hbudget.congr (fun _ => List.Subset.refl _) rfl rfl rfl
  · cases hfalse
  · obtain ⟨_, _, watermark, hwatermark, hselect, _⟩ := stableEnd_eq_some hend
    have hbelow := selectCommonPrefixEnd_le hselect
    have hlag := runningWatermark_add_le hwatermark
    rw [hbudget.config_eq] at hlag
    refine ⟨hbudget.config_eq, fun last hlast stream => ?_, hbudget.observed⟩
    obtain rfl := Option.some.inj hlast
    rw [flushed_maxObservedCts]
    cases stream with
    | A => exact (Nat.add_le_add_right hbelow _).trans (hlag.trans (min_le_left _ _))
    | B => exact (Nat.add_le_add_right hbelow _).trans (hlag.trans (min_le_right _ _))

theorem subset_accept (stream : RecordingStream) (packet : EncodedPacket)
    (other : RecordingStream) : submitted other ⊆ accept submitted stream packet other :=
  fun _ hmem => mem_accept hmem

theorem Budget.admission {stream : RecordingStream} {packet : EncodedPacket}
    {buffer : EncodedPacketBuffer} (hbudget : Budget config submitted session) :
    Budget config (accept submitted stream packet)
      (session.admitted stream packet buffer) where
  config_eq := admitted_config.trans hbudget.config_eq
  lag last hlast other := by
    rw [admitted_lastFlushedCts] at hlast
    rw [admitted_maxObservedCts]
    have hlag := hbudget.lag last hlast other
    by_cases h : other = stream
    · subst h
      rw [PerStream.get_set_self]
      exact hlag.trans (le_max_left _ _)
    · rwa [PerStream.get_set_of_ne _ _ h]
  observed other := by
    rw [admitted_maxObservedCts]
    have hkept : session.maxObservedCts.get other = 0 ∨
        ∃ old ∈ accept submitted stream packet other,
          old.sourceCts = session.maxObservedCts.get other := by
      refine (hbudget.observed other).imp_right ?_
      rintro ⟨old, hmem, hold⟩
      exact ⟨old, mem_accept hmem, hold⟩
    by_cases h : other = stream
    · subst h
      rw [PerStream.get_set_self]
      rcases max_choice (session.maxObservedCts.get other) packet.sourceCts with hmax | hmax
      · rwa [hmax]
      · exact Or.inr ⟨packet, by simp, hmax.symm⟩
    · rwa [PerStream.get_set_of_ne _ _ h]

/-- Once the start is found the newest CTS are read off the two buffers, which
hold submitted packets only. -/
theorem Budget.opened {range : CommonPacketRange} (hbudget : Budget config submitted session)
    (hwaiting : Waiting accepted session)
    (haccepted : ∀ stream, accepted stream ⊆ submitted stream)
    (hrange : (selectCommonStart session.buffer.a session.buffer.b
      session.requestedStartCts).range = some range) :
    Budget config submitted (session.opened range) where
  config_eq := hbudget.config_eq
  lag last hlast := by
    have hnone : (session.opened range).lastFlushedCts = session.lastFlushedCts := rfl
    rw [hnone, hwaiting.lastFlushed] at hlast
    cases hlast
  observed stream := by
    have hlive := hwaiting.opened hrange
    have hnewest : (session.opened range).maxObservedCts.get stream =
        newestCts range.startCts ((session.opened range).buffer.get stream) := by
      cases stream <;> rfl
    rw [hnewest]
    unfold newestCts
    split
    · rename_i hempty
      obtain ⟨opener, hopener, _⟩ := hlive.opening hwaiting.lastFlushed stream
      rw [List.getLast?_eq_none_iff.mp hempty] at hopener
      cases hopener
    · rename_i newest hlast
      refine Or.inr ⟨newest, haccepted stream ?_, rfl⟩
      have hheld := List.mem_of_getLast? hlast
      rw [EncodedPacketBuffer.snapshot, OrderedMap.values, opened_buffer,
        OrderedMap.entries_eraseBefore] at hheld
      obtain ⟨e, he, rfl⟩ := List.mem_map.mp hheld
      rw [(hwaiting.conserved stream).mem_iff]
      exact List.mem_map_of_mem (List.mem_of_mem_filter he)

theorem Budget.establishCommonStart {ok : Bool} (hbudget : Budget config submitted session)
    (hwaiting : Waiting accepted session)
    (haccepted : ∀ stream, accepted stream ⊆ submitted stream)
    (hstate : session.state = .starting)
    (h : session.establishCommonStart = (ok, session')) :
    session'.state = .failed ∨ Budget config submitted session' := by
  rcases establishCommonStart_cases hstate h with
    ⟨_, rfl, _⟩ | ⟨range, hrange, ⟨_, hfailed⟩ | hflush⟩
  · exact Or.inr hbudget
  · exact Or.inl hfailed.state
  · cases ok with
    | true =>
        exact Or.inr ((hbudget.opened hwaiting haccepted hrange).flushStablePackets hflush)
    | false => exact Or.inl (flushStablePackets_false hflush)

theorem Budget.submitPacket {stream : RecordingStream} {packet : EncodedPacket} {ok : Bool}
    (hbudget : Budget config submitted session) (hconsistent : Consistent accepted session)
    (haccepted : ∀ stream, accepted stream ⊆ submitted stream)
    (h : session.submitPacket stream packet = (ok, session')) :
    session'.state = .failed ∨ Budget config (accept submitted stream packet) session' := by
  by_cases haccepting : session.Accepting
  swap
  · obtain ⟨_, rfl⟩ := eq_fail ((submitPacket_of_not_accepting haccepting).symm.trans h)
    exact Or.inl (fail_state _)
  rcases submitPacket_cases haccepting h with
    ⟨_, rfl, _⟩ | ⟨_, hfailed, _⟩ | ⟨buffer, hpush, _, hadvance⟩
  · exact Or.inr (hbudget.congr (subset_accept stream packet) rfl rfl rfl)
  · exact Or.inl hfailed.state
  have hadmitted : Budget config (accept submitted stream packet)
      (session.admitted stream packet buffer) := hbudget.admission
  unfold advance at hadvance
  split_ifs at hadvance with hstarting hrunning
  · rw [admitted_state] at hstarting
    have hwaiting := hconsistent.waiting_of_starting hstarting
    refine hadmitted.establishCommonStart (hwaiting.admission hpush) (fun other => ?_)
      (admitted_state.trans hstarting) hadvance
    rw [accept_eq_append, accept_eq_append]
    exact List.append_subset.mpr ⟨List.Subset.trans (haccepted other) (List.subset_append_left _ _),
      List.subset_append_right _ _⟩
  · cases ok with
    | true => exact Or.inr (hadmitted.flushStablePackets hadvance)
    | false => exact Or.inl (flushStablePackets_false hadvance)
  · obtain ⟨_, rfl⟩ := Prod.mk.inj hadvance
    exact Or.inr hadmitted

/-- One call keeps the budget, unless it fails the session or finishes it. -/
theorem Budget.step {call : SessionCall} (hbudget : Budget config submitted session)
    (hconsistent : Consistent accepted session)
    (haccepted : ∀ stream, accepted stream ⊆ submitted stream) :
    (session.step call).2.state = .failed ∨ (session.step call).2.state = .stopped ∨
      Budget config (acceptCall submitted call true) (session.step call).2 := by
  have hkept {session' : SynchronizedRecordingSession}
      (hconfig : session'.config = session.config)
      (hlast : session'.lastFlushedCts = session.lastFlushedCts)
      (hmax : session'.maxObservedCts = session.maxObservedCts) :
      Budget config submitted session' :=
    hbudget.congr (fun _ => List.Subset.refl _) hconfig hlast hmax
  cases call with
  | start requestedStartCts =>
      simp only [SynchronizedRecordingSession.step, start]
      split_ifs
      · exact Or.inl (fail_state _)
      · exact Or.inr (Or.inr (hkept rfl rfl rfl))
  | setStreamExtraData stream extraData =>
      simp only [SynchronizedRecordingSession.step, setStreamExtraData]
      split_ifs <;> exact Or.inr (Or.inr (hkept rfl rfl rfl))
  | submitPacket stream packet =>
      rcases hbudget.submitPacket hconsistent haccepted
        (Prod.mk.eta (p := session.submitPacket stream packet)).symm with hfailed | hbudget'
      · exact Or.inl hfailed
      · exact Or.inr (Or.inr hbudget')
  | pollStart currentSourceCts =>
      simp only [SynchronizedRecordingSession.step, pollStart]
      split_ifs with hignored
      · exact Or.inr (Or.inr hbudget)
      have hstarting : session.state = .starting := not_not.mp hignored
      have hwaiting := hconsistent.waiting_of_starting hstarting
      have hestablish := hbudget.establishCommonStart hwaiting haccepted hstarting
        (Prod.mk.eta (p := session.establishCommonStart)).symm
      split
      · rename_i middle hmiddle
        rw [hmiddle] at hestablish
        exact hestablish.imp_right Or.inr
      · rename_i middle hmiddle
        split_ifs
        · exact Or.inl (fail_state _)
        · rw [hmiddle] at hestablish
          exact hestablish.imp_right Or.inr
  | requestStop requestedStopCts =>
      simp only [SynchronizedRecordingSession.step, requestStop]
      split_ifs
      · exact Or.inr (Or.inr hbudget)
      · exact Or.inr (Or.inr hbudget)
      · exact Or.inl (fail_state _)
      · exact Or.inr (Or.inr (hkept rfl rfl rfl))
      · exact Or.inr (Or.inr (hkept rfl rfl rfl))
  | completeDrain =>
      by_cases hdraining : session.state = .draining
      · cases hconsistent with
        | waiting hearly _ => rcases hearly with h | h <;> simp [h] at hdraining
        | live _ hlive =>
            rcases hlive.completeDrain hdraining
              (Prod.mk.eta (p := session.completeDrain)).symm with hfailed | ⟨_, _, hstopped, _⟩
            · exact Or.inl hfailed
            · exact Or.inr (Or.inl hstopped)
        | finished hlate _ => simp [hlate] at hdraining
        | failed hlate => simp [hlate] at hdraining
      · rw [SynchronizedRecordingSession.step, completeDrain_of_not_draining hdraining]
        exact Or.inr (Or.inr hbudget)
  | abort =>
      by_cases hstopped : session.state = .stopped
      · refine Or.inr (Or.inl ?_)
        rw [step_of_not_refused rfl (Or.inl hstopped)]
        exact hstopped
      · exact Or.inl (abort_state hstopped)

variable {streamConfig : PerStream PacketStreamConfig} {sink : PerStream (Option PacketSink)}
  {past : List SessionTransition}

theorem run_budget (hrun : Runs.Run step (create config streamConfig sink) past session) :
    session.state = .failed ∨ session.state = .stopped ∨
      Budget config (submittedPackets past) session := by
  refine hrun.invariant (P := fun past session => session.state = .failed ∨
    session.state = .stopped ∨ Budget config (submittedPackets past) session)
    (Or.inr (Or.inr ⟨rfl, by simp [create], fun stream => Or.inl (by simp [create])⟩)) ?_
  intro past session call hrun hsession
  rw [submittedPackets_append]
  by_cases hended : session.state = .stopped ∨ session.state = .failed
  · cases hrefused : refusedAtEnd call with
    | true => exact Or.inl (step_of_refused hrefused hended)
    | false =>
        rw [step_of_not_refused hrefused hended]
        rcases hended with hstopped | hfailed
        · exact Or.inr (Or.inl hstopped)
        · exact Or.inl hfailed
  · obtain ⟨hstopped, hfailed⟩ := not_or.mp hended
    have hbudget := (hsession.resolve_left hfailed).resolve_left hstopped
    exact hbudget.step (run_consistent hrun) (fun stream => acceptedPackets_subset stream)

/-- A packet within the budget of its stream lies above everything flushed. -/
theorem not_late_of_withinReorderBudget {stream : RecordingStream} {packet : EncodedPacket}
    (hrun : Runs.Run step (create config streamConfig sink) past session)
    (hopen : session.state ≠ .stopped ∧ session.state ≠ .failed)
    (hwithin : WithinReorderBudget config.reorderSafetyCts
      (submittedPackets past stream ++ [packet])) :
    ∀ last ∈ session.lastFlushedCts, last < packet.sourceCts := by
  intro last hlast
  have hbudget := ((run_budget hrun).resolve_left hopen.2).resolve_left hopen.1
  have hlag := hbudget.lag last hlast stream
  have hearlier (old : EncodedPacket) (hmem : old ∈ submittedPackets past stream) :
      packet.sourceCts ≠ old.sourceCts ∧
        old.sourceCts ≤ packet.sourceCts + config.reorderSafetyCts :=
    (List.pairwise_append.mp hwithin).2.2 old hmem packet (by simp)
  have hle : last ≤ packet.sourceCts := by
    rcases hbudget.observed stream with hzero | ⟨newest, hmem, hnewest⟩
    · omega
    · have hroom := (hearlier newest hmem).2
      omega
  have hne : packet.sourceCts ≠ last := by
    cases run_consistent hrun with
    | waiting _ hwaiting =>
        rw [hwaiting.lastFlushed] at hlast
        cases hlast
    | live _ hlive =>
        obtain ⟨old, hmem, rfl⟩ := hlive.last_accepted (hlive.lastFlushed ▸ hlast) stream
        exact (hearlier old (acceptedPackets_subset stream hmem)).1
    | finished hstopped _ => exact absurd hstopped hopen.1
    | failed hfailed => exact absurd hfailed hopen.2
  omega

/-- One call never records a late packet in a run within the budget. -/
theorem step_not_late {call : SessionCall}
    (hrun : Runs.Run step (create config streamConfig sink) past session)
    (hnotLate : session.failure ≠ .latePacket)
    (hwithin : ∀ stream, WithinReorderBudget config.reorderSafetyCts
      (submittedPackets (past ++ [Runs.transition step session call]) stream)) :
    (session.step call).2.failure ≠ .latePacket := by
  by_cases hended : session.state = .stopped ∨ session.state = .failed
  · have hstep := step_of_ended call hended
    split_ifs at hstep
    · simp [hstep]
    · rwa [hstep]
  have hopen := not_or.mp hended
  have hnone := (run_failure_none hrun).resolve_left hopen.2
  intro hlate
  rcases step_settles call hnone hopen with ⟨_, hstill⟩ | ⟨_, hcause⟩
  · simp [hstill] at hlate
  obtain ⟨stream, packet, rfl, last, hlast, hle⟩ := hcause hlate
  have hstream := hwithin stream
  rw [submittedPackets_append] at hstream
  simp only [Runs.transition, acceptCall, accept_self] at hstream
  exact absurd hle (not_le.mpr (not_late_of_withinReorderBudget hrun hopen hstream last hlast))

/-- In a run whose submitted packets stay within the reorder budget of their
own stream no call fails for a late packet; and in every run a running session
has flushed nothing above the newest common CTS less the budget. -/
theorem recording_reorder_budget
    (hrun : Runs.Run step (create config streamConfig sink) past session) :
    ((∀ stream, WithinReorderBudget config.reorderSafetyCts (submittedPackets past stream)) →
      ∀ transition ∈ past, transition.after.failure ≠ .latePacket) ∧
    (session.state = .running → ∀ last ∈ session.lastFlushedCts,
      last + config.reorderSafetyCts ≤
        min session.maxObservedCts.a session.maxObservedCts.b) := by
  constructor
  · intro hwithin
    have hall := hrun.invariant (P := fun past session =>
      (∀ stream, WithinReorderBudget config.reorderSafetyCts (submittedPackets past stream)) →
        session.failure ≠ .latePacket ∧
          ∀ transition ∈ past, transition.after.failure ≠ .latePacket)
      (fun _ => ⟨by simp [create], by simp⟩) ?_ hwithin
    · exact hall.2
    intro past session call hrun hbefore hwithin
    have hshorter (stream : RecordingStream) :
        WithinReorderBudget config.reorderSafetyCts (submittedPackets past stream) :=
      (hwithin stream).sublist ((List.sublist_append_left past _).filterMap _)
    obtain ⟨hnotLate, hpast⟩ := hbefore hshorter
    have hafter := step_not_late hrun hnotLate hwithin
    refine ⟨hafter, fun transition hmem => ?_⟩
    rcases List.mem_append.mp hmem with hold | hnew
    · exact hpast transition hold
    · obtain rfl := List.mem_singleton.mp hnew
      exact hafter
  · intro hrunning last hlast
    have hbudget := ((run_budget hrun).resolve_left (by simp [hrunning])).resolve_left
      (by simp [hrunning])
    exact le_min (hbudget.lag last hlast .A) (hbudget.lag last hlast .B)

/-- A run in which the packet 110 of stream A arrives after its packet 120. -/
def reorderedCalls : List SessionCall :=
  [.start 90, .submitPacket .A (samplePacket 100 true), .submitPacket .B (samplePacket 100 true),
    .submitPacket .A (samplePacket 120), .submitPacket .A (samplePacket 110),
    .submitPacket .B (samplePacket 110), .submitPacket .B (samplePacket 120)]

theorem recording_reorder_budget_reordered :
    (∀ transition ∈ Runs.history step (sampleSession 10 0) reorderedCalls,
        transition.after.failure ≠ .latePacket) ∧
      ∀ last ∈ (Runs.exec step (sampleSession 10 0) reorderedCalls).lastFlushedCts,
        last + 10 ≤ min (Runs.exec step (sampleSession 10 0) reorderedCalls).maxObservedCts.a
          (Runs.exec step (sampleSession 10 0) reorderedCalls).maxObservedCts.b :=
  (recording_reorder_budget (Runs.run_exec (sampleSession 10 0) reorderedCalls)).imp
    (fun h => h (by intro stream; cases stream <;> decide)) (fun h => h (by decide))

example : (Runs.exec step (sampleSession 10 0) reorderedCalls).lastFlushedCts = some 110 := by
  decide

end SynchronizedRecordingSession

end ObsSyncReplay
