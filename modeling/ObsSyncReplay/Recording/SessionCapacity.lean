import ObsSyncReplay.Recording.BufferAccounts
import ObsSyncReplay.Recording.SessionAgreement

/-!
The room that a session's buffers have. Nothing but the common start sets their capacity, so a
stream holds at most the pre-roll before it and at most the tail while the session records.
-/

namespace ObsSyncReplay

namespace SynchronizedRecordingSession

variable {session session' session'' : SynchronizedRecordingSession}
  {config : SynchronizedRecordingConfig}

/-- The session goes on with the buffers it had: packets come and go, and their capacity stays. -/
structure Follows (session session' : SynchronizedRecordingSession) : Prop where
  config : session'.config = session.config
  started : session'.selectedRange = none → session.selectedRange = none
  state : session'.state = .running ∨ session'.state = .draining →
    session.state = .running ∨ session.state = .draining
  capacity : ∀ stream, (session'.buffer.get stream).capacityBytes =
    (session.buffer.get stream).capacityBytes
  reachable : ∀ stream, (session.buffer.get stream).Reachable →
    (session'.buffer.get stream).Reachable

theorem Follows.refl (session : SynchronizedRecordingSession) : Follows session session :=
  ⟨rfl, id, id, fun _ => rfl, fun _ => id⟩

theorem Follows.trans (h : Follows session session') (h' : Follows session' session'') :
    Follows session session'' where
  config := h'.config.trans h.config
  started hnone := h.started (h'.started hnone)
  state hstate := h.state (h'.state hstate)
  capacity stream := (h'.capacity stream).trans (h.capacity stream)
  reachable stream hreachable := h'.reachable stream (h.reachable stream hreachable)

theorem follows_record (session : SynchronizedRecordingSession) (events : List SinkEvent) :
    Follows session (session.record events) :=
  ⟨rfl, id, id, fun _ => rfl, fun _ => id⟩

theorem follows_infer (session : SynchronizedRecordingSession) :
    Follows session session.inferSourceCtsStep :=
  ⟨rfl, id, id, fun _ => rfl, fun _ => id⟩

theorem follows_fail {failure : SynchronizedRecordingFailure} {ok : Bool}
    (h : session.fail failure = (ok, session')) : Follows session session' := by
  obtain ⟨events, heq, -⟩ := fail_eq session failure
  obtain ⟨-, rfl⟩ := Prod.mk.inj (heq.symm.trans h)
  exact ⟨rfl, id, by simp [record], fun _ => rfl, fun _ => id⟩

theorem follows_abortSinks (session : SynchronizedRecordingSession) :
    Follows session session.abortSinks := by
  obtain ⟨events, heq, -⟩ := abortSinks_eq_record session
  rw [heq]
  exact follows_record session events

theorem follows_discardBoth (session : SynchronizedRecordingSession) (sourceCts : Nat) :
    Follows session (session.discardBoth sourceCts) where
  config := rfl
  started := id
  state := id
  capacity stream := by
    simp only [discardBoth, PerStream.get_map]
    rfl
  reachable stream h := by
    simp only [discardBoth, PerStream.get_map]
    exact h.discardBefore sourceCts

theorem follows_clearBuffers (session : SynchronizedRecordingSession) :
    Follows session session.clearBuffers where
  config := rfl
  started := id
  state := id
  capacity stream := by
    simp only [clearBuffers, PerStream.get_map]
    rfl
  reachable stream h := by
    simp only [clearBuffers, PerStream.get_map]
    exact h.clear

theorem follows_callBoth {requestA requestB : SinkCall} {ok : Bool}
    (h : session.callBoth requestA requestB = (ok, session')) : Follows session session' := by
  cases ok with
  | true =>
      rw [callBoth_true h]
      exact follows_record session _
  | false =>
      obtain ⟨events, rfl, -⟩ := callBoth_false h
      exact follows_record session events

theorem follows_writeAll {stream : RecordingStream} {packets : List EncodedPacket} {ok : Bool}
    (h : writeAll stream packets session = (ok, session')) : Follows session session' := by
  cases ok with
  | true =>
      rw [writeAll_true h]
      exact follows_record session _
  | false =>
      obtain ⟨events, rfl, -⟩ := writeAll_false h
      exact follows_record session events

theorem follows_writeSelected {sourceCts : Nat} {selected : PerStream (List EncodedPacket)}
    {ok : Bool} (h : session.writeSelected sourceCts selected = (ok, session')) :
    Follows session session' := by
  unfold writeSelected at h
  split at h
  · rename_i middle hA
    obtain ⟨-, rfl⟩ := Prod.mk.inj h
    exact follows_writeAll hA
  rename_i middle hA
  split at h
  · rename_i last hB
    obtain ⟨-, rfl⟩ := Prod.mk.inj h
    exact (follows_writeAll hA).trans (follows_writeAll hB)
  · rename_i last hB
    exact ((follows_writeAll hA).trans (follows_writeAll hB)).trans (follows_callBoth h)

theorem follows_flushThrough {sourceCts : Nat} {ok : Bool}
    (h : session.flushThrough sourceCts = (ok, session')) : Follows session session' := by
  unfold flushThrough at h
  split at h
  · exact follows_fail h
  rename_i range hrange
  split at h
  · exact follows_fail h
  split at h
  · obtain ⟨-, rfl⟩ := Prod.mk.inj h
    exact .refl session
  -- from here on the cadence has been inferred
  dsimp only at h
  split at h
  · exact (follows_infer session).trans (follows_fail h)
  split at h
  · exact (follows_infer session).trans (follows_fail h)
  split at h
  · exact (follows_infer session).trans (follows_fail h)
  split at h
  · rename_i middle hwrite
    exact ((follows_infer session).trans (follows_writeSelected hwrite)).trans (follows_fail h)
  · rename_i middle hwrite
    obtain ⟨-, rfl⟩ := Prod.mk.inj h
    have hwritten := (follows_infer session).trans (follows_writeSelected hwrite)
    have hdiscarded := hwritten.trans (follows_discardBoth middle (uint64Succ sourceCts))
    exact ⟨hdiscarded.config, hdiscarded.started, hdiscarded.state, hdiscarded.capacity,
      hdiscarded.reachable⟩

theorem follows_flushStablePackets {ok : Bool}
    (h : session.flushStablePackets = (ok, session')) : Follows session session' := by
  rw [flushStablePackets_eq] at h
  split at h
  · obtain ⟨-, rfl⟩ := Prod.mk.inj h
    exact follows_infer session
  · exact (follows_infer session).trans (follows_flushThrough h)

theorem follows_finalizeAt {commonEndCts : Nat} {ok : Bool}
    (h : session.finalizeAt commonEndCts = (ok, session')) : Follows session session' := by
  unfold finalizeAt at h
  split at h
  · rename_i asked hasked
    exact ((follows_callBoth hasked).trans (follows_abortSinks asked)).trans (follows_fail h)
  · rename_i asked hasked
    obtain ⟨-, rfl⟩ := Prod.mk.inj h
    have hcleared := (follows_callBoth hasked).trans (follows_clearBuffers asked)
    refine ⟨hcleared.config, fun hnone => hcleared.started ?_, by simp, hcleared.capacity,
      hcleared.reachable⟩
    exact Option.map_eq_none_iff.mp hnone

theorem follows_completeDrain {ok : Bool} (h : session.completeDrain = (ok, session')) :
    Follows session session' := by
  unfold completeDrain at h
  split at h
  · obtain ⟨-, rfl⟩ := Prod.mk.inj h
    exact .refl session
  split at h
  · obtain ⟨-, rfl⟩ := Prod.mk.inj h
    exact .refl session
  split at h
  · dsimp only at h
    split at h
    · exact follows_fail h
    split at h
    · rename_i middle hflush
      obtain ⟨-, rfl⟩ := Prod.mk.inj h
      exact follows_flushThrough hflush
    · rename_i middle hflush
      exact (follows_flushThrough hflush).trans (follows_finalizeAt h)
  · obtain ⟨-, rfl⟩ := Prod.mk.inj h
    exact .refl session

theorem follows_abort (session : SynchronizedRecordingSession) :
    Follows session session.abort := by
  unfold abort abortUnlocked
  split
  · exact .refl session
  · have hcleared := (follows_abortSinks session).trans (follows_clearBuffers session.abortSinks)
    exact ⟨hcleared.config, hcleared.started, by simp, hcleared.capacity, hcleared.reachable⟩

/-- A packet that is let in takes its room from the capacity there is. -/
theorem follows_admitted {stream : RecordingStream} {packet : EncodedPacket}
    {buffer : EncodedPacketBuffer}
    (hpush : (session.buffer.get stream).push packet = (.retained, buffer)) :
    Follows session (session.admitted stream packet buffer) := by
  have hbuffer := (EncodedPacketBuffer.push_retained_eq hpush).2
  refine ⟨admitted_config, ?_, ?_, fun other => ?_, fun other hreachable => ?_⟩
  · rw [admitted_selectedRange]
    exact id
  · rw [admitted_state]
    exact id
  · rw [admitted_buffer]
    by_cases hother : other = stream
    · rw [hother, PerStream.get_set_self, hbuffer]
      rfl
    · rw [PerStream.get_set_of_ne _ _ hother]
  · rw [admitted_buffer]
    by_cases hother : other = stream
    · rw [hother] at hreachable ⊢
      have hpushed := hreachable.push packet
      rw [hpush] at hpushed
      rwa [PerStream.get_set_self]
    · rwa [PerStream.get_set_of_ne _ _ hother]

/-- The buffers have the pre-roll's capacity until a start is selected, and the tail's while the
session records. -/
structure WithinCapacity (config : SynchronizedRecordingConfig)
    (session : SynchronizedRecordingSession) : Prop where
  configured : session.config = config
  reachable : ∀ stream, (session.buffer.get stream).Reachable
  preRoll : session.selectedRange = none →
    ∀ stream, (session.buffer.get stream).capacityBytes = config.preRollCapacityBytes
  tail : session.state = .running ∨ session.state = .draining →
    ∀ stream, (session.buffer.get stream).capacityBytes = config.tailCapacityBytes

theorem WithinCapacity.follows (h : WithinCapacity config session)
    (hfollows : Follows session session') : WithinCapacity config session' where
  configured := hfollows.config.trans h.configured
  reachable stream := hfollows.reachable stream (h.reachable stream)
  preRoll hnone stream :=
    (hfollows.capacity stream).trans (h.preRoll (hfollows.started hnone) stream)
  tail hstate stream := (hfollows.capacity stream).trans (h.tail (hfollows.state hstate) stream)

theorem setTailCapacity_reachable
    (h : ∀ stream, (session.buffer.get stream).Reachable) (stream : RecordingStream) :
    (session.setTailCapacity.2.buffer.get stream).Reachable := by
  unfold setTailCapacity
  split
  · exact h stream
  · rename_i bufferA hA
    have hreachable := (h .A).setCapacityBytes session.config.tailCapacityBytes
    change ((session.buffer.a).setCapacityBytes _).2.Reachable at hreachable
    rw [hA] at hreachable
    cases stream with
    | A => exact hreachable
    | B => exact (h .B).setCapacityBytes session.config.tailCapacityBytes

/-- A start that is selected, with the buffers not resized or only in part. -/
theorem WithinCapacity.setTailCapacity {ok : Bool} (h : WithinCapacity config session)
    (hstarting : session.state = .starting) (hstarted : session.selectedRange ≠ none)
    (hset : session.setTailCapacity = (ok, session')) :
    WithinCapacity config session' ∧ session'.state = .starting := by
  have hreachable := setTailCapacity_reachable h.reachable
  have hsame : session.setTailCapacity.2.config = session.config ∧
      session.setTailCapacity.2.selectedRange = session.selectedRange ∧
      session.setTailCapacity.2.state = session.state := by
    unfold SynchronizedRecordingSession.setTailCapacity
    split <;> exact ⟨rfl, rfl, rfl⟩
  rw [hset] at hreachable hsame
  obtain ⟨hconfig, hrange, hstate⟩ := hsame
  refine ⟨⟨hconfig.trans h.configured, hreachable, fun hnone => ?_, fun hlive => ?_⟩,
    hstate.trans hstarting⟩
  · exact absurd (hrange.symm.trans hnone) hstarted
  · rw [hstate, hstarting] at hlive
    rcases hlive with hrunning | hdraining
    · cases hrunning
    · cases hdraining

theorem WithinCapacity.narrowed (h : WithinCapacity config session) (range : CommonPacketRange)
    (hstarting : session.state = .starting) :
    WithinCapacity config
      ({ session with selectedRange := some range }.discardBoth range.startCts) where
  configured := h.configured
  reachable stream :=
    (follows_discardBoth session range.startCts).reachable stream (h.reachable stream)
  preRoll := nofun
  tail := by simp [discardBoth, hstarting]

/-- The buffers have the tail's capacity when the session starts to run. -/
theorem WithinCapacity.establishCommonStart {ok : Bool} (h : WithinCapacity config session)
    (hestablish : session.establishCommonStart = (ok, session')) :
    WithinCapacity config session' := by
  unfold SynchronizedRecordingSession.establishCommonStart at hestablish
  split at hestablish
  · obtain ⟨-, rfl⟩ := Prod.mk.inj hestablish
    exact h
  rename_i hstate
  have hstarting : session.state = .starting := not_not.mp hstate
  split at hestablish
  · obtain ⟨-, rfl⟩ := Prod.mk.inj hestablish
    exact h
  rename_i range hrange
  dsimp only at hestablish
  have hnarrowed := h.narrowed range hstarting
  split at hestablish
  · rename_i middle hcapacity
    have hmiddle := (hnarrowed.setTailCapacity hstarting nofun hcapacity).1
    exact hmiddle.follows (follows_fail hestablish)
  rename_i middle hcapacity
  obtain ⟨hmiddle, hstill⟩ := hnarrowed.setTailCapacity hstarting nofun hcapacity
  split at hestablish
  · rename_i asked hopen
    exact hmiddle.follows (((follows_callBoth hopen).trans (follows_abortSinks asked)).trans
      (follows_fail hestablish))
  · rename_i asked hopen
    have hasked := hmiddle.follows (follows_callBoth hopen)
    have htail : ∀ stream, (asked.buffer.get stream).capacityBytes = config.tailCapacityBytes := by
      intro stream
      rw [(follows_callBoth hopen).capacity, setTailCapacity_true hcapacity, sizeTails,
        PerStream.get_map]
      exact congrArg SynchronizedRecordingConfig.tailCapacityBytes h.configured
    refine WithinCapacity.follows ?_ (follows_flushStablePackets hestablish)
    exact ⟨hasked.configured, hasked.reachable, hasked.preRoll, fun _ => htail⟩

theorem WithinCapacity.advance {ok : Bool} (h : WithinCapacity config session)
    (hadvance : session.advance = (ok, session')) : WithinCapacity config session' := by
  unfold SynchronizedRecordingSession.advance at hadvance
  split_ifs at hadvance
  · exact h.establishCommonStart hadvance
  · exact h.follows (follows_flushStablePackets hadvance)
  · obtain ⟨-, rfl⟩ := Prod.mk.inj hadvance
    exact h

theorem WithinCapacity.submitPacket {stream : RecordingStream} {packet : EncodedPacket}
    {ok : Bool} (h : WithinCapacity config session)
    (hsubmit : session.submitPacket stream packet = (ok, session')) :
    WithinCapacity config session' := by
  unfold SynchronizedRecordingSession.submitPacket at hsubmit
  split_ifs at hsubmit
  · exact h.follows (follows_fail hsubmit)
  · obtain ⟨-, rfl⟩ := Prod.mk.inj hsubmit
    exact h
  · exact h.follows (follows_fail hsubmit)
  split at hsubmit
  · exact h.follows (follows_fail hsubmit)
  · exact h.follows (follows_fail hsubmit)
  · exact h.follows (follows_fail hsubmit)
  · rename_i buffer hpush
    exact (h.follows (follows_admitted hpush)).advance hsubmit

theorem WithinCapacity.pollStart {currentSourceCts : Nat} {ok : Bool}
    (h : WithinCapacity config session)
    (hpoll : session.pollStart currentSourceCts = (ok, session')) :
    WithinCapacity config session' := by
  unfold SynchronizedRecordingSession.pollStart at hpoll
  split at hpoll
  · obtain ⟨-, rfl⟩ := Prod.mk.inj hpoll
    exact h
  split at hpoll
  · rename_i middle hestablish
    obtain ⟨-, rfl⟩ := Prod.mk.inj hpoll
    exact h.establishCommonStart hestablish
  · rename_i middle hestablish
    have hmiddle := h.establishCommonStart hestablish
    split_ifs at hpoll
    · exact hmiddle.follows (follows_fail hpoll)
    · obtain ⟨-, rfl⟩ := Prod.mk.inj hpoll
      exact hmiddle

theorem WithinCapacity.step (h : WithinCapacity config session) (call : SessionCall) :
    WithinCapacity config (session.step call).2 := by
  cases call with
  | start requestedStartCts =>
      simp only [SynchronizedRecordingSession.step, start]
      split_ifs with hrefused
      · exact h.follows (follows_fail rfl)
      · exact ⟨h.configured, h.reachable, h.preRoll, by simp⟩
  | setStreamExtraData stream extraData =>
      simp only [SynchronizedRecordingSession.step, setStreamExtraData]
      split_ifs
      · exact h
      · exact ⟨h.configured, h.reachable, h.preRoll, h.tail⟩
  | submitPacket stream packet => exact h.submitPacket rfl
  | pollStart currentSourceCts => exact h.pollStart rfl
  | requestStop requestedStopCts =>
      simp only [SynchronizedRecordingSession.step, requestStop]
      split_ifs with hended hfailed hinvalid hrunning
      · exact h
      · exact h
      · exact h.follows (follows_fail rfl)
      · exact ⟨h.configured, h.reachable, h.preRoll, fun _ => h.tail (Or.inl hrunning)⟩
      · exact ⟨h.configured, h.reachable, h.preRoll, h.tail⟩
  | completeDrain => exact h.follows (follows_completeDrain rfl)
  | abort => exact h.follows (follows_abort session)

variable {streamConfig : PerStream PacketStreamConfig} {sink : PerStream (Option PacketSink)}
  {past : List SessionTransition}

theorem withinCapacity_run
    (hrun : Runs.Run step (create config streamConfig sink) past session) :
    WithinCapacity config session := by
  refine hrun.stateInvariant ⟨rfl, fun stream => ?_, fun _ stream => ?_, by simp [create]⟩
    fun _ call h => h.step call
  · rw [create, PerStream.get_both]
    exact .create config.preRollCapacityBytes
  · rw [create, PerStream.get_both]

/-- Each stream holds at most the pre-roll before the common start, and at most the tail while the
session runs or drains. -/
structure Bounded (config : SynchronizedRecordingConfig) (session : SynchronizedRecordingSession) :
    Prop where
  accounted : ∀ stream, (session.buffer.get stream).Accounted
  preRoll : session.state = .idle ∨ session.state = .starting ∨ session.selectedRange = none →
    ∀ stream, (session.buffer.get stream).bytes ≤ config.preRollCapacityBytes
  tail : session.state = .running ∨ session.state = .draining →
    ∀ stream, (session.buffer.get stream).bytes ≤ config.tailCapacityBytes

theorem bounded_run (hrun : Runs.Run step (create config streamConfig sink) past session) :
    Bounded config session := by
  have hwithin := withinCapacity_run hrun
  have haccounted := fun stream => (hwithin.reachable stream).accounted
  refine ⟨haccounted, fun hbefore stream => ?_, fun hstate stream => ?_⟩
  · have hnone : session.selectedRange = none := by
      cases run_consistent hrun with
      | waiting _ hwaiting => exact hwaiting.range
      | live hstate _ => rcases hstate with h | h <;> simpa [h] using hbefore
      | finished hstate _ => simpa [hstate] using hbefore
      | failed hstate => simpa [hstate] using hbefore
    rw [← hwithin.preRoll hnone stream]
    exact (haccounted stream).within
  · rw [← hwithin.tail hstate stream]
    exact (haccounted stream).within

/-- In every run of a buffer its counters are right, and in every run of a session its buffers
stay within the capacity of the state. -/
theorem buffers_within_capacity :
    (∀ capacityBytes past buffer,
      Runs.Run EncodedPacketBuffer.step { capacityBytes := capacityBytes } past buffer →
        EncodedPacketBuffer.RunAccounted past buffer) ∧
      ∀ config streamConfig sink past session,
        Runs.Run step (create config streamConfig sink) past session → Bounded config session :=
  ⟨fun _ _ _ => EncodedPacketBuffer.runAccounted, fun _ _ _ _ _ => bounded_run⟩

/-- Two packets, one that does not fit, one packet discarded, and a capacity that is too small. -/
def sampleBufferCalls : List EncodedPacketBuffer.Call :=
  [.push (samplePacket 10), .push (samplePacket 20), .push (samplePacket 30), .discardBefore 15,
    .setCapacityBytes 0]

theorem buffers_within_capacity_sample :
    EncodedPacketBuffer.RunAccounted
        (Runs.history EncodedPacketBuffer.step { capacityBytes := 2 } sampleBufferCalls)
        (Runs.exec EncodedPacketBuffer.step { capacityBytes := 2 } sampleBufferCalls) ∧
      (Runs.exec EncodedPacketBuffer.step { capacityBytes := 2 } sampleBufferCalls).peakBytes = 2 ∧
      (Runs.exec step (sampleSession 10 0) (sampleCalls.take 8)).state = .running ∧
      ((Runs.exec step (sampleSession 10 0) (sampleCalls.take 8)).buffer.get .A).bytes = 2 ∧
      ∀ stream, ((Runs.exec step (sampleSession 10 0) (sampleCalls.take 8)).buffer.get
        stream).bytes ≤ 4 * 1024 * 1024 :=
  ⟨buffers_within_capacity.1 _ _ _ (Runs.run_exec _ _), by decide, by decide, by decide,
    (buffers_within_capacity.2 _ _ _ _ _ (Runs.run_exec (sampleSession 10 0) _)).tail
      (Or.inl (by decide))⟩

end SynchronizedRecordingSession

end ObsSyncReplay
