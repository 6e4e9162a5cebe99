import ObsSyncReplay.Capture.CaptureFanOut
import ObsSyncReplay.Capture.RetentionAccounts
import ObsSyncReplay.Capture.SnapshotRange

/-!
Where the packets of the capture session come from. What a stream retains, what a snapshot
copies of it, and what is delivered to a consumer have been accepted by `Ingest`, and the ring
of a stream has only packets that were ingested for it.
-/

namespace ObsSyncReplay

open SynchronizedCaptureSession (Call FanOut)

namespace SynchronizedCaptureSession

/-- The ring at each position has only packets of the stream with this id. -/
def Homed (accepted : List CapturedEncodedPacket) (session : SynchronizedCaptureSession) : Prop :=
  ∀ (position : Nat) (stream : StreamState), session.streams[position]? = some stream →
    ∀ e ∈ stream.packets.entries, e.2 ∈ accepted ∧ e.2.streamId.toNat = position

/-- Every ring has only packets that it had before. -/
def OnlyErased (streams streams' : List StreamState) : Prop :=
  ∀ (position : Nat) (stream' : StreamState), streams'[position]? = some stream' →
    ∃ stream, streams[position]? = some stream ∧ stream'.packets.entries ⊆ stream.packets.entries

variable {streams streams' : List StreamState} {session session' : SynchronizedCaptureSession}
  {accepted : List CapturedEncodedPacket}

/-! ### What is only erased -/

theorem OnlyErased.refl (streams : List StreamState) : OnlyErased streams streams :=
  fun _ stream' h => ⟨stream', h, List.Subset.refl _⟩

theorem OnlyErased.trans {streams'' : List StreamState} (h : OnlyErased streams streams')
    (h' : OnlyErased streams' streams'') : OnlyErased streams streams'' := by
  intro position last hlast
  obtain ⟨middle, hmiddle, hsubset'⟩ := h' position last hlast
  obtain ⟨first, hfirst, hsubset⟩ := h position middle hmiddle
  exact ⟨first, hfirst, fun e he => hsubset (hsubset' he)⟩

theorem onlyErased_map {f : StreamState → StreamState}
    (hf : ∀ stream, (f stream).packets.entries ⊆ stream.packets.entries) :
    OnlyErased streams (streams.map f) := by
  intro position stream' h
  rw [List.getElem?_map] at h
  obtain ⟨stream, hstream, rfl⟩ := Option.map_eq_some_iff.mp h
  exact ⟨stream, hstream, hf stream⟩

theorem onlyErased_eraseFronts (p : Nat × CapturedEncodedPacket → Bool) (evicted : Nat) :
    OnlyErased streams (eraseFronts p streams evicted).1 :=
  onlyErased_map (fun _ => (List.dropWhile_sublist p).subset)

theorem onlyErased_evictOldest (capacityBytes fuel evicted : Nat) :
    OnlyErased streams (evictOldest capacityBytes fuel streams evicted).1 := by
  induction fuel generalizing streams evicted with
  | zero => exact .refl _
  | succ fuel ih =>
      rw [evictOldest]
      split_ifs
      · exact .refl _
      · cases oldestCts streams with
        | none => exact .refl _
        | some oldest => exact (onlyErased_eraseFronts (fun e => e.1 ≤ oldest) evicted).trans (ih _)

theorem onlyErased_evictToCapacity (capacityBytes evicted : Nat) :
    OnlyErased streams (evictToCapacity streams capacityBytes evicted).1 :=
  (onlyErased_evictOldest _ _ _).trans (onlyErased_eraseFronts _ _)

theorem Homed.of_onlyErased (h : session.Homed accepted)
    (herased : OnlyErased session.streams session'.streams) : session'.Homed accepted := by
  intro position stream' hstream' e he
  obtain ⟨stream, hstream, hsubset⟩ := herased position stream' hstream'
  exact h position stream hstream e (hsubset he)

theorem Homed.mono {later : List CapturedEncodedPacket} (h : session.Homed accepted)
    (hsubset : accepted ⊆ later) : session.Homed later := by
  intro position stream hstream e he
  obtain ⟨hmem, hposition⟩ := h position stream hstream e he
  exact ⟨hsubset hmem, hposition⟩

theorem onlyErased_configured (captured : CapturedEncodedPacket) :
    OnlyErased session.streams (session.configured captured) := by
  intro position stream' hstream'
  unfold configured at hstream'
  rw [List.getElem?_modify] at hstream'
  obtain ⟨before, hbefore, rfl⟩ := Option.map_eq_some_iff.mp hstream'
  refine ⟨before, hbefore, ?_⟩
  split_ifs <;> exact List.Subset.refl _

theorem Homed.insert (h : session.Homed accepted) {captured : CapturedEncodedPacket}
    {stream : StreamState} (hstream : session.streams[captured.streamId.toNat]? = some stream)
    (hnew : captured.packet.sourceCts ∉ stream.packets.keys) (hmem : captured ∈ accepted) :
    (session.insert captured).Homed accepted := by
  intro position stream' hstream' e he
  change ((session.configured captured).modify captured.streamId.toNat
    (fun stream => stream.retain captured))[position]? = some stream' at hstream'
  rw [List.getElem?_modify] at hstream'
  obtain ⟨before, hbefore, rfl⟩ := Option.map_eq_some_iff.mp hstream'
  have hkept := (@Homed.of_onlyErased session
    { session with streams := session.configured captured } accepted h
    (onlyErased_configured captured)) position before hbefore
  split_ifs at he with hposition
  · subst hposition
    rw [getElem?_configured hstream] at hbefore
    obtain rfl := Option.some.inj hbefore
    rcases (OrderedMap.mem_emplace (m := stream.packets) hnew).mp he with rfl | hold
    · exact ⟨hmem, rfl⟩
    · exact hkept e hold
  · exact hkept e he

theorem Homed.evict (h : session.Homed accepted) : session.evict.Homed accepted :=
  h.of_onlyErased (onlyErased_evictToCapacity _ _)

/-- The ring stays the stream's own, with the packet that the call has ingested. -/
theorem Homed.step (h : session.Homed accepted) (call : Call) :
    (session.step call).2.Homed
      (accepted ++ ((session.step call).1.fanOut.map FanOut.captured).toList) := by
  have hkept {streams : List StreamState} (herased : OnlyErased session.streams streams)
      {session' : SynchronizedCaptureSession} (hstreams : session'.streams = streams)
      (more : List CapturedEncodedPacket) : session'.Homed (accepted ++ more) :=
    (h.of_onlyErased (by rwa [hstreams])).mono (List.subset_append_left _ _)
  cases call with
  | registerStream streamId name config =>
      simp only [SynchronizedCaptureSession.step, registerStream]
      split_ifs
      · exact hkept (.refl _) rfl _
      · exact hkept (.refl _) rfl _
      · exact hkept (.refl _) rfl _
      · intro position stream hstream e he
        rw [List.getElem?_append] at hstream
        split_ifs at hstream
        · exact hkept (.refl _) rfl _ position stream hstream e he
        · obtain rfl := List.mem_singleton.mp (List.mem_of_getElem? hstream)
          cases he
  | subscribe consumer =>
      have hsame : (session.subscribe consumer).2.streams = session.streams := by
        unfold subscribe
        cases consumer with
        | none => rfl
        | some consumer => dsimp only; split_ifs <;> rfl
      exact hkept (.refl _) hsame _
  | unsubscribe consumer =>
      have hsame : (session.unsubscribe consumer).2.streams = session.streams := by
        unfold unsubscribe
        cases consumer with
        | none => rfl
        | some consumer => dsimp only; split_ifs <;> rfl
      exact hkept (.refl _) hsame _
  | start =>
      have hsame : session.start.2.streams = session.streams := by
        unfold SynchronizedCaptureSession.start
        split_ifs <;> rfl
      exact hkept (.refl _) hsame _
  | ingest streamId packet codecExtraData =>
      rcases session.ingest_cases streamId packet codecExtraData with
        ⟨rejected, duplicates, hrefused⟩ | ⟨hstream, hnew, haccepted⟩
      · simp only [SynchronizedCaptureSession.step, hrefused]
        exact hkept (.refl _) rfl _
      · simp only [SynchronizedCaptureSession.step, haccepted, Option.map_some, Option.toList_some]
        have hmore := h.mono (List.subset_append_left accepted [⟨streamId, packet, codecExtraData⟩])
        cases hretention : session.replayRetentionEnabled with
        | false =>
            rw [accept_of_no_retention hretention]
            exact hkept (onlyErased_configured _) rfl _
        | true =>
            rw [accept_of_retention hretention]
            exact (hmore.insert hstream hnew
              (List.mem_append_right _ (List.mem_singleton_self _))).evict
  | setRingCapacityBytes capacityBytes =>
      simp only [SynchronizedCaptureSession.step, setRingCapacityBytes]
      split_ifs
      · exact hkept (onlyErased_evictToCapacity _ _) rfl _
      · exact hkept (.refl _) rfl _
  | setReplayRetentionEnabled enabled =>
      simp only [SynchronizedCaptureSession.step, setReplayRetentionEnabled]
      split_ifs
      · exact hkept (.refl _) rfl _
      · exact hkept (onlyErased_map (f := StreamState.clear) (fun _ => List.nil_subset _)) rfl _
  | stop => exact hkept (.refl _) rfl _

theorem ingest_of_fanOut {call : Call} {fanOut : FanOut}
    (h : (session.step call).1.fanOut = some fanOut) :
    call = .ingest fanOut.captured.streamId fanOut.captured.packet
      fanOut.captured.codecExtraData := by
  cases call with
  | ingest streamId packet codecExtraData =>
      rcases session.ingest_cases streamId packet codecExtraData with
        ⟨rejected, duplicates, hrefused⟩ | ⟨-, -, haccepted⟩
      · simp [SynchronizedCaptureSession.step, hrefused] at h
      · simp only [SynchronizedCaptureSession.step, haccepted, Option.some.injEq] at h
        rw [← h]
  | _ => cases h

theorem snapshotRange_of_some {streamIds : List CaptureStreamId} {durationNs : Nat}
    {snapshot : ReplaySnapshot}
    (h : (session.snapshotCommonRangeDetailed streamIds durationNs).snapshot = some snapshot) :
    ∃ range, snapshot = snapshotRange session.streams streamIds range := by
  unfold snapshotCommonRangeDetailed at h
  dsimp only at h
  split_ifs at h
  cases hstart : selectStart session.streams streamIds durationNs with
  | none => simp [hstart] at h
  | some start =>
      simp only [hstart] at h
      split_ifs at h
      exact ⟨_, (Option.some.inj h).symm⟩

/-- The packets that a snapshot copies, stream by stream. -/
theorem snapshot_sources (h : session.Homed accepted) {streamIds : List CaptureStreamId}
    {durationNs : Nat} {snapshot : ReplaySnapshot}
    (hsnapshot : (session.snapshotCommonRangeDetailed streamIds durationNs).snapshot =
      some snapshot) :
    List.Forall₂ (fun streamId owned => ∀ captured ∈ owned,
      captured ∈ accepted ∧ captured.streamId = streamId) streamIds snapshot.packets := by
  obtain ⟨range, rfl⟩ := snapshotRange_of_some hsnapshot
  unfold snapshotRange
  rw [List.forall₂_map_right_iff]
  apply List.forall₂_same.mpr
  intro streamId _ captured hcaptured
  obtain ⟨e, he, rfl⟩ := List.mem_map.mp hcaptured
  have hretained : e ∈ (streamAt session.streams streamId).packets.entries :=
    (List.dropWhile_sublist _).subset ((List.takeWhile_sublist _).subset he)
  unfold streamAt at hretained
  rw [List.getD_eq_getElem?_getD] at hretained
  cases hstream : session.streams[streamId.toNat]? with
  | none =>
      rw [hstream] at hretained
      cases hretained
  | some stream =>
      rw [hstream] at hretained
      obtain ⟨hmem, hhome⟩ := h _ stream hstream e hretained
      exact ⟨hmem, UInt8.toNat_inj.mp hhome⟩

end SynchronizedCaptureSession

namespace SharedCapture

variable {capture : SharedCapture} {session : SynchronizedCaptureSession} {past : List Transition}

/-- The packet that a step has ingested. -/
def ingestedBy (t : Transition) : Option CapturedEncodedPacket :=
  match t.output with
  | .answered answer => answer.fanOut.map FanOut.captured
  | _ => none

/-- The packet that a step has delivered to the consumer. -/
def deliveredTo (consumer : CapturePacketConsumer) (t : Transition) :
    Option CapturedEncodedPacket :=
  match t.output with
  | .onPacket addressee captured => if addressee = consumer then some captured else none
  | _ => none

/-- What is under way was under way before, or is ingested by the step. -/
theorem step_inFlight (capture : SharedCapture) (event : Event) {fanOut : FanOut}
    (h : fanOut ∈ (capture.step event).2.inFlight) :
    (∃ before ∈ capture.inFlight, before.captured = fanOut.captured) ∨
      ingestedBy (Runs.transition step capture event) = some fanOut.captured := by
  cases event with
  | locked call =>
      rcases List.mem_append.mp h with hold | hnew
      · exact Or.inl ⟨fanOut, hold, rfl⟩
      · exact Or.inr (Option.map_eq_some_iff.mpr ⟨fanOut, Option.mem_toList.mp hnew, rfl⟩)
  | deliver thread =>
      left
      simp only [SharedCapture.step, deliver] at h
      split at h
      · exact ⟨fanOut, h, rfl⟩
      · exact ⟨fanOut, (List.eraseIdx_sublist _ _).subset h, rfl⟩
      · rename_i hthread
        rcases List.mem_or_eq_of_mem_set h with hold | rfl
        · exact ⟨fanOut, hold, rfl⟩
        · exact ⟨_, List.mem_of_getElem? hthread, rfl⟩

theorem deliveredTo_inFlight {consumer : CapturePacketConsumer} {event : Event}
    {captured : CapturedEncodedPacket}
    (h : deliveredTo consumer (Runs.transition step capture event) = some captured) :
    ∃ fanOut ∈ capture.inFlight, fanOut.captured = captured := by
  cases event with
  | locked call => cases h
  | deliver thread =>
      simp only [deliveredTo, Runs.transition, SharedCapture.step, deliver] at h
      split at h <;> rename_i houtput
      · split at houtput <;> rename_i hthread
        · cases houtput
        · cases houtput
        · cases houtput
          split_ifs at h
          cases h
          exact ⟨_, List.mem_of_getElem? hthread, rfl⟩
      · cases h

/-- Whatever is delivered has been ingested before. -/
theorem delivered_ingested (hrun : Runs.Run step ⟨session, []⟩ past capture) :
    (∀ fanOut ∈ capture.inFlight, fanOut.captured ∈ past.filterMap ingestedBy) ∧
      ∀ consumer, ∀ captured ∈ past.filterMap (deliveredTo consumer),
        captured ∈ past.filterMap ingestedBy := by
  apply hrun.invariant (P := fun past capture =>
    (∀ fanOut ∈ capture.inFlight, fanOut.captured ∈ past.filterMap ingestedBy) ∧
      ∀ consumer, ∀ captured ∈ past.filterMap (deliveredTo consumer),
        captured ∈ past.filterMap ingestedBy)
  · simp
  rintro past capture event - ⟨hflight, hdelivered⟩
  have hearlier : ∀ captured ∈ past.filterMap ingestedBy,
      captured ∈ (past ++ [Runs.transition step capture event]).filterMap ingestedBy := by
    intro captured hcaptured
    rw [List.filterMap_append]
    exact List.mem_append_left _ hcaptured
  constructor
  · intro fanOut hfanOut
    rcases step_inFlight capture event hfanOut with ⟨before, hbefore, hsame⟩ | hingested
    · rw [← hsame]
      exact hearlier _ (hflight before hbefore)
    · exact List.mem_filterMap.mpr
        ⟨_, List.mem_append_right _ (List.mem_singleton_self _), hingested⟩
  · intro consumer captured hcaptured
    obtain ⟨t, ht, hto⟩ := List.mem_filterMap.mp hcaptured
    rcases List.mem_append.mp ht with hold | hnew
    · exact hearlier _ (hdelivered consumer captured (List.mem_filterMap.mpr ⟨t, hold, hto⟩))
    · obtain rfl := List.mem_singleton.mp hnew
      obtain ⟨fanOut, hfanOut, rfl⟩ := deliveredTo_inFlight hto
      exact hearlier _ (hflight fanOut hfanOut)

/-- A packet counts as ingested where `Ingest` was called with it, for the stream in it. -/
theorem ingest_of_ingestedBy {event : Event} {captured : CapturedEncodedPacket}
    (h : ingestedBy (Runs.transition step capture event) = some captured) :
    event = .locked (.ingest captured.streamId captured.packet captured.codecExtraData) := by
  cases event with
  | locked call =>
      obtain ⟨fanOut, hfanOut, rfl⟩ := Option.map_eq_some_iff.mp h
      rw [SynchronizedCaptureSession.ingest_of_fanOut hfanOut]
  | deliver thread =>
      simp only [ingestedBy, Runs.transition, SharedCapture.step, deliver] at h
      split at h <;> rename_i houtput
      · split at houtput <;> cases houtput
      · cases h

/-- What the streams retain has been ingested for them. -/
theorem homed_run (hempty : ∀ stream ∈ session.streams, stream.packets.entries = [])
    (hrun : Runs.Run step ⟨session, []⟩ past capture) :
    capture.session.Homed (past.filterMap ingestedBy) := by
  apply hrun.invariant (P := fun past capture =>
    capture.session.Homed (past.filterMap ingestedBy))
  · intro position stream hstream e he
    rw [hempty stream (List.mem_of_getElem? hstream)] at he
    cases he
  · intro past capture event _ h
    cases event with
    | locked call =>
        have hstep := h.step call
        rw [List.filterMap_append]
        apply hstep.mono
        apply List.append_subset.mpr
        refine ⟨List.subset_append_left _ _, fun captured hcaptured => ?_⟩
        apply List.mem_append_right
        exact List.mem_filterMap.mpr ⟨_, List.mem_singleton_self _, Option.mem_toList.mp hcaptured⟩
    | deliver thread =>
        rw [step_deliver_session]
        apply h.mono
        rw [List.filterMap_append]
        exact List.subset_append_left _ _

end SharedCapture

end ObsSyncReplay
