import ObsSyncReplay.Capture.CaptureRuns

/-!
What a session knows of its streams by the time they are to be written: a picture size from the
registration, packets with a payload from `Ingest`, and a time base from the first of them.
-/

namespace ObsSyncReplay

/-- The stream has a size, its packets are not empty, and with them it has a time base. -/
structure StreamState.Muxable (stream : StreamState) : Prop where
  width : stream.config.width ≠ 0
  height : stream.config.height ≠ 0
  payload : ∀ e ∈ stream.packets.entries, e.2.packet.payload ≠ []
  timebase : stream.packets.entries ≠ [] →
    0 < stream.config.timebaseNum ∧ 0 < stream.config.timebaseDen

namespace StreamState

variable {stream : StreamState}

theorem Muxable.eraseFrontWhile (h : stream.Muxable) (p : Nat × CapturedEncodedPacket → Bool) :
    (stream.eraseFrontWhile p).Muxable := by
  have hsublist : List.Sublist (stream.eraseFrontWhile p).packets.entries stream.packets.entries :=
    List.dropWhile_sublist _
  refine ⟨h.width, h.height, fun e he => h.payload e (hsublist.subset he), fun hne => ?_⟩
  obtain ⟨e, he⟩ := List.exists_mem_of_ne_nil _ hne
  exact h.timebase (List.ne_nil_of_mem (hsublist.subset he))

theorem Muxable.clear (h : stream.Muxable) : stream.clear.Muxable :=
  ⟨h.width, h.height, by simp [StreamState.clear], by simp [StreamState.clear]⟩

theorem configure_timebase {packet : EncodedPacket} (codecExtraData : List UInt8)
    (hpacket : 0 < packet.timebaseNum ∧ 0 < packet.timebaseDen) :
    0 < (stream.configure packet codecExtraData).config.timebaseNum ∧
      0 < (stream.configure packet codecExtraData).config.timebaseDen := by
  unfold configure
  dsimp only
  split_ifs <;> first | exact hpacket | omega | (dsimp only; omega)

theorem Muxable.configure (h : stream.Muxable) {packet : EncodedPacket}
    (codecExtraData : List UInt8) (hpacket : 0 < packet.timebaseNum ∧ 0 < packet.timebaseDen) :
    (stream.configure packet codecExtraData).Muxable := by
  refine ⟨?_, ?_, h.payload, fun _ => configure_timebase codecExtraData hpacket⟩
  · unfold StreamState.configure
    dsimp only
    split_ifs <;> exact h.width
  · unfold StreamState.configure
    dsimp only
    split_ifs <;> exact h.height

theorem Muxable.retain (h : stream.Muxable) {captured : CapturedEncodedPacket}
    (hpayload : captured.packet.payload ≠ [])
    (htimebase : 0 < stream.config.timebaseNum ∧ 0 < stream.config.timebaseDen) :
    (stream.retain captured).Muxable := by
  refine ⟨h.width, h.height, fun e he => ?_, fun _ => htimebase⟩
  rcases OrderedMap.mem_emplaceEntry he with rfl | hold
  · exact hpayload
  · exact h.payload e hold

end StreamState

namespace SynchronizedCaptureSession

variable {session : SynchronizedCaptureSession}

def Muxable (session : SynchronizedCaptureSession) : Prop :=
  ∀ stream ∈ session.streams, stream.Muxable

theorem Muxable.evict (h : session.Muxable) : session.evict.Muxable :=
  evictToCapacity_forall (fun _ p hmuxable => hmuxable.eraseFrontWhile p) h

theorem Muxable.accept (h : session.Muxable) {captured : CapturedEncodedPacket}
    (hpayload : captured.packet.payload ≠ [])
    (htimebase : 0 < captured.packet.timebaseNum ∧ 0 < captured.packet.timebaseDen) :
    (session.accept captured).Muxable := by
  unfold SynchronizedCaptureSession.accept
  dsimp only
  split_ifs
  · apply Muxable.evict
    -- the packet goes to a stream that it has just given its time base
    intro stream hstream
    simp only [List.modify_modify_eq] at hstream
    refine forall_modify (fun stream hmuxable => ?_) h stream hstream
    exact (hmuxable.configure captured.codecExtraData htimebase).retain hpayload
      (StreamState.configure_timebase captured.codecExtraData htimebase)
  · exact forall_modify
      (fun stream hmuxable => hmuxable.configure captured.codecExtraData htimebase) h

theorem Muxable.step (h : session.Muxable) (call : Call) : (session.step call).2.Muxable := by
  cases call with
  | registerStream streamId name config =>
      simp only [SynchronizedCaptureSession.step, registerStream]
      split_ifs with hrefused
      · exact h
      · exact h
      · exact h
      · intro stream hstream
        rcases List.mem_append.mp hstream with hold | hnew
        · exact h stream hold
        · obtain rfl := List.mem_singleton.mp hnew
          push Not at hrefused
          exact ⟨hrefused.2.2.1, hrefused.2.2.2, by simp, by simp⟩
  | subscribe consumer =>
      simp only [SynchronizedCaptureSession.step, subscribe]
      cases consumer with
      | none => exact h
      | some consumer => dsimp only; split_ifs <;> exact h
  | unsubscribe consumer =>
      simp only [SynchronizedCaptureSession.step, unsubscribe]
      cases consumer with
      | none => exact h
      | some consumer => dsimp only; split_ifs <;> exact h
  | start =>
      simp only [SynchronizedCaptureSession.step, start]
      split_ifs <;> exact h
  | ingest streamId packet codecExtraData =>
      simp only [SynchronizedCaptureSession.step, ingest]
      split_ifs with hinvalid
      · exact h
      · exact h
      · simp only [not_or, List.isEmpty_iff, not_le] at hinvalid
        exact h.accept hinvalid.2.2.1 hinvalid.2.2.2
  | setRingCapacityBytes capacityBytes =>
      simp only [SynchronizedCaptureSession.step, setRingCapacityBytes]
      split_ifs
      · exact Muxable.evict h
      · exact h
  | setReplayRetentionEnabled enabled =>
      simp only [SynchronizedCaptureSession.step, setReplayRetentionEnabled]
      split_ifs
      · exact h
      · intro stream hstream
        obtain ⟨before, hbefore, rfl⟩ := List.mem_map.mp hstream
        exact (h before hbefore).clear
  | stop => exact h

theorem Reachable.muxable (h : session.Reachable) : session.Muxable := by
  obtain ⟨ringCapacityBytes, past, hrun⟩ := h
  refine hrun.stateInvariant (P := Muxable) ?_ (fun _ call hmuxable => hmuxable.step call)
  intro stream hstream
  cases hstream

end SynchronizedCaptureSession

end ObsSyncReplay
