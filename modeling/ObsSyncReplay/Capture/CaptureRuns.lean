import ObsSyncReplay.Capture.SynchronizedCaptureSession

/-!
What holds of the retained packets in every state that a capture session can
reach. A property of a stream that survives erasing from the front survives an
eviction, so an invariant of the streams is checked on the other operations only.
-/

namespace ObsSyncReplay

namespace StreamState

/-- Every packet is retained under its own source CTS. -/
def Keyed (stream : StreamState) : Prop :=
  ∀ e ∈ stream.packets.entries, e.1 = e.2.packet.sourceCts

@[simp] theorem packets_eraseFrontWhile (stream : StreamState)
    (p : Nat × CapturedEncodedPacket → Bool) :
    (stream.eraseFrontWhile p).packets = stream.packets.eraseWhile p := rfl

@[simp] theorem packets_configure (stream : StreamState) (packet : EncodedPacket)
    (codecExtraData : List UInt8) :
    (stream.configure packet codecExtraData).packets = stream.packets := rfl

theorem Keyed.eraseFrontWhile {stream : StreamState} (h : stream.Keyed)
    (p : Nat × CapturedEncodedPacket → Bool) : (stream.eraseFrontWhile p).Keyed :=
  fun e he => h e ((List.dropWhile_sublist _).subset he)

theorem keyed_clear (stream : StreamState) : stream.clear.Keyed := by
  simp [Keyed, clear]

theorem Keyed.configure {stream : StreamState} (h : stream.Keyed) (packet : EncodedPacket)
    (codecExtraData : List UInt8) : (stream.configure packet codecExtraData).Keyed := h

theorem Keyed.retain {stream : StreamState} (h : stream.Keyed)
    (captured : CapturedEncodedPacket) : (stream.retain captured).Keyed := by
  intro e he
  rcases OrderedMap.mem_emplaceEntry he with rfl | hold
  · rfl
  · exact h e hold

end StreamState

section Eviction

variable {P : StreamState → Prop}
  (herase : ∀ stream p, P stream → P (stream.eraseFrontWhile p))
include herase

theorem eraseFronts_forall {p : Nat × CapturedEncodedPacket → Bool} {streams : List StreamState}
    (evicted : Nat) (h : ∀ stream ∈ streams, P stream) :
    ∀ stream ∈ (eraseFronts p streams evicted).1, P stream := by
  intro stream hstream
  obtain ⟨before, hbefore, rfl⟩ := List.mem_map.mp hstream
  exact herase before p (h before hbefore)

theorem evictOldest_forall {capacityBytes fuel evicted : Nat} {streams : List StreamState}
    (h : ∀ stream ∈ streams, P stream) :
    ∀ stream ∈ (evictOldest capacityBytes fuel streams evicted).1, P stream := by
  induction fuel generalizing streams evicted with
  | zero => exact h
  | succ fuel ih =>
      rw [evictOldest]
      split_ifs with hfits
      · exact h
      · cases oldestCts streams with
        | none => exact h
        | some oldest => exact ih (eraseFronts_forall herase evicted h)

theorem evictToCapacity_forall {capacityBytes evicted : Nat} {streams : List StreamState}
    (h : ∀ stream ∈ streams, P stream) :
    ∀ stream ∈ (evictToCapacity streams capacityBytes evicted).1, P stream :=
  eraseFronts_forall herase _ (evictOldest_forall herase h)

end Eviction

section Modify

variable {P : StreamState → Prop} {f : StreamState → StreamState} {streams : List StreamState}
  {index : Nat}

theorem forall_modify_at (h : ∀ stream ∈ streams, P stream)
    (hf : ∀ stream, streams[index]? = some stream → P (f stream)) :
    ∀ stream ∈ streams.modify index f, P stream := by
  intro stream hstream
  obtain ⟨position, hposition⟩ := List.mem_iff_getElem?.mp hstream
  rw [List.getElem?_modify] at hposition
  obtain ⟨before, hbefore, rfl⟩ := Option.map_eq_some_iff.mp hposition
  split_ifs with hindex
  · subst hindex
    exact hf before hbefore
  · exact h before (List.mem_of_getElem? hbefore)

theorem forall_modify (hf : ∀ stream, P stream → P (f stream)) (h : ∀ stream ∈ streams, P stream) :
    ∀ stream ∈ streams.modify index f, P stream :=
  forall_modify_at h (fun stream hat => hf stream (h stream (List.mem_of_getElem? hat)))

end Modify

namespace SynchronizedCaptureSession

def Keyed (session : SynchronizedCaptureSession) : Prop :=
  ∀ stream ∈ session.streams, stream.Keyed

theorem Keyed.evict {session : SynchronizedCaptureSession} (h : session.Keyed) :
    session.evict.Keyed :=
  evictToCapacity_forall (fun _ p hkeyed => hkeyed.eraseFrontWhile p) h

theorem Keyed.accept {session : SynchronizedCaptureSession} (h : session.Keyed)
    (captured : CapturedEncodedPacket) : (session.accept captured).Keyed := by
  have hconfigured : ∀ stream ∈ session.streams.modify captured.streamId.toNat
      (fun stream => stream.configure captured.packet captured.codecExtraData), stream.Keyed :=
    forall_modify (fun stream hkeyed => hkeyed.configure captured.packet captured.codecExtraData) h
  unfold SynchronizedCaptureSession.accept
  dsimp only
  split_ifs
  · exact Keyed.evict (forall_modify (fun stream hkeyed => hkeyed.retain captured) hconfigured)
  · exact hconfigured

theorem Keyed.step {session : SynchronizedCaptureSession} (h : session.Keyed) (call : Call) :
    (session.step call).2.Keyed := by
  cases call with
  | registerStream streamId name config =>
      simp only [SynchronizedCaptureSession.step, registerStream]
      split_ifs
      · exact h
      · exact h
      · exact h
      · intro stream hstream
        rcases List.mem_append.mp hstream with hold | hnew
        · exact h stream hold
        · obtain rfl := List.mem_singleton.mp hnew
          simp [StreamState.Keyed]
  | subscribe consumer =>
      simp only [SynchronizedCaptureSession.step, subscribe]
      cases consumer with
      | none => exact h
      | some consumer => dsimp only; split_ifs <;> exact h
  | unsubscribe consumer =>
      simp only [SynchronizedCaptureSession.step, unsubscribe]
      cases consumer with
      | none => exact h
      | some consumer => dsimp only; split_ifs <;> exact h
  | start =>
      simp only [SynchronizedCaptureSession.step, start]
      split_ifs <;> exact h
  | ingest streamId packet codecExtraData =>
      simp only [SynchronizedCaptureSession.step, ingest]
      split_ifs
      · exact h
      · exact h
      · exact h.accept _
  | setRingCapacityBytes capacityBytes =>
      simp only [SynchronizedCaptureSession.step, setRingCapacityBytes]
      split_ifs
      · exact Keyed.evict h
      · exact h
  | setReplayRetentionEnabled enabled =>
      simp only [SynchronizedCaptureSession.step, setReplayRetentionEnabled]
      split_ifs
      · exact h
      · intro stream hstream
        obtain ⟨before, -, rfl⟩ := List.mem_map.mp hstream
        exact before.keyed_clear
  | stop => exact h

section Frame

variable (session : SynchronizedCaptureSession)

@[simp] theorem running_stop : session.stop.running = false := rfl
@[simp] theorem consumers_stop : session.stop.consumers = session.consumers := rfl
@[simp] theorem streams_stop : session.stop.streams = session.streams := rfl
@[simp] theorem replayRetentionEnabled_stop :
    session.stop.replayRetentionEnabled = session.replayRetentionEnabled := rfl

@[simp] theorem running_setReplayRetentionEnabled (enabled : Bool) :
    (session.setReplayRetentionEnabled enabled).running = session.running := by
  cases enabled <;> rfl

@[simp] theorem consumers_setReplayRetentionEnabled (enabled : Bool) :
    (session.setReplayRetentionEnabled enabled).consumers = session.consumers := by
  cases enabled <;> rfl

@[simp] theorem length_setReplayRetentionEnabled (enabled : Bool) :
    (session.setReplayRetentionEnabled enabled).streams.length = session.streams.length := by
  cases enabled <;> simp [setReplayRetentionEnabled]

@[simp] theorem replayRetentionEnabled_setReplayRetentionEnabled (enabled : Bool) :
    (session.setReplayRetentionEnabled enabled).replayRetentionEnabled = enabled := by
  cases enabled <;> rfl

theorem length_eraseFronts (p : Nat × CapturedEncodedPacket → Bool) (streams : List StreamState)
    (evicted : Nat) : (eraseFronts p streams evicted).1.length = streams.length := by
  simp [eraseFronts]

theorem length_evictOldest (capacityBytes fuel : Nat) (streams : List StreamState)
    (evicted : Nat) :
    (evictOldest capacityBytes fuel streams evicted).1.length = streams.length := by
  induction fuel generalizing streams evicted with
  | zero => rfl
  | succ fuel ih =>
      rw [evictOldest]
      split_ifs
      · rfl
      · cases oldestCts streams with
        | none => rfl
        | some oldest =>
            exact (ih _ _).trans (length_eraseFronts _ _ evicted)

@[simp] theorem length_evict : session.evict.streams.length = session.streams.length := by
  unfold evict evictToCapacity
  dsimp only
  rw [length_eraseFronts, length_evictOldest]

@[simp] theorem running_evict : session.evict.running = session.running := rfl
@[simp] theorem consumers_evict : session.evict.consumers = session.consumers := rfl
@[simp] theorem replayRetentionEnabled_evict :
    session.evict.replayRetentionEnabled = session.replayRetentionEnabled := rfl

/-- `session'` has the registered streams, the subscriptions and the switches of
`session`. -/
structure SameSwitches (session session' : SynchronizedCaptureSession) : Prop where
  running : session'.running = session.running
  consumers : session'.consumers = session.consumers
  length : session'.streams.length = session.streams.length
  retention : session'.replayRetentionEnabled = session.replayRetentionEnabled

theorem sameSwitches_setRingCapacityBytes (capacityBytes : Nat) :
    SameSwitches session (session.setRingCapacityBytes capacityBytes) := by
  unfold setRingCapacityBytes
  dsimp only
  split_ifs
  · exact ⟨rfl, rfl, length_evict _, rfl⟩
  · exact ⟨rfl, rfl, rfl, rfl⟩

theorem sameSwitches_accept (captured : CapturedEncodedPacket) :
    SameSwitches session (session.accept captured) := by
  unfold SynchronizedCaptureSession.accept
  dsimp only
  split_ifs
  · refine ⟨rfl, rfl, ?_, rfl⟩
    rw [length_evict]
    simp
  · exact ⟨rfl, rfl, by simp, rfl⟩

theorem sameSwitches_ingest (streamId : CaptureStreamId) (packet : EncodedPacket)
    (codecExtraData : List UInt8) :
    SameSwitches session (session.ingest streamId packet codecExtraData).2 := by
  unfold ingest
  split_ifs
  · exact ⟨rfl, rfl, rfl, rfl⟩
  · exact ⟨rfl, rfl, rfl, rfl⟩
  · exact session.sameSwitches_accept _

variable {session}

theorem start_of_stopped (hstopped : session.running = false)
    (hstreams : session.streams.length ≠ 0) :
    session.start = (true, { session with running := true }) := by
  unfold start
  rw [if_neg]
  simp only [hstopped, Bool.false_eq_true, false_or, not_lt]
  omega

theorem subscribe_of_new {consumer : CapturePacketConsumer} (h : consumer ∉ session.consumers) :
    session.subscribe (some consumer) =
      (true, { session with consumers := session.consumers ++ [consumer] }) := by
  unfold subscribe
  dsimp only
  rw [if_neg h]

end Frame

/-- A session as its constructor makes it. -/
def create (ringCapacityBytes : Nat) : SynchronizedCaptureSession :=
  { ringCapacityBytes := ringCapacityBytes }

/-- `session` can be reached from a new session. -/
def Reachable (session : SynchronizedCaptureSession) : Prop :=
  ∃ ringCapacityBytes past,
    Runs.Run SynchronizedCaptureSession.step (create ringCapacityBytes) past session

theorem Reachable.keyed {session : SynchronizedCaptureSession} (h : session.Reachable) :
    session.Keyed := by
  obtain ⟨ringCapacityBytes, past, hrun⟩ := h
  refine hrun.stateInvariant (P := Keyed) ?_ (fun _ call hkeyed => hkeyed.step call)
  intro stream hstream
  cases hstream

end SynchronizedCaptureSession

end ObsSyncReplay
