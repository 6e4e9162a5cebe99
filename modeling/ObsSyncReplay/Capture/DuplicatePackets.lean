import ObsSyncReplay.Capture.CaptureRuns
import ObsSyncReplay.Lib.Traces

/-!
Duplicates between a `Start` and the next `Stop`. `Ingest` looks for a packet's source CTS
among the packets that are retained, so that a packet accepted before is known only for as
long as the ring holds it.
-/

namespace ObsSyncReplay

namespace SynchronizedCaptureSession

abbrev Transition := Runs.Transition SynchronizedCaptureSession Call Answer

variable {session : SynchronizedCaptureSession} {past : List Transition}

/-- What a step adds to the pairs accepted since the session was started. -/
def recordAccepted (pairs : List (CaptureStreamId × Nat)) (t : Transition) :
    List (CaptureStreamId × Nat) :=
  match t.input with
  | .start => if t.output.accepted then [] else pairs
  | .stop => []
  | .ingest streamId packet _ =>
      if t.output.accepted then pairs ++ [(streamId, packet.sourceCts)] else pairs
  | _ => pairs

/-- The pairs of stream and source CTS that `Ingest` has accepted since the last `Start`; there
are none once the session is stopped. -/
def acceptedPairs (past : List Transition) : List (CaptureStreamId × Nat) :=
  past.foldl recordAccepted []

/-- A packet whose pair has been accepted is rejected and counted as a duplicate. -/
def RejectsDuplicate (before : List Transition) (t : Transition) : Prop :=
  ∀ streamId packet codecExtraData, t.input = .ingest streamId packet codecExtraData →
    (streamId, packet.sourceCts) ∈ acceptedPairs before →
      t.output = { accepted := false, fanOut := none } ∧
        t.after.duplicatePacketCount = t.before.duplicatePacketCount + 1

/-- The packet passes the checks that `Ingest` makes of it alone. -/
def WellFormed (packet : EncodedPacket) : Prop :=
  packet.payload.isEmpty = false ∧ 0 < packet.timebaseNum ∧ 0 < packet.timebaseDen

/-- A packet whose pair has been accepted is well formed, and the ring still holds a packet
of this stream and source CTS. -/
def DuplicateHeld (before : List Transition) (t : Transition) : Prop :=
  ∀ streamId packet codecExtraData, t.input = .ingest streamId packet codecExtraData →
    (streamId, packet.sourceCts) ∈ acceptedPairs before →
      WellFormed packet ∧
        (streamAt t.before.streams streamId).packets.contains packet.sourceCts = true

@[simp] theorem acceptedPairs_nil : acceptedPairs [] = [] := rfl

@[simp] theorem acceptedPairs_concat {t : Transition} :
    acceptedPairs (past ++ [t]) = recordAccepted (acceptedPairs past) t := by
  simp [acceptedPairs]

/-- A pair was accepted before the step, or is accepted by it. -/
theorem mem_recordAccepted {pairs : List (CaptureStreamId × Nat)} {t : Transition}
    {pair : CaptureStreamId × Nat} (h : pair ∈ recordAccepted pairs t) :
    pair ∈ pairs ∨ ∃ packet codecExtraData,
      t.input = .ingest pair.1 packet codecExtraData ∧ t.output.accepted = true ∧
        pair.2 = packet.sourceCts := by
  unfold recordAccepted at h
  split at h
  · split_ifs at h
    · cases h
    · exact Or.inl h
  · cases h
  · rename_i streamId packet codecExtraData hinput
    split_ifs at h with haccepted
    · rcases List.mem_append.mp h with hold | hnew
      · exact Or.inl hold
      · obtain rfl := List.mem_singleton.mp hnew
        exact Or.inr ⟨packet, codecExtraData, hinput, haccepted, rfl⟩
    · exact Or.inl h
  · exact Or.inl h

theorem ingest_of_malformed {streamId : CaptureStreamId} {packet : EncodedPacket}
    {codecExtraData : List UInt8} (h : ¬WellFormed packet) :
    session.ingest streamId packet codecExtraData =
      (none, { session with rejectedPacketCount := session.rejectedPacketCount + 1 }) := by
  unfold ingest
  rw [if_pos]
  by_contra hnot
  push Not at hnot
  obtain ⟨-, -, hpayload, hnum, hden⟩ := hnot
  exact h ⟨by simpa using hpayload, hnum, hden⟩

theorem ingest_of_held {streamId : CaptureStreamId} {packet : EncodedPacket}
    {codecExtraData : List UInt8} (hrunning : session.running = true)
    (hstream : streamId.toNat < session.streams.length) (h : WellFormed packet)
    (hheld : (streamAt session.streams streamId).packets.contains packet.sourceCts = true) :
    session.ingest streamId packet codecExtraData =
      (none, { session with duplicatePacketCount := session.duplicatePacketCount + 1 }) := by
  obtain ⟨hpayload, hnum, hden⟩ := h
  unfold ingest
  rw [if_neg, if_pos hheld]
  simp only [hrunning, hpayload, Bool.not_true, Bool.false_eq_true, false_or, not_or]
  omega

theorem ingest_of_new {streamId : CaptureStreamId} {packet : EncodedPacket}
    {codecExtraData : List UInt8} (hrunning : session.running = true)
    (hstream : streamId.toNat < session.streams.length) (h : WellFormed packet)
    (hnew : (streamAt session.streams streamId).packets.contains packet.sourceCts = false) :
    session.ingest streamId packet codecExtraData =
      (some ⟨session.consumers, ⟨streamId, packet, codecExtraData⟩⟩,
        session.accept ⟨streamId, packet, codecExtraData⟩) := by
  obtain ⟨hpayload, hnum, hden⟩ := h
  unfold ingest
  rw [if_neg, if_neg (by simp [hnew])]
  simp only [hrunning, hpayload, Bool.not_true, Bool.false_eq_true, false_or, not_or]
  omega

theorem subscribe_consumers (session : SynchronizedCaptureSession)
    (consumer : Option CapturePacketConsumer) :
    ∃ consumers, (session.subscribe consumer).2 = { session with consumers := consumers } := by
  unfold subscribe
  cases consumer with
  | none => exact ⟨_, rfl⟩
  | some consumer => dsimp only; split_ifs <;> exact ⟨_, rfl⟩

theorem unsubscribe_consumers (session : SynchronizedCaptureSession)
    (consumer : Option CapturePacketConsumer) :
    ∃ consumers, (session.unsubscribe consumer).2 = { session with consumers := consumers } := by
  unfold unsubscribe
  cases consumer with
  | none => exact ⟨_, rfl⟩
  | some consumer => dsimp only; split_ifs <;> exact ⟨_, rfl⟩

/-- A packet is accepted only by a running session, for a stream that there is. -/
theorem running_of_accepted {streamId : CaptureStreamId} {packet : EncodedPacket}
    {codecExtraData : List UInt8}
    (h : (session.ingest streamId packet codecExtraData).1.isSome = true) :
    session.running = true ∧ streamId.toNat < session.streams.length := by
  unfold ingest at h
  split_ifs at h with hrefused hheld
  · cases h
  · cases h
  · push Not at hrefused
    exact ⟨by simpa using hrefused.1, hrefused.2.1⟩

/-- While there are accepted pairs the session runs, and has their streams. -/
def PairsKnown (past : List Transition) (session : SynchronizedCaptureSession) : Prop :=
  ∀ pair ∈ acceptedPairs past,
    session.running = true ∧ pair.1.toNat < session.streams.length

/-- A running session keeps running, with the streams it has, until it is stopped. -/
theorem running_step {call : Call} (hrunning : session.running = true) (hcall : call ≠ .stop) :
    (session.step call).2.running = true ∧
      (session.step call).2.streams.length = session.streams.length := by
  cases call with
  | registerStream streamId name config =>
      have hrefused : session.registerStream streamId name config = (false, session) := by
        simp [registerStream, hrunning]
      simp [step, hrefused, hrunning]
  | subscribe consumer =>
      obtain ⟨consumers, hsubscribed⟩ := session.subscribe_consumers consumer
      simp [step, hsubscribed, hrunning]
  | unsubscribe consumer =>
      obtain ⟨consumers, hunsubscribed⟩ := session.unsubscribe_consumers consumer
      simp [step, hunsubscribed, hrunning]
  | start =>
      have hrefused : session.start = (false, session) := by
        simp [start, hrunning]
      simp [step, hrefused, hrunning]
  | ingest streamId packet codecExtraData =>
      have hsame := session.sameSwitches_ingest streamId packet codecExtraData
      exact ⟨hsame.running.trans hrunning, hsame.length⟩
  | setRingCapacityBytes capacityBytes =>
      have hsame := session.sameSwitches_setRingCapacityBytes capacityBytes
      exact ⟨hsame.running.trans hrunning, hsame.length⟩
  | setReplayRetentionEnabled enabled => simp [step, hrunning]
  | stop => exact absurd rfl hcall

theorem PairsKnown.step (h : PairsKnown past session) (call : Call) :
    PairsKnown (past ++ [Runs.transition SynchronizedCaptureSession.step session call])
      (session.step call).2 := by
  intro pair hpair
  rw [acceptedPairs_concat] at hpair
  have hcall : call ≠ .stop := by
    rintro rfl
    cases hpair
  have hbefore : session.running = true ∧ pair.1.toNat < session.streams.length := by
    rcases mem_recordAccepted hpair with hold | ⟨packet, codecExtraData, hinput, haccepted, -⟩
    · exact h pair hold
    · obtain rfl : call = .ingest pair.1 packet codecExtraData := hinput
      exact running_of_accepted haccepted
  obtain ⟨hrunning, hlength⟩ := running_step hbefore.1 hcall
  exact ⟨hrunning, hlength ▸ hbefore.2⟩

theorem pairsKnown_run {ringCapacityBytes : Nat}
    (hrun : Runs.Run step (create ringCapacityBytes) past session) : PairsKnown past session := by
  apply hrun.invariant (P := PairsKnown)
  · intro pair hpair
    cases hpair
  · exact fun _ _ call _ h => h.step call

/-- A packet is treated as a duplicate exactly if it is well formed and its pair is held. -/
theorem rejectsDuplicate_iff (h : PairsKnown past session) (call : Call) :
    RejectsDuplicate past (Runs.transition step session call) ↔
      DuplicateHeld past (Runs.transition step session call) := by
  unfold RejectsDuplicate DuplicateHeld
  apply forall_congr'
  intro streamId
  apply forall_congr'
  intro packet
  apply forall_congr'
  intro codecExtraData
  apply imp_congr_right
  intro hcall
  apply imp_congr_right
  intro hpair
  obtain rfl : call = .ingest streamId packet codecExtraData := hcall
  obtain ⟨hrunning, hstream⟩ := h _ hpair
  simp only [Runs.transition, step]
  by_cases hwell : WellFormed packet
  · cases hheld : (streamAt session.streams streamId).packets.contains packet.sourceCts with
    | true =>
        rw [ingest_of_held hrunning hstream hwell hheld]
        exact iff_of_true ⟨rfl, rfl⟩ ⟨hwell, rfl⟩
    | false =>
        rw [ingest_of_new hrunning hstream hwell hheld]
        simp
  · rw [ingest_of_malformed hwell]
    simp [hwell]

/-- In every run, each further packet with an accepted stream and source CTS is rejected as a
duplicate until the session is stopped, if and only if each such packet is well formed and
finds the pair still held by the ring. -/
theorem duplicates_rejected_iff {ringCapacityBytes : Nat}
    (hrun : Runs.Run step (create ringCapacityBytes) past session) :
    Traces.Obeys RejectsDuplicate past ↔ Traces.Obeys DuplicateHeld past := by
  apply hrun.invariant (P := fun past _ =>
    (Traces.Obeys RejectsDuplicate past ↔ Traces.Obeys DuplicateHeld past))
  · exact iff_of_true Traces.obeys_nil Traces.obeys_nil
  · intro past session call hrun hiff
    rw [Traces.obeys_concat_iff, Traces.obeys_concat_iff, hiff,
      rejectsDuplicate_iff (pairsKnown_run hrun)]

/-- Where duplicates are rejected no pair is accepted twice. -/
theorem nodup_acceptedPairs (h : Traces.Obeys RejectsDuplicate past) :
    (acceptedPairs past).Nodup := by
  induction past using List.reverseRecOn with
  | nil => exact List.nodup_nil
  | append_singleton past t ih =>
      obtain ⟨hpast, hrejects⟩ := Traces.obeys_concat_iff.mp h
      have hnodup := ih hpast
      rw [acceptedPairs_concat]
      unfold recordAccepted
      split
      · split_ifs
        · exact List.nodup_nil
        · exact hnodup
      · exact List.nodup_nil
      · rename_i streamId packet codecExtraData hinput
        split_ifs with haccepted
        · apply List.nodup_append'.mpr
          refine ⟨hnodup, List.nodup_singleton _, List.disjoint_singleton.mpr fun hpair => ?_⟩
          obtain ⟨hrejected, -⟩ := hrejects streamId packet codecExtraData hinput hpair
          rw [hrejected] at haccepted
          cases haccepted
        · exact hnodup
      · exact hnodup

/-- Two packets with one source CTS, after the calls of `setup`. -/
def repeatedPacket (setup : List Call) : List Call :=
  [.registerStream 0 "Master" { width := 16, height := 9 }] ++ setup ++
    [.start, .ingest 0 packet [], .ingest 0 packet []]
where
  packet : EncodedPacket :=
    { timebaseNum := 1, timebaseDen := 60, keyframe := true, payload := [0] }

theorem duplicates_rejected_iff_sample :
    acceptedPairs (Runs.history step (create 1024) (repeatedPacket [])) = [(0, 0)] ∧
      Traces.Obeys RejectsDuplicate (Runs.history step (create 1024) (repeatedPacket [])) := by
  refine ⟨by decide, (duplicates_rejected_iff (Runs.run_exec _ _)).mpr ?_⟩
  rw [Traces.obeys_iff_get]
  intro index
  fin_cases index
  · rintro streamId packet codecExtraData ⟨⟩
  · rintro streamId packet codecExtraData ⟨⟩
  · rintro streamId packet codecExtraData ⟨⟩ hpair
    exact absurd hpair (by decide)
  · rintro streamId packet codecExtraData ⟨⟩ -
    exact ⟨⟨by decide, by decide, by decide⟩, by decide⟩

/-- With replay retention off, as for a recording alone, the packet is accepted twice. -/
theorem duplicate_accepted_without_retention :
    acceptedPairs (Runs.history step (create 1024)
        (repeatedPacket [.setReplayRetentionEnabled false])) = [(0, 0), (0, 0)] ∧
      ¬Traces.Obeys RejectsDuplicate (Runs.history step (create 1024)
        (repeatedPacket [.setReplayRetentionEnabled false])) := by
  have htwice : acceptedPairs (Runs.history step (create 1024)
      (repeatedPacket [.setReplayRetentionEnabled false])) = [(0, 0), (0, 0)] := by decide
  refine ⟨htwice, fun h => ?_⟩
  have hnodup := nodup_acceptedPairs h
  rw [htwice] at hnodup
  exact absurd hnodup (by decide)

end SynchronizedCaptureSession

end ObsSyncReplay
