import ObsSyncReplay.Capture.CaptureRuns

/-!
The overloads of `SnapshotCommonRange` without stream ids. They count the ids up in eight bits
while the id is less than the number of streams. A session takes 256 streams, and then every id is
less than that: the count wraps and never ends.
-/

namespace ObsSyncReplay

/-- The loop over the ids; it has not ended after `fuel` rounds if there is no result. -/
def collectStreamIds (streamCount : Nat) :
    Nat → CaptureStreamId → List CaptureStreamId → Option (List CaptureStreamId)
  | 0, _, _ => none
  | fuel + 1, streamId, streamIds =>
      if streamId.toNat < streamCount then
        collectStreamIds streamCount fuel (streamId + 1) (streamIds ++ [streamId])
      else some streamIds

/-- The ids of so many streams. -/
def denseStreamIds (streamCount : Nat) : List CaptureStreamId :=
  (List.range streamCount).map UInt8.ofNat

namespace SynchronizedCaptureSession

/-- The overload of `SnapshotCommonRangeDetailed` without ids, as far as `fuel` rounds go. -/
def snapshotAllDetailed (session : SynchronizedCaptureSession) (durationNs fuel : Nat) :
    Option ReplaySnapshotAttempt :=
  (collectStreamIds session.streams.length fuel 0 []).map
    (fun streamIds => session.snapshotCommonRangeDetailed streamIds durationNs)

/-- The overload of `SnapshotCommonRange` without ids. -/
def snapshotAll (session : SynchronizedCaptureSession) (durationNs fuel : Nat) :
    Option (Option ReplaySnapshot) :=
  (collectStreamIds session.streams.length fuel 0 []).map
    (fun streamIds => (session.snapshotCommonRangeDetailed streamIds durationNs).snapshot)

/-- Both overloads end, with the answer for the ids of all streams. -/
structure AnswersForAll (session : SynchronizedCaptureSession) (durationNs : Nat) : Prop where
  detailed : ∃ rounds, ∀ fuel, rounds ≤ fuel → session.snapshotAllDetailed durationNs fuel =
    some (session.snapshotCommonRangeDetailed (denseStreamIds session.streams.length) durationNs)
  snapshot : ∃ rounds, ∀ fuel, rounds ≤ fuel → session.snapshotAll durationNs fuel =
    some (session.snapshotCommonRangeDetailed (denseStreamIds session.streams.length)
      durationNs).snapshot

end SynchronizedCaptureSession

theorem collectStreamIds_none {streamCount : Nat} (h : 256 ≤ streamCount) (fuel : Nat)
    (streamId : CaptureStreamId) (streamIds : List CaptureStreamId) :
    collectStreamIds streamCount fuel streamId streamIds = none := by
  induction fuel generalizing streamId streamIds with
  | zero => rfl
  | succ fuel ih =>
      have hlt : streamId.toNat < streamCount := streamId.toNat_lt.trans_le h
      rw [collectStreamIds, if_pos hlt, ih]

/-- The loop adds the remaining ids, in order. -/
theorem collectStreamIds_from {streamCount : Nat} (h : streamCount < 256) (remaining : Nat)
    {first fuel : Nat} (hfirst : first + remaining = streamCount) (hfuel : remaining < fuel)
    (streamIds : List CaptureStreamId) :
    collectStreamIds streamCount fuel (UInt8.ofNat first) streamIds =
      some (streamIds ++ (List.range' first remaining).map UInt8.ofNat) := by
  have hid : (UInt8.ofNat first).toNat = first :=
    UInt8.toNat_ofNat_of_lt' (show first < 256 by omega)
  induction remaining generalizing first fuel streamIds with
  | zero =>
      obtain ⟨fuel, rfl⟩ := Nat.exists_eq_succ_of_ne_zero (Nat.ne_of_gt hfuel)
      rw [collectStreamIds, hid, if_neg (by omega)]
      simp
  | succ remaining ih =>
      obtain ⟨fuel, rfl⟩ := Nat.exists_eq_succ_of_ne_zero (Nat.ne_of_gt (Nat.zero_lt_of_lt hfuel))
      have hnext : (UInt8.ofNat first) + 1 = UInt8.ofNat (first + 1) :=
        (UInt8.ofNat_add first 1).symm
      have hid' : (UInt8.ofNat (first + 1)).toNat = first + 1 :=
        UInt8.toNat_ofNat_of_lt' (show first + 1 < 256 by omega)
      rw [collectStreamIds, hid, if_pos (by omega), hnext,
        ih (by omega) (by omega) (streamIds ++ [UInt8.ofNat first]) hid', List.range'_succ,
        List.map_cons, List.append_assoc]
      rfl

theorem collectStreamIds_all {streamCount fuel : Nat} (h : streamCount < 256)
    (hfuel : streamCount < fuel) :
    collectStreamIds streamCount fuel 0 [] = some (denseStreamIds streamCount) := by
  have hloop := collectStreamIds_from h streamCount (Nat.zero_add _) hfuel []
  rwa [List.nil_append, ← List.range_eq_range'] at hloop

namespace SynchronizedCaptureSession

variable {session : SynchronizedCaptureSession}

theorem answersForAll_iff (durationNs : Nat) :
    session.AnswersForAll durationNs ↔ session.streams.length < 256 := by
  constructor
  · rintro ⟨⟨rounds, hdetailed⟩, -⟩
    by_contra hmany
    have hanswer := hdetailed rounds le_rfl
    rw [snapshotAllDetailed, collectStreamIds_none (not_lt.mp hmany)] at hanswer
    cases hanswer
  · intro hfew
    constructor
    · refine ⟨session.streams.length + 1, fun fuel hfuel => ?_⟩
      rw [snapshotAllDetailed, collectStreamIds_all hfew hfuel]
      rfl
    · refine ⟨session.streams.length + 1, fun fuel hfuel => ?_⟩
      rw [snapshotAll, collectStreamIds_all hfew hfuel]
      rfl

theorem length_step (h : session.streams.length ≤ 256) (call : Call) :
    (session.step call).2.streams.length ≤ 256 := by
  cases call with
  | registerStream streamId name config =>
      simp only [step, registerStream]
      split_ifs with hinvalid hname hdense
      · exact h
      · exact h
      · exact h
      · -- the id is the number of streams so far, and has eight bits
        have hid : streamId.toNat < 256 := streamId.toNat_lt
        rw [List.length_append, List.length_singleton]
        omega
  | subscribe consumer =>
      cases consumer with
      | none => exact h
      | some consumer =>
          simp only [step, subscribe]
          split_ifs <;> exact h
  | unsubscribe consumer =>
      cases consumer with
      | none => exact h
      | some consumer =>
          simp only [step, unsubscribe]
          split_ifs <;> exact h
  | start =>
      simp only [step, start]
      split_ifs <;> exact h
  | ingest streamId packet codecExtraData =>
      exact (sameSwitches_ingest session streamId packet codecExtraData).length.trans_le h
  | setRingCapacityBytes capacityBytes =>
      exact (sameSwitches_setRingCapacityBytes session capacityBytes).length.trans_le h
  | setReplayRetentionEnabled enabled =>
      exact (length_setReplayRetentionEnabled session enabled).trans_le h
  | stop => exact h

theorem Reachable.length_le (h : session.Reachable) : session.streams.length ≤ 256 := by
  obtain ⟨ringCapacityBytes, past, hrun⟩ := h
  exact hrun.stateInvariant (P := fun session => session.streams.length ≤ 256) (Nat.zero_le _)
    fun _ call hlength => length_step hlength call

/-- The overloads without ids answer for all streams if and only if there are fewer than 256,
which is how many a session takes. -/
theorem all_streams_answered_iff (h : session.Reachable) (durationNs : Nat) :
    session.streams.length ≤ 256 ∧
      (session.AnswersForAll durationNs ↔ session.streams.length < 256) :=
  ⟨h.length_le, answersForAll_iff durationNs⟩

/-- Names of different lengths. -/
def filledName (position : Nat) : String := String.ofList (List.replicate (position + 1) 's')

def filledStream (position : Nat) : StreamState where
  name := filledName position
  config := { width := 16, height := 9 }

/-- A session that has taken this many streams. -/
def filledSession (streamCount : Nat) : SynchronizedCaptureSession :=
  Runs.exec step (create 1024) ((List.range streamCount).map (fun position =>
    .registerStream (UInt8.ofNat position) (filledName position) { width := 16, height := 9 }))

theorem filledName_length (position : Nat) : (filledName position).length = position + 1 := by
  rw [filledName, String.length_ofList, List.length_replicate]

theorem filledSession_reachable (streamCount : Nat) : (filledSession streamCount).Reachable :=
  ⟨1024, _, Runs.run_exec _ _⟩

theorem registerStream_filled {position : Nat} (hposition : position < 256) :
    registerStream { ringCapacityBytes := 1024, streams := (List.range position).map filledStream }
        (UInt8.ofNat position) (filledName position) { width := 16, height := 9 } =
      (true, { ringCapacityBytes := 1024,
               streams := (List.range (position + 1)).map filledStream }) := by
  have hnamed : filledName position ≠ "" := by
    intro hempty
    have hlength := filledName_length position
    rw [hempty] at hlength
    cases hlength
  have hnew : ¬ ((List.range position).map filledStream).any
      (fun stream => stream.name = filledName position) = true := by
    intro hany
    obtain ⟨stream, hstream, hname⟩ := List.any_eq_true.mp hany
    obtain ⟨earlier, hearlier, rfl⟩ := List.mem_map.mp hstream
    have hlength := congrArg String.length (of_decide_eq_true hname)
    change (filledName earlier).length = (filledName position).length at hlength
    rw [filledName_length, filledName_length] at hlength
    have hlt := List.mem_range.mp hearlier
    omega
  have hid : (UInt8.ofNat position).toNat = position := UInt8.toNat_ofNat_of_lt' hposition
  unfold registerStream
  rw [if_neg (by simp [hnamed]), if_neg hnew, if_neg (by simp [hid]), List.range_succ,
    List.map_append]
  rfl

theorem filledSession_eq {streamCount : Nat} (h : streamCount ≤ 256) :
    filledSession streamCount =
      { ringCapacityBytes := 1024, streams := (List.range streamCount).map filledStream } := by
  induction streamCount with
  | zero => rfl
  | succ streamCount ih =>
      have hnext : filledSession (streamCount + 1) =
          (step (filledSession streamCount) (.registerStream (UInt8.ofNat streamCount)
            (filledName streamCount) { width := 16, height := 9 })).2 := by
        rw [filledSession, List.range_succ, List.map_append, Runs.exec_append]
        rfl
      rw [hnext, ih (Nat.le_of_succ_le h)]
      simp only [step, registerStream_filled h]

/-- A session with 256 streams never answers. -/
theorem full_session_never_answers :
    (filledSession 256).Reachable ∧ (filledSession 256).streams.length = 256 ∧
      ¬ (filledSession 256).AnswersForAll 1 := by
  have hlength : (filledSession 256).streams.length = 256 := by
    rw [filledSession_eq le_rfl]
    simp
  refine ⟨filledSession_reachable 256, hlength, ?_⟩
  rw [answersForAll_iff, hlength]
  exact lt_irrefl 256

theorem all_streams_answered_one_less : (filledSession 255).AnswersForAll 1 := by
  apply (all_streams_answered_iff (filledSession_reachable 255) 1).2.mpr
  rw [filledSession_eq (Nat.le_succ 255)]
  simp

end SynchronizedCaptureSession

end ObsSyncReplay
