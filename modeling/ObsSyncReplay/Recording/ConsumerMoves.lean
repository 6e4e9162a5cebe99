import ObsSyncReplay.Recording.ConsumerLanes

/-!
Everything the worker does between two steps is a sequence of two kinds of moves: the
recording begins at a common keyframe, or one slot is committed on all lanes. What
it does to one packet and what it does at the end are such sequences, which end
where no further move is possible or where a writer refuses. Every invariant of
the recording is then a property of two moves and of a refusal.
-/

namespace ObsSyncReplay

namespace SynchronizedRecordingConsumer

def Keyed (consumer : SynchronizedRecordingConsumer) : Prop :=
  ∀ lane ∈ consumer.lanes, lane.Keyed

/-- The consumer once all writers are open. -/
def begun (consumer : SynchronizedRecordingConsumer) (cts : Nat) :
    SynchronizedRecordingConsumer :=
  { consumer with
    range := { consumer.range with startCts := cts }
    lanes := consumer.lanes.map (RecordingLane.opened cts)
    started := true }

/-- The consumer once all lanes have written a slot. -/
def slotCommitted (consumer : SynchronizedRecordingConsumer) (cts : Nat) :
    SynchronizedRecordingConsumer :=
  { consumer with
    lanes := consumer.lanes.map (RecordingLane.slotWritten consumer.range.startCts cts)
    range := { consumer.range with endCts := cts }
    packetCount := consumer.packetCount + 1
    committed := consumer.committed ++ [cts] }

inductive Move (consumer : SynchronizedRecordingConsumer) :
    SynchronizedRecordingConsumer → Prop
  | begin (cts : Nat) (hstarted : consumer.started = false)
      (hcommon : consumer.commonKeyframe = some cts)
      (hopen : ∀ lane ∈ consumer.lanes, ((lane.eraseBefore cts).openAt cts).1 = none) :
      Move consumer (consumer.begun cts)
  | commit (cts : Nat) (hstarted : consumer.started = true)
      (hnext : consumer.nextSlot = some cts)
      (hwrite : ∀ lane ∈ consumer.lanes,
        (lane.writeSlot consumer.range.startCts cts).1 = none) :
      Move consumer (consumer.slotCommitted cts)

abbrev Moves : SynchronizedRecordingConsumer → SynchronizedRecordingConsumer → Prop :=
  Relation.ReflTransGen Move

/-- A writer refused a call, and the recording failed. The lanes before it may have
been given the next slot already. -/
inductive Refused (consumer : SynchronizedRecordingConsumer) :
    SynchronizedRecordingConsumer → Prop
  | mk (error : String) (range : ReplayFrameRange) (lanes : List RecordingLane)
      (herror : error ≠ "")
      (hrange : range = consumer.range ∨
        consumer.started = false ∧ range.endCts = consumer.range.endCts)
      (hgiven : List.Forall₂ (fun lane lane' : RecordingLane =>
        lane'.givenCts = lane.givenCts ∨ consumer.started = true ∧
          ∃ cts ∈ consumer.nextSlot, lane'.givenCts = lane.givenCts ++ [cts])
        consumer.lanes lanes)
      (hkeyed : consumer.Keyed → ∀ lane ∈ lanes, lane.Keyed)
      (hrefused : ∃ lane ∈ lanes, ¬ lane.AllAccepted) :
      Refused consumer ({ consumer with range := range, lanes := lanes }.fail error)

/-- No move is possible. -/
structure Settled (consumer : SynchronizedRecordingConsumer) : Prop where
  start : consumer.started = false → consumer.commonKeyframe = none
  flushed : consumer.started = true → consumer.nextSlot = none

section Fail

variable {consumer : SynchronizedRecordingConsumer} {error : String}

theorem fail_of_failed (h : consumer.failed = true) : consumer.fail error = consumer :=
  if_pos h

@[simp] theorem fail_failed : (consumer.fail error).failed = true := by
  unfold fail
  split_ifs with h
  · exact h
  · rfl

@[simp] theorem fail_lanes : (consumer.fail error).lanes = consumer.lanes := by
  unfold fail
  split_ifs <;> rfl

@[simp] theorem fail_queue : (consumer.fail error).queue = consumer.queue := by
  unfold fail
  split_ifs <;> rfl

@[simp] theorem fail_started : (consumer.fail error).started = consumer.started := by
  unfold fail
  split_ifs <;> rfl

@[simp] theorem fail_range : (consumer.fail error).range = consumer.range := by
  unfold fail
  split_ifs <;> rfl

@[simp] theorem fail_committed : (consumer.fail error).committed = consumer.committed := by
  unfold fail
  split_ifs <;> rfl

@[simp] theorem fail_running : (consumer.fail error).running = consumer.running := by
  unfold fail
  split_ifs <;> rfl

@[simp] theorem fail_stopRequested :
    (consumer.fail error).stopRequested = consumer.stopRequested := by
  unfold fail
  split_ifs <;> rfl

theorem fail_result :
    (consumer.fail error).result =
      if consumer.failed then consumer.result else some { error := error } := by
  unfold fail
  split_ifs <;> rfl

theorem Refused.failed {consumer' : SynchronizedRecordingConsumer}
    (h : Refused consumer consumer') : consumer'.failed = true := by
  cases h
  exact fail_failed

theorem Keyed.fail (h : consumer.Keyed) (error : String) : (consumer.fail error).Keyed := by
  intro lane hlane
  rw [fail_lanes] at hlane
  exact h lane hlane

theorem Refused.keyed {consumer' : SynchronizedRecordingConsumer}
    (h : Refused consumer consumer') (hkeyed : consumer.Keyed) : consumer'.Keyed := by
  obtain ⟨error, range, lanes, -, -, -, hlanes, -⟩ := h
  have hafter : Keyed { consumer with range := range, lanes := lanes } := hlanes hkeyed
  exact hafter.fail error

end Fail

section Lookup

variable {consumer : SynchronizedRecordingConsumer} {cts : Nat}

theorem nextSlot_eq :
    consumer.nextSlot = consumer.frontPending.head?.filter
      (fun cts => consumer.lanes.all (fun lane => lane.pending.contains cts)) := by
  unfold nextSlot frontPending
  cases consumer.lanes with
  | nil => rfl
  | cons front rest =>
      simp [OrderedMap.first?, OrderedMap.keys]

theorem nextSlot_eq_some :
    consumer.nextSlot = some cts ↔
      consumer.frontPending.head? = some cts ∧
        ∀ lane ∈ consumer.lanes, cts ∈ lane.pending.keys := by
  rw [nextSlot_eq, Option.filter_eq_some_iff]
  simp only [List.all_eq_true, OrderedMap.contains_iff]

theorem nextSlot_eq_none (h : consumer.nextSlot = none)
    (hhead : consumer.frontPending.head? = some cts) :
    ∃ lane ∈ consumer.lanes, cts ∉ lane.pending.keys := by
  by_contra hall
  push Not at hall
  have hsome := nextSlot_eq_some.mpr ⟨hhead, hall⟩
  rw [h] at hsome
  cases hsome

theorem frontPending_ascending : consumer.frontPending.Pairwise (· < ·) := by
  unfold frontPending
  cases consumer.lanes with
  | nil => exact .nil
  | cons front rest => exact front.pending.keys_ascending

theorem mem_keys_of_keyframeAt {lane : RecordingLane} (h : lane.keyframeAt cts = true) :
    cts ∈ lane.pending.keys := by
  obtain ⟨captured, hfind, -⟩ := (Option.any_eq_true _ _).mp h
  exact OrderedMap.mem_keys_of_find? hfind

theorem commonKeyframe_eq_some (h : consumer.commonKeyframe = some cts) :
    ∀ lane ∈ consumer.lanes, lane.keyframeAt cts = true := by
  obtain ⟨front, -, hfound⟩ := Option.bind_eq_some_iff.mp h
  obtain ⟨e, he, rfl⟩ := Option.map_eq_some_iff.mp hfound
  have hpasses := List.find?_some he
  simp only [decide_eq_true_eq, List.all_eq_true] at hpasses
  exact hpasses.2

theorem commonKeyframe_eq_none (h : consumer.commonKeyframe = none)
    (hlanes : consumer.lanes ≠ []) : ∃ lane ∈ consumer.lanes, lane.keyframeAt cts ≠ true := by
  by_contra hall
  push Not at hall
  obtain ⟨front, rest, hfront⟩ := List.exists_cons_of_ne_nil hlanes
  have hmem : front ∈ consumer.lanes := by simp [hfront]
  obtain ⟨captured, hfind, hkeyframe⟩ := (Option.any_eq_true _ _).mp (hall front hmem)
  rw [commonKeyframe, hfront, List.head?_cons, Option.bind_some, Option.map_eq_none_iff,
    List.find?_eq_none] at h
  refine h _ (OrderedMap.find?_eq_some.mp hfind) ?_
  simp only [decide_eq_true_eq, List.all_eq_true]
  exact ⟨hkeyframe, fun lane hlane => hall lane (hfront ▸ hlane)⟩

end Lookup

section Cases

variable {consumer : SynchronizedRecordingConsumer} {cts : Nat}

theorem openAt_some {lane : RecordingLane} {error : String} (hmem : cts ∈ lane.pending.keys)
    (h : (lane.openAt cts).1 = some error) :
    error ≠ "" ∧ ¬ (lane.openAt cts).2.AllAccepted := by
  have hopen : (MkvPacketWriter.open {} lane.library lane.path lane.config).1 = false := by
    by_contra htrue
    have hnone := RecordingLane.openAt_eq_none_iff.mpr ⟨by simpa using htrue, hmem⟩
    rw [hnone] at h
    cases h
  refine ⟨?_, fun hall => ?_⟩
  · simp only [RecordingLane.openAt, hopen, Bool.not_false, if_true] at h
    rw [← Option.some.inj h]
    exact append_ne_empty (by decide) _
  · rw [(RecordingLane.openAt_allAccepted_iff.mp hall).2] at hopen
    cases hopen

theorem writeSlot_some {lane : RecordingLane} {startCts : Nat} {error : String}
    (h : (lane.writeSlot startCts cts).1 = some error) :
    error ≠ "" ∧ ¬ (lane.writeSlot startCts cts).2.AllAccepted := by
  refine ⟨?_, fun hall => ?_⟩
  · simp only [RecordingLane.writeSlot] at h
    split_ifs at h
    rw [← Option.some.inj h]
    exact append_ne_empty (by decide) _
  · rw [(RecordingLane.writeSlot_allAccepted_iff.mp hall).2] at h
    cases h

theorem beginAt_cases (hstarted : consumer.started = false)
    (hcommon : consumer.commonKeyframe = some cts) :
    (Move consumer (consumer.begun cts) ∧
        consumer.beginAt cts = (true, consumer.begun cts)) ∨
      ∃ consumer', Refused consumer consumer' ∧ consumer'.started = false ∧
        consumer.beginAt cts = (false, consumer') := by
  have hmem : ∀ lane ∈ consumer.lanes.map (fun lane => lane.eraseBefore cts),
      cts ∈ lane.pending.keys := by
    intro trimmed htrimmed
    obtain ⟨lane, hlane, rfl⟩ := List.mem_map.mp htrimmed
    obtain ⟨value, hvalue⟩ := OrderedMap.mem_keys.mp
      (mem_keys_of_keyframeAt (commonKeyframe_eq_some hcommon lane hlane))
    refine OrderedMap.mem_keys.mpr ⟨value, ?_⟩
    rw [RecordingLane.eraseBefore, OrderedMap.entries_eraseBefore]
    exact List.mem_filter.mpr ⟨hvalue, by simp⟩
  cases herror : (eachLane (RecordingLane.openAt cts)
      (consumer.lanes.map (fun lane => lane.eraseBefore cts))).1 with
  | none =>
      obtain ⟨hall, hmap⟩ := eachLane_none herror
      rw [List.map_map] at hmap
      refine Or.inl ⟨.begin cts hstarted hcommon (fun lane hlane =>
        hall _ (List.mem_map_of_mem hlane)), ?_⟩
      simp only [beginAt, herror, hmap]
      rfl
  | some error =>
      obtain ⟨htouched, lane, hlane, hstopped, hin⟩ := eachLane_some herror
      obtain ⟨hne, hrefused⟩ := openAt_some (hmem lane hlane) hstopped
      refine Or.inr ⟨_, .mk error { consumer.range with startCts := cts } _ hne
        (Or.inr ⟨hstarted, rfl⟩) ?_ (fun hkeyed lane' hlane' => ?_) ⟨_, hin, hrefused⟩, ?_, ?_⟩
      · rw [List.forall₂_map_left_iff] at htouched
        refine htouched.imp (fun lane lane' hlane' => Or.inl ?_)
        rcases hlane' with rfl | rfl
        · rfl
        · exact RecordingLane.openAt_givenCts
      · obtain ⟨trimmed, htrimmed, hrelated⟩ := exists_of_mem_right htouched hlane'
        obtain ⟨before, hbefore, rfl⟩ := List.mem_map.mp htrimmed
        have hbefore' := (hkeyed before hbefore).eraseBefore cts
        rcases hrelated with rfl | rfl
        · exact hbefore'
        · exact hbefore'.openAt cts
      · rw [fail_started]
        exact hstarted
      · simp only [beginAt, herror]

theorem commitSlot_cases (hkeyed : consumer.Keyed) (hstarted : consumer.started = true)
    (hnext : consumer.nextSlot = some cts) :
    ((∀ lane ∈ consumer.lanes, (lane.writeSlot consumer.range.startCts cts).1 = none) ∧
        consumer.commitSlot cts = (true, consumer.slotCommitted cts)) ∨
      ∃ consumer', Refused consumer consumer' ∧ consumer.commitSlot cts = (false, consumer') := by
  have hshared := (nextSlot_eq_some.mp hnext).2
  cases herror : (eachLane (RecordingLane.writeSlot consumer.range.startCts cts)
      consumer.lanes).1 with
  | none =>
      obtain ⟨hall, hmap⟩ := eachLane_none herror
      refine Or.inl ⟨hall, ?_⟩
      simp only [commitSlot, herror, hmap]
      rfl
  | some error =>
      obtain ⟨htouched, lane, hlane, hstopped, hin⟩ := eachLane_some herror
      obtain ⟨hne, hrefused⟩ := writeSlot_some hstopped
      refine Or.inr ⟨_, .mk error consumer.range _ hne (Or.inl rfl) ?_
        (fun _ lane' hlane' => ?_) ⟨_, hin, hrefused⟩, ?_⟩
      · refine forall₂_imp_of_mem htouched (fun lane hlane lane' hlane' => ?_)
        rcases hlane' with rfl | rfl
        · exact Or.inl rfl
        · exact Or.inr ⟨hstarted, cts, hnext,
            RecordingLane.writeSlot_givenCts (hkeyed lane hlane) (hshared lane hlane)⟩
      · obtain ⟨before, hbefore, hrelated⟩ := exists_of_mem_right htouched hlane'
        rcases hrelated with rfl | rfl
        · exact hkeyed lane' hbefore
        · exact (hkeyed before hbefore).writeSlot _ cts
      · simp only [commitSlot, herror]

theorem Move.keyed {consumer' : SynchronizedRecordingConsumer} (h : Move consumer consumer')
    (hkeyed : consumer.Keyed) : consumer'.Keyed := by
  cases h with
  | begin cts hstarted hcommon hopen =>
      intro lane' hlane'
      obtain ⟨lane, hlane, rfl⟩ := List.mem_map.mp hlane'
      exact ((hkeyed lane hlane).eraseBefore cts).openAt cts
  | commit cts hstarted hnext hwrite =>
      intro lane' hlane'
      obtain ⟨lane, hlane, rfl⟩ := List.mem_map.mp hlane'
      exact (hkeyed lane hlane).writeSlot _ cts

theorem Move.started {consumer' : SynchronizedRecordingConsumer}
    (h : Move consumer consumer') : consumer'.started = true := by
  cases h with
  | begin cts hstarted hcommon hopen => rfl
  | commit cts hstarted hnext hwrite => exact hstarted

/-- The front loses the slot that was committed. -/
theorem frontPending_slotCommitted_lt
    (hwrite : ∀ lane ∈ consumer.lanes, (lane.writeSlot consumer.range.startCts cts).1 = none)
    (hnext : consumer.nextSlot = some cts) :
    (consumer.slotCommitted cts).frontPending.length < consumer.frontPending.length := by
  obtain ⟨hhead, hshared⟩ := nextSlot_eq_some.mp hnext
  have hsub : (consumer.slotCommitted cts).frontPending ⊆ consumer.frontPending.erase cts := by
    intro other hother
    unfold frontPending slotCommitted at *
    cases hlanes : consumer.lanes with
    | nil => simp [hlanes] at hother
    | cons front rest =>
        have hfront : front ∈ consumer.lanes := by simp [hlanes]
        simp only [hlanes, List.map_cons, List.head?_cons, Option.elim_some] at hother ⊢
        obtain ⟨hold, hne⟩ :=
          (RecordingLane.mem_slotWritten_keys (hwrite front hfront)).mp hother
        exact (List.mem_erase_of_ne hne).mpr hold
  have hlength := (List.nodup_iff_pairwise_ne.mpr (frontPending_ascending.imp ne_of_lt)
    |>.subperm hsub).length_le
  have hmem := List.mem_of_head? hhead
  rw [List.length_erase_of_mem hmem] at hlength
  have := List.length_pos_of_mem hmem
  omega

theorem flushSlots_cases (fuel : Nat) (hkeyed : consumer.Keyed)
    (hstarted : consumer.started = true) (hfuel : consumer.frontPending.length ≤ fuel) :
    ∃ middle, Moves consumer middle ∧ middle.started = true ∧
      ((flushSlots fuel consumer = (true, middle) ∧ middle.nextSlot = none) ∨
        ∃ consumer', Refused middle consumer' ∧
          flushSlots fuel consumer = (false, consumer')) := by
  induction fuel generalizing consumer with
  | zero =>
      have hnone : consumer.nextSlot = none := by
        rw [nextSlot_eq, List.length_eq_zero_iff.mp (Nat.le_zero.mp hfuel)]
        rfl
      exact ⟨consumer, .refl, hstarted, Or.inl ⟨rfl, hnone⟩⟩
  | succ fuel ih =>
      cases hnext : consumer.nextSlot with
      | none => exact ⟨consumer, .refl, hstarted, Or.inl ⟨by simp [flushSlots, hnext], hnext⟩⟩
      | some cts =>
          rcases commitSlot_cases hkeyed hstarted hnext with
            ⟨hwrite, hcommit⟩ | ⟨consumer', hrefused, hcommit⟩
          · have hmove := Move.commit cts hstarted hnext hwrite
            have hshorter := frontPending_slotCommitted_lt hwrite hnext
            obtain ⟨middle, hmoves, hmiddle, hend⟩ :=
              ih (hmove.keyed hkeyed) hmove.started (by omega)
            refine ⟨middle, hmoves.head hmove, hmiddle, ?_⟩
            simpa only [flushSlots, hnext, hcommit] using hend
          · exact ⟨consumer, .refl, hstarted, Or.inr ⟨consumer', hrefused,
              by simp only [flushSlots, hnext, hcommit]⟩⟩

theorem flushCommonPrefix_cases (hkeyed : consumer.Keyed) (hstarted : consumer.started = true) :
    ∃ middle, Moves consumer middle ∧
      ((consumer.flushCommonPrefix = (true, middle) ∧ Settled middle ∧ middle.started = true) ∨
        ∃ consumer', Refused middle consumer' ∧
          consumer.flushCommonPrefix = (false, consumer')) := by
  obtain ⟨middle, hmoves, hmiddle, hend⟩ := flushSlots_cases _ hkeyed hstarted le_rfl
  refine ⟨middle, hmoves, ?_⟩
  rw [flushCommonPrefix, if_neg (by simp [hstarted])]
  refine hend.imp_left (fun ⟨hflush, hnext⟩ => ⟨hflush, ⟨fun h => ?_, fun _ => hnext⟩, hmiddle⟩)
  rw [hmiddle] at h
  cases h

/-- An attempt to start either changes nothing, for want of a common keyframe, or
begins the recording, or is refused by a writer. -/
theorem establishCommonStart_cases (hstarted : consumer.started = false) :
    (consumer.commonKeyframe = none ∧ consumer.establishCommonStart = (false, consumer)) ∨
      (∃ consumer', Move consumer consumer' ∧
        consumer.establishCommonStart = (true, consumer')) ∨
      ∃ consumer', Refused consumer consumer' ∧ consumer'.started = false ∧
        consumer.establishCommonStart = (false, consumer') := by
  unfold establishCommonStart
  by_cases hempty : consumer.lanes.isEmpty = true
  · refine Or.inl ⟨?_, ?_⟩
    · rw [commonKeyframe, List.isEmpty_iff.mp hempty]
      rfl
    · rw [if_pos (Or.inr hempty), hstarted]
  · rw [if_neg (by simp [hstarted, hempty])]
    cases hcommon : consumer.commonKeyframe with
    | none => exact Or.inl ⟨rfl, rfl⟩
    | some cts =>
        rcases beginAt_cases hstarted hcommon with
          ⟨hmove, hbegin⟩ | ⟨consumer', hrefused, hnot, hbegin⟩
        · exact Or.inr (Or.inl ⟨_, hmove, hbegin⟩)
        · exact Or.inr (Or.inr ⟨consumer', hrefused, hnot, hbegin⟩)

/-- An insertion touches the lane of the packet's stream. -/
theorem insert_getElem? (captured : CapturedEncodedPacket) (position : Nat) :
    (consumer.insert captured).lanes[position]? = consumer.lanes[position]?.map (fun lane =>
      if consumer.localStreamIndex captured.streamId = some position then lane.insert captured
      else lane) := by
  unfold SynchronizedRecordingConsumer.insert
  cases consumer.localStreamIndex captured.streamId with
  | none => simp
  | some index => simp [List.getElem?_modify]

/-- Every lane after an insertion is a lane before it, with the packet inserted or not. -/
theorem insert_lanes (captured : CapturedEncodedPacket) {lane' : RecordingLane}
    (h : lane' ∈ (consumer.insert captured).lanes) :
    ∃ lane ∈ consumer.lanes, lane' = lane ∨ lane' = lane.insert captured := by
  obtain ⟨position, hposition⟩ := List.mem_iff_getElem?.mp h
  rw [insert_getElem?] at hposition
  obtain ⟨lane, hlane, rfl⟩ := Option.map_eq_some_iff.mp hposition
  refine ⟨lane, List.mem_of_getElem? hlane, ?_⟩
  split_ifs
  · exact Or.inr rfl
  · exact Or.inl rfl

theorem Keyed.insert (h : consumer.Keyed) (captured : CapturedEncodedPacket) :
    (consumer.insert captured).Keyed := by
  intro lane' hlane'
  obtain ⟨lane, hlane, rfl | rfl⟩ := insert_lanes captured hlane'
  · exact h lane' hlane
  · exact (h lane hlane).insert captured

/-- The work on one packet: it is inserted, then moves are made until none is
possible, unless too much is pending or a writer refuses. -/
theorem process_cases (hkeyed : consumer.Keyed) (captured : CapturedEncodedPacket) :
    ((consumer.insert captured).pendingPacketCount > kMaxQueuePackets ∧
        consumer.process captured =
          (false, (consumer.insert captured).fail "recording-pending-overflow")) ∨
      ∃ middle, Moves (consumer.insert captured) middle ∧
        ((consumer.process captured = (true, middle) ∧ Settled middle) ∨
          ∃ continues consumer', Refused middle consumer' ∧
            consumer.process captured = (continues, consumer')) := by
  have hinserted := hkeyed.insert captured
  unfold process
  dsimp only
  split_ifs with hoverflow hstarted hestablished
  · exact Or.inl ⟨hoverflow, rfl⟩
  · right
    obtain ⟨middle, hmoves, hend⟩ := flushCommonPrefix_cases hinserted hstarted
    exact ⟨middle, hmoves, hend.imp (fun h => ⟨h.1, h.2.1⟩) (fun ⟨c, h⟩ => ⟨_, c, h⟩)⟩
  · right
    have hnot : (consumer.insert captured).started = false := by simpa using hstarted
    rcases establishCommonStart_cases hnot with
      ⟨-, h⟩ | ⟨consumer', hmove, h⟩ | ⟨consumer', -, hnot', h⟩
    · rw [h, hnot] at hestablished
      cases hestablished
    · rw [h]
      obtain ⟨middle, hmoves, hend⟩ :=
        flushCommonPrefix_cases (hmove.keyed hinserted) hmove.started
      exact ⟨middle, hmoves.head hmove,
        hend.imp (fun h => ⟨h.1, h.2.1⟩) (fun ⟨c, h⟩ => ⟨_, c, h⟩)⟩
    · rw [h, hnot'] at hestablished
      cases hestablished
  · right
    have hnot : (consumer.insert captured).started = false := by simpa using hstarted
    rcases establishCommonStart_cases hnot with
      ⟨hnone, h⟩ | ⟨consumer', hmove, h⟩ | ⟨consumer', hrefused, -, h⟩
    · refine ⟨_, .refl, Or.inl ⟨by rw [h], ⟨fun _ => hnone, fun h' => ?_⟩⟩⟩
      rw [hnot] at h'
      cases h'
    · rw [h, hmove.started] at hestablished
      exact absurd rfl hestablished
    · exact ⟨_, .refl, Or.inr ⟨_, _, hrefused, by rw [h]⟩⟩

/-- The part of `settle` that follows a start. -/
theorem settle_started_cases (hkeyed : consumer.Keyed) (hstarted : consumer.started = true) :
    ∃ middle, Moves consumer middle ∧
      ((Settled middle ∧ middle.started = true ∧
          (∃ lane ∈ middle.lanes, lane.pending.isEmpty = false) ∧
          consumer.settle = middle.fail "recording-unresolved-common-prefix") ∨
        (Settled middle ∧ middle.started = true ∧
          (∀ lane ∈ middle.lanes, lane.pending.isEmpty = true) ∧ consumer.settle = middle) ∨
        Refused middle consumer.settle) := by
  obtain ⟨middle, hmoves, ⟨hflush, hsettled, hmiddle⟩ | ⟨consumer', hrefused, hflush⟩⟩ :=
    flushCommonPrefix_cases hkeyed hstarted
  · refine ⟨middle, hmoves, ?_⟩
    simp only [settle, hstarted, if_true, hflush, Bool.not_true, Bool.false_eq_true, if_false]
    split_ifs with hany
    · obtain ⟨lane, hlane, hpending⟩ := List.any_eq_true.mp hany
      exact Or.inl ⟨hsettled, hmiddle, ⟨lane, hlane, by simpa using hpending⟩, rfl⟩
    · refine Or.inr (Or.inl ⟨hsettled, hmiddle, fun lane hlane => ?_, rfl⟩)
      by_contra hpending
      exact hany (List.any_eq_true.mpr ⟨lane, hlane, by simpa using hpending⟩)
  · refine ⟨middle, hmoves, Or.inr (Or.inr ?_)⟩
    simp only [settle, hstarted, if_true, hflush, Bool.not_true, Bool.not_false,
      Bool.false_eq_true, if_false]
    rwa [fail_of_failed hrefused.failed]

theorem settle_of_established {consumer' : SynchronizedRecordingConsumer}
    (hstarted : consumer.started = false)
    (h : consumer.establishCommonStart = (true, consumer'))
    (h' : consumer'.started = true) : consumer.settle = consumer'.settle := by
  unfold settle
  rw [if_neg (by simp [hstarted]), h, if_pos h']

/-- The end of the recording: moves until none is possible, and a failure where the
recording has not begun or something is still pending. -/
theorem settle_cases (hkeyed : consumer.Keyed) :
    ∃ middle, Moves consumer middle ∧
      ((Settled middle ∧ middle.started = false ∧
          consumer.settle = middle.fail "no-common-recording-start-keyframe") ∨
        (Settled middle ∧ middle.started = true ∧
          (∃ lane ∈ middle.lanes, lane.pending.isEmpty = false) ∧
          consumer.settle = middle.fail "recording-unresolved-common-prefix") ∨
        (Settled middle ∧ middle.started = true ∧
          (∀ lane ∈ middle.lanes, lane.pending.isEmpty = true) ∧ consumer.settle = middle) ∨
        Refused middle consumer.settle) := by
  by_cases hstarted : consumer.started = true
  · obtain ⟨middle, hmoves, hend⟩ := settle_started_cases hkeyed hstarted
    exact ⟨middle, hmoves, Or.inr hend⟩
  · have hnot : consumer.started = false := by simpa using hstarted
    rcases establishCommonStart_cases hnot with
      ⟨hnone, h⟩ | ⟨consumer', hmove, h⟩ | ⟨consumer', hrefused, -, h⟩
    · refine ⟨consumer, .refl, Or.inl ⟨⟨fun _ => hnone, fun h' => absurd h' hstarted⟩, hnot, ?_⟩⟩
      simp only [settle, hnot, Bool.false_eq_true, if_false, h, Bool.not_false, if_true]
    · rw [settle_of_established hnot h hmove.started]
      obtain ⟨middle, hmoves, hend⟩ :=
        settle_started_cases (hmove.keyed hkeyed) hmove.started
      exact ⟨middle, hmoves.head hmove, Or.inr hend⟩
    · refine ⟨consumer, .refl, Or.inr (Or.inr (Or.inr ?_))⟩
      simp only [settle, hnot, Bool.false_eq_true, if_false, h, Bool.not_false, if_true]
      rwa [fail_of_failed hrefused.failed]

end Cases

end SynchronizedRecordingConsumer

end ObsSyncReplay
