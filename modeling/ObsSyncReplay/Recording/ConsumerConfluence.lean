import ObsSyncReplay.Recording.ConsumerMerge

/-!
What a recording comes to when nothing disturbs it: every packet is delivered before
the stop, no queue is full and no writer call fails. Then the outcome is the one
that `merge` computes from what was delivered to each stream, and so it does not depend on how the
streams were interleaved.
-/

namespace ObsSyncReplay

namespace SynchronizedRecordingConsumer

open AscendingList

/-- The packets that `OnPacket` was called with, by the lane they are for. -/
def delivered (first : SynchronizedRecordingConsumer) (past : History) : Streams :=
  fun position => past.filterMap (fun t =>
    match t.input with
    | .onPacket (some captured) =>
        if first.localStreamIndex captured.streamId = some position then some captured else none
    | _ => none)

/-- The packets that the worker has handled, by the lane they are for. -/
def taken (first : SynchronizedRecordingConsumer) (past : History) : Streams :=
  fun position => (handled past).filter (fun captured =>
    first.localStreamIndex captured.streamId = some position)

def Event.isPacket : Event → Bool
  | .onPacket _ => true
  | _ => false

/-- Nothing goes wrong in the step: a packet comes before the stop and finds room, and
the writers accept what they are asked. -/
structure Undisturbed (t : Runs.Transition SynchronizedRecordingConsumer Event Unit) :
    Prop where
  beforeStop : t.input.isPacket = true → t.before.stopRequested = false
  room : t.input.isPacket = true → t.before.queue.length < kMaxQueuePackets
  pending : ∀ captured ∈ handling t,
    (t.before.insert captured).pendingPacketCount ≤ kMaxQueuePackets
  accepted : ∀ lane ∈ t.after.lanes, lane.AllAccepted

instance (t : Runs.Transition SynchronizedRecordingConsumer Event Unit) :
    Decidable (Undisturbed t) :=
  decidable_of_iff
    ((t.input.isPacket = true → t.before.stopRequested = false) ∧
      (t.input.isPacket = true → t.before.queue.length < kMaxQueuePackets) ∧
      (∀ captured ∈ handling t,
        (t.before.insert captured).pendingPacketCount ≤ kMaxQueuePackets) ∧
      ∀ lane ∈ t.after.lanes, ∀ event ∈ lane.calls, event.accepted = true)
    ⟨fun ⟨hstop, hroom, hpending, haccepted⟩ => ⟨hstop, hroom, hpending, haccepted⟩,
      fun h => ⟨h.beforeStop, h.room, h.pending, h.accepted⟩⟩

/-- The recording has ended with this outcome. -/
def Ends (consumer : SynchronizedRecordingConsumer) (outcome : Streams.Outcome) : Prop :=
  ∃ result, consumer.result = some result ∧ result.success = outcome.success ∧
    result.range = outcome.range ∧ result.packetCount = outcome.packetCount ∧
    ∀ lane ∈ consumer.lanes, lane.writtenCts = outcome.written

/-! ### Finalizing writers that accept everything -/

section Finalize

variable {consumer consumer' : SynchronizedRecordingConsumer} {range : ReplayFrameRange}

theorem finalize_lane_accepted {lane : RecordingLane} {failed : Bool}
    (h : (lane.finalize range failed).2.2.AllAccepted) : lane.AllAccepted := by
  unfold RecordingLane.finalize at h
  cases hwriter : lane.writer with
  | none => simpa only [hwriter] using h
  | some writer =>
      simp only [hwriter] at h
      split_ifs at h
      · exact (RecordingLane.allAccepted_append.mp h).1
      · exact (RecordingLane.allAccepted_append.mp h).1
      · exact (RecordingLane.allAccepted_append.mp h).1

theorem finalizeLanes_accepted {failed : Bool} {lanes : List RecordingLane}
    (h : ∀ lane ∈ (finalizeLanes range failed lanes).2.2, lane.AllAccepted) :
    ∀ lane ∈ lanes, lane.AllAccepted := by
  induction lanes generalizing failed with
  | nil => simp
  | cons lane rest ih =>
      simp only [finalizeLanes, List.forall_mem_cons] at h ⊢
      exact ⟨finalize_lane_accepted h.1, ih h.2⟩

theorem Refused.not_accepted (h : Refused consumer consumer') :
    ¬ ∀ lane ∈ consumer'.finalize.lanes, lane.AllAccepted := by
  intro hall
  have hbefore : ∀ lane ∈ consumer'.lanes, lane.AllAccepted := finalizeLanes_accepted hall
  obtain ⟨error, range, lanes, -, -, -, -, lane, hlane, hnot⟩ := h
  rw [fail_lanes] at hbefore
  exact hnot (hbefore lane hlane)

/-- Writers that accept the call and cover the range finalize well. -/
theorem finalizeLanes_eq_none {lanes : List RecordingLane}
    (hcover : ∀ lane ∈ lanes, ∃ writer, lane.writer = some writer ∧
      writer.firstSourceCts = range.startCts ∧ writer.lastSourceCts = range.endCts)
    (haccepted : ∀ lane ∈ (finalizeLanes range false lanes).2.2, lane.AllAccepted) :
    (finalizeLanes range false lanes).1 = none := by
  induction lanes with
  | nil => rfl
  | cons lane rest ih =>
      simp only [List.forall_mem_cons, finalizeLanes, Bool.false_or] at hcover haccepted ⊢
      obtain ⟨⟨writer, hwriter, hfirst, hlast⟩, hrest⟩ := hcover
      obtain ⟨hlane, hrest'⟩ := haccepted
      obtain ⟨hfirst', hlast', -⟩ := MkvPacketWriter.finalize_fst writer lane.library
      have hnone : (lane.finalize range false).1 = none := by
        have hsuccess : (writer.finalize lane.library).1.success = true := by
          simp only [RecordingLane.finalize, hwriter, Bool.false_eq_true, if_false] at hlane
          split_ifs at hlane
          · exact (RecordingLane.allAccepted_append.mp hlane).2
          · exact (RecordingLane.allAccepted_append.mp hlane).2
        simp only [RecordingLane.finalize, hwriter, Bool.false_eq_true, if_false]
        rw [if_neg]
        simp only [hsuccess, hfirst', hlast', hfirst, hlast]
        simp
      rw [hnone] at hrest' ⊢
      exact ih hrest hrest'

end Finalize

/-- A recording that goes on: the worker is where `merge` is after the packets it has
handled. -/
structure Progress (first consumer : SynchronizedRecordingConsumer) (streams : Streams) :
    Prop where
  agrees : Agrees consumer
  ascends : Ascends consumer
  begun : consumer.started = true → consumer.committed ≠ []
  merged : Merged streams consumer
  running : consumer.running = true
  failed : consumer.failed = false
  result : consumer.result = none
  ids : consumer.lanes.map RecordingLane.streamId = first.lanes.map RecordingLane.streamId

inductive Merging (first consumer : SynchronizedRecordingConsumer) (past : History) : Prop
  | going (hworker : consumer.worker ≠ .done)
      (hended : consumer.worker = .finishing →
        consumer.queue = [] ∧ consumer.stopRequested = true)
      (h : Progress first consumer (taken first past))
  | ended (hworker : consumer.worker = .done) (hqueue : consumer.queue = [])
      (hstop : consumer.stopRequested = true)
      (h : Ends consumer ((taken first past).merge first.lanes.length))

section Steps

variable {first consumer : SynchronizedRecordingConsumer} {past : History} {streams : Streams}

theorem localStreamIndex_of_ids
    (h : consumer.lanes.map RecordingLane.streamId = first.lanes.map RecordingLane.streamId)
    (streamId : CaptureStreamId) :
    consumer.localStreamIndex streamId = first.localStreamIndex streamId := by
  have hmap : ∀ lanes : List RecordingLane,
      lanes.findIdx? (fun lane => lane.streamId = streamId) =
        (lanes.map RecordingLane.streamId).findIdx? (fun id => id = streamId) := by
    intro lanes
    rw [List.findIdx?_map]
    rfl
  rw [localStreamIndex, localStreamIndex, hmap, hmap, h]

theorem taken_append (t : Runs.Transition SynchronizedRecordingConsumer Event Unit)
    (position : Nat) :
    taken first (past ++ [t]) position = taken first past position ++
      (handling t).toList.filter (fun captured =>
        first.localStreamIndex captured.streamId = some position) := by
  rw [taken, handled_append, List.filter_append]
  rfl

theorem taken_append_of_none {t : Runs.Transition SynchronizedRecordingConsumer Event Unit}
    (h : handling t = none) : taken first (past ++ [t]) = taken first past := by
  funext position
  rw [taken_append, h]
  exact List.append_nil _

theorem Progress.length_eq (h : Progress first consumer streams) :
    consumer.lanes.length = first.lanes.length := by
  simpa only [List.length_map] using congrArg List.length h.ids

/-- A step that touches only the queue, the worker's place and the stop flag. -/
theorem Progress.pass (h : Progress first consumer streams)
    {queue : List CapturedEncodedPacket} {worker : WorkerPhase} {stopRequested : Bool} :
    Progress first
      { consumer with queue := queue, worker := worker, stopRequested := stopRequested }
      streams where
  agrees := ⟨h.agrees.lanes, h.agrees.given, h.agrees.accepted, h.agrees.writing, h.agrees.idle,
    h.agrees.count, h.agrees.last, h.agrees.first⟩
  ascends := ⟨h.ascends.ascending, h.ascends.fromStart, h.ascends.front, h.ascends.unset⟩
  begun := h.begun
  merged := ⟨h.merged.pending, h.merged.shared, h.merged.closed, h.merged.start⟩
  running := h.running
  failed := h.failed
  result := h.result
  ids := h.ids

/-- A packet that its stream brings in ascending order is inserted in order. -/
theorem Progress.inserts_above (h : Progress first consumer streams)
    {captured : CapturedEncodedPacket} {streams' : Streams} (hascending : streams'.Ascending)
    (hstreams : ∀ position, streams' position = streams position ++
      if consumer.localStreamIndex captured.streamId = some position then [captured] else [])
    (hinserts : Inserts consumer captured) (hpositive : 0 < consumer.packetCount) :
    consumer.range.endCts < captured.packet.sourceCts := by
  obtain ⟨index, hindex, -⟩ := hinserts
  rw [h.agrees.count] at hpositive
  obtain ⟨last, hlast⟩ := Option.ne_none_iff_exists'.mp
    (fun hnone => (List.length_pos_iff.mp hpositive) (List.getLast?_eq_none_iff.mp hnone))
  rw [h.agrees.last last hlast]
  have hshared := (h.merged.shared last (List.mem_of_getLast? hlast)).2 index
    (localStreamIndex_lt hindex)
  have hpairwise := hascending index
  simp only [Streams.slots, hstreams index, if_pos (Option.mem_def.mp hindex), List.map_append,
    List.map_cons, List.map_nil] at hpairwise
  exact (List.pairwise_append.mp hpairwise).2.2 last hshared _ (List.mem_singleton_self _)

/-- The work on one packet. -/
theorem Progress.process (h : Progress first consumer (taken first past))
    (hkeyed : consumer.Keyed) {captured : CapturedEncodedPacket}
    (hworker : consumer.worker = .processing captured)
    (hundisturbed : Undisturbed (Runs.transition step consumer .work))
    (hascending : (taken first (past ++ [Runs.transition step consumer .work])).Ascending) :
    Merging first consumer.work (past ++ [Runs.transition step consumer .work]) := by
  have hhandling : handling (Runs.transition step consumer .work) = some captured := by
    simp [handling, Runs.transition, hworker]
  have hstreams : ∀ position,
      taken first (past ++ [Runs.transition step consumer .work]) position =
        taken first past position ++
          if consumer.localStreamIndex captured.streamId = some position then [captured]
          else [] := by
    intro position
    rw [taken_append, hhandling, localStreamIndex_of_ids h.ids]
    simp [List.filter_cons]
  have hframe := insert_frame consumer captured
  have hmerged := h.merged.insert hstreams h.begun hascending
  have hagrees := h.agrees.insert h.begun captured
  have hascends := h.ascends.insert h.agrees h.begun (h.inserts_above hascending hstreams)
  have hkeyed' := hkeyed.insert captured
  have hbound := hundisturbed.pending captured (by rw [hhandling]; rfl)
  have haccepted := hundisturbed.accepted
  change (consumer.insert captured).pendingPacketCount ≤ _ at hbound
  change ∀ lane ∈ consumer.work.lanes, _ at haccepted
  simp only [SynchronizedRecordingConsumer.work, hworker] at haccepted ⊢
  rcases process_cases hkeyed captured with
    ⟨hoverflow, -⟩ | ⟨middle, hmoves, ⟨heq, hsettled⟩ | ⟨continues, consumer', hrefused, heq⟩⟩
  · omega
  · rw [heq]
    have hmiddle := hagrees.moves hkeyed' hmoves
    have hsame := hmoves.frame_eq.trans hframe
    have hprogress : Progress first middle
        (taken first (past ++ [Runs.transition step consumer .work])) :=
      ⟨hmiddle, hascends.moves hagrees hkeyed' hmoves, hmiddle.committed_ne_nil hsettled,
        hmerged.moves hagrees hkeyed' hmoves, (congrArg Frame.running hsame).trans h.running,
        (congrArg Frame.failed hsame).trans h.failed,
        (congrArg Frame.result hsame).trans h.result,
        (congrArg Frame.streamIds hsame).trans h.ids⟩
    refine .going (by simp) (fun hfinishing => ?_) hprogress.pass
    cases hfinishing
  · rw [heq] at haccepted
    obtain ⟨error, range, lanes, -, -, -, -, lane, hlane, hnot⟩ := hrefused
    refine absurd (haccepted lane ?_) hnot
    change lane ∈ (SynchronizedRecordingConsumer.fail _ error).lanes
    rwa [fail_lanes]

/-- What is given to the writers of an ended recording that accept everything. -/
theorem ends_of_result {ending : SynchronizedRecordingConsumer} {outcome : Streams.Outcome}
    {result : SynchronizedRecordingConsumerResult}
    (haccepted : ∀ lane ∈ ending.finalize.lanes, lane.AllAccepted)
    (hgiven : ∀ lane ∈ ending.lanes, lane.givenCts = outcome.written)
    (hresult : ending.finalize.result = some result)
    (hsuccess : result.success = outcome.success) (hrange : result.range = outcome.range)
    (hcount : result.packetCount = outcome.packetCount) :
    Ends { ending.finalize with running := false, worker := .done } outcome := by
  refine ⟨result, hresult, hsuccess, hrange, hcount, fun lane hlane => ?_⟩
  rw [(haccepted lane hlane).writtenCts_eq]
  have hmem := List.mem_map_of_mem (f := RecordingLane.givenCts) hlane
  change _ ∈ ending.finalize.lanes.map RecordingLane.givenCts at hmem
  rw [finalize_givenCts] at hmem
  obtain ⟨before, hbefore, hsame⟩ := List.mem_map.mp hmem
  rw [← hsame]
  exact hgiven before hbefore

/-- A failure at the end leaves a result without a range. -/
theorem ends_of_fail {written : List Nat} {error : String} (hfailed : consumer.failed = false)
    (herror : error ≠ "")
    (haccepted : ∀ lane ∈ (consumer.fail error).finalize.lanes, lane.AllAccepted)
    (hgiven : ∀ lane ∈ consumer.lanes, lane.givenCts = written) :
    Ends { (consumer.fail error).finalize with running := false, worker := .done }
      { written := written } := by
  have hresult : (consumer.fail error).result = some { error := error } := by
    rw [fail_result, if_neg (by simp [hfailed])]
  apply ends_of_result haccepted _ (finalize_of_failed fail_failed hresult herror).2 rfl rfl rfl
  rw [fail_lanes]
  exact hgiven

/-- The end of a recording with nothing left over. -/
theorem Progress.ends_resolved (h : Progress first consumer streams)
    (hascending : streams.Ascending) (hsettled : Settled consumer)
    (hstarted : consumer.started = true)
    (haccepted : ∀ lane ∈ consumer.finalize.lanes, lane.AllAccepted) :
    Ends { consumer.finalize with running := false, worker := .done }
      { success := true
        range := ⟨consumer.range.startCts, consumer.committed.getLast?.getD 0⟩
        packetCount := consumer.committed.length
        written := consumer.committed } := by
  have hne := h.agrees.committed_ne_nil hsettled hstarted
  have hpositive : 0 < consumer.lanes.length := List.length_pos_iff.mpr h.agrees.lanes
  obtain ⟨last, hlast⟩ := Option.ne_none_iff_exists'.mp
    (fun hnone => hne (List.getLast?_eq_none_iff.mp hnone))
  have hend := h.agrees.last last hlast
  have hstart : consumer.range.startCts ∈ consumer.committed := by
    rw [h.merged.committed_eq h.agrees h.ascends hascending hsettled hstarted]
    exact Streams.start_mem_commonSlots hascending hpositive (h.merged.start hstarted).1
  have hnone : (finalizeLanes consumer.range false consumer.lanes).1 = none := by
    apply finalizeLanes_eq_none
    · intro lane hlane
      obtain ⟨writer, hwriter, -, htracks⟩ := h.agrees.writing hstarted lane hlane
      obtain ⟨hfirst, hleast⟩ := htracks.first hne
      refine ⟨writer, hwriter, ?_, ?_⟩
      · exact le_antisymm (hleast _ hstart) ((h.merged.shared _ hfirst).1)
      · rw [hend]
        exact le_antisymm (le_getLast? h.ascends.ascending (htracks.last hne) hlast)
          (htracks.upper last (List.mem_of_getLast? hlast))
    · unfold SynchronizedRecordingConsumer.finalize at haccepted
      rwa [h.failed] at haccepted
  have hle : consumer.range.startCts ≤ consumer.range.endCts := by
    rw [hend]
    exact le_getLast? h.ascends.ascending hstart hlast
  have hfields : ∃ result, consumer.finalize.result = some result ∧ result.success = true ∧
      result.range = consumer.range ∧ result.packetCount = consumer.packetCount := by
    unfold SynchronizedRecordingConsumer.finalize
    simp only [h.failed, h.result, hnone]
    exact ⟨_, rfl, by simp [hstarted, hle], rfl, rfl⟩
  obtain ⟨result, hresult, hsuccess, hrange, hcount⟩ := hfields
  apply ends_of_result haccepted h.agrees.given hresult hsuccess
  · rw [hrange, hlast, Option.getD_some, ← hend]
  · rw [hcount, h.agrees.count]

theorem Progress.finish (h : Progress first consumer streams) (hkeyed : consumer.Keyed)
    (hascending : streams.Ascending)
    (haccepted : ∀ lane ∈ consumer.finish.lanes, lane.AllAccepted) :
    Ends consumer.finish (streams.merge first.lanes.length) := by
  have hfinish : consumer.finish =
      { consumer.settle.finalize with running := false, worker := .done } := by
    rw [SynchronizedRecordingConsumer.finish, if_neg (by simp [h.failed])]
  rw [hfinish] at haccepted ⊢
  change ∀ lane ∈ consumer.settle.finalize.lanes, _ at haccepted
  obtain ⟨middle, hmoves, hend⟩ := settle_cases hkeyed
  have hframe := hmoves.frame_eq
  have hagrees := h.agrees.moves hkeyed hmoves
  have hprogress : Settled middle → Progress first middle streams := fun hsettled =>
    ⟨hagrees, h.ascends.moves h.agrees hkeyed hmoves, hagrees.committed_ne_nil hsettled,
      h.merged.moves h.agrees hkeyed hmoves, (congrArg Frame.running hframe).trans h.running,
      (congrArg Frame.failed hframe).trans h.failed,
      (congrArg Frame.result hframe).trans h.result,
      (congrArg Frame.streamIds hframe).trans h.ids⟩
  rcases hend with ⟨hsettled, hnot, hsettle⟩ | ⟨hsettled, hstarted, hleft, hsettle⟩ |
    ⟨hsettled, hstarted, hempty, hsettle⟩ | hrefused
  · have hmiddle := hprogress hsettled
    have hstart := hmiddle.merged.commonStart_eq hagrees hascending hsettled
    rw [hmiddle.length_eq, hnot, if_neg (by simp)] at hstart
    rw [hsettle] at haccepted ⊢
    simp only [Streams.merge, hstart]
    apply ends_of_fail hmiddle.failed (by decide) haccepted
    intro lane hlane
    rw [hagrees.given lane hlane, hagrees.idle hnot]
  · have hmiddle := hprogress hsettled
    have hstart := hmiddle.merged.commonStart_eq hagrees hascending hsettled
    have hcommitted := hmiddle.merged.committed_eq hagrees hmiddle.ascends hascending hsettled
      hstarted
    have hresolved := hmiddle.merged.resolved_iff hagrees hmiddle.ascends hascending hsettled
      hstarted
    rw [hmiddle.length_eq, if_pos hstarted] at hstart
    rw [hmiddle.length_eq] at hcommitted hresolved
    have hnot : ¬ streams.Resolved first.lanes.length middle.range.startCts := by
      obtain ⟨lane, hlane, hpending⟩ := hleft
      intro hall
      rw [hresolved.mp hall lane hlane] at hpending
      cases hpending
    rw [hsettle] at haccepted ⊢
    simp only [Streams.merge, hstart, if_neg hnot, ← hcommitted]
    exact ends_of_fail hmiddle.failed (by decide) haccepted hagrees.given
  · have hmiddle := hprogress hsettled
    have hstart := hmiddle.merged.commonStart_eq hagrees hascending hsettled
    have hcommitted := hmiddle.merged.committed_eq hagrees hmiddle.ascends hascending hsettled
      hstarted
    have hresolved := hmiddle.merged.resolved_iff hagrees hmiddle.ascends hascending hsettled
      hstarted
    rw [hmiddle.length_eq, if_pos hstarted] at hstart
    rw [hmiddle.length_eq] at hcommitted hresolved
    rw [hsettle] at haccepted ⊢
    simp only [Streams.merge, hstart, if_pos (hresolved.mpr hempty), ← hcommitted]
    exact hmiddle.ends_resolved hascending hsettled hstarted haccepted
  · exact absurd haccepted hrefused.not_accepted

theorem Merging.work (h : Merging first consumer past) (hkeyed : consumer.Keyed)
    (hundisturbed : Undisturbed (Runs.transition step consumer .work))
    (hascending : (taken first (past ++ [Runs.transition step consumer .work])).Ascending) :
    Merging first consumer.work (past ++ [Runs.transition step consumer .work]) := by
  have hpass : (∀ captured, consumer.worker ≠ .processing captured) →
      taken first (past ++ [Runs.transition step consumer .work]) = taken first past := by
    intro hworker
    apply taken_append_of_none
    cases hphase : consumer.worker with
    | processing captured => exact absurd hphase (hworker captured)
    | _ => simp [handling, Runs.transition, hphase]
  cases h with
  | ended hworker hqueue hstop h =>
      have hwork : consumer.work = consumer := by
        simp only [SynchronizedRecordingConsumer.work, hworker]
      rw [hwork]
      refine .ended hworker hqueue hstop ?_
      rwa [hpass (by simp [hworker])]
  | going hworker hended h =>
      cases hphase : consumer.worker with
      | waiting =>
          have hsame := hpass (by simp [hphase])
          simp only [SynchronizedRecordingConsumer.work, hphase]
          rcases take_cases consumer with
            ⟨heq, -⟩ | ⟨hwake, heq⟩ | ⟨captured, rest, -, -, heq⟩
          · rw [heq]
            refine .going hworker hended ?_
            rwa [hsame]
          · rw [heq]
            refine .going (by simp) (fun _ => hwake.resolve_left (by simp [h.failed])) ?_
            rw [hsame]
            exact h.pass
          · rw [heq]
            refine .going (by simp) (fun hfinishing => ?_) ?_
            · cases hfinishing
            · rw [hsame]
              exact h.pass
      | processing captured => exact h.process hkeyed hphase hundisturbed hascending
      | finishing =>
          have hsame := hpass (by simp [hphase])
          have haccepted := hundisturbed.accepted
          rw [hsame] at hascending
          change ∀ lane ∈ consumer.work.lanes, _ at haccepted
          simp only [SynchronizedRecordingConsumer.work, hphase] at haccepted ⊢
          obtain ⟨hqueue, hstop⟩ := hended hphase
          refine .ended rfl ?_ ?_ ?_
          · change (if consumer.failed then consumer else consumer.settle).queue = []
            rw [if_neg (by simp [h.failed]), settle_queue hkeyed, hqueue]
          · change (if consumer.failed then consumer else consumer.settle).stopRequested = true
            rw [if_neg (by simp [h.failed]), settle_stopRequested hkeyed, hstop]
          · rw [hsame]
            exact h.finish hkeyed hascending haccepted
      | done => exact absurd hphase hworker

theorem Merging.step (h : Merging first consumer past) (hkeyed : consumer.Keyed) (event : Event)
    (hundisturbed : Undisturbed (Runs.transition SynchronizedRecordingConsumer.step consumer event))
    (hascending : (taken first (past ++
      [Runs.transition SynchronizedRecordingConsumer.step consumer event])).Ascending) :
    Merging first (consumer.step event).2
      (past ++ [Runs.transition SynchronizedRecordingConsumer.step consumer event]) := by
  cases event with
  | onPacket packet =>
      have hsame : taken first (past ++ [Runs.transition SynchronizedRecordingConsumer.step
          consumer (.onPacket packet)]) = taken first past := taken_append_of_none rfl
      have hstop : consumer.stopRequested = false := hundisturbed.beforeStop rfl
      have hroom : consumer.queue.length < kMaxQueuePackets := hundisturbed.room rfl
      cases h with
      | ended _ _ hstopped _ =>
          rw [hstop] at hstopped
          cases hstopped
      | going hworker hended h =>
          have hnot : consumer.worker ≠ .finishing := by
            intro hfinishing
            rw [(hended hfinishing).2] at hstop
            cases hstop
          simp only [SynchronizedRecordingConsumer.step]
          rcases onPacket_cases consumer packet with
            heq | ⟨hfull, -, -⟩ | ⟨captured, -, -, -, -, -, heq⟩
          · rw [heq]
            refine .going hworker hended ?_
            rwa [hsame]
          · omega
          · rw [heq]
            refine .going hworker (fun hfinishing => absurd hfinishing hnot) ?_
            rw [hsame]
            exact h.pass
  | stop =>
      have hsame : taken first (past ++ [Runs.transition SynchronizedRecordingConsumer.step
          consumer .stop]) = taken first past := taken_append_of_none rfl
      cases h with
      | ended hworker hqueue _ h =>
          refine .ended hworker hqueue rfl ?_
          rwa [hsame]
      | going hworker hended h =>
          refine .going hworker (fun hfinishing => ⟨(hended hfinishing).1, rfl⟩) ?_
          rw [hsame]
          exact h.pass
  | work => exact h.work hkeyed hundisturbed hascending

theorem Fresh.merging (h : Fresh first) : Merging first first [] := by
  cases h.sequence with
  | closing _ hended _ =>
      rw [h.failed, h.worker] at hended
      simp at hended
  | writing hworker agrees ascends begun =>
      refine .going hworker (fun hfinishing => ?_) ⟨agrees, ascends, begun, ⟨?_, ?_, ?_, ?_⟩,
        h.running, h.failed, h.result, rfl⟩
      · rw [h.worker] at hfinishing
        cases hfinishing
      · intro position lane hlane e
        rw [(h.idle lane (List.mem_of_getElem? hlane)).1]
        simp [taken, handled]
      · simp [h.committed]
      · simp [h.committed]
      · simp [h.started]

theorem delivered_append (t : Runs.Transition SynchronizedRecordingConsumer Event Unit)
    (position : Nat) :
    delivered first (past ++ [t]) position =
      delivered first past position ++ delivered first [t] position := by
  unfold delivered
  exact List.filterMap_append

/-- While nothing disturbs the recording, every packet that is delivered to a stream of
the recording is enqueued. -/
theorem Merging.delivered_step (h : Merging first consumer past) (event : Event)
    (hundisturbed : Undisturbed (Runs.transition SynchronizedRecordingConsumer.step consumer event))
    (position : Nat) :
    delivered first [Runs.transition SynchronizedRecordingConsumer.step consumer event] position =
      (arrival (Runs.transition SynchronizedRecordingConsumer.step consumer event)).toList.filter
        (fun captured => first.localStreamIndex captured.streamId = some position) := by
  cases event with
  | stop => rfl
  | work => rfl
  | onPacket packet =>
      cases packet with
      | none => rfl
      | some captured =>
          have hstop : consumer.stopRequested = false := hundisturbed.beforeStop rfl
          have hroom : consumer.queue.length < kMaxQueuePackets := hundisturbed.room rfl
          cases h with
          | ended _ _ hstopped _ =>
              rw [hstop] at hstopped
              cases hstopped
          | going hworker hended h =>
              have hindex := localStreamIndex_of_ids h.ids captured.streamId
              simp only [delivered, Runs.transition, arrival, SynchronizedRecordingConsumer.step,
                List.filterMap_cons, List.filterMap_nil]
              cases hfound : first.localStreamIndex captured.streamId with
              | none =>
                  have hignored : consumer.onPacket (some captured) = consumer := by
                    unfold onPacket
                    exact if_pos (by simp [hindex, hfound])
                  simp [hignored]
              | some index =>
                  have henqueued : (consumer.onPacket (some captured)).queue =
                      consumer.queue ++ [captured] := by
                    unfold onPacket
                    dsimp only
                    rw [if_neg (by simp [h.running, hstop, h.failed, hindex, hfound]),
                      if_neg (by omega)]
                  simp only [henqueued, if_true, Option.toList_some, List.filter_cons, hfound]
                  split_ifs <;> simp_all

end Steps

section Runs

variable {first consumer : SynchronizedRecordingConsumer} {past : History}

theorem Streams.Ascending.of_append {front rest : Streams}
    (h : Streams.Ascending (fun position => front position ++ rest position)) :
    front.Ascending := by
  intro position
  have hpairwise := h position
  simp only [Streams.slots, List.map_append] at hpairwise
  exact (List.pairwise_append.mp hpairwise).1

theorem run_merging (hfresh : Fresh first) (hrun : Runs.Run step first past consumer) :
    (∀ t ∈ past, Undisturbed t) → (delivered first past).Ascending →
      Merging first consumer past ∧
        ∀ position, delivered first past position = (arrivals past).filter (fun captured =>
          first.localStreamIndex captured.streamId = some position) := by
  refine hrun.invariant
    (P := fun past consumer => (∀ t ∈ past, Undisturbed t) → (delivered first past).Ascending →
      Merging first consumer past ∧
        ∀ position, delivered first past position = (arrivals past).filter (fun captured =>
          first.localStreamIndex captured.streamId = some position))
    (fun _ _ => ⟨hfresh.merging, fun _ => rfl⟩)
    (fun past consumer event hprior ih hundisturbed hascending => ?_)
  obtain ⟨hold, hnew⟩ := List.forall_mem_append.mp hundisturbed
  have hstep := List.forall_mem_singleton.mp hnew
  have hbefore : (delivered first past).Ascending := by
    rw [show delivered first (past ++ [Runs.transition step consumer event]) =
      fun position => delivered first past position ++
        delivered first [Runs.transition step consumer event] position from
        funext (fun position => delivered_append _ position)] at hascending
    exact hascending.of_append
  obtain ⟨hmerging, hfiltered⟩ := ih hold hbefore
  have hdelivered : ∀ position,
      delivered first (past ++ [Runs.transition step consumer event]) position =
        (arrivals (past ++ [Runs.transition step consumer event])).filter (fun captured =>
          first.localStreamIndex captured.streamId = some position) := by
    intro position
    rw [delivered_append, hfiltered, hmerging.delivered_step event hstep, arrivals_append,
      List.filter_append]
  refine ⟨hmerging.step (run_keyed hfresh hprior) event hstep ?_, hdelivered⟩
  -- what has been handled is the front part of what was delivered
  intro position
  have hpairwise := hascending position
  have hqueue := arrivals_eq hfresh (hprior.next event)
  rw [Streams.slots, hdelivered, hqueue, List.filter_append, List.filter_append,
    List.append_assoc, List.map_append] at hpairwise
  exact (List.pairwise_append.mp hpairwise).1

/-- An undisturbed recording of ascending streams ends with the outcome that `merge`
computes from what was delivered to each stream. -/
theorem run_ends (hfresh : Fresh first) (hrun : Runs.Run step first past consumer)
    (hundisturbed : ∀ t ∈ past, Undisturbed t) (hascending : (delivered first past).Ascending)
    (hdone : consumer.worker = .done) :
    Ends consumer ((delivered first past).merge first.lanes.length) := by
  obtain ⟨hmerging, hfiltered⟩ := run_merging hfresh hrun hundisturbed hascending
  cases hmerging with
  | going hworker _ _ => exact absurd hdone hworker
  | ended hworker hqueue _ h =>
      have hall : delivered first past = taken first past := by
        funext position
        rw [hfiltered, arrivals_eq hfresh hrun, hqueue]
        simp [inHand, hworker, taken]
      rwa [hall]

end Runs

/-- Two undisturbed recordings from the same start that deliver the same ascending
packets to each stream, interleaved in any two ways, end with the same success flag,
range and packet count, and with the same source CTS in every file. -/
theorem recording_confluent {streamConfigs : List PacketStreamConfig} {paths : List String}
    {streamIds : List CaptureStreamId} {library : Nat → MuxLibrary}
    {first consumer consumer' : SynchronizedRecordingConsumer} {past past' : History}
    (hstart : start streamConfigs paths streamIds library = some first)
    (hrun : Runs.Run step first past consumer) (hrun' : Runs.Run step first past' consumer')
    (hundisturbed : ∀ t ∈ past, Undisturbed t) (hundisturbed' : ∀ t ∈ past', Undisturbed t)
    (hascending : (delivered first past).Ascending)
    (hsame : ∀ position, delivered first past position = delivered first past' position)
    (hdone : consumer.worker = .done) (hdone' : consumer'.worker = .done) :
    ∃ outcome, Ends consumer outcome ∧ Ends consumer' outcome := by
  have hequal : delivered first past = delivered first past' := funext hsame
  have hends := run_ends (start_fresh hstart) hrun hundisturbed hascending hdone
  rw [hequal] at hascending hends
  exact ⟨_, hends, run_ends (start_fresh hstart) hrun' hundisturbed' hascending hdone'⟩

/-- The first stream ahead of the second, and then the other way round. -/
def firstStreamAhead : List Event :=
  recordingEvents [recordingPacket 0 100 true, recordingPacket 0 110 false,
    recordingPacket 1 100 true, recordingPacket 1 110 false]

def secondStreamAhead : List Event :=
  recordingEvents [recordingPacket 1 100 true, recordingPacket 1 110 false,
    recordingPacket 0 100 true, recordingPacket 0 110 false]

theorem delivered_eq_nil {first : SynchronizedRecordingConsumer} {past : History} {position : Nat}
    (h : first.lanes.length ≤ position) : delivered first past position = [] := by
  unfold delivered
  rw [List.filterMap_eq_nil_iff]
  intro t _
  rcases t.input with ⟨_ | captured⟩ | _ | _
  · rfl
  · apply if_neg
    intro hindex
    have := localStreamIndex_lt hindex
    omega
  · rfl
  · rfl

theorem recording_confluent_two_streams :
    ∃ consumer consumer' past past' outcome,
      Runs.Run step (startedConsumer 2) past consumer ∧
      Runs.Run step (startedConsumer 2) past' consumer' ∧ past.map (·.input) = firstStreamAhead ∧
      past'.map (·.input) = secondStreamAhead ∧ Ends consumer outcome ∧
      Ends consumer' outcome := by
  have hstart : start (List.replicate 2 recordingConfig) (List.replicate 2 "video") []
      (fun _ => acceptingLibrary) = some (startedConsumer 2) := rfl
  have hrun := run_of_events 2 firstStreamAhead
  have hrun' := run_of_events 2 secondStreamAhead
  have hlength : (startedConsumer 2).lanes.length = 2 := rfl
  obtain ⟨outcome, hends, hends'⟩ := recording_confluent hstart hrun hrun' (by decide) (by decide)
    (by
      intro position
      by_cases hposition : position < 2
      · interval_cases position <;> decide
      · rw [Streams.slots, delivered_eq_nil (by omega)]
        exact .nil)
    (by
      intro position
      by_cases hposition : position < 2
      · interval_cases position <;> decide
      · rw [delivered_eq_nil (by omega), delivered_eq_nil (by omega)])
    (by decide) (by decide)
  exact ⟨_, _, _, _, outcome, hrun, hrun', rfl, rfl, hends, hends'⟩

end SynchronizedRecordingConsumer

end ObsSyncReplay
