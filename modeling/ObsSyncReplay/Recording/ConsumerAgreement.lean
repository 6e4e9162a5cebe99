import ObsSyncReplay.Recording.ConsumerRuns
import ObsSyncReplay.Lib.AscendingList

/-!
All lanes of a recording are written alike. As long as nothing has failed, every
writer was given the committed slots and nothing else, and no packet is lost
between the queue and the files: it waits, or is in the worker's hand, or is
pending, or committed, or lies before the start.
-/

namespace ObsSyncReplay

namespace SynchronizedRecordingConsumer

open AscendingList

/-- The lanes were given the committed slots, and the writers report them. -/
structure Agrees (consumer : SynchronizedRecordingConsumer) : Prop where
  lanes : consumer.lanes ≠ []
  given : ∀ lane ∈ consumer.lanes, lane.givenCts = consumer.committed
  accepted : ∀ lane ∈ consumer.lanes, lane.AllAccepted
  writing : consumer.started = true → ∀ lane ∈ consumer.lanes, lane.Writing consumer.committed
  idle : consumer.started = false → consumer.committed = []
  count : consumer.packetCount = consumer.committed.length
  last : ∀ last ∈ consumer.committed.getLast?, consumer.range.endCts = last
  -- the start itself is the first slot
  first : consumer.started = true → consumer.committed = [] →
    consumer.nextSlot = some consumer.range.startCts

/-- The source CTS is committed, or pending somewhere. -/
def Held (consumer : SynchronizedRecordingConsumer) (cts : Nat) : Prop :=
  cts ∈ consumer.committed ∨ ∃ lane ∈ consumer.lanes, cts ∈ lane.pending.keys

/-- The source CTS is not lost; what lies before the start is dropped. -/
def Kept (consumer : SynchronizedRecordingConsumer) (cts : Nat) : Prop :=
  Held consumer cts ∨ consumer.started = true ∧ cts < consumer.range.startCts

section Moves

variable {consumer consumer' : SynchronizedRecordingConsumer} {cts : Nat}

theorem mem_frontPending :
    cts ∈ consumer.frontPending ↔ ∃ front ∈ consumer.lanes.head?, cts ∈ front.pending.keys := by
  unfold frontPending
  cases consumer.lanes.head? <;> simp

/-- Right after the start, the start is the next slot. -/
theorem nextSlot_begun (hcommon : consumer.commonKeyframe = some cts) :
    (consumer.begun cts).nextSlot = some cts := by
  have hpending : ∀ lane ∈ consumer.lanes,
      (cts ∈ (lane.opened cts).pending.keys) ∧ ∀ other ∈ (lane.opened cts).pending.keys,
        cts ≤ other := by
    intro lane hlane
    simp only [RecordingLane.opened_pending, OrderedMap.mem_keys, OrderedMap.entries_eraseBefore,
      List.mem_filter, decide_eq_true_eq]
    obtain ⟨value, hvalue⟩ := OrderedMap.mem_keys.mp
      (mem_keys_of_keyframeAt (commonKeyframe_eq_some hcommon lane hlane))
    exact ⟨⟨value, hvalue, le_rfl⟩, fun other ⟨_, _, hle⟩ => hle⟩
  obtain ⟨front, hfront, -⟩ := Option.bind_eq_some_iff.mp hcommon
  have hmem : front ∈ consumer.lanes := List.mem_of_head? hfront
  have hhead : (consumer.begun cts).lanes.head? = some (front.opened cts) := by
    simp only [begun, List.head?_map, hfront, Option.map_some]
  refine nextSlot_eq_some.mpr ⟨?_, ?_⟩
  · refine (head?_eq_some_iff_least frontPending_ascending).mpr ⟨?_, fun other hother => ?_⟩
    · exact mem_frontPending.mpr ⟨_, hhead, (hpending front hmem).1⟩
    · obtain ⟨front', hfront', hother⟩ := mem_frontPending.mp hother
      rw [hhead] at hfront'
      obtain rfl := Option.some.inj hfront'
      exact (hpending front hmem).2 other hother
  · intro lane' hlane'
    obtain ⟨lane, hlane, rfl⟩ := List.mem_map.mp hlane'
    exact (hpending lane hlane).1

theorem Agrees.move (h : Agrees consumer) (hkeyed : consumer.Keyed)
    (hmove : Move consumer consumer') : Agrees consumer' := by
  cases hmove with
  | begin cts hstarted hcommon hopen =>
      have hnil := h.idle hstarted
      refine ⟨mt List.map_eq_nil_iff.mp h.lanes, ?_, ?_, fun _ => ?_, fun hnot => ?_, h.count,
        h.last, fun _ _ => ?_⟩
      · intro lane' hlane'
        obtain ⟨lane, hlane, rfl⟩ := List.mem_map.mp hlane'
        exact RecordingLane.opened_givenCts.trans (h.given lane hlane)
      · intro lane' hlane'
        obtain ⟨lane, hlane, rfl⟩ := List.mem_map.mp hlane'
        exact RecordingLane.openAt_allAccepted_iff.mpr
          ⟨h.accepted lane hlane, (RecordingLane.openAt_eq_none_iff.mp (hopen lane hlane)).1⟩
      · intro lane' hlane'
        obtain ⟨lane, hlane, rfl⟩ := List.mem_map.mp hlane'
        change (lane.opened cts).Writing consumer.committed
        rw [hnil]
        exact RecordingLane.opened_writing (hopen lane hlane)
      · cases hnot
      · exact nextSlot_begun hcommon
  | commit cts hstarted hnext hwrite =>
      have hshared := (nextSlot_eq_some.mp hnext).2
      refine ⟨mt List.map_eq_nil_iff.mp h.lanes, ?_, ?_, fun _ => ?_, fun hnot => ?_, ?_, ?_,
        fun _ hnil => ?_⟩
      · intro lane' hlane'
        obtain ⟨lane, hlane, rfl⟩ := List.mem_map.mp hlane'
        refine (RecordingLane.writeSlot_givenCts (hkeyed lane hlane) (hshared lane hlane)).trans ?_
        rw [h.given lane hlane]
        rfl
      · intro lane' hlane'
        obtain ⟨lane, hlane, rfl⟩ := List.mem_map.mp hlane'
        exact RecordingLane.writeSlot_allAccepted_iff.mpr
          ⟨h.accepted lane hlane, hwrite lane hlane⟩
      · intro lane' hlane'
        obtain ⟨lane, hlane, rfl⟩ := List.mem_map.mp hlane'
        exact (h.writing hstarted lane hlane).slotWritten (hkeyed lane hlane)
          (hshared lane hlane) (hwrite lane hlane)
      · change consumer.started = false at hnot
        rw [hstarted] at hnot
        cases hnot
      · change consumer.packetCount + 1 = (consumer.committed ++ [cts]).length
        rw [h.count, List.length_append, List.length_singleton]
      · intro last hlast
        change (consumer.committed ++ [cts]).getLast? = some last at hlast
        rw [List.getLast?_concat] at hlast
        exact Option.some.inj hlast
      · exact absurd hnil (List.append_ne_nil_of_right_ne_nil _ (List.cons_ne_nil _ _))

theorem Agrees.moves (h : Agrees consumer) (hkeyed : consumer.Keyed)
    (hmoves : Moves consumer consumer') : Agrees consumer' := by
  induction hmoves with
  | refl => exact h
  | tail hprior hmove ih => exact ih.move (Moves.keyed hprior hkeyed) hmove

theorem Agrees.insert (h : Agrees consumer)
    (hbegun : consumer.started = true → consumer.committed ≠ [])
    (captured : CapturedEncodedPacket) : Agrees (consumer.insert captured) := by
  have hstarted := insert_started consumer captured
  obtain ⟨hcommitted, hcount⟩ := insert_committed consumer captured
  refine ⟨fun hnil => ?_, ?_, ?_, fun hstart => ?_, fun hnot => ?_, ?_, ?_,
    fun hstart hnil => ?_⟩
  · have hids := congrArg Frame.streamIds (insert_frame consumer captured)
    simp only [frame, hnil, List.map_nil] at hids
    exact h.lanes (List.map_eq_nil_iff.mp hids.symm)
  · intro lane' hlane'
    rw [hcommitted]
    obtain ⟨lane, hlane, rfl | rfl⟩ := insert_lanes captured hlane'
    · exact h.given lane' hlane
    · exact RecordingLane.insert_givenCts.trans (h.given lane hlane)
  · intro lane' hlane'
    obtain ⟨lane, hlane, rfl | rfl⟩ := insert_lanes captured hlane'
    · exact h.accepted lane' hlane
    · rw [RecordingLane.AllAccepted, RecordingLane.insert_calls]
      exact h.accepted lane hlane
  · rw [hstarted] at hstart
    intro lane' hlane'
    rw [hcommitted]
    obtain ⟨lane, hlane, rfl | rfl⟩ := insert_lanes captured hlane'
    · exact h.writing hstart lane' hlane
    · rw [RecordingLane.Writing, RecordingLane.insert_writer]
      exact h.writing hstart lane hlane
  · rw [hcommitted]
    exact h.idle (hstarted ▸ hnot)
  · rw [hcount, hcommitted]
    exact h.count
  · rw [hcommitted, insert_range]
    exact h.last
  · rw [hcommitted] at hnil
    exact absurd hnil (hbegun (hstarted ▸ hstart))

/-- Where no further move is possible, the start at least is committed. -/
theorem Agrees.committed_ne_nil (h : Agrees consumer) (hsettled : Settled consumer)
    (hstarted : consumer.started = true) : consumer.committed ≠ [] := by
  intro hnil
  have hnext := hsettled.flushed hstarted
  rw [h.first hstarted hnil] at hnext
  cases hnext

theorem Held.commit (h : Held consumer cts) {slot : Nat}
    (hwrite : ∀ lane ∈ consumer.lanes, (lane.writeSlot consumer.range.startCts slot).1 = none) :
    Held (consumer.slotCommitted slot) cts := by
  rcases h with hcommitted | ⟨lane, hlane, hpending⟩
  · exact Or.inl (List.mem_append_left _ hcommitted)
  · by_cases hslot : cts = slot
    · subst hslot
      exact Or.inl (List.mem_append_right _ List.mem_cons_self)
    · exact Or.inr ⟨_, List.mem_map_of_mem hlane,
        (RecordingLane.mem_slotWritten_keys (hwrite lane hlane)).mpr ⟨hpending, hslot⟩⟩

theorem Held.move (h : Held consumer cts) (hstarted : consumer.started = true)
    (hmove : Move consumer consumer') : Held consumer' cts := by
  cases hmove with
  | begin _ hnot => rw [hstarted] at hnot; cases hnot
  | commit slot _ _ hwrite => exact h.commit hwrite

theorem Held.moves (h : Held consumer cts) (hstarted : consumer.started = true)
    (hmoves : Moves consumer consumer') : Held consumer' cts := by
  induction hmoves with
  | refl => exact h
  | tail hprior hmove ih => exact ih.move (Moves.started hprior hstarted) hmove

theorem Kept.move (h : Kept consumer cts) (hidle : consumer.started = false →
    consumer.committed = []) (hmove : Move consumer consumer') : Kept consumer' cts := by
  cases hmove with
  | begin start hnot hcommon hopen =>
      rcases h with (hcommitted | ⟨lane, hlane, hpending⟩) | ⟨hstarted, -⟩
      · rw [hidle hnot] at hcommitted
        cases hcommitted
      · by_cases hbefore : cts < start
        · exact Or.inr ⟨rfl, hbefore⟩
        · refine Or.inl (Or.inr ⟨_, List.mem_map_of_mem hlane, ?_⟩)
          obtain ⟨value, hvalue⟩ := OrderedMap.mem_keys.mp hpending
          rw [RecordingLane.opened_pending]
          refine OrderedMap.mem_keys.mpr ⟨value, ?_⟩
          rw [OrderedMap.entries_eraseBefore]
          exact List.mem_filter.mpr ⟨hvalue, by simpa using hbefore⟩
      · rw [hnot] at hstarted
        cases hstarted
  | commit slot hstarted hnext hwrite =>
      rcases h with hheld | hbefore
      · exact Or.inl (hheld.commit hwrite)
      · exact Or.inr hbefore

theorem Kept.moves (h : Kept consumer cts) (hagrees : Agrees consumer) (hkeyed : consumer.Keyed)
    (hmoves : Moves consumer consumer') : Kept consumer' cts := by
  induction hmoves with
  | refl => exact h
  | tail hprior hmove ih => exact ih.move (hagrees.moves hkeyed hprior).idle hmove

theorem Held.insert (h : Held consumer cts) (captured : CapturedEncodedPacket) :
    Held (consumer.insert captured) cts := by
  rcases h with hcommitted | ⟨lane, hlane, hpending⟩
  · rw [Held, (insert_committed consumer captured).1]
    exact Or.inl hcommitted
  · obtain ⟨position, hposition⟩ := List.mem_iff_getElem?.mp hlane
    refine Or.inr ⟨_, List.mem_iff_getElem?.mpr ⟨position, by rw [insert_getElem?, hposition]; rfl⟩,
      ?_⟩
    split_ifs
    · exact RecordingLane.mem_insert_keys.mpr (Or.inr hpending)
    · exact hpending

theorem Kept.insert (h : Kept consumer cts) (captured : CapturedEncodedPacket) :
    Kept (consumer.insert captured) cts := by
  rw [Kept, insert_started, insert_range]
  exact h.imp_left (fun hheld => hheld.insert captured)

/-- An inserted packet is pending. -/
theorem held_insert {captured : CapturedEncodedPacket}
    (haddressed : captured.streamId ∈ consumer.lanes.map RecordingLane.streamId) :
    Held (consumer.insert captured) captured.packet.sourceCts := by
  obtain ⟨lane, hlane, hid⟩ := List.mem_map.mp haddressed
  cases hindex : consumer.localStreamIndex captured.streamId with
  | none =>
      have hnone := List.findIdx?_eq_none_iff.mp hindex lane hlane
      simp [hid] at hnone
  | some index =>
      obtain ⟨hlt, -, -⟩ := List.findIdx?_eq_some_iff_getElem.mp hindex
      refine Or.inr ⟨(consumer.lanes[index]).insert captured,
        List.mem_iff_getElem?.mpr ⟨index, ?_⟩, RecordingLane.mem_insert_keys.mpr (Or.inl rfl)⟩
      rw [insert_getElem?, List.getElem?_eq_getElem hlt, Option.map_some, if_pos hindex]

end Moves

/-- The worker took the packet out of the queue. -/
def Dequeues (t : Runs.Transition SynchronizedRecordingConsumer Event Unit)
    (captured : CapturedEncodedPacket) : Prop :=
  t.input = .work ∧ t.before.worker = .waiting ∧ t.after.worker = .processing captured

/-- A recording that nothing has failed in and that has not ended. -/
structure Recording (past : History) (consumer : SynchronizedRecordingConsumer) : Prop where
  agrees : Agrees consumer
  begun : consumer.started = true → consumer.committed ≠ []
  addressed : ∀ captured ∈ inHand consumer ++ consumer.queue,
    captured.streamId ∈ consumer.lanes.map RecordingLane.streamId
  kept : ∀ captured ∈ handled past, Kept consumer captured.packet.sourceCts
  taken : ∀ t ∈ past, ∀ captured, Dequeues t captured → t.before.started = true →
    captured ∈ inHand consumer ∨ Held consumer captured.packet.sourceCts
  started : ∀ t ∈ past, t.before.started = true → consumer.started = true
  result : consumer.result = none
  ended : consumer.worker = .finishing →
    consumer.queue = [] ∧ consumer.stopRequested = true

/-- What a successful result promises. -/
structure Completed (past : History) (consumer : SynchronizedRecordingConsumer)
    (result : SynchronizedRecordingConsumerResult) : Prop where
  count : result.packetCount = consumer.committed.length
  written : ∀ lane ∈ consumer.lanes, lane.writtenCts = consumer.committed
  first : result.range.startCts ∈ consumer.committed ∧
    ∀ cts ∈ consumer.committed, result.range.startCts ≤ cts
  last : result.range.endCts ∈ consumer.committed ∧
    ∀ cts ∈ consumer.committed, cts ≤ result.range.endCts
  enqueued : ∀ captured ∈ arrivals past, result.range.startCts ≤ captured.packet.sourceCts →
    captured.packet.sourceCts ∈ consumer.committed
  taken : ∀ t ∈ past, ∀ captured, Dequeues t captured → t.before.started = true →
    captured.packet.sourceCts ∈ consumer.committed

/-- The three stages of a recording: nothing has failed, or it will end as a
failure, or it has ended. -/
inductive Stage (past : History) (consumer : SynchronizedRecordingConsumer) : Prop
  | recording (hworker : consumer.worker ≠ .done) (hfailed : consumer.failed = false)
      (h : Recording past consumer)
  | failing (hworker : consumer.worker ≠ .done) (hfailed : consumer.failed = true)
      (h : ∃ result, consumer.result = some result ∧ result.success = false ∧
        result.error ≠ "")
  | ended (hworker : consumer.worker = .done) (hrunning : consumer.running = false)
      (hgiven : consumer.failed = false →
        ∀ lane ∈ consumer.lanes, lane.givenCts = consumer.committed)
      (h : ∀ result, consumer.result = some result → result.success = true →
        Completed past consumer result)

section Stage

variable {consumer consumer' : SynchronizedRecordingConsumer} {past : History}

theorem Refused.result (h : Refused consumer consumer') :
    consumer'.result = consumer.result ∧ consumer.failed = true ∨
      ∃ error, consumer'.result = some { error := error } ∧ error ≠ "" := by
  obtain ⟨error, range, lanes, hne, -, -, -, -⟩ := h
  rw [fail_result]
  split_ifs with hfailed
  · exact Or.inl ⟨rfl, hfailed⟩
  · exact Or.inr ⟨error, rfl, hne⟩

/-- A step that touches only the queue, the worker's place and the stop flag. -/
theorem Recording.pass (h : Recording past consumer)
    {t : Runs.Transition SynchronizedRecordingConsumer Event Unit} (hbefore : t.before = consumer)
    (hhandling : handling t = none) {queue : List CapturedEncodedPacket} {worker : WorkerPhase}
    {stopRequested : Bool}
    (hhand : ∀ captured, consumer.worker = .processing captured →
      worker = .processing captured)
    (htaken : ∀ captured, Dequeues t captured → worker = .processing captured)
    (haddressed : ∀ captured, worker = .processing captured ∨ captured ∈ queue →
      captured.streamId ∈ consumer.lanes.map RecordingLane.streamId)
    (hended : worker = .finishing → queue = [] ∧ stopRequested = true) :
    Recording (past ++ [t])
      { consumer with queue := queue, worker := worker, stopRequested := stopRequested } where
  agrees := ⟨h.agrees.lanes, h.agrees.given, h.agrees.accepted, h.agrees.writing, h.agrees.idle,
    h.agrees.count, h.agrees.last, h.agrees.first⟩
  begun := h.begun
  addressed captured hcaptured := by
    rw [List.mem_append, mem_inHand] at hcaptured
    exact haddressed captured hcaptured
  kept captured hcaptured := by
    rw [handled_append, hhandling, Option.toList_none, List.append_nil] at hcaptured
    exact h.kept captured hcaptured
  taken t' ht' captured hdequeues hstarted := by
    rw [mem_inHand]
    rcases List.mem_append.mp ht' with hold | hnew
    · refine (h.taken t' hold captured hdequeues hstarted).imp_left (fun hhand' => ?_)
      exact hhand captured (mem_inHand.mp hhand')
    · obtain rfl := List.mem_singleton.mp hnew
      exact Or.inl (htaken captured hdequeues)
  started t' ht' hstarted := by
    rcases List.mem_append.mp ht' with hold | hnew
    · exact h.started t' hold hstarted
    · obtain rfl := List.mem_singleton.mp hnew
      rwa [hbefore] at hstarted
  result := h.result
  ended := hended

/-- The work on a packet that ends without a failure. -/
theorem Recording.process (h : Recording past consumer) (hkeyed : consumer.Keyed)
    {captured : CapturedEncodedPacket} (hworker : consumer.worker = .processing captured)
    {t : Runs.Transition SynchronizedRecordingConsumer Event Unit} (hbefore : t.before = consumer)
    (hinput : t.input = .work) {middle : SynchronizedRecordingConsumer}
    (hmoves : Moves (consumer.insert captured) middle) (hsettled : Settled middle) :
    Recording (past ++ [t]) { middle with worker := .waiting } := by
  have hinserted := h.agrees.insert h.begun captured
  have hagrees := hinserted.moves (hkeyed.insert captured) hmoves
  have hframe := hmoves.frame_eq.trans (insert_frame consumer captured)
  have hids : middle.lanes.map RecordingLane.streamId =
      consumer.lanes.map RecordingLane.streamId := congrArg Frame.streamIds hframe
  have hqueue : middle.queue = consumer.queue := congrArg Frame.queue hframe
  have hstarted : consumer.started = true → middle.started = true := fun hstart =>
    Moves.started hmoves ((insert_started consumer captured).trans hstart)
  have haddressed := h.addressed captured (List.mem_append_left _ (mem_inHand.mpr hworker))
  have hheld := held_insert haddressed
  have hhandling : handling t = some captured := by
    rw [handling, hinput, hbefore, hworker]
  refine ⟨⟨hagrees.lanes, hagrees.given, hagrees.accepted, hagrees.writing, hagrees.idle,
    hagrees.count, hagrees.last, hagrees.first⟩, hagrees.committed_ne_nil hsettled,
    ?_, ?_, ?_, ?_, ?_, ?_⟩
  · intro other hother
    rw [List.mem_append, mem_inHand] at hother
    rcases hother with hwaiting | hother
    · cases hwaiting
    · change other.streamId ∈ middle.lanes.map RecordingLane.streamId
      rw [hids]
      change other ∈ middle.queue at hother
      rw [hqueue] at hother
      exact h.addressed other (List.mem_append_right _ hother)
  · intro other hother
    rw [handled_append, hhandling] at hother
    change Kept middle other.packet.sourceCts
    rcases List.mem_append.mp hother with hold | hnew
    · exact ((h.kept other hold).insert captured).moves hinserted (hkeyed.insert captured) hmoves
    · obtain rfl := List.mem_singleton.mp hnew
      exact Kept.moves (Or.inl hheld) hinserted (hkeyed.insert other) hmoves
  · intro t' ht' other hdequeues hstart
    rcases List.mem_append.mp ht' with hold | hnew
    · refine Or.inr ?_
      change Held middle other.packet.sourceCts
      have hstart' := (insert_started consumer captured).trans (h.started t' hold hstart)
      rcases h.taken t' hold other hdequeues hstart with hhand | hold'
      · have hsame := (mem_inHand.mp hhand).symm.trans hworker
        obtain rfl := WorkerPhase.processing.inj hsame
        exact hheld.moves hstart' hmoves
      · exact (hold'.insert captured).moves hstart' hmoves
    · obtain rfl := List.mem_singleton.mp hnew
      obtain ⟨-, hwaiting, -⟩ := hdequeues
      rw [hbefore, hworker] at hwaiting
      cases hwaiting
  · intro t' ht' hstart
    rcases List.mem_append.mp ht' with hold | hnew
    · exact hstarted (h.started t' hold hstart)
    · obtain rfl := List.mem_singleton.mp hnew
      exact hstarted (hbefore ▸ hstart)
  · exact (congrArg Frame.result hframe).trans h.result
  · intro hfinishing
    cases hfinishing

/-- A recording that has failed ends with the first failure. -/
theorem finalize_of_failed {result : SynchronizedRecordingConsumerResult}
    (hfailed : consumer.failed = true) (hresult : consumer.result = some result)
    (herror : result.error ≠ "") :
    consumer.finalize.failed = true ∧ consumer.finalize.result = some result := by
  unfold finalize
  simp only [hfailed, Bool.true_or, hresult, if_neg herror, and_self]

theorem Stage.ended_of_failed {result : SynchronizedRecordingConsumerResult}
    (hfailed : consumer.failed = true) (hresult : consumer.result = some result)
    (herror : result.error ≠ "") (hsuccess : result.success = false) :
    Stage past { consumer.finalize with running := false, worker := .done } := by
  obtain ⟨hfailed', hresult'⟩ := finalize_of_failed hfailed hresult herror
  refine .ended rfl rfl (fun hnot => ?_) (fun other hother htrue => ?_)
  · change consumer.finalize.failed = false at hnot
    rw [hfailed'] at hnot
    cases hnot
  · change consumer.finalize.result = some other at hother
    rw [hresult'] at hother
    rw [← Option.some.inj hother, hsuccess] at htrue
    cases htrue

theorem Stage.ended_of_fail {error : String} (herror : error ≠ "")
    (hfailed : consumer.failed = false) :
    Stage past { (consumer.fail error).finalize with running := false, worker := .done } :=
  Stage.ended_of_failed fail_failed (by rw [fail_result, if_neg (by simp [hfailed])]) herror rfl

/-- What the finalized lanes of a recording without a failure report. -/
theorem Agrees.finalized (h : Agrees consumer) (hstarted : consumer.started = true)
    (hnone : (finalizeLanes consumer.range false consumer.lanes).1 = none) :
    (∀ lane ∈ (finalizeLanes consumer.range false consumer.lanes).2.2,
      lane.givenCts = consumer.committed ∧ lane.AllAccepted) ∧
      (consumer.committed ≠ [] →
        (consumer.range.startCts ∈ consumer.committed ∧
          ∀ cts ∈ consumer.committed, consumer.range.startCts ≤ cts) ∧
        consumer.range.endCts ∈ consumer.committed ∧
          ∀ cts ∈ consumer.committed, cts ≤ consumer.range.endCts) := by
  obtain ⟨hall, hmap⟩ := finalizeLanes_none hnone
  constructor
  · rw [hmap]
    intro lane' hlane'
    obtain ⟨lane, hlane, rfl⟩ := List.mem_map.mp hlane'
    obtain ⟨writer, hwriter, -, -⟩ := h.writing hstarted lane hlane
    obtain ⟨-, haccepted⟩ := finalize_lane_none (hall lane hlane) writer hwriter
    exact ⟨(finalize_lane_givenCts lane).trans (h.given lane hlane),
      haccepted (h.accepted lane hlane)⟩
  · intro hne
    obtain ⟨lane, hlane⟩ := List.exists_mem_of_ne_nil _ h.lanes
    obtain ⟨writer, hwriter, -, htracks⟩ := h.writing hstarted lane hlane
    obtain ⟨⟨hfirst, hlast⟩, -⟩ := finalize_lane_none (hall lane hlane) writer hwriter
    rw [← hfirst, ← hlast]
    exact ⟨htracks.first hne, htracks.last hne, htracks.upper⟩

/-- The end of a recording in which nothing has failed. -/
theorem Recording.finish (h : Recording past consumer) (hkeyed : consumer.Keyed)
    (hworker : consumer.worker = .finishing) (hfailed : consumer.failed = false)
    {t : Runs.Transition SynchronizedRecordingConsumer Event Unit} (hbefore : t.before = consumer)
    (hinput : t.input = .work)
    (hqueue : arrivals past = handled past ++ inHand consumer ++ consumer.queue) :
    Stage (past ++ [t]) consumer.finish := by
  have hfinish : consumer.finish =
      { consumer.settle.finalize with running := false, worker := .done } := by
    rw [SynchronizedRecordingConsumer.finish, if_neg (by simp [hfailed])]
  rw [hfinish]
  obtain ⟨middle, hmoves, hend⟩ := settle_cases hkeyed
  have hmiddle : middle.failed = false := (congrArg Frame.failed hmoves.frame_eq).trans hfailed
  rcases hend with ⟨-, -, hsettle⟩ | ⟨-, -, -, hsettle⟩ |
    ⟨hsettled, hstarted, hempty, hsettle⟩ | hrefused
  · rw [hsettle]
    exact Stage.ended_of_fail (by decide) hmiddle
  · rw [hsettle]
    exact Stage.ended_of_fail (by decide) hmiddle
  · -- every slot is committed; only the writers can still fail
    rw [hsettle]
    have hagrees := h.agrees.moves hkeyed hmoves
    have hresult : middle.result = none := (congrArg Frame.result hmoves.frame_eq).trans h.result
    have hheld : ∀ cts, Held middle cts → cts ∈ middle.committed := by
      rintro cts (hcommitted | ⟨lane, hlane, hpending⟩)
      · exact hcommitted
      · have hnil := List.isEmpty_iff.mp (hempty lane hlane)
        rw [OrderedMap.keys, hnil] at hpending
        cases hpending
    have hfinalized := hagrees.finalized hstarted
    unfold finalize
    rw [hmiddle, hresult]
    cases hmismatch : (finalizeLanes middle.range false middle.lanes).1 with
    | some mismatch =>
        refine .ended rfl rfl (fun hnot => ?_) (fun result hsome htrue => ?_)
        · simp [hmismatch] at hnot
        · obtain rfl := Option.some.inj hsome
          simp [hmismatch] at htrue
    | none =>
        obtain ⟨hgiven, hrange⟩ := hfinalized hmismatch
        obtain ⟨hfirst, hlast⟩ := hrange (hagrees.committed_ne_nil hsettled hstarted)
        refine .ended rfl rfl (fun _ lane hlane => (hgiven lane hlane).1)
          (fun result hsome _ => ?_)
        obtain rfl := Option.some.inj hsome
        refine ⟨hagrees.count, fun lane hlane => ?_, hfirst, hlast, fun captured harrival hle => ?_,
          fun t' ht' captured hdequeues hstart => ?_⟩
        · obtain ⟨hlane', haccepted⟩ := hgiven lane hlane
          exact haccepted.writtenCts_eq.trans hlane'
        · have hnew : arrival t = none := by rw [arrival, hinput]
          rw [arrivals_append, hnew, Option.toList_none, List.append_nil, hqueue,
            (h.ended hworker).1, List.append_nil, List.mem_append, mem_inHand, hworker] at harrival
          rcases harrival with hold | hhand
          · rcases (h.kept captured hold).moves h.agrees hkeyed hmoves with hin | ⟨-, hbelow⟩
            · exact hheld _ hin
            · exact absurd hle hbelow.not_ge
          · cases hhand
        · rcases List.mem_append.mp ht' with hold | hnew
          · rcases h.taken t' hold captured hdequeues hstart with hhand | hin
            · rw [mem_inHand, hworker] at hhand
              cases hhand
            · exact hheld _ (hin.moves (h.started t' hold hstart) hmoves)
          · obtain rfl := List.mem_singleton.mp hnew
            obtain ⟨-, hwaiting, -⟩ := hdequeues
            rw [hbefore, hworker] at hwaiting
            cases hwaiting
  · rcases hrefused.result with ⟨-, htrue⟩ | ⟨error, hresult, herror⟩
    · rw [hmiddle] at htrue
      cases htrue
    · exact Stage.ended_of_failed hrefused.failed hresult herror rfl

theorem Completed.later {result : SynchronizedRecordingConsumerResult}
    (h : Completed past consumer result)
    {t : Runs.Transition SynchronizedRecordingConsumer Event Unit} (harrival : arrival t = none)
    (hdequeues : ∀ captured, ¬ Dequeues t captured) {stopRequested : Bool} :
    Completed (past ++ [t]) { consumer with stopRequested := stopRequested } result where
  count := h.count
  written := h.written
  first := h.first
  last := h.last
  enqueued captured hcaptured := by
    rw [arrivals_append, harrival, Option.toList_none, List.append_nil] at hcaptured
    exact h.enqueued captured hcaptured
  taken t' ht' captured hdequeues' hstarted := by
    rcases List.mem_append.mp ht' with hold | hnew
    · exact h.taken t' hold captured hdequeues' hstarted
    · obtain rfl := List.mem_singleton.mp hnew
      exact absurd hdequeues' (hdequeues captured)

theorem Recording.onPacket (h : Recording past consumer) (hworker : consumer.worker ≠ .done)
    (hfailed : consumer.failed = false) (packet : Option CapturedEncodedPacket) :
    Stage (past ++ [Runs.transition step consumer (.onPacket packet)])
      (consumer.onPacket packet) := by
  have hhandling : handling (Runs.transition step consumer (.onPacket packet)) = none := rfl
  have htaken : ∀ captured, Dequeues (Runs.transition step consumer (.onPacket packet))
      captured → consumer.worker = .processing captured := by
    rintro captured ⟨hinput, -, -⟩
    cases hinput
  have haddressed : ∀ captured, consumer.worker = .processing captured ∨
      captured ∈ consumer.queue → captured.streamId ∈ consumer.lanes.map RecordingLane.streamId :=
    fun captured hcaptured => h.addressed captured (by
      rwa [List.mem_append, mem_inHand])
  rcases onPacket_cases consumer packet with
    heq | ⟨-, -, heq⟩ | ⟨captured, -, -, hstop, -, hindex, heq⟩
  · rw [heq]
    exact .recording hworker hfailed
      (h.pass rfl hhandling (fun _ hhand => hhand) htaken haddressed h.ended)
  · rw [heq]
    exact .failing hworker rfl ⟨_, rfl, rfl, by simp⟩
  · rw [heq]
    refine .recording hworker hfailed
      (h.pass rfl hhandling (fun _ hhand => hhand) htaken ?_ (fun hfinishing => ?_))
    · rintro other (hhand | hother)
      · exact haddressed other (Or.inl hhand)
      · rcases List.mem_append.mp hother with hold | hnew
        · exact haddressed other (Or.inr hold)
        · obtain rfl := List.mem_singleton.mp hnew
          obtain ⟨index, hfound⟩ := Option.isSome_iff_exists.mp hindex
          obtain ⟨hlt, hid, -⟩ := List.findIdx?_eq_some_iff_getElem.mp hfound
          exact List.mem_map.mpr ⟨_, List.getElem_mem hlt, by simpa using hid⟩
    · rw [(h.ended hfinishing).2] at hstop
      cases hstop

theorem Recording.work (h : Recording past consumer) (hkeyed : consumer.Keyed)
    (hworker : consumer.worker ≠ .done) (hfailed : consumer.failed = false)
    (hqueue : arrivals past = handled past ++ inHand consumer ++ consumer.queue) :
    Stage (past ++ [Runs.transition step consumer .work]) consumer.work := by
  have haddressed : ∀ captured, captured ∈ consumer.queue →
      captured.streamId ∈ consumer.lanes.map RecordingLane.streamId :=
    fun captured hcaptured => h.addressed captured (List.mem_append_right _ hcaptured)
  cases hplace : consumer.worker with
  | waiting =>
      have hhandling : handling (Runs.transition step consumer .work) = none := by
        simp [handling, Runs.transition, hplace]
      have hafter : (Runs.transition step consumer .work).after = consumer.take := by
        simp only [Runs.transition, SynchronizedRecordingConsumer.step,
          SynchronizedRecordingConsumer.work, hplace]
      have hhand : ∀ worker captured, consumer.worker = .processing captured →
          worker = WorkerPhase.processing captured := fun worker captured hhand => by
        rw [hplace] at hhand
        cases hhand
      simp only [SynchronizedRecordingConsumer.work, hplace]
      rcases take_cases consumer with
        ⟨heq, -⟩ | ⟨hwake, heq⟩ | ⟨captured, rest, hfront, -, heq⟩
      · rw [heq]
        refine .recording hworker hfailed (h.pass rfl hhandling (hhand _) ?_ ?_ h.ended)
        · rintro captured ⟨-, -, hcaptured⟩
          rwa [hafter, heq] at hcaptured
        · rintro captured (hcaptured | hcaptured)
          · rw [hplace] at hcaptured
            cases hcaptured
          · exact haddressed captured hcaptured
      · rw [heq]
        have hstop : consumer.queue = [] ∧ consumer.stopRequested = true :=
          hwake.resolve_left (by simp [hfailed])
        refine .recording (by simp) hfailed (h.pass rfl hhandling (hhand _) ?_ ?_ (fun _ => hstop))
        · rintro captured ⟨-, -, hcaptured⟩
          rwa [hafter, heq] at hcaptured
        · rintro captured (hcaptured | hcaptured)
          · cases hcaptured
          · exact haddressed captured hcaptured
      · rw [heq]
        refine .recording (by simp) hfailed
          (h.pass rfl hhandling (hhand _) ?_ ?_ (fun hfinishing => by cases hfinishing))
        · rintro other ⟨-, -, hother⟩
          rwa [hafter, heq] at hother
        · rintro other (hother | hother)
          · obtain rfl := WorkerPhase.processing.inj hother
            exact haddressed captured (by rw [hfront]; exact List.mem_cons_self)
          · exact haddressed other (by rw [hfront]; exact List.mem_cons_of_mem _ hother)
  | processing captured =>
      have hframe := insert_frame consumer captured
      simp only [SynchronizedRecordingConsumer.work, hplace]
      rcases process_cases hkeyed captured with
        ⟨-, heq⟩ | ⟨middle, hmoves, ⟨heq, hsettled⟩ | ⟨continues, consumer', hrefused, heq⟩⟩
      · rw [heq]
        have hinserted : (consumer.insert captured).failed = false :=
          (congrArg Frame.failed hframe).trans hfailed
        refine .failing (by simp) fail_failed
          ⟨{ error := "recording-pending-overflow" }, ?_, rfl, by decide⟩
        change ((consumer.insert captured).fail _).result = _
        rw [fail_result, if_neg (by simp [hinserted])]
      · rw [heq]
        refine .recording (by simp) ?_ (h.process hkeyed hplace rfl rfl hmoves hsettled)
        exact (congrArg Frame.failed (hmoves.frame_eq.trans hframe)).trans hfailed
      · rw [heq]
        have hmiddle : middle.failed = false :=
          (congrArg Frame.failed (hmoves.frame_eq.trans hframe)).trans hfailed
        rcases hrefused.result with ⟨-, htrue⟩ | ⟨error, hresult, herror⟩
        · rw [hmiddle] at htrue
          cases htrue
        · refine .failing ?_ hrefused.failed ⟨_, hresult, rfl, herror⟩
          cases continues <;> simp
  | finishing =>
      simp only [SynchronizedRecordingConsumer.work, hplace]
      exact h.finish hkeyed hplace hfailed rfl rfl hqueue
  | done => exact absurd hplace hworker

/-- A recording that has failed keeps its first failure to the end. -/
theorem Stage.work_of_failed (hkeyed : consumer.Keyed) (hworker : consumer.worker ≠ .done)
    (hfailed : consumer.failed = true) {result : SynchronizedRecordingConsumerResult}
    (hresult : consumer.result = some result) (hsuccess : result.success = false)
    (herror : result.error ≠ "") : Stage past consumer.work := by
  cases hplace : consumer.worker with
  | waiting =>
      simp only [SynchronizedRecordingConsumer.work, hplace]
      rcases take_cases consumer with ⟨-, hnot⟩ | ⟨-, heq⟩ | ⟨_, _, -, hnot, -⟩
      · rw [hfailed] at hnot
        cases hnot
      · rw [heq]
        exact .failing (by simp) hfailed ⟨result, hresult, hsuccess, herror⟩
      · rw [hfailed] at hnot
        cases hnot
  | processing captured =>
      have hframe := insert_frame consumer captured
      have hkept : ∀ middle, Moves (consumer.insert captured) middle →
          middle.failed = true ∧ middle.result = some result := fun middle hmoves =>
        ⟨(congrArg Frame.failed (hmoves.frame_eq.trans hframe)).trans hfailed,
          (congrArg Frame.result (hmoves.frame_eq.trans hframe)).trans hresult⟩
      simp only [SynchronizedRecordingConsumer.work, hplace]
      rcases process_cases hkeyed captured with
        ⟨-, heq⟩ | ⟨middle, hmoves, ⟨heq, -⟩ | ⟨continues, consumer', hrefused, heq⟩⟩
      · rw [heq, fail_of_failed (hkept _ .refl).1]
        exact .failing (by simp) (hkept _ .refl).1 ⟨result, (hkept _ .refl).2, hsuccess, herror⟩
      · rw [heq]
        exact .failing (by simp) (hkept middle hmoves).1
          ⟨result, (hkept middle hmoves).2, hsuccess, herror⟩
      · rw [heq]
        obtain ⟨hmiddle, hmiddle'⟩ := hkept middle hmoves
        refine .failing (by cases continues <;> simp) hrefused.failed ?_
        rcases hrefused.result with ⟨hsame, -⟩ | ⟨error, hother, herror'⟩
        · exact ⟨result, hsame.trans hmiddle', hsuccess, herror⟩
        · exact ⟨_, hother, rfl, herror'⟩
  | finishing =>
      simp only [SynchronizedRecordingConsumer.work, hplace, finish, hfailed, if_true]
      exact Stage.ended_of_failed hfailed hresult herror hsuccess
  | done => exact absurd hplace hworker

theorem Stage.step (h : Stage past consumer) (hkeyed : consumer.Keyed)
    (hqueue : arrivals past = handled past ++ inHand consumer ++ consumer.queue)
    (event : Event) :
    Stage (past ++ [Runs.transition SynchronizedRecordingConsumer.step consumer event])
      (consumer.step event).2 := by
  cases h with
  | recording hworker hfailed h =>
      cases event with
      | onPacket packet => exact h.onPacket hworker hfailed packet
      | stop =>
          refine .recording hworker hfailed (h.pass rfl rfl (fun _ hhand => hhand) ?_ ?_ ?_)
          · rintro captured ⟨hinput, -, -⟩
            cases hinput
          · exact fun captured hcaptured => h.addressed captured (by
              rwa [List.mem_append, mem_inHand])
          · exact fun hfinishing => ⟨(h.ended hfinishing).1, rfl⟩
      | work => exact h.work hkeyed hworker hfailed hqueue
  | failing hworker hfailed h =>
      obtain ⟨result, hresult, hsuccess, herror⟩ := h
      cases event with
      | onPacket packet =>
          have heq : consumer.onPacket packet = consumer := by
            rcases onPacket_cases consumer packet with
              heq | ⟨-, hnot, -⟩ | ⟨_, -, -, -, hnot, -, -⟩
            · exact heq
            · rw [hfailed] at hnot
              cases hnot
            · rw [hfailed] at hnot
              cases hnot
          rw [SynchronizedRecordingConsumer.step, heq]
          exact .failing hworker hfailed ⟨result, hresult, hsuccess, herror⟩
      | stop => exact .failing hworker hfailed ⟨result, hresult, hsuccess, herror⟩
      | work => exact Stage.work_of_failed hkeyed hworker hfailed hresult hsuccess herror
  | ended hworker hrunning hgiven h =>
      have hnone : ∀ event captured,
          ¬ Dequeues (Runs.transition SynchronizedRecordingConsumer.step consumer event)
            captured := by
        rintro event captured ⟨-, hwaiting, -⟩
        change consumer.worker = .waiting at hwaiting
        rw [hworker] at hwaiting
        cases hwaiting
      cases event with
      | onPacket packet =>
          have heq : consumer.onPacket packet = consumer := by
            cases packet with
            | none => rfl
            | some captured => exact if_pos (Or.inl (by simp [hrunning]))
          have harrival : arrival (Runs.transition SynchronizedRecordingConsumer.step consumer
              (.onPacket packet)) = none := by
            cases packet <;>
              simp [arrival, Runs.transition, SynchronizedRecordingConsumer.step, heq]
          rw [SynchronizedRecordingConsumer.step, heq]
          exact .ended hworker hrunning hgiven (fun result hresult hsuccess =>
            (h result hresult hsuccess).later harrival (hnone _))
      | stop =>
          exact .ended hworker hrunning hgiven (fun result hresult hsuccess =>
            (h result hresult hsuccess).later rfl (hnone _))
      | work =>
          simp only [SynchronizedRecordingConsumer.step, SynchronizedRecordingConsumer.work,
            hworker]
          exact .ended hworker hrunning hgiven (fun result hresult hsuccess =>
            (h result hresult hsuccess).later rfl (hnone _))

theorem Fresh.stage (h : Fresh consumer) : Stage [] consumer := by
  refine .recording (by simp [h.worker]) h.failed ⟨⟨h.lanes, ?_, ?_, ?_, fun _ => h.committed, ?_,
    ?_, ?_⟩, ?_, ?_, ?_, ?_, ?_, h.result, ?_⟩
  · intro lane hlane
    rw [RecordingLane.givenCts, (h.idle lane hlane).2, h.committed]
    rfl
  · intro lane hlane
    rw [RecordingLane.AllAccepted, (h.idle lane hlane).2]
    simp
  · simp [h.started]
  · rw [h.packetCount, h.committed]
    rfl
  · simp [h.committed]
  · simp [h.started]
  · simp [h.started]
  · simp [inHand, h.worker, h.queue]
  · simp [handled]
  · simp
  · simp
  · simp [h.worker]

theorem run_stage {first : SynchronizedRecordingConsumer} (hfresh : Fresh first)
    (hrun : Runs.Run SynchronizedRecordingConsumer.step first past consumer) :
    Stage past consumer :=
  hrun.invariant hfresh.stage (fun _ _ event hprior h =>
    h.step (run_keyed hfresh hprior) (arrivals_eq hfresh hprior) event)

end Stage

/-- In every run of a started consumer: while nothing has failed, all writers have been
given the same source CTS in the same order; and a successful result means that
every file holds exactly the committed slots, from the start to the end, with every
packet that was enqueued at or above the start, and every packet that was taken out
of the queue once the recording had begun. -/
theorem recording_lanes_agree {streamConfigs : List PacketStreamConfig} {paths : List String}
    {streamIds : List CaptureStreamId} {library : Nat → MuxLibrary}
    {first consumer : SynchronizedRecordingConsumer} {past : History}
    (hstart : start streamConfigs paths streamIds library = some first)
    (hrun : Runs.Run step first past consumer) :
    (consumer.failed = false → ∀ lane ∈ consumer.lanes, lane.givenCts = consumer.committed) ∧
      ∀ result, consumer.result = some result → result.success = true →
        Completed past consumer result := by
  cases run_stage (start_fresh hstart) hrun with
  | recording hworker hfailed h =>
      refine ⟨fun _ => h.agrees.given, fun result hresult => ?_⟩
      rw [h.result] at hresult
      cases hresult
  | failing hworker hfailed h =>
      refine ⟨fun hnot => ?_, fun result hresult hsuccess => ?_⟩
      · rw [hfailed] at hnot
        cases hnot
      · obtain ⟨failure, hfailure, hnot, -⟩ := h
        obtain rfl := Option.some.inj (hresult.symm.trans hfailure)
        rw [hsuccess] at hnot
        cases hnot
  | ended hworker hrunning hgiven h => exact ⟨hgiven, h⟩

/-- Two streams, each ahead of the other for a while. -/
def twoStreamEvents : List Event :=
  recordingEvents [recordingPacket 0 100 true, recordingPacket 1 100 true,
    recordingPacket 1 110 false, recordingPacket 0 110 false]

theorem recording_lanes_agree_two_streams :
    ∃ consumer past result, Runs.Run step (startedConsumer 2) past consumer ∧
      consumer.result = some result ∧ result.range = ⟨100, 110⟩ ∧
        Completed past consumer result := by
  have hstart : start (List.replicate 2 recordingConfig) (List.replicate 2 "video") []
      (fun _ => acceptingLibrary) = some (startedConsumer 2) := rfl
  have hrun := run_of_events 2 twoStreamEvents
  have hresult : (Runs.exec step (startedConsumer 2) twoStreamEvents).result.map
      (fun result => (result.success, result.range)) = some (true, ⟨100, 110⟩) := by
    decide
  obtain ⟨result, hsome, hfields⟩ := Option.map_eq_some_iff.mp hresult
  obtain ⟨hsuccess, hrange⟩ := Prod.mk.inj hfields
  exact ⟨_, _, result, hrun, hsome, hrange,
    (recording_lanes_agree hstart hrun).2 result hsome hsuccess⟩

end SynchronizedRecordingConsumer

end ObsSyncReplay
