import ObsSyncReplay.Recording.ConsumerMoves

/-!
Runs of the recording consumer: which packets were enqueued and which ones the worker
has handled, and what a step leaves alone. The queue is served in order, in every
interleaving of the producers with the worker and the stop.
-/

namespace ObsSyncReplay

namespace SynchronizedRecordingConsumer

abbrev History := List (Runs.Transition SynchronizedRecordingConsumer Event Unit)

/-- What the moves of the worker leave alone. -/
structure Frame where
  queue : List CapturedEncodedPacket
  worker : WorkerPhase
  running : Bool
  stopRequested : Bool
  failed : Bool
  result : Option SynchronizedRecordingConsumerResult
  streamIds : List CaptureStreamId

def frame (consumer : SynchronizedRecordingConsumer) : Frame where
  queue := consumer.queue
  worker := consumer.worker
  running := consumer.running
  stopRequested := consumer.stopRequested
  failed := consumer.failed
  result := consumer.result
  streamIds := consumer.lanes.map RecordingLane.streamId

section Frame

variable {consumer consumer' : SynchronizedRecordingConsumer}

theorem Move.frame_eq (h : Move consumer consumer') : consumer'.frame = consumer.frame := by
  have hids : ∀ f : RecordingLane → RecordingLane, (∀ lane, (f lane).streamId = lane.streamId) →
      (consumer.lanes.map f).map RecordingLane.streamId =
        consumer.lanes.map RecordingLane.streamId := fun f hf => by
    rw [List.map_map]
    exact List.map_congr_left (fun lane _ => hf lane)
  cases h with
  | begin cts =>
      unfold frame begun
      rw [hids (RecordingLane.opened cts) (fun _ => RecordingLane.opened_streamId)]
  | commit cts =>
      unfold frame slotCommitted
      rw [hids (RecordingLane.slotWritten consumer.range.startCts cts)
        (fun _ => RecordingLane.writeSlot_streamId)]

theorem Moves.frame_eq (h : Moves consumer consumer') : consumer'.frame = consumer.frame := by
  induction h with
  | refl => rfl
  | tail _ hmove ih => exact hmove.frame_eq.trans ih

theorem Moves.keyed (h : Moves consumer consumer') (hkeyed : consumer.Keyed) :
    consumer'.Keyed := by
  induction h with
  | refl => exact hkeyed
  | tail _ hmove ih => exact hmove.keyed ih

theorem Moves.started (h : Moves consumer consumer') (hstarted : consumer.started = true) :
    consumer'.started = true := by
  induction h with
  | refl => exact hstarted
  | tail _ hmove _ => exact hmove.started

theorem insert_frame (consumer : SynchronizedRecordingConsumer)
    (captured : CapturedEncodedPacket) : (consumer.insert captured).frame = consumer.frame := by
  have hids : (consumer.insert captured).lanes.map RecordingLane.streamId =
      consumer.lanes.map RecordingLane.streamId := by
    refine List.ext_getElem? (fun position => ?_)
    rw [List.getElem?_map, List.getElem?_map, insert_getElem?, Option.map_map]
    refine congrArg (fun f => Option.map f consumer.lanes[position]?) (funext fun lane => ?_)
    simp only [Function.comp_apply]
    split_ifs
    · exact RecordingLane.insert_streamId
    · rfl
  unfold frame
  rw [hids]
  unfold SynchronizedRecordingConsumer.insert
  cases consumer.localStreamIndex captured.streamId <;> rfl

theorem insert_started (consumer : SynchronizedRecordingConsumer)
    (captured : CapturedEncodedPacket) :
    (consumer.insert captured).started = consumer.started := by
  unfold SynchronizedRecordingConsumer.insert
  cases consumer.localStreamIndex captured.streamId <;> rfl

theorem insert_range (consumer : SynchronizedRecordingConsumer)
    (captured : CapturedEncodedPacket) : (consumer.insert captured).range = consumer.range := by
  unfold SynchronizedRecordingConsumer.insert
  cases consumer.localStreamIndex captured.streamId <;> rfl

theorem insert_committed (consumer : SynchronizedRecordingConsumer)
    (captured : CapturedEncodedPacket) :
    (consumer.insert captured).committed = consumer.committed ∧
      (consumer.insert captured).packetCount = consumer.packetCount := by
  unfold SynchronizedRecordingConsumer.insert
  cases consumer.localStreamIndex captured.streamId <;> exact ⟨rfl, rfl⟩

end Frame

section Steps

variable {consumer : SynchronizedRecordingConsumer}

/-- A packet is put into the queue, or flags an overflow, or is ignored. -/
theorem onPacket_cases (consumer : SynchronizedRecordingConsumer)
    (packet : Option CapturedEncodedPacket) :
    consumer.onPacket packet = consumer ∨
      (consumer.queue.length ≥ kMaxQueuePackets ∧ consumer.failed = false ∧
        consumer.onPacket packet = { consumer with
          failed := true
          result := some { paths := consumer.paths, error := "recording-queue-overflow" } }) ∨
      ∃ captured, packet = some captured ∧ consumer.running = true ∧
        consumer.stopRequested = false ∧ consumer.failed = false ∧
        (consumer.localStreamIndex captured.streamId).isSome = true ∧
        consumer.onPacket packet = { consumer with queue := consumer.queue ++ [captured] } := by
  cases packet with
  | none => exact Or.inl rfl
  | some captured =>
      unfold onPacket
      dsimp only
      split_ifs with hrefused hfull
      · exact Or.inl rfl
      · simp only [not_or, Bool.not_eq_true, Bool.not_eq_false'] at hrefused
        exact Or.inr (Or.inl ⟨hfull, hrefused.2.2.1, rfl⟩)
      · simp only [not_or, Bool.not_eq_true, Bool.not_eq_false'] at hrefused
        exact Or.inr (Or.inr ⟨captured, rfl, hrefused.1, hrefused.2.1, hrefused.2.2.1,
          by simpa [Option.isNone_eq_false_iff] using hrefused.2.2.2, rfl⟩)

/-- The worker waits, leaves its loop, or takes the oldest packet. -/
theorem take_cases (consumer : SynchronizedRecordingConsumer) :
    (consumer.take = consumer ∧ consumer.failed = false) ∨
      ((consumer.failed = true ∨ consumer.queue = [] ∧ consumer.stopRequested = true) ∧
        consumer.take = { consumer with worker := .finishing }) ∨
      ∃ captured rest, consumer.queue = captured :: rest ∧ consumer.failed = false ∧
        consumer.take = { consumer with queue := rest, worker := .processing captured } := by
  unfold take
  cases hqueue : consumer.queue with
  | nil =>
      dsimp only
      split_ifs with hwake
      · exact Or.inr (Or.inl ⟨hwake.imp_right (fun hstop => ⟨rfl, hstop⟩), rfl⟩)
      · exact Or.inl ⟨rfl, by simpa using fun h => hwake (Or.inl h)⟩
  | cons captured rest =>
      dsimp only
      split_ifs with hfailed
      · exact Or.inr (Or.inl ⟨Or.inl hfailed, rfl⟩)
      · exact Or.inr (Or.inr ⟨captured, rest, rfl, by simpa using hfailed, rfl⟩)

@[simp] theorem finalize_queue : consumer.finalize.queue = consumer.queue := rfl

@[simp] theorem finalize_committed : consumer.finalize.committed = consumer.committed := rfl

@[simp] theorem finalize_started : consumer.finalize.started = consumer.started := rfl

@[simp] theorem finalize_range : consumer.finalize.range = consumer.range := rfl

theorem Refused.queue {consumer' : SynchronizedRecordingConsumer}
    (h : Refused consumer consumer') : consumer'.queue = consumer.queue := by
  cases h
  exact fail_queue

theorem Refused.stopRequested {consumer' : SynchronizedRecordingConsumer}
    (h : Refused consumer consumer') : consumer'.stopRequested = consumer.stopRequested := by
  cases h
  exact fail_stopRequested

theorem process_queue (hkeyed : consumer.Keyed) (captured : CapturedEncodedPacket) :
    (consumer.process captured).2.queue = consumer.queue := by
  have hinsert := congrArg Frame.queue (insert_frame consumer captured)
  rcases process_cases hkeyed captured with
    ⟨-, h⟩ | ⟨middle, hmoves, ⟨h, -⟩ | ⟨continues, consumer', hrefused, h⟩⟩
  · rw [h]
    exact fail_queue.trans hinsert
  · rw [h]
    exact (congrArg Frame.queue hmoves.frame_eq).trans hinsert
  · rw [h, hrefused.queue]
    exact (congrArg Frame.queue hmoves.frame_eq).trans hinsert

theorem settle_queue (hkeyed : consumer.Keyed) : consumer.settle.queue = consumer.queue := by
  obtain ⟨middle, hmoves, hend⟩ := settle_cases hkeyed
  have hqueue : middle.queue = consumer.queue := congrArg Frame.queue hmoves.frame_eq
  rcases hend with ⟨-, -, h⟩ | ⟨-, -, -, h⟩ | ⟨-, -, -, h⟩ | hrefused
  · rw [h, fail_queue, hqueue]
  · rw [h, fail_queue, hqueue]
  · rw [h, hqueue]
  · rw [hrefused.queue, hqueue]

theorem settle_stopRequested (hkeyed : consumer.Keyed) :
    consumer.settle.stopRequested = consumer.stopRequested := by
  obtain ⟨middle, hmoves, hend⟩ := settle_cases hkeyed
  have hsame : middle.stopRequested = consumer.stopRequested :=
    congrArg Frame.stopRequested hmoves.frame_eq
  rcases hend with ⟨-, -, h⟩ | ⟨-, -, -, h⟩ | ⟨-, -, -, h⟩ | hrefused
  · rw [h, fail_stopRequested, hsame]
  · rw [h, fail_stopRequested, hsame]
  · rw [h, hsame]
  · rw [hrefused.stopRequested, hsame]

theorem Keyed.process (hkeyed : consumer.Keyed) (captured : CapturedEncodedPacket) :
    (consumer.process captured).2.Keyed := by
  have hinserted := hkeyed.insert captured
  rcases process_cases hkeyed captured with
    ⟨-, h⟩ | ⟨middle, hmoves, ⟨h, -⟩ | ⟨continues, consumer', hrefused, h⟩⟩
  · rw [h]
    exact hinserted.fail _
  · rw [h]
    exact hmoves.keyed hinserted
  · rw [h]
    exact hrefused.keyed (hmoves.keyed hinserted)

theorem Keyed.settle (hkeyed : consumer.Keyed) : consumer.settle.Keyed := by
  obtain ⟨middle, hmoves, hend⟩ := settle_cases hkeyed
  have hmiddle := hmoves.keyed hkeyed
  rcases hend with ⟨-, -, h⟩ | ⟨-, -, -, h⟩ | ⟨-, -, -, h⟩ | hrefused
  · rw [h]
    exact hmiddle.fail _
  · rw [h]
    exact hmiddle.fail _
  · rwa [h]
  · exact hrefused.keyed hmiddle

end Steps

section Finalize

variable {range : ReplayFrameRange} {failed : Bool}

theorem finalize_lane_pending (lane : RecordingLane) :
    (lane.finalize range failed).2.2.pending = lane.pending := by
  unfold RecordingLane.finalize
  cases lane.writer with
  | none => rfl
  | some writer =>
      dsimp only
      split_ifs <;> rfl

theorem finalize_lane_givenCts (lane : RecordingLane) :
    (lane.finalize range failed).2.2.givenCts = lane.givenCts := by
  unfold RecordingLane.finalize
  cases lane.writer with
  | none => rfl
  | some writer =>
      dsimp only
      split_ifs <;> exact (RecordingLane.givenCts_append lane _).trans (List.append_nil _)

/-- What finalizing one lane keeps, finalizing all lanes keeps. -/
theorem finalizeLanes_map {α : Type*} {f : RecordingLane → α}
    (hf : ∀ lane range failed, f (lane.finalize range failed).2.2 = f lane)
    (lanes : List RecordingLane) :
    (finalizeLanes range failed lanes).2.2.map f = lanes.map f := by
  induction lanes generalizing failed with
  | nil => rfl
  | cons lane rest ih =>
      simp only [finalizeLanes, List.map_cons, ih, hf]

/-- A lane that finalizes well has a writer whose file covers the range. -/
theorem finalize_lane_none {lane : RecordingLane} (h : (lane.finalize range false).1 = none) :
    ∀ writer ∈ lane.writer,
      (writer.firstSourceCts = range.startCts ∧ writer.lastSourceCts = range.endCts) ∧
        (lane.AllAccepted → (lane.finalize range false).2.2.AllAccepted) := by
  intro writer hwriter
  have hsome : lane.writer = some writer := hwriter
  obtain ⟨hfirst, hlast, -⟩ :=
    MkvPacketWriter.finalize_fst writer lane.library
  unfold RecordingLane.finalize at h ⊢
  simp only [hsome, Bool.false_eq_true, if_false] at h ⊢
  split_ifs at h ⊢ with hmismatch
  simp only [not_or, Bool.not_eq_true', Bool.not_eq_false, not_not, hfirst, hlast] at hmismatch
  obtain ⟨hsuccess, hstart, hend⟩ := hmismatch
  exact ⟨⟨hstart, hend⟩, fun hall => RecordingLane.allAccepted_append.mpr ⟨hall, hsuccess⟩⟩

theorem finalizeLanes_none {lanes : List RecordingLane}
    (h : (finalizeLanes range false lanes).1 = none) :
    (∀ lane ∈ lanes, (lane.finalize range false).1 = none) ∧
      (finalizeLanes range false lanes).2.2 =
        lanes.map (fun lane => (lane.finalize range false).2.2) := by
  induction lanes with
  | nil => exact ⟨by simp, rfl⟩
  | cons lane rest ih =>
      simp only [finalizeLanes, Bool.false_or] at h ⊢
      obtain ⟨hlane, hrest⟩ := Option.or_eq_none_iff.mp h
      simp only [hlane, Option.isSome_none] at hrest ⊢
      obtain ⟨hall, hmap⟩ := ih hrest
      exact ⟨List.forall_mem_cons.mpr ⟨hlane, hall⟩, by rw [hmap, List.map_cons]⟩

variable {consumer : SynchronizedRecordingConsumer}

theorem finalize_givenCts :
    consumer.finalize.lanes.map RecordingLane.givenCts =
      consumer.lanes.map RecordingLane.givenCts :=
  finalizeLanes_map (fun lane _ _ => finalize_lane_givenCts lane) consumer.lanes

theorem Keyed.finalize (hkeyed : consumer.Keyed) : consumer.finalize.Keyed := by
  have hpending : consumer.finalize.lanes.map RecordingLane.pending =
      consumer.lanes.map RecordingLane.pending :=
    finalizeLanes_map (fun lane _ _ => finalize_lane_pending lane) consumer.lanes
  intro lane hlane
  have hmem := List.mem_map_of_mem (f := RecordingLane.pending) hlane
  rw [hpending] at hmem
  obtain ⟨before, hbefore, hsame⟩ := List.mem_map.mp hmem
  intro e he
  rw [← hsame] at he
  exact hkeyed before hbefore e he

end Finalize

/-- A consumer that `Start` has just started. -/
structure Fresh (consumer : SynchronizedRecordingConsumer) : Prop where
  lanes : consumer.lanes ≠ []
  idle : ∀ lane ∈ consumer.lanes, lane.pending = .empty ∧ lane.calls = []
  queue : consumer.queue = []
  worker : consumer.worker = .waiting
  running : consumer.running = true
  stopRequested : consumer.stopRequested = false
  failed : consumer.failed = false
  started : consumer.started = false
  range : consumer.range = {}
  packetCount : consumer.packetCount = 0
  result : consumer.result = none
  committed : consumer.committed = []

theorem start_fresh {streamConfigs : List PacketStreamConfig} {paths : List String}
    {streamIds : List CaptureStreamId} {library : Nat → MuxLibrary}
    {consumer : SynchronizedRecordingConsumer}
    (h : start streamConfigs paths streamIds library = some consumer) : Fresh consumer := by
  unfold start at h
  by_cases hrefused : streamConfigs.isEmpty ∨ streamConfigs.length ≠ paths.length ∨
      (!streamIds.isEmpty ∧ streamIds.length ≠ streamConfigs.length)
  · rw [if_pos hrefused] at h
    cases h
  · rw [if_neg hrefused] at h
    obtain rfl := Option.some.inj h
    simp only [not_or, not_and, Decidable.not_not] at hrefused
    obtain ⟨hconfigs, hpaths, hids⟩ := hrefused
    refine ⟨?_, ?_, rfl, rfl, rfl, rfl, rfl, rfl, rfl, rfl, rfl, rfl⟩
    · have hpositive : 0 < streamConfigs.length :=
        List.length_pos_iff.mpr (fun hnil => hconfigs (by simp [hnil]))
      refine List.ne_nil_of_length_pos ?_
      rw [makeLanes, List.length_mapIdx, List.length_zip, List.length_zip]
      split_ifs with hempty
      · rw [List.length_map, List.length_range]
        omega
      · have := hids (by simpa using hempty)
        omega
    · intro lane hlane
      obtain ⟨index, hindex, rfl⟩ := List.mem_mapIdx.mp hlane
      exact ⟨rfl, rfl⟩

/-- The packet that an `OnPacket` put into the queue. -/
def arrival (t : Runs.Transition SynchronizedRecordingConsumer Event Unit) :
    Option CapturedEncodedPacket :=
  match t.input with
  | .onPacket (some captured) =>
      if t.after.queue = t.before.queue ++ [captured] then some captured else none
  | _ => none

/-- The packet that the worker worked on. -/
def handling (t : Runs.Transition SynchronizedRecordingConsumer Event Unit) :
    Option CapturedEncodedPacket :=
  match t.input, t.before.worker with
  | .work, .processing captured => some captured
  | _, _ => none

def arrivals (past : History) : List CapturedEncodedPacket := past.filterMap arrival

def handled (past : History) : List CapturedEncodedPacket := past.filterMap handling

def inHand (consumer : SynchronizedRecordingConsumer) : List CapturedEncodedPacket :=
  match consumer.worker with
  | .processing captured => [captured]
  | _ => []

section Queue

variable {consumer consumer' : SynchronizedRecordingConsumer} {past : History}

theorem Keyed.step (hkeyed : consumer.Keyed) (event : Event) :
    (consumer.step event).2.Keyed := by
  cases event with
  | onPacket packet =>
      simp only [SynchronizedRecordingConsumer.step]
      rcases onPacket_cases consumer packet with
        h | ⟨-, -, h⟩ | ⟨captured, -, -, -, -, -, h⟩ <;> rw [h] <;> exact hkeyed
  | stop => exact hkeyed
  | work =>
      simp only [SynchronizedRecordingConsumer.step, work]
      cases consumer.worker with
      | waiting =>
          dsimp only
          rcases take_cases consumer with ⟨h, -⟩ | ⟨-, h⟩ | ⟨_, _, -, -, h⟩ <;>
            rw [h] <;> exact hkeyed
      | processing captured => exact hkeyed.process captured
      | finishing =>
          dsimp only [finish]
          split_ifs
          · exact hkeyed.finalize
          · exact hkeyed.settle.finalize
      | done => exact hkeyed

theorem mem_inHand {captured : CapturedEncodedPacket} :
    captured ∈ inHand consumer ↔ consumer.worker = .processing captured := by
  unfold inHand
  cases consumer.worker <;> simp [eq_comm]

theorem arrivals_append (t : Runs.Transition SynchronizedRecordingConsumer Event Unit) :
    arrivals (past ++ [t]) = arrivals past ++ (arrival t).toList := by
  rw [arrivals, List.filterMap_append]
  cases harrival : arrival t <;> simp [arrivals, harrival]

theorem handled_append (t : Runs.Transition SynchronizedRecordingConsumer Event Unit) :
    handled (past ++ [t]) = handled past ++ (handling t).toList := by
  rw [handled, List.filterMap_append]
  cases hhandling : handling t <;> simp [handled, hhandling]

/-- What waits and what is in hand, with what the step handles, is what was there
before with what the step enqueues. -/
theorem step_queue (hkeyed : consumer.Keyed) (event : Event) :
    (handling (Runs.transition step consumer event)).toList ++
        inHand (consumer.step event).2 ++ (consumer.step event).2.queue =
      inHand consumer ++ consumer.queue ++
        (arrival (Runs.transition step consumer event)).toList := by
  cases event with
  | onPacket packet =>
      rcases onPacket_cases consumer packet with
        h | ⟨-, -, h⟩ | ⟨captured, rfl, -, -, -, -, h⟩
      · cases packet <;>
          simp [handling, arrival, Runs.transition, SynchronizedRecordingConsumer.step, h]
      · cases packet <;>
          simp [handling, arrival, Runs.transition, SynchronizedRecordingConsumer.step, h, inHand]
      · simp [handling, arrival, Runs.transition, SynchronizedRecordingConsumer.step, h, inHand]
  | stop => simp [handling, arrival, Runs.transition, SynchronizedRecordingConsumer.step, stop,
      inHand]
  | work =>
      simp only [arrival, Runs.transition, Option.toList_none, List.append_nil]
      cases hworker : consumer.worker with
      | waiting =>
          simp only [handling, hworker, SynchronizedRecordingConsumer.step, work]
          rcases take_cases consumer with
            ⟨h, -⟩ | ⟨-, h⟩ | ⟨captured, rest, hqueue, -, h⟩
          · simp [h, inHand, hworker]
          · simp [h, inHand, hworker]
          · simp [h, inHand, hworker, hqueue]
      | processing captured =>
          have hqueue := process_queue hkeyed captured
          simp only [handling, hworker, SynchronizedRecordingConsumer.step, work]
          cases hcontinues : (consumer.process captured).1 <;>
            simp [inHand, hworker, hqueue]
      | finishing =>
          have hqueue : consumer.finish.queue = consumer.queue := by
            change ((if consumer.failed then consumer else consumer.settle).finalize).queue = _
            rw [finalize_queue]
            split_ifs
            · rfl
            · exact settle_queue hkeyed
          simp only [handling, hworker, SynchronizedRecordingConsumer.step, work, hqueue]
          simp [inHand, hworker, finish]
      | done =>
          simp [handling, hworker, SynchronizedRecordingConsumer.step, work, inHand]

theorem run_keyed {start : SynchronizedRecordingConsumer} (hfresh : Fresh start)
    (hrun : Runs.Run step start past consumer) : consumer.Keyed := by
  refine hrun.stateInvariant (P := Keyed) ?_ (fun _ event hkeyed => hkeyed.step event)
  intro lane hlane e he
  rw [(hfresh.idle lane hlane).1] at he
  cases he

/-- The queue is served in order: the packets enqueued so far are the ones handled,
then the one in the worker's hand, then the ones that wait. -/
theorem arrivals_eq {start : SynchronizedRecordingConsumer} (hfresh : Fresh start)
    (hrun : Runs.Run step start past consumer) :
    arrivals past = handled past ++ inHand consumer ++ consumer.queue := by
  refine hrun.invariant
    (P := fun past consumer => arrivals past = handled past ++ inHand consumer ++ consumer.queue)
    ?_ (fun past consumer event hprior ih => ?_)
  · simp [arrivals, handled, inHand, hfresh.worker, hfresh.queue]
  · have hqueue := step_queue (run_keyed hfresh hprior) event
    rw [arrivals_append, handled_append, ih]
    simp only [List.append_assoc] at hqueue ⊢
    rw [hqueue]

end Queue

/-- A library that accepts every request and leaves time stamps as they are. -/
def acceptingLibrary : MuxLibrary where
  rescale := fun value _ _ => value
  answer := fun _ _ => 0
  describe := fun _ => ""

def recordingConfig : PacketStreamConfig :=
  { width := 16, height := 9, timebaseNum := 1, timebaseDen := 60, extraData := [1] }

def recordingPacket (streamId : CaptureStreamId) (cts : Fin 256) (keyframe : Bool) :
    CapturedEncodedPacket where
  streamId := streamId
  packet :=
    { sourceCts := cts
      dts := cts.val
      timebaseNum := 1
      timebaseDen := 60
      keyframe := keyframe
      payload := [0]
      sourceCts_lt := byte_lt_uint64Size cts }

/-- A consumer that was just started on `count` streams. -/
def startedConsumer (count : Nat) : SynchronizedRecordingConsumer :=
  { lanes := makeLanes (List.replicate count recordingConfig) (List.replicate count "video")
      ((List.range count).map Nat.toUInt8) (fun _ => acceptingLibrary) }

/-- The packets are enqueued and worked off one after the other, then the recording
is stopped and ends. -/
def recordingEvents (packets : List CapturedEncodedPacket) : List Event :=
  packets.flatMap (fun captured => [.onPacket (some captured), .work, .work]) ++
    [.stop, .work, .work]

theorem run_of_events (count : Nat) (events : List Event) :
    Runs.Run step (startedConsumer count) (Runs.history step (startedConsumer count) events)
      (Runs.exec step (startedConsumer count) events) :=
  Runs.run_exec _ events

end SynchronizedRecordingConsumer

end ObsSyncReplay
