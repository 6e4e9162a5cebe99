import ObsSyncReplay.Recording.ConsumerPresentation

/-!
Where the packets of a recording come from. Whatever the worker does, a lane keeps its stream
and its file, and what it gives to its writer are packets of its stream that were put into the
queue, with other time stamps.
-/

namespace ObsSyncReplay

/-- The packet is muxed for the captured one: only the time stamps may differ. -/
def Carries (captured : CapturedEncodedPacket) (packet : EncodedPacket) : Prop :=
  packet = { captured.packet with pts := packet.pts, dts := packet.dts }

theorem forall₂_compose {α β γ : Type*} {R : α → β → Prop} {S : β → γ → Prop}
    {T : α → γ → Prop} (h : ∀ a b c, R a b → S b c → T a c) {first : List α} {second : List β}
    {third : List γ} (hfirst : List.Forall₂ R first second)
    (hsecond : List.Forall₂ S second third) : List.Forall₂ T first third := by
  induction hfirst generalizing third with
  | nil =>
      cases hsecond
      exact .nil
  | cons hhead _ ih =>
      cases hsecond with
      | cons hhead' htail' => exact .cons (h _ _ _ hhead hhead') (ih htail')

theorem forall₂_getElem?_right {α β : Type*} {R : α → β → Prop} {first : List α}
    {second : List β} (h : List.Forall₂ R first second) {i : Nat} {b : β}
    (hb : second[i]? = some b) : ∃ a, first[i]? = some a ∧ R a b := by
  obtain ⟨hlength, hrelated⟩ := List.forall₂_iff_get.mp h
  obtain ⟨hi, rfl⟩ := List.getElem?_eq_some_iff.mp hb
  exact ⟨_, List.getElem?_eq_getElem (hlength ▸ hi), hrelated i _ hi⟩

/-- A relation that holds between a lane and what the worker makes of it. -/
structure KeptByWorker (R : RecordingLane → RecordingLane → Prop) : Prop where
  refl : ∀ lane, R lane lane
  trans : ∀ first second third, R first second → R second third → R first third
  eraseBefore : ∀ lane cts, R lane (lane.eraseBefore cts)
  openAt : ∀ lane cts, R lane (lane.openAt cts).2
  writeSlot : ∀ lane startCts cts, cts ∈ lane.pending.keys → R lane (lane.writeSlot startCts cts).2
  finalize : ∀ lane range failed, R lane (lane.finalize range failed).2.2

namespace SynchronizedRecordingConsumer

variable {R : RecordingLane → RecordingLane → Prop} {consumer : SynchronizedRecordingConsumer}
  {captured : CapturedEncodedPacket}

/-- All lanes of the one consumer are so related to those of the other. -/
abbrev LanesRelated (R : RecordingLane → RecordingLane → Prop)
    (consumer consumer' : SynchronizedRecordingConsumer) : Prop :=
  List.Forall₂ R consumer.lanes consumer'.lanes

end SynchronizedRecordingConsumer

namespace KeptByWorker

open SynchronizedRecordingConsumer

variable {R : RecordingLane → RecordingLane → Prop} {consumer : SynchronizedRecordingConsumer}

theorem lanes_refl (h : KeptByWorker R) (lanes : List RecordingLane) : List.Forall₂ R lanes lanes :=
  List.forall₂_same.mpr (fun lane _ => h.refl lane)

theorem lanes_trans (h : KeptByWorker R) {first second third : List RecordingLane}
    (hfirst : List.Forall₂ R first second) (hsecond : List.Forall₂ R second third) :
    List.Forall₂ R first third :=
  forall₂_compose h.trans hfirst hsecond

theorem eachLane (h : KeptByWorker R) {f : RecordingLane → Option String × RecordingLane}
    {lanes : List RecordingLane} (hf : ∀ lane ∈ lanes, R lane (f lane).2) :
    List.Forall₂ R lanes (ObsSyncReplay.eachLane f lanes).2 := by
  induction lanes with
  | nil => exact .nil
  | cons lane rest ih =>
      obtain ⟨hlane, hrest⟩ := List.forall_mem_cons.mp hf
      unfold ObsSyncReplay.eachLane
      split <;> rename_i lane' hreached <;> rw [hreached] at hlane
      · exact .cons hlane (h.lanes_refl rest)
      · exact .cons hlane (ih hrest)

theorem finalizeLanes (h : KeptByWorker R) (range : ReplayFrameRange) (failed : Bool)
    (lanes : List RecordingLane) :
    List.Forall₂ R lanes (ObsSyncReplay.finalizeLanes range failed lanes).2.2 := by
  induction lanes generalizing failed with
  | nil => exact .nil
  | cons lane rest ih => exact .cons (h.finalize lane range failed) (ih _)

theorem fail (h : KeptByWorker R) (error : String) :
    LanesRelated R consumer (consumer.fail error) := by
  unfold LanesRelated
  rw [fail_lanes]
  exact h.lanes_refl _

theorem commitSlot (h : KeptByWorker R) {cts : Nat} (hnext : consumer.nextSlot = some cts) :
    LanesRelated R consumer (consumer.commitSlot cts).2 := by
  have hshared := (nextSlot_eq_some.mp hnext).2
  have hlanes := h.eachLane (fun lane hlane =>
    h.writeSlot lane consumer.range.startCts cts (hshared lane hlane))
  unfold SynchronizedRecordingConsumer.commitSlot LanesRelated
  dsimp only
  split
  · rw [fail_lanes]
    exact hlanes
  · exact hlanes

theorem flushSlots (h : KeptByWorker R) (fuel : Nat) (consumer : SynchronizedRecordingConsumer) :
    LanesRelated R consumer (flushSlots fuel consumer).2 := by
  induction fuel generalizing consumer with
  | zero => exact h.lanes_refl _
  | succ fuel ih =>
      unfold SynchronizedRecordingConsumer.flushSlots
      split <;> rename_i hnext
      · exact h.lanes_refl _
      · have hslot := h.commitSlot hnext
        split <;> rename_i committed hcommit <;> rw [hcommit] at hslot
        · exact hslot
        · exact h.lanes_trans hslot (ih committed)

theorem flushCommonPrefix (h : KeptByWorker R) (consumer : SynchronizedRecordingConsumer) :
    LanesRelated R consumer consumer.flushCommonPrefix.2 := by
  unfold SynchronizedRecordingConsumer.flushCommonPrefix
  split_ifs
  · exact h.lanes_refl _
  · exact h.flushSlots _ _

theorem establishCommonStart (h : KeptByWorker R) (consumer : SynchronizedRecordingConsumer) :
    LanesRelated R consumer consumer.establishCommonStart.2 := by
  unfold SynchronizedRecordingConsumer.establishCommonStart
  split_ifs
  · exact h.lanes_refl _
  cases consumer.commonKeyframe with
  | none => exact h.lanes_refl _
  | some cts =>
      have htrimmed : List.Forall₂ R consumer.lanes
          (consumer.lanes.map (fun lane => lane.eraseBefore cts)) := by
        rw [List.forall₂_map_right_iff]
        exact List.forall₂_same.mpr (fun lane _ => h.eraseBefore lane cts)
      have hopened := h.lanes_trans htrimmed
        (h.eachLane (f := RecordingLane.openAt cts) (fun lane _ => h.openAt lane cts))
      unfold beginAt LanesRelated
      dsimp only
      split
      · rw [fail_lanes]
        exact hopened
      · exact hopened

/-- What follows the insertion of a packet. -/
theorem process (h : KeptByWorker R) (captured : CapturedEncodedPacket)
    (hinsert : LanesRelated R consumer (consumer.insert captured)) :
    LanesRelated R consumer (consumer.process captured).2 := by
  apply h.lanes_trans hinsert
  unfold SynchronizedRecordingConsumer.process
  dsimp only
  split_ifs
  · exact h.fail _
  · exact h.flushCommonPrefix _
  · exact h.lanes_trans (h.establishCommonStart _) (h.flushCommonPrefix _)
  · exact h.establishCommonStart _

theorem settle (h : KeptByWorker R) (consumer : SynchronizedRecordingConsumer) :
    LanesRelated R consumer consumer.settle := by
  have hbegun : LanesRelated R consumer
      (if consumer.started then (true, consumer) else consumer.establishCommonStart).2 := by
    split_ifs
    · exact h.lanes_refl _
    · exact h.establishCommonStart consumer
  unfold SynchronizedRecordingConsumer.settle
  dsimp only
  generalize (if consumer.started then (true, consumer) else consumer.establishCommonStart) =
    begun at hbegun ⊢
  have hflushed := h.lanes_trans hbegun (h.flushCommonPrefix begun.2)
  split_ifs
  · exact h.lanes_trans hbegun (h.fail _)
  · exact h.lanes_trans hflushed (h.fail _)
  · exact h.lanes_trans hflushed (h.fail _)
  · exact hflushed

theorem finish (h : KeptByWorker R) (consumer : SynchronizedRecordingConsumer) :
    LanesRelated R consumer consumer.finish := by
  have hsettled :
      LanesRelated R consumer (if consumer.failed then consumer else consumer.settle) := by
    split_ifs
    · exact h.lanes_refl _
    · exact h.settle consumer
  exact h.lanes_trans hsettled (h.finalizeLanes _ _ _)

/-- One step. Besides what it does in any case, the worker may insert the packet in its hand. -/
theorem step (h : KeptByWorker R) (event : Event)
    (hinsert : ∀ captured ∈ inHand consumer, LanesRelated R consumer (consumer.insert captured)) :
    LanesRelated R consumer (consumer.step event).2 := by
  cases event with
  | onPacket packet =>
      have hlanes : (consumer.onPacket packet).lanes = consumer.lanes := by
        rcases onPacket_cases consumer packet with
          hsame | ⟨-, -, hsame⟩ | ⟨_, -, -, -, -, -, hsame⟩ <;> rw [hsame]
      unfold LanesRelated
      simp only [SynchronizedRecordingConsumer.step, hlanes]
      exact h.lanes_refl _
  | stop => exact h.lanes_refl _
  | work =>
      simp only [SynchronizedRecordingConsumer.step, work]
      cases hworker : consumer.worker with
      | waiting =>
          have hlanes : consumer.take.lanes = consumer.lanes := by
            rcases take_cases consumer with ⟨hsame, -⟩ | ⟨-, hsame⟩ | ⟨_, _, -, -, hsame⟩ <;>
              rw [hsame]
          unfold LanesRelated
          rw [hlanes]
          exact h.lanes_refl _
      | processing captured => exact h.process captured (hinsert captured (mem_inHand.mpr hworker))
      | finishing => exact h.finish consumer
      | done => exact h.lanes_refl _

end KeptByWorker

namespace RecordingLane

variable {lane : RecordingLane} {captured : CapturedEncodedPacket} {startCts cts : Nat}

@[simp] theorem insert_path : (lane.insert captured).path = lane.path := by
  unfold RecordingLane.insert
  split_ifs <;> rfl

@[simp] theorem openAt_path : (lane.openAt cts).2.path = lane.path := by
  simp only [openAt]
  split_ifs
  · rfl
  · cases lane.pending.find? cts <;> rfl

@[simp] theorem writeSlot_path : (lane.writeSlot startCts cts).2.path = lane.path := by
  simp only [writeSlot]
  split_ifs <;> rfl

/-- The end of a lane with a writer is one more call, and leaves the rest as it is. -/
theorem finalize_cases (lane : RecordingLane) (range : ReplayFrameRange) (failed : Bool) :
    (lane.finalize range failed).2.2 = lane ∨
      ∃ writer event, (lane.finalize range failed).2.2 =
          { lane with writer := writer, calls := lane.calls ++ [event] } ∧
        (event.call = .abort ∨ event.call = .finalize) := by
  unfold RecordingLane.finalize
  cases lane.writer with
  | none => exact Or.inl rfl
  | some writer =>
      right
      dsimp only
      split_ifs
      · exact ⟨_, _, rfl, Or.inl rfl⟩
      · exact ⟨_, _, rfl, Or.inr rfl⟩
      · exact ⟨_, _, rfl, Or.inr rfl⟩

end RecordingLane

/-- What the lane has pending and what it has given to its writer are packets of its stream
from among these, and the file it opens is its own. -/
structure Sourced (arrived : List CapturedEncodedPacket) (lane : RecordingLane) : Prop where
  pending : ∀ e ∈ lane.pending.entries, e.2 ∈ arrived ∧ e.2.streamId = lane.streamId
  outputs : ∀ packet ∈ lane.outputs,
    ∃ captured ∈ arrived, captured.streamId = lane.streamId ∧ Carries captured packet
  files : ∀ path config accepted, ⟨.open path config, accepted⟩ ∈ lane.calls → path = lane.path

theorem Sourced.mono {arrived later : List CapturedEncodedPacket} {lane : RecordingLane}
    (h : Sourced arrived lane) (hsubset : arrived ⊆ later) : Sourced later lane where
  pending e he := ⟨hsubset (h.pending e he).1, (h.pending e he).2⟩
  outputs packet hpacket := by
    obtain ⟨captured, hcaptured, hrest⟩ := h.outputs packet hpacket
    exact ⟨captured, hsubset hcaptured, hrest⟩
  files := h.files

/-- The lane stays the one of its stream and file, and keeps to its sources. -/
structure SameLane (arrived : List CapturedEncodedPacket) (lane lane' : RecordingLane) : Prop where
  path : lane'.path = lane.path
  streamId : lane'.streamId = lane.streamId
  sourced : Sourced arrived lane → Sourced arrived lane'

namespace Sourced

variable {arrived : List CapturedEncodedPacket} {lane : RecordingLane}

/-- A call that neither opens a file nor writes a packet adds nothing. -/
theorem of_call {lane' : RecordingLane} (h : Sourced arrived lane) {event : WriterEvent}
    (hpending : ∀ e ∈ lane'.pending.entries, e ∈ lane.pending.entries)
    (hpath : lane'.path = lane.path) (hstream : lane'.streamId = lane.streamId)
    (hcalls : lane'.calls = lane.calls ++ [event])
    (hpacket : ∀ packet ∈ event.packet,
      ∃ captured ∈ arrived, captured.streamId = lane.streamId ∧ Carries captured packet)
    (hopen : ∀ path config accepted, event = ⟨.open path config, accepted⟩ → path = lane.path) :
    Sourced arrived lane' := by
  constructor
  · intro e he
    rw [hstream]
    exact h.pending e (hpending e he)
  · intro packet hmem
    rw [hstream]
    rw [RecordingLane.outputs, hcalls, List.filterMap_append] at hmem
    rcases List.mem_append.mp hmem with hold | hnew
    · exact h.outputs packet hold
    · obtain ⟨added, hadded, hsome⟩ := List.mem_filterMap.mp hnew
      obtain rfl := List.mem_singleton.mp hadded
      exact hpacket packet hsome
  · intro path config accepted hmem
    rw [hpath]
    rw [hcalls] at hmem
    rcases List.mem_append.mp hmem with hold | hnew
    · exact h.files path config accepted hold
    · exact hopen path config accepted (List.mem_singleton.mp hnew).symm

theorem insert (h : Sourced arrived lane) {captured : CapturedEncodedPacket}
    (harrived : captured ∈ arrived) (hstream : captured.streamId = lane.streamId) :
    Sourced arrived (lane.insert captured) := by
  by_cases hpending : captured.packet.sourceCts ∈ lane.pending.keys
  · rwa [RecordingLane.insert_of_pending hpending]
  constructor
  · intro e he
    rw [RecordingLane.insert_streamId]
    rcases (RecordingLane.mem_insert hpending).mp he with rfl | hold
    · exact ⟨harrived, hstream⟩
    · exact h.pending e hold
  · rw [RecordingLane.outputs, RecordingLane.insert_calls, RecordingLane.insert_streamId]
    exact h.outputs
  · rw [RecordingLane.insert_calls, RecordingLane.insert_path]
    exact h.files

theorem eraseBefore (h : Sourced arrived lane) (cts : Nat) :
    Sourced arrived (lane.eraseBefore cts) where
  pending e he := h.pending e (List.mem_of_mem_filter (by
    rwa [RecordingLane.eraseBefore, OrderedMap.entries_eraseBefore] at he))
  outputs := h.outputs
  files := h.files

theorem openAt (h : Sourced arrived lane) (cts : Nat) : Sourced arrived (lane.openAt cts).2 := by
  apply h.of_call (fun e he => ?_) RecordingLane.openAt_path RecordingLane.openAt_streamId
    RecordingLane.openAt_calls
  · rintro packet hnone
    cases hnone
  · intro path config accepted hsame
    obtain ⟨hpath, -⟩ := WriterCall.open.inj (congrArg WriterEvent.call hsame)
    exact hpath.symm
  · rwa [RecordingLane.openAt_pending] at he

/-- The slot that is written is one of the lane's own packets. -/
theorem writeSlot (h : Sourced arrived lane) {startCts cts : Nat}
    (hmem : cts ∈ lane.pending.keys) : Sourced arrived (lane.writeSlot startCts cts).2 := by
  obtain ⟨captured, hcaptured⟩ := OrderedMap.mem_keys.mp hmem
  obtain ⟨harrived, hstream⟩ := h.pending _ hcaptured
  apply h.of_call (fun e he => ?_) RecordingLane.writeSlot_path RecordingLane.writeSlot_streamId
    RecordingLane.writeSlot_calls
  · rintro packet hsome
    obtain rfl := Option.some.inj hsome
    refine ⟨captured, harrived, hstream, ?_⟩
    simp only [RecordingLane.slotOutput, RecordingLane.outputPacket,
      OrderedMap.find?_eq_some.mpr hcaptured, Option.getD_some, Carries]
  · intro path config accepted hsame
    cases congrArg WriterEvent.call hsame
  · simp only [RecordingLane.writeSlot] at he
    split_ifs at he
    · exact he
    · exact List.mem_of_mem_filter he

theorem finalize (h : Sourced arrived lane) (range : ReplayFrameRange) (failed : Bool) :
    Sourced arrived (lane.finalize range failed).2.2 := by
  rcases lane.finalize_cases range failed with hsame | ⟨writer, event, hended, hcall⟩
  · rwa [hsame]
  rw [hended]
  refine h.of_call (fun e he => he) rfl rfl rfl ?_ ?_
  · intro packet hpacket
    have hnone : event.packet = none := by
      unfold WriterEvent.packet
      rcases hcall with hcall | hcall <;> rw [hcall]
    rw [hnone] at hpacket
    cases hpacket
  · rintro path config accepted rfl
    rcases hcall with hcall | hcall <;> cases hcall

end Sourced

theorem keptByWorker_sameLane (arrived : List CapturedEncodedPacket) :
    KeptByWorker (SameLane arrived) where
  refl _ := ⟨rfl, rfl, id⟩
  trans _ _ _ hfirst hsecond :=
    ⟨hsecond.path.trans hfirst.path, hsecond.streamId.trans hfirst.streamId,
      hsecond.sourced ∘ hfirst.sourced⟩
  eraseBefore _ _ := ⟨rfl, rfl, fun h => h.eraseBefore _⟩
  openAt _ _ := ⟨RecordingLane.openAt_path, RecordingLane.openAt_streamId, fun h => h.openAt _⟩
  writeSlot _ _ _ hmem :=
    ⟨RecordingLane.writeSlot_path, RecordingLane.writeSlot_streamId, fun h => h.writeSlot hmem⟩
  finalize lane range failed := by
    refine ⟨?_, ?_, fun h => h.finalize range failed⟩
    all_goals
      rcases lane.finalize_cases range failed with hsame | ⟨writer, event, hended, -⟩
      · rw [hsame]
      · rw [hended]

namespace SynchronizedRecordingConsumer

variable {consumer first : SynchronizedRecordingConsumer} {past : History}

theorem insert_sameLane {arrived : List CapturedEncodedPacket} {captured : CapturedEncodedPacket}
    (harrived : captured ∈ arrived) :
    LanesRelated (SameLane arrived) consumer (consumer.insert captured) := by
  have hkept := keptByWorker_sameLane arrived
  unfold LanesRelated SynchronizedRecordingConsumer.insert
  cases hindex : consumer.localStreamIndex captured.streamId with
  | none => exact hkept.lanes_refl _
  | some index =>
      obtain ⟨hlength, hstream, -⟩ := List.findIdx?_eq_some_iff_getElem.mp hindex
      rw [List.forall₂_iff_get]
      refine ⟨by simp, fun position hposition hposition' => ?_⟩
      simp only [List.get_eq_getElem, List.getElem_modify]
      split_ifs with hsame
      · subst hsame
        exact ⟨RecordingLane.insert_path, RecordingLane.insert_streamId,
          fun h => h.insert harrived (of_decide_eq_true hstream).symm⟩
      · exact hkept.refl _

/-- In every run, lane by lane: the file and the stream are those that the consumer was started
with, and what has been written are packets of this stream that were put into the queue. -/
theorem run_sourced (hfresh : Fresh first) (hrun : Runs.Run step first past consumer) :
    List.Forall₂ (fun lane lane' => lane'.path = lane.path ∧ lane'.streamId = lane.streamId ∧
      Sourced (arrivals past) lane') first.lanes consumer.lanes := by
  apply hrun.invariant (P := fun past consumer =>
    List.Forall₂ (fun lane lane' => lane'.path = lane.path ∧ lane'.streamId = lane.streamId ∧
      Sourced (arrivals past) lane') first.lanes consumer.lanes)
  · apply List.forall₂_same.mpr
    intro lane hlane
    obtain ⟨hpending, hcalls⟩ := hfresh.idle lane hlane
    refine ⟨rfl, rfl, ?_, ?_, ?_⟩
    · simp [hpending]
    · simp [RecordingLane.outputs, hcalls]
    · simp [hcalls]
  · intro past consumer event hrun hbefore
    -- what the worker inserts is in its hand, so it was put into the queue before
    have hinsert : ∀ captured ∈ inHand consumer,
        LanesRelated (SameLane (arrivals (past ++ [Runs.transition step consumer event])))
          consumer (consumer.insert captured) := by
      intro captured hcaptured
      apply insert_sameLane
      rw [arrivals_append, arrivals_eq hfresh hrun]
      simp [hcaptured]
    apply forall₂_compose _ hbefore ((keptByWorker_sameLane _).step event hinsert)
    rintro lane middle lane' ⟨hpath, hstream, hsourced⟩ hsame
    refine ⟨hsame.path.trans hpath, hsame.streamId.trans hstream, hsame.sourced ?_⟩
    apply hsourced.mono
    rw [arrivals_append]
    exact List.subset_append_left _ _

end SynchronizedRecordingConsumer

end ObsSyncReplay
