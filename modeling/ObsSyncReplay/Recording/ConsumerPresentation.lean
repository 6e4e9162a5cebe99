import ObsSyncReplay.Muxing.PresentationTime
import ObsSyncReplay.Recording.ConsumerAgreement

/-!
The presentation times of a live recording. The slot that is written first is the start, and
its time stamps are 0 on every lane, so every writer takes 0 for its origin; whether later
writes succeed makes no difference to the times of the frames.
-/

namespace ObsSyncReplay

/-- The presentation time as the code computes it, from an unsigned difference. -/
def sourceTime (rescale : Int → AVRational → AVRational → Int) (startCts : Nat)
    (packet : EncodedPacket) (container : AVRational) : Int :=
  rescale (rescale (((packet.sourceCts : Int) - startCts).bmod uint64Size) nanoseconds
    packet.timebase) packet.timebase container

theorem sourceTime_of_fits {rescale : Int → AVRational → AVRational → Int} {startCts : Nat}
    {packet : EncodedPacket} (h : FitsInt64 startCts packet.sourceCts)
    (container : AVRational) :
    sourceTime rescale startCts packet container =
      presentationTime rescale startCts packet.timebase container packet.sourceCts := by
  unfold sourceTime presentationTime
  rw [bmod_of_fits h]

namespace WriterEvent

/-- The packet that a call hands to the writer. -/
def packet (event : WriterEvent) : Option EncodedPacket :=
  match event.call with
  | .write packet => some packet
  | _ => none

theorem filterMap_packet_concat {event : WriterEvent} {calls : List WriterEvent}
    (h : event.packet = none) :
    (calls ++ [event]).filterMap WriterEvent.packet = calls.filterMap WriterEvent.packet := by
  simp [List.filterMap_append, h]

end WriterEvent

namespace RecordingLane

variable {rescale : Int → AVRational → AVRational → Int} {lane : RecordingLane}
  {startCts cts : Nat}

/-- The packets that the lane has handed to its writer. -/
def outputs (lane : RecordingLane) : List EncodedPacket := lane.calls.filterMap WriterEvent.packet

/-- The frames of the lane's file are at the times of their source CTS. -/
structure Presents (rescale : Int → AVRational → AVRational → Int) (startCts : Nat)
    (lane : RecordingLane) : Prop where
  library : lane.library.rescale = rescale
  frames : ∀ writer ∈ lane.writer,
    writer.Presents (sourceTime rescale startCts) lane.outputs

/-- Nothing is in the lane's file yet. -/
def Unwritten (lane : RecordingLane) : Prop := ∀ writer ∈ lane.writer, writer.frames = []

/-- The lane's writer has taken 0 for its origin. -/
def Anchored (lane : RecordingLane) : Prop :=
  ∃ writer, lane.writer = some writer ∧ writer.timestampOrigin = some 0

/-- The lane is open and still to be given the start, whose DTS is its decode origin. -/
structure Primed (startCts : Nat) (lane : RecordingLane) : Prop where
  writer : ∃ writer, lane.writer = some writer ∧ writer.timestampOrigin = none
  origin : ∃ captured, lane.pending.find? startCts = some captured ∧
    captured.packet.dts = lane.dtsOrigin

theorem presents_of_unwritten (hlibrary : lane.library.rescale = rescale)
    (h : lane.Unwritten) : lane.Presents rescale startCts :=
  ⟨hlibrary, fun writer hwriter => MkvPacketWriter.presents_of_unwritten (h writer hwriter)⟩

theorem writeSlot_outputs :
    (lane.writeSlot startCts cts).2.outputs = lane.outputs ++ [lane.slotOutput startCts cts] := by
  rw [outputs, writeSlot_calls, List.filterMap_append]
  rfl

@[simp] theorem writeSlot_library : (lane.writeSlot startCts cts).2.library = lane.library := by
  simp only [writeSlot]
  split_ifs <;> rfl

/-- The origin for a slot is 0, on the first write and on the later ones. -/
theorem originFor_slotOutput (hrescale : MonotoneRescale lane.library.rescale)
    (h : lane.Anchored ∨ cts = startCts ∧ lane.Primed startCts) {writer : MkvPacketWriter}
    (hwriter : lane.writer = some writer) :
    writer.originFor (lane.slotOutput startCts cts) = 0 := by
  unfold MkvPacketWriter.originFor
  rcases h with ⟨anchored, hanchored, horigin⟩ |
    ⟨rfl, ⟨primed, hprimed, hnone⟩, captured, hfind, hdts⟩
  · obtain rfl := Option.some.inj (hanchored.symm.trans hwriter)
    rw [horigin, Option.getD_some]
  · obtain rfl := Option.some.inj (hprimed.symm.trans hwriter)
    rw [hnone, Option.getD_none]
    simp only [slotOutput, outputPacket, hfind, Option.getD_some, hdts, sub_self,
      Int.zero_bmod, hrescale.zero, min_self]

/-- A slot is written at its time, and anchors the writer if the write succeeds. -/
theorem Presents.writeSlot (h : lane.Presents rescale startCts)
    (hrescale : MonotoneRescale rescale) (hkeyed : lane.Keyed) (hmem : cts ∈ lane.pending.keys)
    (hready : lane.Anchored ∨ cts = startCts ∧ lane.Primed startCts) :
    (lane.writeSlot startCts cts).2.Presents rescale startCts ∧
      ((lane.writeSlot startCts cts).1 = none → (lane.writeSlot startCts cts).2.Anchored) := by
  obtain ⟨writer, hwriter⟩ : ∃ writer, lane.writer = some writer := by
    rcases hready with ⟨writer, hwriter, -⟩ | ⟨-, ⟨writer, hwriter, -⟩, -⟩ <;>
      exact ⟨writer, hwriter⟩
  have horigin := originFor_slotOutput (by rwa [h.library]) hready hwriter
  have hwritten := writer.write_written lane.library (lane.slotOutput startCts cts)
  have hafter : (lane.writeSlot startCts cts).2.writer =
      some (writer.write lane.library (lane.slotOutput startCts cts)).2 := by
    rw [writeSlot_writer, hwriter, Option.getD_some]
  have hpts : (writer.frameFor lane.library (lane.slotOutput startCts cts)).pts =
      sourceTime rescale startCts (lane.slotOutput startCts cts) writer.timebase := by
    have hsource : (lane.slotOutput startCts cts).sourceCts = cts :=
      slotOutput_sourceCts hkeyed hmem
    unfold sourceTime
    rw [MkvPacketWriter.frameFor_pts, horigin, sub_zero, h.library, hsource]
    simp only [slotOutput, outputPacket, h.library]
    rfl
  constructor
  · refine ⟨by rw [writeSlot_library, h.library], fun writer' hwriter' => ?_⟩
    rw [hafter] at hwriter'
    obtain rfl := Option.some.inj hwriter'
    rw [writeSlot_outputs]
    exact (h.frames writer hwriter).write hpts hwritten
  · intro hnone
    have haccepted := writeSlot_eq_none_iff.mp hnone
    rw [hwriter, Option.getD_some] at haccepted
    refine ⟨_, hafter, ?_⟩
    rw [hwritten.origin haccepted, horigin]

theorem Presents.insert (h : lane.Presents rescale startCts) (captured : CapturedEncodedPacket) :
    (lane.insert captured).Presents rescale startCts := by
  have hlibrary : (lane.insert captured).library = lane.library := by
    unfold RecordingLane.insert
    split_ifs <;> rfl
  refine ⟨by rw [hlibrary, h.library], fun writer hwriter => ?_⟩
  rw [insert_writer] at hwriter
  rw [outputs, insert_calls]
  exact h.frames writer hwriter

@[simp] theorem openAt_library : (lane.openAt cts).2.library = lane.library := by
  simp only [openAt]
  split_ifs
  · rfl
  · cases lane.pending.find? cts <;> rfl

theorem openAt_unwritten (lane : RecordingLane) (cts : Nat) :
    (lane.openAt cts).2.Unwritten := by
  intro writer hwriter
  rw [openAt_writer] at hwriter
  obtain rfl := Option.some.inj hwriter
  exact (MkvPacketWriter.open_unstamped {} lane.library lane.path lane.config).frames

/-- A lane that opens without an error is primed. -/
theorem primed_openAt (h : (lane.openAt cts).1 = none) :
    (lane.openAt cts).2.Primed cts := by
  have horigin := (MkvPacketWriter.open_unstamped {} lane.library lane.path lane.config).origin
  refine ⟨⟨_, openAt_writer, horigin⟩, ?_⟩
  obtain ⟨hopen, hmem⟩ := openAt_eq_none_iff.mp h
  obtain ⟨captured, hcaptured⟩ := OrderedMap.mem_keys.mp hmem
  have hfind := OrderedMap.find?_eq_some.mpr hcaptured
  refine ⟨captured, by rw [openAt_pending, hfind], ?_⟩
  simp only [openAt, hopen, hfind, Bool.not_true, Bool.false_eq_true, if_false]

/-- A finished lane has written what it had written before. -/
theorem Presents.finalize (h : lane.Presents rescale startCts) (range : ReplayFrameRange)
    (failed : Bool) : (lane.finalize range failed).2.2.Presents rescale startCts := by
  unfold RecordingLane.finalize
  cases hwriter : lane.writer with
  | none => exact h
  | some writer =>
      have hframes := h.frames writer hwriter
      dsimp only
      split_ifs
      · refine ⟨h.library, fun ended hended => ?_⟩
        obtain rfl := Option.some.inj hended
        rw [outputs, WriterEvent.filterMap_packet_concat rfl]
        exact hframes.of_same rfl rfl
      · refine ⟨h.library, fun ended hended => ?_⟩
        obtain rfl := Option.some.inj hended
        obtain ⟨hsame, htimebase⟩ := writer.finalize_frames lane.library
        rw [outputs, WriterEvent.filterMap_packet_concat rfl]
        exact hframes.of_same hsame htimebase
      · refine ⟨h.library, fun ended hended => ?_⟩
        obtain rfl := Option.some.inj hended
        obtain ⟨hsame, htimebase⟩ := writer.finalize_frames lane.library
        rw [outputs, WriterEvent.filterMap_packet_concat rfl]
        exact hframes.of_same hsame htimebase

end RecordingLane

theorem forall_eachLane {f : RecordingLane → Option String × RecordingLane}
    {P : RecordingLane → Prop} {lanes : List RecordingLane} (hstay : ∀ lane ∈ lanes, P lane)
    (hf : ∀ lane ∈ lanes, P (f lane).2) : ∀ lane ∈ (eachLane f lanes).2, P lane := by
  induction lanes with
  | nil => simp [eachLane]
  | cons first rest ih =>
      obtain ⟨-, hstayRest⟩ := List.forall_mem_cons.mp hstay
      obtain ⟨hfFirst, hfRest⟩ := List.forall_mem_cons.mp hf
      unfold eachLane
      split <;> rename_i lane hlane <;> rw [hlane] at hfFirst
      · exact List.forall_mem_cons.mpr ⟨hfFirst, hstayRest⟩
      · exact List.forall_mem_cons.mpr ⟨hfFirst, ih hstayRest hfRest⟩

theorem forall_finalizeLanes {P : RecordingLane → Prop} {range : ReplayFrameRange}
    (hf : ∀ lane failed, P lane → P (lane.finalize range failed).2.2) {failed : Bool}
    {lanes : List RecordingLane} (h : ∀ lane ∈ lanes, P lane) :
    ∀ lane ∈ (finalizeLanes range failed lanes).2.2, P lane := by
  induction lanes generalizing failed with
  | nil => simp [finalizeLanes]
  | cons first rest ih =>
      obtain ⟨hfirst, hrest⟩ := List.forall_mem_cons.mp h
      exact List.forall_mem_cons.mpr ⟨hf first failed hfirst, ih hrest⟩

namespace SynchronizedRecordingConsumer

variable {rescale : Int → AVRational → AVRational → Int}
  {consumer : SynchronizedRecordingConsumer} {cts : Nat}

def AllPresent (rescale : Int → AVRational → AVRational → Int)
    (consumer : SynchronizedRecordingConsumer) : Prop :=
  ∀ lane ∈ consumer.lanes, lane.Presents rescale consumer.range.startCts

def AllAnchored (consumer : SynchronizedRecordingConsumer) : Prop :=
  ∀ lane ∈ consumer.lanes, lane.Anchored

/-- The recording has begun, and its first slot is still to be written. -/
structure AllPrimed (consumer : SynchronizedRecordingConsumer) : Prop where
  lanes : ∀ lane ∈ consumer.lanes, lane.Primed consumer.range.startCts
  nextSlot : consumer.nextSlot = some consumer.range.startCts

theorem AllPresent.fail (h : AllPresent rescale consumer) (error : String) :
    AllPresent rescale (consumer.fail error) := by
  unfold AllPresent
  rw [fail_lanes, fail_range]
  exact h

theorem AllPresent.commitSlot (h : AllPresent rescale consumer)
    (hrescale : MonotoneRescale rescale) (hkeyed : consumer.Keyed)
    (hnext : consumer.nextSlot = some cts)
    (hready : ∀ lane ∈ consumer.lanes,
      lane.Anchored ∨ cts = consumer.range.startCts ∧ lane.Primed consumer.range.startCts) :
    AllPresent rescale (consumer.commitSlot cts).2 ∧
      ((consumer.commitSlot cts).1 = true → AllAnchored (consumer.commitSlot cts).2) := by
  have hshared := (nextSlot_eq_some.mp hnext).2
  have hslot := fun lane hlane => (h lane hlane).writeSlot hrescale (hkeyed lane hlane)
    (hshared lane hlane) (hready lane hlane)
  have hlanes := forall_eachLane h (fun lane hlane => (hslot lane hlane).1)
  unfold SynchronizedRecordingConsumer.commitSlot
  cases herror : (eachLane (RecordingLane.writeSlot consumer.range.startCts cts)
      consumer.lanes).1 with
  | some error =>
      simp only [herror, Bool.false_eq_true, false_imp_iff, and_true]
      apply AllPresent.fail
      exact hlanes
  | none =>
      obtain ⟨hall, hmap⟩ := eachLane_none herror
      simp only [herror, forall_const]
      refine ⟨hlanes, fun lane' hlane' => ?_⟩
      rw [hmap] at hlane'
      obtain ⟨lane, hlane, rfl⟩ := List.mem_map.mp hlane'
      exact (hslot lane hlane).2 (hall lane hlane)

theorem AllPresent.flushSlots (h : AllPresent rescale consumer)
    (hrescale : MonotoneRescale rescale) (hkeyed : consumer.Keyed)
    (hstarted : consumer.started = true) (hanchored : AllAnchored consumer) (fuel : Nat) :
    AllPresent rescale (flushSlots fuel consumer).2 ∧
      ((flushSlots fuel consumer).1 = true → AllAnchored (flushSlots fuel consumer).2) := by
  induction fuel generalizing consumer with
  | zero => exact ⟨h, fun _ => hanchored⟩
  | succ fuel ih =>
      unfold SynchronizedRecordingConsumer.flushSlots
      cases hnext : consumer.nextSlot with
      | none => exact ⟨h, fun _ => hanchored⟩
      | some cts =>
          obtain ⟨hpresent, hafter⟩ := h.commitSlot hrescale hkeyed hnext
            (fun lane hlane => Or.inl (hanchored lane hlane))
          rcases commitSlot_cases hkeyed hstarted hnext with
            ⟨hwrite, hcommit⟩ | ⟨consumer', -, hcommit⟩
          · have hmove := Move.commit cts hstarted hnext hwrite
            rw [hcommit] at hpresent hafter
            simp only [hcommit]
            exact ih hpresent (hmove.keyed hkeyed) hmove.started (hafter rfl)
          · rw [hcommit] at hpresent
            simp only [hcommit]
            exact ⟨hpresent, fun htrue => (by cases htrue)⟩

/-- The flush that follows the start writes the start first. -/
theorem AllPresent.flushCommonPrefix (h : AllPresent rescale consumer)
    (hrescale : MonotoneRescale rescale) (hkeyed : consumer.Keyed)
    (hstarted : consumer.started = true)
    (hready : AllAnchored consumer ∨ AllPrimed consumer) :
    AllPresent rescale consumer.flushCommonPrefix.2 ∧
      (consumer.flushCommonPrefix.1 = true → AllAnchored consumer.flushCommonPrefix.2) := by
  unfold SynchronizedRecordingConsumer.flushCommonPrefix
  rw [if_neg (by simp [hstarted])]
  rcases hready with hanchored | hprimed
  · exact h.flushSlots hrescale hkeyed hstarted hanchored _
  · obtain ⟨fuel, hfuel⟩ : ∃ fuel, consumer.frontPending.length = fuel + 1 := by
      apply Nat.exists_eq_succ_of_ne_zero
      intro hzero
      have hhead := (nextSlot_eq_some.mp hprimed.nextSlot).1
      rw [List.length_eq_zero_iff.mp hzero] at hhead
      cases hhead
    obtain ⟨hpresent, hafter⟩ := h.commitSlot hrescale hkeyed hprimed.nextSlot
      (fun lane hlane => Or.inr ⟨rfl, hprimed.lanes lane hlane⟩)
    rw [hfuel]
    unfold SynchronizedRecordingConsumer.flushSlots
    rw [hprimed.nextSlot]
    rcases commitSlot_cases hkeyed hstarted hprimed.nextSlot with
      ⟨hwrite, hcommit⟩ | ⟨consumer', -, hcommit⟩
    · have hmove := Move.commit _ hstarted hprimed.nextSlot hwrite
      rw [hcommit] at hpresent hafter
      simp only [hcommit]
      exact hpresent.flushSlots hrescale (hmove.keyed hkeyed) hmove.started (hafter rfl) fuel
    · rw [hcommit] at hpresent
      simp only [hcommit]
      exact ⟨hpresent, fun htrue => (by cases htrue)⟩

/-- Nothing is written, and all lanes rescale alike. -/
def AllUnwritten (rescale : Int → AVRational → AVRational → Int)
    (consumer : SynchronizedRecordingConsumer) : Prop :=
  ∀ lane ∈ consumer.lanes, lane.library.rescale = rescale ∧ lane.Unwritten

theorem AllUnwritten.present (h : AllUnwritten rescale consumer) :
    AllPresent rescale consumer := fun lane hlane =>
  RecordingLane.presents_of_unwritten (h lane hlane).1 (h lane hlane).2

theorem AllUnwritten.establishCommonStart (h : AllUnwritten rescale consumer)
    (hstarted : consumer.started = false) :
    AllUnwritten rescale consumer.establishCommonStart.2 ∧
      (consumer.establishCommonStart.2.started = true →
        AllPrimed consumer.establishCommonStart.2) := by
  constructor
  · unfold SynchronizedRecordingConsumer.establishCommonStart
    split_ifs
    · exact h
    · cases hcommon : consumer.commonKeyframe with
      | none => exact h
      | some cts =>
          have hopened : ∀ lane ∈ (eachLane (RecordingLane.openAt cts)
              (consumer.lanes.map (fun lane => lane.eraseBefore cts))).2,
              lane.library.rescale = rescale ∧ lane.Unwritten := by
            apply forall_eachLane
            · intro trimmed htrimmed
              obtain ⟨lane, hlane, rfl⟩ := List.mem_map.mp htrimmed
              exact h lane hlane
            · intro trimmed htrimmed
              obtain ⟨lane, hlane, rfl⟩ := List.mem_map.mp htrimmed
              refine ⟨?_, RecordingLane.openAt_unwritten _ cts⟩
              rw [RecordingLane.openAt_library]
              exact (h lane hlane).1
          unfold beginAt
          dsimp only
          split
          · unfold AllUnwritten
            rw [fail_lanes]
            exact hopened
          · exact hopened
  · intro hafter
    rcases establishCommonStart_cases hstarted with
      ⟨-, hsame⟩ | ⟨consumer', hmove, hbegin⟩ | ⟨consumer', -, hnot, hrefused⟩
    · rw [hsame, hstarted] at hafter
      cases hafter
    · rw [hbegin]
      cases hmove with
      | begin cts _ hcommon hopen =>
          refine ⟨fun lane' hlane' => ?_, nextSlot_begun hcommon⟩
          obtain ⟨lane, hlane, rfl⟩ := List.mem_map.mp hlane'
          exact RecordingLane.primed_openAt (hopen lane hlane)
      | commit cts hstarted' =>
          rw [hstarted] at hstarted'
          cases hstarted'
    · rw [hrefused, hnot] at hafter
      cases hafter

/-- Where the recording stands: before the start nothing is written, and after it all writers
are anchored. -/
structure Underway (rescale : Int → AVRational → AVRational → Int)
    (consumer : SynchronizedRecordingConsumer) : Prop where
  present : AllPresent rescale consumer
  idle : consumer.started = false → AllUnwritten rescale consumer
  anchored : consumer.started = true → AllAnchored consumer

theorem Underway.insert (h : Underway rescale consumer) (captured : CapturedEncodedPacket) :
    Underway rescale (consumer.insert captured) := by
  have hlibrary (lane : RecordingLane) : (lane.insert captured).library = lane.library := by
    unfold RecordingLane.insert
    split_ifs <;> rfl
  refine ⟨fun lane' hlane' => ?_, fun hnot lane' hlane' => ?_, fun hstarted lane' hlane' => ?_⟩
  · rw [insert_range]
    obtain ⟨lane, hlane, rfl | rfl⟩ := insert_lanes captured hlane'
    · exact h.present lane' hlane
    · exact (h.present lane hlane).insert captured
  · rw [insert_started] at hnot
    obtain ⟨lane, hlane, rfl | rfl⟩ := insert_lanes captured hlane'
    · exact h.idle hnot lane' hlane
    · obtain ⟨hrescales, hunwritten⟩ := h.idle hnot lane hlane
      refine ⟨by rw [hlibrary, hrescales], ?_⟩
      unfold RecordingLane.Unwritten
      rw [RecordingLane.insert_writer]
      exact hunwritten
  · rw [insert_started] at hstarted
    obtain ⟨lane, hlane, rfl | rfl⟩ := insert_lanes captured hlane'
    · exact h.anchored hstarted lane' hlane
    · unfold RecordingLane.Anchored
      rw [RecordingLane.insert_writer]
      exact h.anchored hstarted lane hlane

/-- An attempt to start, if there is none yet, leads to lanes that a flush can write. -/
theorem Underway.establishCommonStart (h : Underway rescale consumer)
    (hstarted : consumer.started = false) :
    AllPresent rescale consumer.establishCommonStart.2 ∧
      (consumer.establishCommonStart.2.started = false →
        AllUnwritten rescale consumer.establishCommonStart.2) ∧
      (consumer.establishCommonStart.2.started = true →
        AllPrimed consumer.establishCommonStart.2) := by
  obtain ⟨hunwritten, hprimed⟩ := (h.idle hstarted).establishCommonStart hstarted
  exact ⟨hunwritten.present, fun _ => hunwritten, hprimed⟩

theorem Keyed.establishCommonStart (hkeyed : consumer.Keyed)
    (hstarted : consumer.started = false) : consumer.establishCommonStart.2.Keyed := by
  rcases establishCommonStart_cases hstarted with
    ⟨-, h⟩ | ⟨consumer', hmove, h⟩ | ⟨consumer', hrefused, -, h⟩ <;> rw [h]
  · exact hkeyed
  · exact hmove.keyed hkeyed
  · exact hrefused.keyed hkeyed

/-- A flush goes on with all lanes anchored, or the recording has failed. -/
theorem flush_outcome (hpresent : AllPresent rescale consumer)
    (hrescale : MonotoneRescale rescale) (hkeyed : consumer.Keyed)
    (hstarted : consumer.started = true)
    (hready : AllAnchored consumer ∨ AllPrimed consumer) :
    consumer.flushCommonPrefix.2.started = true ∧
      AllPresent rescale consumer.flushCommonPrefix.2 ∧
        (AllAnchored consumer.flushCommonPrefix.2 ∨
          consumer.flushCommonPrefix.1 = false ∧
            consumer.flushCommonPrefix.2.failed = true) := by
  obtain ⟨hafter, hanchored⟩ := hpresent.flushCommonPrefix hrescale hkeyed hstarted hready
  obtain ⟨middle, hmoves, ⟨hflush, -, hmiddle⟩ | ⟨consumer', hrefused, hflush⟩⟩ :=
    flushCommonPrefix_cases hkeyed hstarted
  · rw [hflush] at hafter hanchored ⊢
    exact ⟨hmiddle, hafter, Or.inl (hanchored rfl)⟩
  · rw [hflush] at hafter ⊢
    refine ⟨?_, hafter, Or.inr ⟨rfl, hrefused.failed⟩⟩
    obtain ⟨error, range, lanes, -, -, -, -, -⟩ := hrefused
    rw [fail_started]
    exact hmoves.started hstarted

theorem Underway.fail (h : Underway rescale consumer) (error : String) :
    Underway rescale (consumer.fail error) := by
  refine ⟨h.present.fail error, fun hnot => ?_, fun hstarted => ?_⟩
  · rw [fail_started] at hnot
    unfold AllUnwritten
    rw [fail_lanes]
    exact h.idle hnot
  · rw [fail_started] at hstarted
    unfold AllAnchored
    rw [fail_lanes]
    exact h.anchored hstarted

/-- A started recording with anchored lanes is underway. -/
theorem underway_of_started (hstarted : consumer.started = true)
    (hpresent : AllPresent rescale consumer) (hanchored : AllAnchored consumer) :
    Underway rescale consumer := by
  refine ⟨hpresent, fun hnot => ?_, fun _ => hanchored⟩
  rw [hstarted] at hnot
  cases hnot

theorem Underway.process (h : Underway rescale consumer) (hrescale : MonotoneRescale rescale)
    (hkeyed : consumer.Keyed) (captured : CapturedEncodedPacket) :
    Underway rescale (consumer.process captured).2 ∨
      (consumer.process captured).1 = false ∧ (consumer.process captured).2.failed = true ∧
        AllPresent rescale (consumer.process captured).2 := by
  have hinserted := h.insert captured
  have hkeyed' := hkeyed.insert captured
  unfold SynchronizedRecordingConsumer.process
  dsimp only
  split_ifs with hoverflow hstarted hestablished
  · exact Or.inl (hinserted.fail _)
  · obtain ⟨hafter, hpresent, hanchored | hfailed⟩ := flush_outcome hinserted.present hrescale
      hkeyed' hstarted (Or.inl (hinserted.anchored hstarted))
    · exact Or.inl (underway_of_started hafter hpresent hanchored)
    · exact Or.inr ⟨hfailed.1, hfailed.2, hpresent⟩
  · have hnot : (consumer.insert captured).started = false := by simpa using hstarted
    obtain ⟨hpresent, -, hprimed⟩ := hinserted.establishCommonStart hnot
    obtain ⟨hafter, hpresent', hanchored | hfailed⟩ := flush_outcome hpresent hrescale
      (hkeyed'.establishCommonStart hnot) hestablished (Or.inr (hprimed hestablished))
    · exact Or.inl (underway_of_started hafter hpresent' hanchored)
    · exact Or.inr ⟨hfailed.1, hfailed.2, hpresent'⟩
  · have hnot : (consumer.insert captured).started = false := by simpa using hstarted
    obtain ⟨hpresent, hunwritten, -⟩ := hinserted.establishCommonStart hnot
    exact Or.inl ⟨hpresent, hunwritten, fun hafter => absurd hafter hestablished⟩

/-- The end of a recording that has begun. -/
theorem settle_present (hpresent : AllPresent rescale consumer)
    (hrescale : MonotoneRescale rescale) (hkeyed : consumer.Keyed)
    (hstarted : consumer.started = true)
    (hready : AllAnchored consumer ∨ AllPrimed consumer) :
    AllPresent rescale consumer.settle := by
  obtain ⟨hflushed, -⟩ := hpresent.flushCommonPrefix hrescale hkeyed hstarted hready
  unfold SynchronizedRecordingConsumer.settle
  simp only [hstarted, if_true, Bool.not_true, Bool.false_eq_true, if_false]
  split_ifs
  · exact hflushed.fail _
  · exact hflushed.fail _
  · exact hflushed

theorem Underway.settle (h : Underway rescale consumer) (hrescale : MonotoneRescale rescale)
    (hkeyed : consumer.Keyed) : AllPresent rescale consumer.settle := by
  cases hstarted : consumer.started with
  | true =>
      exact settle_present h.present hrescale hkeyed hstarted (Or.inl (h.anchored hstarted))
  | false =>
      obtain ⟨hpresent, -, hprimed⟩ := h.establishCommonStart hstarted
      have hkeyed' := hkeyed.establishCommonStart hstarted
      have hrefused : consumer.establishCommonStart.1 = false →
          AllPresent rescale consumer.settle := by
        intro hfalse
        unfold SynchronizedRecordingConsumer.settle
        simp only [hstarted, Bool.false_eq_true, if_false, hfalse, Bool.not_false, if_true]
        exact hpresent.fail _
      rcases establishCommonStart_cases hstarted with
        ⟨-, hbegin⟩ | ⟨consumer', hmove, hbegin⟩ | ⟨consumer', -, -, hbegin⟩
      · exact hrefused (by rw [hbegin])
      · rw [hbegin] at hpresent hprimed hkeyed'
        rw [settle_of_established hstarted hbegin hmove.started]
        exact settle_present hpresent hrescale hkeyed' hmove.started
          (Or.inr (hprimed hmove.started))
      · exact hrefused (by rw [hbegin])

theorem AllPresent.finalize (h : AllPresent rescale consumer) :
    AllPresent rescale consumer.finalize :=
  forall_finalizeLanes (fun _ failed hlane => hlane.finalize consumer.range failed) h

/-- What holds of the recording between two steps: it is underway until the worker leaves its
loop with a failure. -/
structure Timely (rescale : Int → AVRational → AVRational → Int)
    (consumer : SynchronizedRecordingConsumer) : Prop where
  present : AllPresent rescale consumer
  underway : consumer.worker ≠ .done → Underway rescale consumer ∨
    consumer.failed = true ∧ consumer.worker = .finishing

theorem Underway.of_same {consumer' : SynchronizedRecordingConsumer}
    (h : Underway rescale consumer) (hlanes : consumer'.lanes = consumer.lanes)
    (hstarted : consumer'.started = consumer.started) (hrange : consumer'.range = consumer.range) :
    Underway rescale consumer' := by
  constructor
  · unfold AllPresent
    rw [hlanes, hrange]
    exact h.present
  · unfold AllUnwritten
    rw [hlanes, hstarted]
    exact h.idle
  · unfold AllAnchored
    rw [hlanes, hstarted]
    exact h.anchored

theorem Timely.work (h : Timely rescale consumer) (hrescale : MonotoneRescale rescale)
    (hkeyed : consumer.Keyed) : Timely rescale consumer.work := by
  unfold SynchronizedRecordingConsumer.work
  cases hworker : consumer.worker with
  | waiting =>
      have hunderway : Underway rescale consumer := by
        rcases h.underway (by simp [hworker]) with hunderway | ⟨-, hfinishing⟩
        · exact hunderway
        · rw [hworker] at hfinishing
          cases hfinishing
      rcases take_cases consumer with ⟨htake, -⟩ | ⟨-, htake⟩ | ⟨captured, rest, -, -, htake⟩ <;>
        dsimp only <;> rw [htake]
      · exact h
      · exact ⟨h.present, fun _ => Or.inl (hunderway.of_same rfl rfl rfl)⟩
      · exact ⟨h.present, fun _ => Or.inl (hunderway.of_same rfl rfl rfl)⟩
  | processing captured =>
      have hunderway : Underway rescale consumer := by
        rcases h.underway (by simp [hworker]) with hunderway | ⟨-, hfinishing⟩
        · exact hunderway
        · rw [hworker] at hfinishing
          cases hfinishing
      rcases hunderway.process hrescale hkeyed captured with
        hafter | ⟨hstops, hfailed, hpresent⟩
      · exact ⟨hafter.present, fun _ => Or.inl (hafter.of_same rfl rfl rfl)⟩
      · refine ⟨hpresent, fun _ => Or.inr ⟨hfailed, ?_⟩⟩
        simp [hstops]
  | finishing =>
      have hsettled : AllPresent rescale
          (if consumer.failed then consumer else consumer.settle) := by
        split_ifs with hfailed
        · exact h.present
        · rcases h.underway (by simp [hworker]) with hunderway | ⟨hfailed', -⟩
          · exact hunderway.settle hrescale hkeyed
          · exact absurd hfailed' hfailed
      exact ⟨hsettled.finalize, fun hdone => absurd rfl hdone⟩
  | done => exact h

theorem Timely.step (h : Timely rescale consumer) (hrescale : MonotoneRescale rescale)
    (hkeyed : consumer.Keyed) (event : Event) :
    Timely rescale (consumer.step event).2 := by
  cases event with
  | onPacket packet =>
      change Timely rescale (consumer.onPacket packet)
      rcases onPacket_cases consumer packet with
        hsame | ⟨-, -, hsame⟩ | ⟨captured, -, -, -, -, -, hsame⟩ <;> rw [hsame]
      · exact h
      · refine ⟨h.present, fun hdone => (h.underway hdone).imp (fun hunderway => ?_) ?_⟩
        · exact hunderway.of_same rfl rfl rfl
        · exact fun ⟨_, hfinishing⟩ => ⟨rfl, hfinishing⟩
      · refine ⟨h.present, fun hdone => (h.underway hdone).imp_left fun hunderway => ?_⟩
        exact hunderway.of_same rfl rfl rfl
  | stop =>
      refine ⟨h.present, fun hdone => (h.underway hdone).imp_left fun hunderway => ?_⟩
      exact hunderway.of_same rfl rfl rfl
  | work => exact h.work hrescale hkeyed

theorem start_unwritten {streamConfigs : List PacketStreamConfig} {paths : List String}
    {streamIds : List CaptureStreamId} {library : Nat → MuxLibrary}
    {first : SynchronizedRecordingConsumer}
    (hlibrary : ∀ index, (library index).rescale = rescale)
    (h : start streamConfigs paths streamIds library = some first) :
    AllUnwritten rescale first := by
  unfold start at h
  by_cases hrefused : streamConfigs.isEmpty ∨ streamConfigs.length ≠ paths.length ∨
      (!streamIds.isEmpty ∧ streamIds.length ≠ streamConfigs.length)
  · rw [if_pos hrefused] at h
    cases h
  rw [if_neg hrefused] at h
  obtain rfl := Option.some.inj h
  intro lane hlane
  obtain ⟨index, hindex, rfl⟩ := List.mem_mapIdx.mp hlane
  refine ⟨hlibrary index, fun writer hwriter => ?_⟩
  cases hwriter

/-- In every run, every frame that a writer has handed to its container shows its packet at
the time of its source CTS. -/
theorem presents_run {streamConfigs : List PacketStreamConfig} {paths : List String}
    {streamIds : List CaptureStreamId} {library : Nat → MuxLibrary}
    {first : SynchronizedRecordingConsumer} {past : History}
    (hrescale : MonotoneRescale rescale) (hlibrary : ∀ index, (library index).rescale = rescale)
    (hstart : start streamConfigs paths streamIds library = some first)
    (hrun : Runs.Run step first past consumer) : AllPresent rescale consumer := by
  have hfresh := start_fresh hstart
  have hunwritten : AllUnwritten rescale first := start_unwritten hlibrary hstart
  have htimely : Timely rescale consumer := by
    apply hrun.invariant (P := fun _ consumer => Timely rescale consumer)
    · refine ⟨hunwritten.present, fun _ => Or.inl ⟨hunwritten.present, fun _ => hunwritten, ?_⟩⟩
      intro hstarted
      rw [hfresh.started] at hstarted
      cases hstarted
    · exact fun past consumer event hprior h =>
        h.step hrescale (run_keyed hfresh hprior) event
  exact htimely.present

end SynchronizedRecordingConsumer

end ObsSyncReplay
