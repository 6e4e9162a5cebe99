import ObsSyncReplay.Recording.ConsumerOrder
import ObsSyncReplay.Lib.CommonRun

/-!
What the worker makes of the streams it has seen. When every stream comes in
ascending order, the state of the recording after some packets is a function of
what each stream has brought so far, and not of how the streams were interleaved:
the start is the least common keyframe, and the committed slots are what all
streams have in common from there on. `merge` computes the outcome from the
streams alone.
-/

namespace ObsSyncReplay

namespace SynchronizedRecordingConsumer

open AscendingList

/-- What each stream has brought, in order, by the position of its lane. -/
abbrev Streams := Nat → List CapturedEncodedPacket

namespace Streams

def slots (streams : Streams) (position : Nat) : List Nat :=
  (streams position).map (fun captured => captured.packet.sourceCts)

/-- Every stream ascends. -/
def Ascending (streams : Streams) : Prop :=
  ∀ position, (streams.slots position).Pairwise (· < ·)

/-- Every one of the first `count` streams has a keyframe with this source CTS. -/
def CommonKeyframe (streams : Streams) (count cts : Nat) : Prop :=
  ∀ position ∈ List.range count, ∃ captured ∈ streams position,
    captured.packet.sourceCts = cts ∧ captured.packet.keyframe = true

instance (streams : Streams) (count cts : Nat) : Decidable (streams.CommonKeyframe count cts) :=
  inferInstanceAs (Decidable (∀ position ∈ List.range count, ∃ captured ∈ streams position,
    captured.packet.sourceCts = cts ∧ captured.packet.keyframe = true))

def commonStart (streams : Streams) (count : Nat) : Option Nat :=
  (streams.slots 0).find? (fun cts => streams.CommonKeyframe count cts)

def commonSlots (streams : Streams) (count start : Nat) : List Nat :=
  CommonRun.run ((List.range count).map streams.slots) (streams.slots 0) start

/-- Nothing from the start on is left over. -/
def Resolved (streams : Streams) (count start : Nat) : Prop :=
  ∀ position ∈ List.range count, ∀ cts ∈ streams.slots position, start ≤ cts →
    cts ∈ streams.commonSlots count start

instance (streams : Streams) (count start : Nat) : Decidable (streams.Resolved count start) :=
  inferInstanceAs (Decidable (∀ position ∈ List.range count,
    ∀ cts ∈ streams.slots position, start ≤ cts → cts ∈ streams.commonSlots count start))

/-- What a recording comes to: what its result says, and what each file was given. -/
structure Outcome where
  success : Bool := false
  range : ReplayFrameRange := {}
  packetCount : Nat := 0
  written : List Nat := []
deriving DecidableEq

/-- The outcome of a recording of `count` streams. -/
def merge (streams : Streams) (count : Nat) : Outcome :=
  match streams.commonStart count with
  | none => {}
  | some start =>
      let slots := streams.commonSlots count start
      if streams.Resolved count start then
        { success := true
          range := ⟨start, slots.getLast?.getD 0⟩
          packetCount := slots.length
          written := slots }
      else { written := slots }

section Facts

variable {streams : Streams} {count cts start : Nat}

theorem mem_slots {position : Nat} :
    cts ∈ streams.slots position ↔
      ∃ captured ∈ streams position, captured.packet.sourceCts = cts :=
  List.mem_map

theorem CommonKeyframe.mem_slots (h : streams.CommonKeyframe count cts) {position : Nat}
    (hposition : position < count) : cts ∈ streams.slots position := by
  obtain ⟨captured, hcaptured, hcts, -⟩ := h position (List.mem_range.mpr hposition)
  exact Streams.mem_slots.mpr ⟨captured, hcaptured, hcts⟩

/-- The start is the least common keyframe. -/
theorem commonStart_eq_some_iff (hascending : streams.Ascending) (hcount : 0 < count) :
    streams.commonStart count = some start ↔
      streams.CommonKeyframe count start ∧
        ∀ cts, streams.CommonKeyframe count cts → start ≤ cts := by
  unfold commonStart
  rw [find?_eq_some_iff_least (hascending 0)]
  simp only [decide_eq_true_eq]
  constructor
  · rintro ⟨⟨-, hcommon⟩, hleast⟩
    exact ⟨hcommon, fun cts hcts => hleast cts (hcts.mem_slots hcount) hcts⟩
  · rintro ⟨hcommon, hleast⟩
    exact ⟨⟨hcommon.mem_slots hcount, hcommon⟩, fun cts _ hcts => hleast cts hcts⟩

theorem commonStart_eq_none
    (h : ∀ cts, ¬ streams.CommonKeyframe count cts) : streams.commonStart count = none := by
  unfold commonStart
  rw [List.find?_eq_none]
  intro cts _
  simpa using h cts

theorem mem_commonSlots (hascending : streams.Ascending) :
    cts ∈ streams.commonSlots count start ↔
      cts ∈ streams.slots 0 ∧ start ≤ cts ∧ ∀ other ∈ streams.slots 0, start ≤ other →
        other ≤ cts → ∀ position < count, other ∈ streams.slots position := by
  unfold commonSlots
  rw [CommonRun.mem_run (hascending 0)]
  simp only [CommonRun.Shared, List.forall_mem_map, List.mem_range]

theorem commonSlots_ascending (hascending : streams.Ascending) :
    (streams.commonSlots count start).Pairwise (· < ·) :=
  CommonRun.run_ascending (hascending 0)

/-- The start is the first of the common slots. -/
theorem start_mem_commonSlots (hascending : streams.Ascending) (hcount : 0 < count)
    (hstart : streams.CommonKeyframe count start) :
    start ∈ streams.commonSlots count start := by
  rw [mem_commonSlots hascending]
  refine ⟨hstart.mem_slots hcount, le_rfl, fun other _ hle hle' position hposition => ?_⟩
  rw [le_antisymm hle' hle]
  exact hstart.mem_slots hposition

end Facts

end Streams

/-- The state is what the worker makes of the streams so far. -/
structure Merged (streams : Streams) (consumer : SynchronizedRecordingConsumer) : Prop where
  pending : ∀ position lane, consumer.lanes[position]? = some lane →
    ∀ e, e ∈ lane.pending.entries ↔ e.2 ∈ streams position ∧ e.2.packet.sourceCts = e.1 ∧
      (consumer.started = true → consumer.range.startCts ≤ e.1) ∧ e.1 ∉ consumer.committed
  shared : ∀ cts ∈ consumer.committed, consumer.range.startCts ≤ cts ∧
    ∀ position < consumer.lanes.length, cts ∈ streams.slots position
  -- nothing that the first stream has between the start and a committed slot is skipped
  closed : ∀ slot ∈ consumer.committed, ∀ cts ∈ streams.slots 0,
    consumer.range.startCts ≤ cts → cts ≤ slot → cts ∈ consumer.committed
  start : consumer.started = true →
    streams.CommonKeyframe consumer.lanes.length consumer.range.startCts ∧
      ∀ cts, streams.CommonKeyframe consumer.lanes.length cts → consumer.range.startCts ≤ cts

section Merged

variable {streams : Streams} {consumer consumer' : SynchronizedRecordingConsumer} {cts : Nat}

theorem Merged.mem_keys (h : Merged streams consumer) {position : Nat} {lane : RecordingLane}
    (hlane : consumer.lanes[position]? = some lane) :
    cts ∈ lane.pending.keys ↔ cts ∈ streams.slots position ∧
      (consumer.started = true → consumer.range.startCts ≤ cts) ∧
        cts ∉ consumer.committed := by
  rw [OrderedMap.mem_keys, Streams.mem_slots]
  constructor
  · rintro ⟨captured, hcaptured⟩
    obtain ⟨hmem, hcts, hrest⟩ := (h.pending position lane hlane _).mp hcaptured
    exact ⟨⟨captured, hmem, hcts⟩, hrest⟩
  · rintro ⟨⟨captured, hmem, hcts⟩, hrest⟩
    exact ⟨captured, (h.pending position lane hlane (cts, captured)).mpr ⟨hmem, hcts, hrest⟩⟩

/-- Before the start, the common keyframes are the ones all streams have brought. -/
theorem Merged.keyframeAt_iff (h : Merged streams consumer) (hnot : consumer.started = false)
    (hidle : consumer.committed = []) :
    (∀ lane ∈ consumer.lanes, lane.keyframeAt cts = true) ↔
      streams.CommonKeyframe consumer.lanes.length cts := by
  have hentry : ∀ position lane, consumer.lanes[position]? = some lane →
      (lane.keyframeAt cts = true ↔ ∃ captured ∈ streams position,
        captured.packet.sourceCts = cts ∧ captured.packet.keyframe = true) := by
    intro position lane hlane
    simp only [RecordingLane.keyframeAt, Option.any_eq_true, OrderedMap.find?_eq_some,
      h.pending position lane hlane, hnot, hidle]
    simp only [Bool.false_eq_true, false_implies, List.not_mem_nil, not_false_eq_true, and_true,
      and_assoc]
  simp only [Streams.CommonKeyframe, List.mem_range]
  constructor
  · intro hall position hposition
    have hlane := List.getElem?_eq_getElem hposition
    exact (hentry position _ hlane).mp (hall _ (List.getElem_mem hposition))
  · intro hcommon lane hlane
    obtain ⟨position, hposition, rfl⟩ := List.getElem_of_mem hlane
    exact (hentry position _ (List.getElem?_eq_getElem hposition)).mpr
      (hcommon position hposition)

/-- The keyframe that is found is the least one that all lanes have. -/
theorem commonKeyframe_le (h : consumer.commonKeyframe = some cts) {other : Nat}
    (hother : ∀ lane ∈ consumer.lanes, lane.keyframeAt other = true) : cts ≤ other := by
  obtain ⟨front, hfront, hfound⟩ := Option.bind_eq_some_iff.mp h
  obtain ⟨e, he, rfl⟩ := Option.map_eq_some_iff.mp hfound
  have hmem : front ∈ consumer.lanes := List.mem_of_head? hfront
  obtain ⟨captured, hfind, hkeyframe⟩ := (Option.any_eq_true _ _).mp (hother front hmem)
  obtain ⟨-, before, after, hentries, hbefore⟩ := List.find?_eq_some_iff_append.mp he
  have hascending := front.pending.ascending
  have hcaptured := OrderedMap.find?_eq_some.mp hfind
  rw [hentries] at hascending hcaptured
  rcases List.mem_append.mp hcaptured with hearlier | hlater
  · have hfails := hbefore _ hearlier
    simp only [hkeyframe, true_and, Bool.not_eq_true', decide_eq_false_iff_not,
      List.all_eq_true] at hfails
    exact absurd hother hfails
  · rcases List.mem_cons.mp hlater with rfl | hrest
    · exact le_rfl
    · have htail := (List.pairwise_append.mp hascending).2.1
      exact ((List.pairwise_cons.mp htail).1 _ hrest).le

theorem Merged.begin (h : Merged streams consumer) (hnot : consumer.started = false)
    (hidle : consumer.committed = []) (hcommon : consumer.commonKeyframe = some cts) :
    Merged streams (consumer.begun cts) := by
  have hkeyframe : (∀ lane ∈ consumer.lanes, lane.keyframeAt cts = true) ↔
      streams.CommonKeyframe consumer.lanes.length cts := h.keyframeAt_iff hnot hidle
  refine ⟨fun position lane' hlane' e => ?_, ?_, ?_, fun _ => ?_⟩
  · simp only [begun, List.getElem?_map] at hlane'
    obtain ⟨lane, hlane, rfl⟩ := Option.map_eq_some_iff.mp hlane'
    rw [RecordingLane.opened_pending, OrderedMap.entries_eraseBefore, List.mem_filter,
      h.pending position lane hlane]
    simp only [begun, hnot, Bool.false_eq_true, false_implies, true_and, decide_eq_true_eq,
      true_implies]
    rw [and_assoc, and_assoc]
    constructor
    · rintro ⟨hmem, hcts, hnew, hle⟩
      exact ⟨hmem, hcts, hle, hnew⟩
    · rintro ⟨hmem, hcts, hle, hnew⟩
      exact ⟨hmem, hcts, hnew, hle⟩
  · simp [begun, hidle]
  · simp [begun, hidle]
  · simp only [begun, List.length_map]
    refine ⟨hkeyframe.mp (commonKeyframe_eq_some hcommon), fun other hother => ?_⟩
    exact commonKeyframe_le hcommon ((h.keyframeAt_iff hnot hidle).mpr hother)

theorem Merged.commit (h : Merged streams consumer) (hstarted : consumer.started = true)
    (hnext : consumer.nextSlot = some cts)
    (hwrite : ∀ lane ∈ consumer.lanes,
      (lane.writeSlot consumer.range.startCts cts).1 = none) :
    Merged streams (consumer.slotCommitted cts) := by
  obtain ⟨hhead, hall⟩ := nextSlot_eq_some.mp hnext
  have hshared : ∀ position (hposition : position < consumer.lanes.length),
      cts ∈ streams.slots position ∧ consumer.range.startCts ≤ cts ∧ cts ∉ consumer.committed := by
    intro position hposition
    obtain ⟨hmem, hle, hnew⟩ := (h.mem_keys (List.getElem?_eq_getElem hposition)).mp
      (hall _ (List.getElem_mem hposition))
    exact ⟨hmem, hle hstarted, hnew⟩
  have hcount : 0 < consumer.lanes.length := by
    obtain ⟨front, hfront, -⟩ := mem_frontPending.mp (List.mem_of_head? hhead)
    exact List.length_pos_of_mem (List.mem_of_head? hfront)
  obtain ⟨-, hstart, -⟩ := hshared 0 hcount
  refine ⟨fun position lane' hlane' e => ?_, fun slot hslot => ?_,
    fun slot hslot other hother hle hle' => ?_, fun _ => ?_⟩
  · simp only [slotCommitted, List.getElem?_map] at hlane'
    obtain ⟨lane, hlane, rfl⟩ := Option.map_eq_some_iff.mp hlane'
    rw [RecordingLane.slotWritten_pending (hwrite lane (List.mem_of_getElem? hlane)),
      OrderedMap.entries_erase, List.mem_filter, h.pending position lane hlane]
    simp only [slotCommitted, decide_eq_true_eq, List.mem_append, List.mem_singleton, not_or]
    tauto
  · simp only [slotCommitted, List.length_map]
    rcases List.mem_append.mp hslot with hold | hnew
    · exact h.shared slot hold
    · obtain rfl := List.mem_singleton.mp hnew
      exact ⟨hstart, fun position hposition => (hshared position hposition).1⟩
  · change consumer.range.startCts ≤ other at hle
    change other ∈ consumer.committed ++ [cts]
    by_cases hmem : other ∈ consumer.committed
    · exact List.mem_append_left _ hmem
    · apply List.mem_append_right
      rcases List.mem_append.mp hslot with hold | hnew
      · exact absurd (h.closed slot hold other hother hle hle') hmem
      · obtain rfl := List.mem_singleton.mp hnew
        -- it is pending in the first lane, where the slot is the least
        have hfront : other ∈ consumer.frontPending := by
          apply mem_frontPending.mpr
          refine ⟨consumer.lanes[0], ?_, ?_⟩
          · rw [List.head?_eq_getElem?, List.getElem?_eq_getElem hcount]
            rfl
          · exact (h.mem_keys (List.getElem?_eq_getElem hcount)).mpr ⟨hother, fun _ => hle, hmem⟩
        rw [List.mem_singleton]
        exact le_antisymm hle' (head?_le frontPending_ascending hfront hhead)
  · simp only [slotCommitted, List.length_map]
    exact h.start hstarted

theorem Merged.moves (h : Merged streams consumer) (hagrees : Agrees consumer)
    (hkeyed : consumer.Keyed) (hmoves : Moves consumer consumer') : Merged streams consumer' := by
  induction hmoves with
  | refl => exact h
  | tail hprior hmove ih =>
      cases hmove with
      | begin cts hnot hcommon hopen =>
          exact ih.begin hnot ((hagrees.moves hkeyed hprior).idle hnot) hcommon
      | commit cts hstarted hnext hwrite => exact ih.commit hstarted hnext hwrite

theorem localStreamIndex_lt {streamId : CaptureStreamId} {index : Nat}
    (h : consumer.localStreamIndex streamId = some index) : index < consumer.lanes.length :=
  (List.findIdx?_eq_some_iff_getElem.mp h).1

section Brought

variable {captured : CapturedEncodedPacket} {streams' : Streams}
  (hstreams : ∀ position, streams' position = streams position ++
    if consumer.localStreamIndex captured.streamId = some position then [captured] else [])

include hstreams

theorem mem_brought_of_mem {position : Nat} {other : CapturedEncodedPacket}
    (h : other ∈ streams position) : other ∈ streams' position := by
  rw [hstreams position]
  exact List.mem_append_left _ h

theorem eq_of_brought {position : Nat} {other : CapturedEncodedPacket}
    (h : other ∈ streams' position) (hnot : other ∉ streams position) :
    consumer.localStreamIndex captured.streamId = some position ∧ other = captured := by
  rw [hstreams position] at h
  rcases List.mem_append.mp h with hbefore | hnew
  · exact absurd hbefore hnot
  · split_ifs at hnew with hindex
    · exact ⟨hindex, List.mem_singleton.mp hnew⟩
    · cases hnew

/-- The packet lies above everything its stream has brought. -/
theorem lt_of_brought (hascending : streams'.Ascending) {position : Nat}
    (hindex : consumer.localStreamIndex captured.streamId = some position)
    (hcts : cts ∈ streams.slots position) : cts < captured.packet.sourceCts := by
  have hpairwise := hascending position
  simp only [Streams.slots, hstreams position, hindex, if_true, List.map_append,
    List.map_cons, List.map_nil] at hpairwise
  exact (List.pairwise_append.mp hpairwise).2.2 cts hcts _ (List.mem_singleton_self _)

theorem Merged.committed_lt (h : Merged streams consumer) (hascending : streams'.Ascending)
    {position : Nat} (hindex : consumer.localStreamIndex captured.streamId = some position)
    (hcts : cts ∈ consumer.committed) : cts < captured.packet.sourceCts :=
  lt_of_brought hstreams hascending hindex
    ((h.shared cts hcts).2 position (localStreamIndex_lt hindex))

theorem Merged.startCts_le (h : Merged streams consumer) (hascending : streams'.Ascending)
    (hcommitted : consumer.committed ≠ []) {position : Nat}
    (hindex : consumer.localStreamIndex captured.streamId = some position) :
    consumer.range.startCts ≤ captured.packet.sourceCts := by
  obtain ⟨slot, hslot⟩ := List.exists_mem_of_ne_nil _ hcommitted
  exact (h.shared slot hslot).1.trans (h.committed_lt hstreams hascending hindex hslot).le

/-- In its own lane the packet is pending beside what was pending before. -/
theorem Merged.pending_insert (h : Merged streams consumer)
    (hbegun : consumer.started = true → consumer.committed ≠ [])
    (hascending : streams'.Ascending) {position : Nat} {lane : RecordingLane}
    (hlane : consumer.lanes[position]? = some lane)
    (hindex : consumer.localStreamIndex captured.streamId = some position)
    (e : Nat × CapturedEncodedPacket) :
    e ∈ (lane.insert captured).pending.entries ↔
      e.2 ∈ streams position ++ [captured] ∧ e.2.packet.sourceCts = e.1 ∧
        (consumer.started = true → consumer.range.startCts ≤ e.1) ∧
        e.1 ∉ consumer.committed := by
  have hnew : captured.packet.sourceCts ∉ lane.pending.keys := by
    intro hmem
    exact absurd (lt_of_brought hstreams hascending hindex ((h.mem_keys hlane).mp hmem).1)
      (lt_irrefl _)
  rw [RecordingLane.mem_insert hnew, h.pending position lane hlane, List.mem_append,
    List.mem_singleton]
  constructor
  · rintro (rfl | ⟨hmem, hrest⟩)
    · refine ⟨Or.inr rfl, rfl, fun hbegan => ?_, fun hmem => ?_⟩
      · exact h.startCts_le hstreams hascending (hbegun hbegan) hindex
      · exact absurd (h.committed_lt hstreams hascending hindex hmem) (lt_irrefl _)
    · exact ⟨Or.inl hmem, hrest⟩
  · rintro ⟨hmem | hsame, hcts, hrest⟩
    · exact Or.inr ⟨hmem, hcts, hrest⟩
    · left
      rw [← hsame, hcts]

/-- A common keyframe that the packet completes does not lie before the start. -/
theorem Merged.start_brought (h : Merged streams consumer)
    (hbegun : consumer.started = true → consumer.committed ≠ [])
    (hascending : streams'.Ascending) (hstarted : consumer.started = true) :
    streams'.CommonKeyframe consumer.lanes.length consumer.range.startCts ∧
      ∀ cts, streams'.CommonKeyframe consumer.lanes.length cts →
        consumer.range.startCts ≤ cts := by
  obtain ⟨hcommon, hleast⟩ := h.start hstarted
  constructor
  · intro position hposition
    obtain ⟨other, hother, hfields⟩ := hcommon position hposition
    exact ⟨other, mem_brought_of_mem hstreams hother, hfields⟩
  · intro cts hcts
    by_cases hbrought : streams.CommonKeyframe consumer.lanes.length cts
    · exact hleast cts hbrought
    · -- then the packet itself is the keyframe that was missing
      simp only [Streams.CommonKeyframe, not_forall] at hbrought
      obtain ⟨position, hposition, hmissing⟩ := hbrought
      obtain ⟨other, hother, hsame, hkeyframe⟩ := hcts position hposition
      have hnot : other ∉ streams position := fun hmem => hmissing ⟨other, hmem, hsame, hkeyframe⟩
      obtain ⟨hindex, rfl⟩ := eq_of_brought hstreams hother hnot
      rw [← hsame]
      exact h.startCts_le hstreams hascending (hbegun hstarted) hindex

/-- A packet that its stream brings after all it has brought before. -/
theorem Merged.insert (h : Merged streams consumer)
    (hbegun : consumer.started = true → consumer.committed ≠ [])
    (hascending : streams'.Ascending) : Merged streams' (consumer.insert captured) := by
  have hstarted := insert_started consumer captured
  have hrange := insert_range consumer captured
  obtain ⟨hcommitted, -⟩ := insert_committed consumer captured
  have hlength : (consumer.insert captured).lanes.length = consumer.lanes.length := by
    have hids := congrArg List.length (congrArg Frame.streamIds (insert_frame consumer captured))
    simpa only [frame, List.length_map] using hids
  refine ⟨fun position lane' hlane' e => ?_, fun slot hslot => ?_,
    fun slot hslot cts hcts hle hle' => ?_, fun hbegan => ?_⟩
  · rw [insert_getElem?] at hlane'
    obtain ⟨lane, hlane, rfl⟩ := Option.map_eq_some_iff.mp hlane'
    rw [hstarted, hrange, hcommitted, hstreams position]
    split_ifs with hindex
    · exact h.pending_insert hstreams hbegun hascending hlane hindex e
    · rw [List.append_nil]
      exact h.pending position lane hlane e
  · rw [hcommitted] at hslot
    rw [hrange, hlength]
    obtain ⟨hle, hshared⟩ := h.shared slot hslot
    refine ⟨hle, fun position hposition => ?_⟩
    obtain ⟨other, hother, rfl⟩ := Streams.mem_slots.mp (hshared position hposition)
    exact Streams.mem_slots.mpr ⟨other, mem_brought_of_mem hstreams hother, rfl⟩
  · rw [hcommitted] at hslot ⊢
    rw [hrange] at hle
    obtain ⟨other, hother, rfl⟩ := Streams.mem_slots.mp hcts
    by_cases hbefore : other ∈ streams 0
    · exact h.closed slot hslot _ (Streams.mem_slots.mpr ⟨other, hbefore, rfl⟩) hle hle'
    · obtain ⟨hindex, rfl⟩ := eq_of_brought hstreams hother hbefore
      exact absurd hle' (not_le.mpr (h.committed_lt hstreams hascending hindex hslot))
  · rw [hstarted] at hbegan
    rw [hrange, hlength]
    exact h.start_brought hstreams hbegun hascending hbegan

end Brought

/-! ### Where no further move is possible -/

theorem Merged.commonStart_eq (h : Merged streams consumer) (hagrees : Agrees consumer)
    (hascending : streams.Ascending) (hsettled : Settled consumer) :
    streams.commonStart consumer.lanes.length =
      if consumer.started then some consumer.range.startCts else none := by
  have hcount : 0 < consumer.lanes.length := List.length_pos_iff.mpr hagrees.lanes
  split_ifs with hstarted
  · exact (Streams.commonStart_eq_some_iff hascending hcount).mpr (h.start hstarted)
  · have hnot : consumer.started = false := by simpa using hstarted
    apply Streams.commonStart_eq_none
    intro cts hcommon
    obtain ⟨lane, hlane, hmissing⟩ : ∃ lane ∈ consumer.lanes, lane.keyframeAt cts ≠ true :=
      commonKeyframe_eq_none (hsettled.start hnot) hagrees.lanes
    exact hmissing ((h.keyframeAt_iff hnot (hagrees.idle hnot)).mpr hcommon lane hlane)

theorem Merged.committed_eq (h : Merged streams consumer) (hagrees : Agrees consumer)
    (hascends : Ascends consumer) (hascending : streams.Ascending) (hsettled : Settled consumer)
    (hstarted : consumer.started = true) :
    consumer.committed =
      streams.commonSlots consumer.lanes.length consumer.range.startCts := by
  have hcount : 0 < consumer.lanes.length := List.length_pos_iff.mpr hagrees.lanes
  have hfront : consumer.lanes[0]? = some consumer.lanes[0] := List.getElem?_eq_getElem hcount
  apply eq_of_mem_iff hascends.ascending (Streams.commonSlots_ascending hascending)
  intro cts
  rw [Streams.mem_commonSlots hascending]
  constructor
  · intro hmem
    obtain ⟨hle, hshared⟩ := h.shared cts hmem
    refine ⟨hshared 0 hcount, hle, fun other hother hle' hle'' position hposition => ?_⟩
    exact (h.shared other (h.closed cts hmem other hother hle' hle'')).2 position hposition
  · rintro ⟨hmem, hle, hall⟩
    by_contra hnew
    -- then the oldest pending packet of the first lane would be the next slot
    have hpending : cts ∈ consumer.frontPending := by
      apply mem_frontPending.mpr
      refine ⟨consumer.lanes[0], ?_, (h.mem_keys hfront).mpr ⟨hmem, fun _ => hle, hnew⟩⟩
      rw [List.head?_eq_getElem?, hfront]
      rfl
    obtain ⟨oldest, holdest⟩ := Option.isSome_iff_exists.mp
      (List.isSome_head?.mpr (List.ne_nil_of_mem hpending))
    obtain ⟨front, hhead, hkey⟩ := mem_frontPending.mp (List.mem_of_head? holdest)
    rw [List.head?_eq_getElem?] at hhead
    obtain ⟨hin, hstart, hnot⟩ := (h.mem_keys hhead).mp hkey
    obtain ⟨lane, hlane, hmissing⟩ := nextSlot_eq_none (hsettled.flushed hstarted) holdest
    obtain ⟨position, hposition, rfl⟩ := List.getElem_of_mem hlane
    apply hmissing
    apply (h.mem_keys (List.getElem?_eq_getElem hposition)).mpr
    have hoff := hall oldest hin (hstart hstarted)
      (head?_le frontPending_ascending hpending holdest)
    exact ⟨hoff position hposition, hstart, hnot⟩

theorem Merged.resolved_iff (h : Merged streams consumer) (hagrees : Agrees consumer)
    (hascends : Ascends consumer) (hascending : streams.Ascending) (hsettled : Settled consumer)
    (hstarted : consumer.started = true) :
    streams.Resolved consumer.lanes.length consumer.range.startCts ↔
      ∀ lane ∈ consumer.lanes, lane.pending.isEmpty = true := by
  have hcommitted := h.committed_eq hagrees hascends hascending hsettled hstarted
  have hempty : ∀ lane : RecordingLane,
      lane.pending.isEmpty = true ↔ ∀ cts, cts ∉ lane.pending.keys := by
    intro lane
    rw [OrderedMap.isEmpty, List.isEmpty_iff, ← List.map_eq_nil_iff (f := Prod.fst),
      List.eq_nil_iff_forall_not_mem]
    rfl
  unfold Streams.Resolved
  simp only [List.mem_range, ← hcommitted]
  constructor
  · intro hresolved lane hlane
    obtain ⟨position, hposition, rfl⟩ := List.getElem_of_mem hlane
    apply (hempty _).mpr
    intro cts hcts
    obtain ⟨hmem, hle, hnew⟩ := (h.mem_keys (List.getElem?_eq_getElem hposition)).mp hcts
    exact hnew (hresolved position hposition cts hmem (hle hstarted))
  · intro hall position hposition cts hcts hle
    by_contra hnew
    apply (hempty _).mp (hall _ (List.getElem_mem hposition)) cts
    exact (h.mem_keys (List.getElem?_eq_getElem hposition)).mpr ⟨hcts, fun _ => hle, hnew⟩

end Merged

end SynchronizedRecordingConsumer

end ObsSyncReplay
