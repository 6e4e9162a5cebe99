import ObsSyncReplay.Sync.CommonPrefix
import Mathlib.Data.Finset.SymmDiff

/-!
`ValidateCommonPacketRange`: whether two buffers hold the same source CTS within a range. The
packets that it looks up in the opposite buffer are those of the range, so its count is the size of
a symmetric difference; and what it asks of the decode order holds of every sorted list.
-/

namespace ObsSyncReplay

def CommonPacketRange.covers (range : CommonPacketRange) (packet : EncodedPacket) : Bool :=
  packet.sourceCts ≥ range.startCts && packet.sourceCts ≤ range.endCts

def sourceCts (buffer : EncodedPacketBuffer) (range : CommonPacketRange) : List Nat :=
  (buffer.snapshot.filter range.covers).map EncodedPacket.sourceCts

def selectPackets (buffer : EncodedPacketBuffer) (range : CommonPacketRange) :
    List EncodedPacket :=
  buffer.snapshot.filter range.covers

/-- The loop of `HasValidDecodeOrder` over neighbours. -/
def dtsAscend : List EncodedPacket → Bool
  | previous :: next :: rest => if previous.dts > next.dts then false else dtsAscend (next :: rest)
  | _ => true

def hasValidDecodeOrder (packets : List EncodedPacket) : Bool :=
  dtsAscend (sortForDecodeOrder packets)

/-- Counts, from `mismatches` on, the source CTS that the buffer does not hold. -/
def countMissing (buffer : EncodedPacketBuffer) : Nat → List Nat → Nat
  | mismatches, [] => mismatches
  | mismatches, cts :: rest =>
      countMissing buffer (if !buffer.contains cts then mismatches + 1 else mismatches) rest

def validateCommonPacketRange (a b : EncodedPacketBuffer) (range : CommonPacketRange) :
    CommonPacketRangeResult :=
  let mismatches := countMissing a (countMissing b 0 (sourceCts a range)) (sourceCts b range)
  if mismatches ≠ 0 then
    { range := none, failure := .missingPacket, mismatchCount := mismatches }
  else
    let packetsA := selectPackets a range
    let packetsB := selectPackets b range
    if !hasValidDecodeOrder packetsA || !hasValidDecodeOrder packetsB then
      { range := none, failure := .invalidPacketOrdering }
    else { range := some range }

/-- `sorted` are the packets by DTS and PTS, equal ones in the order they had. -/
structure DecodeSorted (packets sorted : List EncodedPacket) : Prop where
  perm : sorted.Perm packets
  ordered : sorted.Pairwise (fun earlier later =>
    earlier.dts < later.dts ∨ earlier.dts = later.dts ∧ earlier.pts ≤ later.pts)
  stable : ∀ dts pts, sorted.filter (fun packet => packet.dts = dts ∧ packet.pts = pts) =
    packets.filter (fun packet => packet.dts = dts ∧ packet.pts = pts)

theorem decodesBefore_eq_false_iff {earlier later : EncodedPacket} :
    decodesBefore later earlier = false ↔
      earlier.dts < later.dts ∨ earlier.dts = later.dts ∧ earlier.pts ≤ later.pts := by
  unfold decodesBefore
  split_ifs with hdts <;> rw [decide_eq_false_iff_not] <;> omega

/-- Packets with equal time stamps are a sublist that is sorted already. -/
theorem sortForDecodeOrder_stable (packets : List EncodedPacket) (dts pts : Int) :
    (sortForDecodeOrder packets).filter (fun packet => packet.dts = dts ∧ packet.pts = pts) =
      packets.filter (fun packet => packet.dts = dts ∧ packet.pts = pts) := by
  let same (packet : EncodedPacket) : Bool := packet.dts = dts ∧ packet.pts = pts
  have hequal : (packets.filter same).Pairwise
      (fun earlier later => decodesBefore later earlier = false) := by
    refine List.pairwise_of_forall_mem_list fun earlier hearlier later hlater => ?_
    obtain ⟨hdts, hpts⟩ := of_decide_eq_true (List.mem_filter.mp hearlier).2
    obtain ⟨hdts', hpts'⟩ := of_decide_eq_true (List.mem_filter.mp hlater).2
    rw [decodesBefore_eq_false_iff, hdts, hdts', hpts, hpts']
    exact Or.inr ⟨rfl, le_rfl⟩
  have hsublist : List.Sublist (packets.filter same) (sortForDecodeOrder packets) :=
    have := decodeOrder_total
    have := decodeOrder_trans
    List.sublist_insertionSort hequal List.filter_sublist
  have hfilter := hsublist.filter same
  simp only [List.filter_filter, Bool.and_self] at hfilter
  have hlength := ((List.perm_insertionSort
    (fun left right => decodesBefore right left = false) packets).filter same).length_eq
  exact (hfilter.eq_of_length hlength.symm).symm

theorem sortForDecodeOrder_decodeSorted (packets : List EncodedPacket) :
    DecodeSorted packets (sortForDecodeOrder packets) where
  perm := List.perm_insertionSort _ packets
  ordered := (sortForDecodeOrder_sorted packets).imp decodesBefore_eq_false_iff.mp
  stable := sortForDecodeOrder_stable packets

theorem dtsAscend_of_sorted {packets : List EncodedPacket}
    (h : packets.Pairwise (fun earlier later => earlier.dts ≤ later.dts)) :
    dtsAscend packets = true := by
  induction packets with
  | nil => rfl
  | cons previous rest ih =>
      cases rest with
      | nil => rfl
      | cons next rest =>
          obtain ⟨hbound, hrest⟩ := List.pairwise_cons.mp h
          rw [dtsAscend, if_neg (not_lt.mpr (hbound next List.mem_cons_self))]
          exact ih hrest

theorem hasValidDecodeOrder_eq_true (packets : List EncodedPacket) :
    hasValidDecodeOrder packets = true :=
  dtsAscend_of_sorted ((sortForDecodeOrder_sorted packets).imp dts_le_of_not_decodesBefore)

section Count

variable {a b buffer : EncodedPacketBuffer} {range : CommonPacketRange}

/-- The source CTS that the buffer holds within the range. -/
def ctsWithin (buffer : EncodedPacketBuffer) (range : CommonPacketRange) : Finset Nat :=
  ((selectPackets buffer range).map EncodedPacket.sourceCts).toFinset

theorem countMissing_eq (mismatches : Nat) (cts : List Nat) :
    countMissing buffer mismatches cts =
      mismatches + (cts.filter (fun cts => !buffer.contains cts)).length := by
  induction cts generalizing mismatches with
  | nil => rfl
  | cons cts rest ih =>
      rw [countMissing, ih, List.filter_cons]
      split_ifs
      · rw [List.length_cons]
        omega
      · rfl

theorem mem_sourceCts (h : buffer.Keyed) {cts : Nat} :
    cts ∈ sourceCts buffer range ↔
      buffer.contains cts = true ∧ range.startCts ≤ cts ∧ cts ≤ range.endCts := by
  rw [h.contains_iff]
  simp only [sourceCts, CommonPacketRange.covers, List.mem_map, List.mem_filter, Bool.and_eq_true,
    decide_eq_true_eq]
  constructor
  · rintro ⟨packet, ⟨hmem, hrange⟩, rfl⟩
    exact ⟨⟨packet, hmem, rfl⟩, hrange⟩
  · rintro ⟨⟨packet, hmem, rfl⟩, hrange⟩
    exact ⟨packet, ⟨hmem, hrange⟩, rfl⟩

theorem sourceCts_ascending (h : buffer.Keyed) (range : CommonPacketRange) :
    (sourceCts buffer range).Pairwise (· < ·) :=
  List.pairwise_map.mpr ((List.pairwise_map.mp h.snapshot_ascending).filter range.covers)

/-- What the opposite buffer lacks, it lacks within the range. -/
theorem length_missing (ha : a.Keyed) (hb : b.Keyed) (range : CommonPacketRange) :
    ((sourceCts a range).filter (fun cts => !b.contains cts)).length =
      (ctsWithin a range \ ctsWithin b range).card := by
  have hnodup := ((sourceCts_ascending ha range).imp ne_of_lt).filter (fun cts => !b.contains cts)
  rw [← List.toFinset_card_of_nodup hnodup]
  congr 1
  ext cts
  have hmemA : cts ∈ sourceCts a range ↔ _ := mem_sourceCts ha
  have hmemB : cts ∈ sourceCts b range ↔ _ := mem_sourceCts hb
  have hwithinA : cts ∈ ctsWithin a range ↔ cts ∈ sourceCts a range := List.mem_toFinset
  have hwithinB : cts ∈ ctsWithin b range ↔ cts ∈ sourceCts b range := List.mem_toFinset
  rw [List.mem_toFinset, List.mem_filter, Finset.mem_sdiff, hwithinA, hwithinB, hmemA, hmemB,
    Bool.not_eq_true']
  constructor
  · rintro ⟨hheld, hmissing⟩
    exact ⟨hheld, fun hother => by simp [hmissing] at hother⟩
  · rintro ⟨hheld, hmissing⟩
    exact ⟨hheld, Bool.eq_false_iff.mpr fun hother => hmissing ⟨hother, hheld.2⟩⟩

/-- The number of source CTS within the range that one of the buffers lacks. -/
theorem mismatches_eq (ha : a.Keyed) (hb : b.Keyed) (range : CommonPacketRange) :
    countMissing a (countMissing b 0 (sourceCts a range)) (sourceCts b range) =
      (symmDiff (ctsWithin a range) (ctsWithin b range)).card := by
  rw [countMissing_eq, countMissing_eq, length_missing ha hb, length_missing hb ha, Nat.zero_add,
    ← Finset.card_union_of_disjoint disjoint_sdiff_sdiff]
  rfl

theorem ctsWithin_eq_iff (ha : a.Keyed) (hb : b.Keyed) (range : CommonPacketRange) :
    ctsWithin a range = ctsWithin b range ↔ sourceCts a range = sourceCts b range := by
  refine ⟨fun h => ?_, fun h => congrArg List.toFinset h⟩
  apply AscendingList.eq_of_mem_iff (sourceCts_ascending ha range) (sourceCts_ascending hb range)
  intro cts
  have hmem := congrArg (cts ∈ ·) h
  simpa [ctsWithin, selectPackets, sourceCts] using hmem

end Count

/-- The answer says whether the buffers hold the same source CTS within the range, and else how
many they do not share. -/
structure Validates (a b : EncodedPacketBuffer) (range : CommonPacketRange) : Prop where
  accepts : validateCommonPacketRange a b range = { range := some range } ↔
    (selectPackets a range).map EncodedPacket.sourceCts =
      (selectPackets b range).map EncodedPacket.sourceCts
  rejects : (selectPackets a range).map EncodedPacket.sourceCts ≠
      (selectPackets b range).map EncodedPacket.sourceCts →
    validateCommonPacketRange a b range =
      { range := none
        failure := .missingPacket
        mismatchCount := (symmDiff (ctsWithin a range) (ctsWithin b range)).card }

theorem validateCommonPacketRange_eq (a b : EncodedPacketBuffer) (range : CommonPacketRange) :
    validateCommonPacketRange a b range =
      let mismatches := countMissing a (countMissing b 0 (sourceCts a range)) (sourceCts b range)
      if mismatches ≠ 0 then
        { range := none, failure := .missingPacket, mismatchCount := mismatches }
      else { range := some range } := by
  simp only [validateCommonPacketRange, hasValidDecodeOrder_eq_true, Bool.not_true, Bool.or_self,
    Bool.false_eq_true, if_false]

theorem validates {a b : EncodedPacketBuffer} (ha : a.Keyed) (hb : b.Keyed)
    (range : CommonPacketRange) : Validates a b range := by
  have hsame : (symmDiff (ctsWithin a range) (ctsWithin b range)).card = 0 ↔
      sourceCts a range = sourceCts b range := by
    rw [Finset.card_eq_zero, ← Finset.bot_eq_empty, symmDiff_eq_bot, ctsWithin_eq_iff ha hb]
  have hanswer := validateCommonPacketRange_eq a b range
  simp only [mismatches_eq ha hb] at hanswer
  constructor
  · change _ ↔ sourceCts a range = sourceCts b range
    rw [hanswer, ← hsame]
    split_ifs with hdiffer
    · exact iff_of_false (by simp) hdiffer
    · exact iff_of_true rfl (not_not.mp hdiffer)
  · intro hdiffer
    have hcount := mt hsame.mp hdiffer
    rw [hanswer, if_pos hcount]

/-- `ValidateCommonPacketRange` accepts buffers with the same source CTS within the range and
counts the others' differences; `SortForDecodeOrder` is a stable sort, and so the packets of no
buffer are rejected for their order. -/
theorem validate_common_packet_range :
    (∀ a b : EncodedPacketBuffer, a.Reachable → b.Reachable → ∀ range, Validates a b range) ∧
      (∀ packets, DecodeSorted packets (sortForDecodeOrder packets)) ∧
      ∀ a b range, (validateCommonPacketRange a b range).failure ≠ .invalidPacketOrdering := by
  refine ⟨fun a b ha hb range => validates ha.keyed hb.keyed range,
    sortForDecodeOrder_decodeSorted, fun a b range => ?_⟩
  rw [validateCommonPacketRange_eq]
  dsimp only
  split_ifs <;> simp

/-- Two source CTS differ within the range, and one without. -/
theorem validate_common_packet_range_sample :
    validateCommonPacketRange (bufferOf [5, 10, 20]) (bufferOf [10, 30]) ⟨10, 30⟩ =
      { range := none, failure := .missingPacket, mismatchCount := 2 } := by
  have hvalidates := validate_common_packet_range.1 _ _ (bufferOf_reachable [5, 10, 20])
    (bufferOf_reachable [10, 30]) ⟨10, 30⟩
  rw [hvalidates.rejects (by decide)]
  decide

end ObsSyncReplay
