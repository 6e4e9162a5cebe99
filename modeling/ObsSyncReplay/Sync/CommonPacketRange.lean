import ObsSyncReplay.Lib.Lockstep
import ObsSyncReplay.Lib.AscendingList
import ObsSyncReplay.Recording.EncodedPacketBuffer

/-!
`sync/common-packet-range`: how two buffers agree on a start and on the end of
their common prefix, and the decode order in which a batch is written.
-/

namespace ObsSyncReplay

structure CommonPacketRange where
  startCts : Nat := 0
  endCts : Nat := 0
deriving DecidableEq, Repr

inductive CommonPacketRangeFailure where
  | none
  | noCommonStartKeyframe
  | noCommonEnd
  | missingPacket
  | invalidPacketOrdering
deriving DecidableEq, Repr

structure CommonPacketRangeResult where
  range : Option CommonPacketRange
  failure : CommonPacketRangeFailure := .none
  mismatchCount : Nat := 0
deriving DecidableEq, Repr

/-- `b` holds a keyframe with this source CTS. -/
def findsKeyframe (b : EncodedPacketBuffer) (sourceCts : Nat) : Bool :=
  match b.find sourceCts with
  | some other => other.keyframe
  | none => false

def selectCommonStart (a b : EncodedPacketBuffer) (requestedStartCts : Nat) :
    CommonPacketRangeResult :=
  match a.snapshot.find? (fun packet => requestedStartCts ≤ packet.sourceCts ∧
      packet.keyframe ∧ findsKeyframe b packet.sourceCts) with
  | some packet => { range := some ⟨packet.sourceCts, packet.sourceCts⟩ }
  | none => { range := none, failure := .noCommonStartKeyframe }

/-- The step from `previous` to `cts` differs from the expected one by more
than the one nanosecond allowed for rounding. -/
def offCadence (expectedCtsStep previous cts : Nat) : Bool :=
  let delta := cts - previous
  let difference :=
    if delta > expectedCtsStep then delta - expectedCtsStep else expectedCtsStep - delta
  difference > 1

/-- The cadence check of the loop: made once there is a result to compare
with, and only for an expected step other than zero. -/
def breaksCadence (expectedCtsStep : Nat) (result : Option Nat) (cts : Nat) : Bool :=
  match result with
  | some previous => expectedCtsStep ≠ 0 ∧ offCadence expectedCtsStep previous cts
  | none => false

def prefixLoop (upperCts expectedCtsStep : Nat) :
    Option Nat → List EncodedPacket → List EncodedPacket → Option Nat
  | result, a :: packetsA, b :: packetsB =>
      if a.sourceCts > upperCts ∨ b.sourceCts > upperCts ∨ a.sourceCts ≠ b.sourceCts then
        result
      else if breaksCadence expectedCtsStep result a.sourceCts then result
      else prefixLoop upperCts expectedCtsStep (some a.sourceCts) packetsA packetsB
  | result, _, _ => result

def selectCommonPrefixEnd (a b : EncodedPacketBuffer) (startCts upperCts : Nat)
    (expectedCtsStep : Nat := 0) : Option Nat :=
  prefixLoop upperCts expectedCtsStep none
    (a.snapshot.dropWhile (fun packet => packet.sourceCts < startCts))
    (b.snapshot.dropWhile (fun packet => packet.sourceCts < startCts))

/-- The comparator of `SortForDecodeOrder`: by DTS, then by PTS. -/
def decodesBefore (left right : EncodedPacket) : Bool :=
  if left.dts ≠ right.dts then left.dts < right.dts else left.pts < right.pts

/-- A stable sort: insertion places a packet before the first later one that
does not decode before it. -/
def sortForDecodeOrder (packets : List EncodedPacket) : List EncodedPacket :=
  packets.insertionSort (fun left right => decodesBefore right left = false)

theorem decodeOrder_total :
    Std.Total (fun left right : EncodedPacket => decodesBefore right left = false) := by
  constructor
  intro left right
  simp only [decodesBefore]
  split_ifs <;> simp only [decide_eq_false_iff_not] <;> omega

theorem decodeOrder_trans :
    IsTrans EncodedPacket (fun left right => decodesBefore right left = false) := by
  constructor
  intro left middle right hleft hright
  simp only [decodesBefore] at *
  split_ifs at * <;> simp only [decide_eq_false_iff_not] at * <;> omega

theorem sortForDecodeOrder_sorted (packets : List EncodedPacket) :
    (sortForDecodeOrder packets).Pairwise
      (fun earlier later => decodesBefore later earlier = false) :=
  have := decodeOrder_total
  have := decodeOrder_trans
  List.pairwise_insertionSort _ packets

theorem mem_sortForDecodeOrder {packets : List EncodedPacket} {packet : EncodedPacket} :
    packet ∈ sortForDecodeOrder packets ↔ packet ∈ packets :=
  List.mem_insertionSort _

theorem dts_le_of_not_decodesBefore {earlier later : EncodedPacket}
    (h : decodesBefore later earlier = false) : earlier.dts ≤ later.dts := by
  unfold decodesBefore at h
  split_ifs at h with hdts
  · exact not_lt.mp (of_decide_eq_false h)
  · omega

theorem findsKeyframe_iff {b : EncodedPacketBuffer} (hb : b.Keyed) {sourceCts : Nat} :
    findsKeyframe b sourceCts = true ↔
      ∃ packet ∈ b.snapshot, packet.sourceCts = sourceCts ∧ packet.keyframe = true := by
  unfold findsKeyframe
  split
  · rename_i other hother
    have hfound := hb.find_eq_some.mp hother
    constructor
    · intro hkey
      exact ⟨other, hfound.1, hfound.2, hkey⟩
    · rintro ⟨packet, hmem, hcts, hkey⟩
      have hsame : b.find sourceCts = some packet := hb.find_eq_some.mpr ⟨hmem, hcts⟩
      rw [Option.some.inj (hother.symm.trans hsame)]
      exact hkey
  · rename_i hnone
    simp only [Bool.false_eq_true, false_iff, not_exists, not_and]
    intro packet hmem hcts
    have hsome := hb.find_eq_some.mpr ⟨hmem, hcts⟩
    rw [hnone] at hsome
    cases hsome

/-- A start that is found is the source CTS of a keyframe of both buffers, at
or above the requested one, and the range is that single CTS. -/
theorem selectCommonStart_eq_some {a b : EncodedPacketBuffer} {requestedStartCts : Nat}
    {range : CommonPacketRange} (hb : b.Keyed)
    (h : (selectCommonStart a b requestedStartCts).range = some range) :
    requestedStartCts ≤ range.startCts ∧ range.endCts = range.startCts ∧
      (∃ packet ∈ a.snapshot, packet.sourceCts = range.startCts ∧ packet.keyframe = true) ∧
      (∃ packet ∈ b.snapshot, packet.sourceCts = range.startCts ∧ packet.keyframe = true) := by
  unfold selectCommonStart at h
  split at h
  · rename_i packet hfind
    have hcheck := List.find?_some hfind
    have hmem := List.mem_of_find?_eq_some hfind
    obtain ⟨hrequested, hkey, hother⟩ := of_decide_eq_true hcheck
    obtain rfl : _ = range := Option.some.inj h
    exact ⟨hrequested, rfl, ⟨packet, hmem, rfl, hkey⟩, (findsKeyframe_iff hb).mp hother⟩
  · cases h

/-- `cts` comes one expected step after `previous`, give or take one
nanosecond. -/
def OnCadence (expectedCtsStep previous cts : Nat) : Prop :=
  cts + 1 = previous + expectedCtsStep ∨ cts = previous + expectedCtsStep ∨
    cts = previous + expectedCtsStep + 1

instance (expectedCtsStep previous cts : Nat) :
    Decidable (OnCadence expectedCtsStep previous cts) :=
  inferInstanceAs (Decidable (_ ∨ _ ∨ _))

theorem breaksCadence_eq_false_iff {expectedCtsStep previous cts : Nat}
    (hstep : expectedCtsStep ≠ 0) (hlt : previous < cts) :
    breaksCadence expectedCtsStep (some previous) cts = false ↔
      OnCadence expectedCtsStep previous cts := by
  simp only [breaksCadence, offCadence, OnCadence, hstep, ne_eq, not_false_eq_true, true_and,
    decide_eq_false_iff_not, decide_eq_true_eq, gt_iff_lt, not_lt]
  split_ifs <;> omega

/-- In an ascending list the loop's check says that neighbours are on cadence. -/
theorem isChain_onCadence_iff {expectedCtsStep : Nat} {cts : List Nat}
    (hstep : expectedCtsStep ≠ 0) (hascending : cts.Pairwise (· < ·)) :
    cts.IsChain (fun x y => breaksCadence expectedCtsStep (some x) y = false) ↔
      cts.IsChain (OnCadence expectedCtsStep) := by
  simp only [List.isChain_iff_forall_rel_of_append_cons_cons]
  have hlt {x y : Nat} {front rest : List Nat} (hsplit : cts = front ++ x :: y :: rest) :
      x < y := by
    rw [hsplit] at hascending
    exact (List.pairwise_cons.mp (List.pairwise_append.mp hascending).2.1).1 y
      List.mem_cons_self
  constructor
  · intro h x y front rest hsplit
    exact (breaksCadence_eq_false_iff hstep (hlt hsplit)).mp (h hsplit)
  · intro h x y front rest hsplit
    exact (breaksCadence_eq_false_iff hstep (hlt hsplit)).mpr (h hsplit)

/-- What the loop asks of the next matched CTS. -/
def mayFollow (upperCts expectedCtsStep : Nat) (result : Option Nat) (cts : Nat) : Bool :=
  cts ≤ upperCts && !breaksCadence expectedCtsStep result cts

theorem prefixLoop_cons (upperCts expectedCtsStep : Nat) (result : Option Nat)
    (a b : EncodedPacket) (packetsA packetsB : List EncodedPacket) :
    prefixLoop upperCts expectedCtsStep result (a :: packetsA) (b :: packetsB) =
      if a.sourceCts = b.sourceCts ∧ mayFollow upperCts expectedCtsStep result a.sourceCts = true
      then prefixLoop upperCts expectedCtsStep (some a.sourceCts) packetsA packetsB
      else result := by
  have hfollow : mayFollow upperCts expectedCtsStep result a.sourceCts = true ↔
      a.sourceCts ≤ upperCts ∧ breaksCadence expectedCtsStep result a.sourceCts = false := by
    simp [mayFollow]
  simp only [prefixLoop, hfollow]
  by_cases hstop : a.sourceCts > upperCts ∨ b.sourceCts > upperCts ∨ a.sourceCts ≠ b.sourceCts
  · rw [if_pos hstop, if_neg (by omega)]
  · rw [if_neg hstop]
    by_cases hbreaks : breaksCadence expectedCtsStep result a.sourceCts = true
    · rw [if_pos hbreaks, if_neg (fun hgo => by simp [hgo.2.2] at hbreaks)]
    · rw [if_neg hbreaks, if_pos ⟨by omega, by omega, by simpa using hbreaks⟩]

/-- The loop returns the last element of the run its two lists share. -/
theorem prefixLoop_eq_run (upperCts expectedCtsStep : Nat) (result : Option Nat)
    (packetsA packetsB : List EncodedPacket) :
    prefixLoop upperCts expectedCtsStep result packetsA packetsB =
      (Lockstep.run (mayFollow upperCts expectedCtsStep) result
        (packetsA.map EncodedPacket.sourceCts)
        (packetsB.map EncodedPacket.sourceCts)).getLast?.or result := by
  induction packetsA generalizing result packetsB with
  | nil => simp [prefixLoop, Lockstep.run]
  | cons a packetsA ih =>
      cases packetsB with
      | nil => simp [prefixLoop, Lockstep.run]
      | cons b packetsB =>
          rw [prefixLoop_cons, List.map_cons, List.map_cons, Lockstep.run]
          split_ifs with hgo
          · rw [ih, List.getLast?_cons]
            cases (Lockstep.run (mayFollow upperCts expectedCtsStep) (some a.sourceCts)
              (packetsA.map EncodedPacket.sourceCts)
              (packetsB.map EncodedPacket.sourceCts)).getLast? <;> simp
          · simp

/-- Whatever the buffers hold, a selected end does not pass the upper bound. -/
theorem selectCommonPrefixEnd_le {a b : EncodedPacketBuffer}
    {startCts upperCts expectedCtsStep endCts : Nat}
    (h : selectCommonPrefixEnd a b startCts upperCts expectedCtsStep = some endCts) :
    endCts ≤ upperCts := by
  rw [selectCommonPrefixEnd, prefixLoop_eq_run, Option.or_none] at h
  obtain ⟨before, hfollow⟩ :=
    (Lockstep.run_admissible _ _ _ _).mem (List.mem_of_getLast? h)
  simp only [mayFollow, Bool.and_eq_true, decide_eq_true_eq] at hfollow
  exact hfollow.1

namespace EncodedPacketBuffer

/-- The source CTS held from `startCts` on, ascending. -/
def ctsFrom (buffer : EncodedPacketBuffer) (startCts : Nat) : List Nat :=
  (buffer.snapshot.map EncodedPacket.sourceCts).filter (startCts ≤ ·)

theorem Keyed.ctsFrom_ascending {buffer : EncodedPacketBuffer} (h : buffer.Keyed)
    (startCts : Nat) : (buffer.ctsFrom startCts).Pairwise (· < ·) :=
  h.snapshot_ascending.filter _

theorem mem_ctsFrom {buffer : EncodedPacketBuffer} {startCts cts : Nat} :
    cts ∈ buffer.ctsFrom startCts ↔
      (∃ packet ∈ buffer.snapshot, packet.sourceCts = cts) ∧ startCts ≤ cts := by
  simp [ctsFrom]

theorem Keyed.map_dropWhile {buffer : EncodedPacketBuffer} (h : buffer.Keyed)
    (startCts : Nat) :
    (buffer.snapshot.dropWhile (fun packet => packet.sourceCts < startCts)).map
      EncodedPacket.sourceCts = buffer.ctsFrom startCts := by
  have hcut := OrderedMap.dropWhile_lt_eq_filter startCts
    (buffer.snapshot.map (fun packet => (packet.sourceCts, packet)))
    (List.pairwise_map.mpr (List.pairwise_map.mp h.snapshot_ascending))
  simp only [List.dropWhile_map, List.filter_map] at hcut
  have hcut' := List.map_injective_iff.mpr
    (fun p q hpq => (Prod.mk.inj hpq).2) hcut
  rw [ctsFrom, List.filter_map]
  exact congrArg (List.map EncodedPacket.sourceCts) hcut'

end EncodedPacketBuffer

/-- `SelectCommonPrefixEnd` over keyed buffers: the last element of the run
that the two ascending CTS lists share from the start on. -/
theorem selectCommonPrefixEnd_eq_run {a b : EncodedPacketBuffer} (ha : a.Keyed) (hb : b.Keyed)
    (startCts upperCts expectedCtsStep : Nat) :
    selectCommonPrefixEnd a b startCts upperCts expectedCtsStep =
      (Lockstep.run (mayFollow upperCts expectedCtsStep) none
        (a.ctsFrom startCts) (b.ctsFrom startCts)).getLast? := by
  rw [selectCommonPrefixEnd, prefixLoop_eq_run, ha.map_dropWhile, hb.map_dropWhile,
    Option.or_none]

/-- What a selected end says of the two buffers: it lies between the bounds,
and up to it both hold the same source CTS, the last of them the end itself
and each on cadence after the one before it. -/
theorem selectCommonPrefixEnd_eq_some {a b : EncodedPacketBuffer} (ha : a.Keyed) (hb : b.Keyed)
    {startCts upperCts expectedCtsStep endCts : Nat}
    (h : selectCommonPrefixEnd a b startCts upperCts expectedCtsStep = some endCts) :
    startCts ≤ endCts ∧ endCts ≤ upperCts ∧
      (a.ctsFrom startCts).filter (· ≤ endCts) = (b.ctsFrom startCts).filter (· ≤ endCts) ∧
      ((a.ctsFrom startCts).filter (· ≤ endCts)).getLast? = some endCts ∧
      ((a.ctsFrom startCts).filter (· ≤ endCts)).IsChain
        (fun x y => breaksCadence expectedCtsStep (some x) y = false) := by
  have hupper := selectCommonPrefixEnd_le h
  rw [selectCommonPrefixEnd_eq_run ha hb] at h
  obtain ⟨hleft, hright⟩ := Lockstep.filter_le_run_last
    (ha.ctsFrom_ascending startCts) (hb.ctsFrom_ascending startCts) h
  have hadmissible := Lockstep.run_admissible (mayFollow upperCts expectedCtsStep) none
    (a.ctsFrom startCts) (b.ctsFrom startCts)
  have hmem := List.mem_of_getLast? h
  have hstart : startCts ≤ endCts := by
    rw [← hleft] at hmem
    exact (EncodedPacketBuffer.mem_ctsFrom.mp (List.mem_of_mem_filter hmem)).2
  refine ⟨hstart, hupper, hleft.trans hright.symm, ?_, ?_⟩
  · rw [hleft]
    exact h
  · rw [hleft]
    refine hadmissible.isChain.imp ?_
    intro x y hxy
    simp only [mayFollow, Bool.and_eq_true, Bool.not_eq_true'] at hxy
    exact hxy.2

/-- An end is confirmed when it is selected with itself as the bound: up to it both
buffers hold the same source CTS, and neighbours are on cadence. -/
theorem selectCommonPrefixEnd_self_iff {a b : EncodedPacketBuffer} (ha : a.Keyed) (hb : b.Keyed)
    {startCts expectedCtsStep endCts : Nat} :
    selectCommonPrefixEnd a b startCts endCts expectedCtsStep = some endCts ↔
      (a.ctsFrom startCts).filter (· ≤ endCts) = (b.ctsFrom startCts).filter (· ≤ endCts) ∧
      ((a.ctsFrom startCts).filter (· ≤ endCts)).getLast? = some endCts ∧
      ((a.ctsFrom startCts).filter (· ≤ endCts)).IsChain
        (fun x y => breaksCadence expectedCtsStep (some x) y = false) := by
  constructor
  · intro h
    obtain ⟨-, -, hsame, hlast, hchain⟩ := selectCommonPrefixEnd_eq_some ha hb h
    exact ⟨hsame, hlast, hchain⟩
  · rintro ⟨hsame, hlast, hchain⟩
    -- each list is its part up to the end, then elements above it
    have hsplit (buffer : EncodedPacketBuffer) (hbuffer : buffer.Keyed) :
        ∃ rest, buffer.ctsFrom startCts =
          (buffer.ctsFrom startCts).filter (· ≤ endCts) ++ rest ∧ ∀ x ∈ rest, endCts < x := by
      have hascending := hbuffer.ctsFrom_ascending startCts
      refine ⟨(buffer.ctsFrom startCts).filter (fun x => ¬ x ≤ endCts), ?_, ?_⟩
      · apply AscendingList.eq_of_mem_iff hascending
        · apply List.pairwise_append.mpr
          refine ⟨hascending.filter _, hascending.filter _, fun x hx y hy => ?_⟩
          simp only [List.mem_filter, decide_eq_true_eq] at hx hy
          omega
        · intro x
          simp only [List.mem_append, List.mem_filter, decide_eq_true_eq]
          tauto
      · intro x hx
        simpa using (List.mem_filter.mp hx).2
    obtain ⟨restA, hA, haboveA⟩ := hsplit a ha
    obtain ⟨restB, hB, -⟩ := hsplit b hb
    have hadmissible : Lockstep.Admissible (mayFollow endCts expectedCtsStep) none
        ((a.ctsFrom startCts).filter (· ≤ endCts)) := by
      have hbelow : ∀ x ∈ (a.ctsFrom startCts).filter (· ≤ endCts), x ≤ endCts :=
        fun x hx => by simpa using (List.mem_filter.mp hx).2
      apply Lockstep.admissible_of_isChain
      · intro x hx
        simp [mayFollow, breaksCadence, hbelow x (List.mem_of_head? hx)]
      · apply hchain.imp_of_mem_imp
        intro x y _ hy hxy
        simp [mayFollow, hbelow y hy, hxy]
    rw [selectCommonPrefixEnd_eq_run ha hb, hA, hB, ← hsame,
      Lockstep.run_append hadmissible, hlast]
    intro before x hx
    have habove := haboveA x (List.mem_of_head? hx)
    simp only [mayFollow, Bool.and_eq_false_imp, decide_eq_true_eq]
    omega

/-- Two buffers that begin with the same source CTS within the bound have a
common prefix, which ends there or later. -/
theorem selectCommonPrefixEnd_of_head {a b : EncodedPacketBuffer} (ha : a.Keyed) (hb : b.Keyed)
    {startCts upperCts expectedCtsStep next : Nat}
    (hheadA : (a.ctsFrom startCts).head? = some next)
    (hheadB : (b.ctsFrom startCts).head? = some next) (hle : next ≤ upperCts) :
    ∃ endCts, selectCommonPrefixEnd a b startCts upperCts expectedCtsStep = some endCts ∧
      next ≤ endCts := by
  rw [selectCommonPrefixEnd_eq_run ha hb]
  have hascending := ha.ctsFrom_ascending startCts
  obtain ⟨restA, hrestA⟩ := List.head?_eq_some_iff.mp hheadA
  obtain ⟨restB, hrestB⟩ := List.head?_eq_some_iff.mp hheadB
  have hinitial := Lockstep.run_isPrefix_left (mayFollow upperCts expectedCtsStep) none
    (a.ctsFrom startCts) (b.ctsFrom startCts)
  have hcons : Lockstep.run (mayFollow upperCts expectedCtsStep) none (a.ctsFrom startCts)
      (b.ctsFrom startCts) =
        next :: Lockstep.run (mayFollow upperCts expectedCtsStep) (some next) restA restB := by
    rw [hrestA, hrestB, Lockstep.run, if_pos ⟨rfl, by simp [mayFollow, breaksCadence, hle]⟩]
  obtain ⟨endCts, hend⟩ : ∃ endCts, (Lockstep.run (mayFollow upperCts expectedCtsStep) none
      (a.ctsFrom startCts) (b.ctsFrom startCts)).getLast? = some endCts := by
    rw [hcons, List.getLast?_cons]
    exact ⟨_, rfl⟩
  refine ⟨endCts, hend, ?_⟩
  have hmem := hinitial.subset (List.mem_of_getLast? hend)
  rw [hrestA] at hmem hascending
  rcases List.mem_cons.mp hmem with rfl | hrest
  · exact le_rfl
  · exact ((List.pairwise_cons.mp hascending).1 endCts hrest).le

end ObsSyncReplay
