import ObsSyncReplay.Capture.SnapshotRange

/-!
The contract of a common replay range: the selected streams carry the same source
CTS, from a common keyframe to the end, none of them retains more in between, and
the order in which the streams are named does not matter. The end of the range is
found by walking one stream, so the contract can only hold where a hole that the
walk would stop at in one stream stops it in every other one.
-/

namespace ObsSyncReplay

namespace SynchronizedCaptureSession

open CommonRun AscendingList

section Contract

variable (session : SynchronizedCaptureSession) (streamIds : List CaptureStreamId)
  (durationNs : Nat)

structure CommonRangeContract (snapshot : ReplaySnapshot) : Prop where
  agree : ∃ shared : List Nat, shared.Pairwise (· < ·) ∧
    shared.head? = some snapshot.range.startCts ∧
    shared.getLast? = some snapshot.range.endCts ∧
    snapshot.packets.length = streamIds.length ∧
    (∀ packets ∈ snapshot.packets,
      packets.map (fun captured => captured.packet.sourceCts) = shared) ∧
    ∀ streamId ∈ streamIds, ∀ cts ∈ retainedCts session.streams streamId,
      snapshot.range.startCts ≤ cts → cts ≤ snapshot.range.endCts → cts ∈ shared
  keyframe : ∀ packets ∈ snapshot.packets,
    ∃ first ∈ packets.head?, first.packet.keyframe = true
  order : ∀ streamIds' : List CaptureStreamId, streamIds'.Perm streamIds →
    (session.snapshotCommonRangeDetailed streamIds' durationNs).snapshot.map
      ReplaySnapshot.range = some snapshot.range

/-- Between `start` and `cts` the stream retains a source CTS that some selected
stream lacks. -/
def RetainsUnshared (start cts : Nat) (streamId : CaptureStreamId) : Prop :=
  ∃ x ∈ retainedCts session.streams streamId, start ≤ x ∧ x ≤ cts ∧
    ¬ Shared (selectedCts session.streams streamIds) x

/-- Where one selected stream retains an unshared source CTS between the start and
a shared one, every selected stream does. -/
def HolesAligned : Prop :=
  ∀ start, ReplayStart session streamIds durationNs start →
    ∀ cts, start ≤ cts → Shared (selectedCts session.streams streamIds) cts →
      (∃ streamId ∈ streamIds, RetainsUnshared session streamIds start cts streamId) →
      ∀ streamId ∈ streamIds, RetainsUnshared session streamIds start cts streamId

end Contract

section Range

variable {session : SynchronizedCaptureSession} {streamIds : List CaptureStreamId}
  {durationNs start endCts : Nat}

/-- What a snapshot copies of one stream. -/
def copiedCts (session : SynchronizedCaptureSession) (range : ReplayFrameRange)
    (streamId : CaptureStreamId) : List Nat :=
  (retainedCts session.streams streamId).filter
    (fun cts => range.startCts ≤ cts ∧ cts ≤ range.endCts)

theorem mem_copiedCts {range : ReplayFrameRange} {streamId : CaptureStreamId} {cts : Nat} :
    cts ∈ copiedCts session range streamId ↔
      cts ∈ retainedCts session.streams streamId ∧ range.startCts ≤ cts ∧
        cts ≤ range.endCts := by
  simp [copiedCts]

theorem copiedCts_ascending (range : ReplayFrameRange) (streamId : CaptureStreamId) :
    (copiedCts session range streamId).Pairwise (· < ·) :=
  (retainedCts_ascending streamId).filter _

/-- The packets that a snapshot copies of one stream. -/
def copied (session : SynchronizedCaptureSession) (range : ReplayFrameRange)
    (streamId : CaptureStreamId) : List CapturedEncodedPacket :=
  ((streamAt session.streams streamId).packets.entries.filter
    (fun e => range.startCts ≤ e.1 ∧ e.1 ≤ range.endCts)).map Prod.snd

theorem packets_snapshotRange (range : ReplayFrameRange) :
    (snapshotRange session.streams streamIds range).packets =
      streamIds.map (copied session range) := by
  refine List.map_congr_left (fun streamId _ => congrArg (List.map Prod.snd) ?_)
  rw [OrderedMap.entriesFrom_eq_filter, OrderedMap.takeWhile_le_eq_filter _ _
    ((streamAt session.streams streamId).packets.ascending.filter _), List.filter_filter]
  exact List.filter_congr (fun e _ => by rw [Bool.decide_and, Bool.and_comm])

theorem Keyed.map_copied (hkeyed : session.Keyed) (range : ReplayFrameRange)
    (streamId : CaptureStreamId) :
    (copied session range streamId).map (fun captured => captured.packet.sourceCts) =
      copiedCts session range streamId := by
  rw [copied, List.map_map, copiedCts, retainedCts, OrderedMap.keys, List.filter_map]
  exact List.map_congr_left (fun e he =>
    (hkeyed.stream streamId e (List.mem_of_mem_filter he)).symm)

/-- The packets copied of a stream start with its keyframe at the start. -/
theorem ReplayStart.copied_head? (h : ReplayStart session streamIds durationNs start)
    (hle : start ≤ endCts) {streamId : CaptureStreamId} (hid : streamId ∈ streamIds) :
    ∃ first ∈ (copied session ⟨start, endCts⟩ streamId).head?,
      first.packet.keyframe = true := by
  obtain ⟨captured, hfind, hkeyframe⟩ := allKeyframes_iff.mp h.keyframes streamId hid
  have hmem := OrderedMap.find?_eq_some.mp hfind
  refine ⟨captured, ?_, hkeyframe⟩
  have hkey : (((streamAt session.streams streamId).packets.entries.filter
      (fun e => start ≤ e.1 ∧ e.1 ≤ endCts)).map Prod.fst).head? = some start := by
    refine (head?_eq_some_iff_least ?_).mpr ⟨?_, ?_⟩
    · exact List.pairwise_map.mpr ((streamAt session.streams streamId).packets.ascending.filter _)
    · exact List.mem_map.mpr ⟨_, List.mem_filter.mpr ⟨hmem, by simpa using hle⟩, rfl⟩
    · intro cts hcts
      obtain ⟨e, he, rfl⟩ := List.mem_map.mp hcts
      have hrange := (List.mem_filter.mp he).2
      simp only [decide_eq_true_eq] at hrange
      exact hrange.1
  rw [List.head?_map] at hkey
  obtain ⟨⟨key, value⟩, he, hfst⟩ := Option.map_eq_some_iff.mp hkey
  obtain rfl : key = start := hfst
  have hentry := List.mem_of_mem_filter (List.mem_of_head? he)
  rw [copied, List.head?_map, he, OrderedMap.value_unique hmem hentry]
  rfl

section Perm

variable {streamIds' : List CaptureStreamId} (hperm : streamIds'.Perm streamIds)
include hperm

theorem shared_perm {cts : Nat} :
    Shared (selectedCts session.streams streamIds') cts ↔
      Shared (selectedCts session.streams streamIds) cts := by
  simp only [shared_selectedCts, hperm.mem_iff]

theorem allKeyframes_perm {cts : Nat} :
    allKeyframes session.streams streamIds' cts = true ↔
      allKeyframes session.streams streamIds cts = true := by
  simp only [allKeyframes_iff, hperm.mem_iff]

theorem covered_perm {cts : Nat} :
    Covered session.streams streamIds' durationNs cts ↔
      Covered session.streams streamIds durationNs cts := by
  simp only [Covered, hperm.mem_iff]

theorem ReplayStart.perm (h : ReplayStart session streamIds durationNs start) :
    ReplayStart session streamIds' durationNs start where
  retention := h.retention
  selected hnil := h.selected (List.perm_nil.mp (hnil ▸ hperm).symm)
  distinct := hperm.nodup_iff.mpr h.distinct
  registered streamId hid := h.registered streamId (hperm.mem_iff.mp hid)
  duration := h.duration
  history streamId hid := by
    obtain ⟨first, hfirst, hcovered⟩ := h.history streamId (hperm.mem_iff.mp hid)
    exact ⟨first, hfirst, (covered_perm hperm).mpr hcovered⟩
  keyframes := (allKeyframes_perm hperm).mpr h.keyframes
  chosen := by
    simp only [ChosenStart, allKeyframes_perm hperm, covered_perm hperm]
    exact h.chosen

end Perm

/-- The end that the walk over the stream `streamId` finds. -/
theorem getLast?_run_iff {streamId : CaptureStreamId} (hid : streamId ∈ streamIds) :
    (run (selectedCts session.streams streamIds) (retainedCts session.streams streamId)
        start).getLast? = some endCts ↔
      start ≤ endCts ∧ Shared (selectedCts session.streams streamIds) endCts ∧
        ¬ RetainsUnshared session streamIds start endCts streamId ∧
        ∀ cts, start ≤ cts → Shared (selectedCts session.streams streamIds) cts →
          ¬ RetainsUnshared session streamIds start cts streamId → cts ≤ endCts := by
  have hl : (retainedCts session.streams streamId).Pairwise (· < ·) :=
    retainedCts_ascending streamId
  have hmem : ∀ cts, cts ∈ run (selectedCts session.streams streamIds)
      (retainedCts session.streams streamId) start ↔
      start ≤ cts ∧ Shared (selectedCts session.streams streamIds) cts ∧
        ¬ RetainsUnshared session streamIds start cts streamId := by
    intro cts
    rw [mem_run hl]
    constructor
    · rintro ⟨hcts, hstart, hall⟩
      refine ⟨hstart, hall cts hcts hstart le_rfl, ?_⟩
      rintro ⟨x, hx, hx', hle, hnot⟩
      exact hnot (hall x hx hx' hle)
    · rintro ⟨hstart, hshared, hnone⟩
      refine ⟨shared_selectedCts.mp hshared streamId hid, hstart, fun x hx hx' hle => ?_⟩
      by_contra hnot
      exact hnone ⟨x, hx, hx', hle, hnot⟩
  rw [getLast?_eq_some_iff_greatest (run_ascending hl), hmem]
  constructor
  · rintro ⟨⟨hstart, hshared, hnone⟩, hgreatest⟩
    exact ⟨hstart, hshared, hnone, fun cts h h' h'' => hgreatest cts ((hmem cts).mpr ⟨h, h', h''⟩)⟩
  · rintro ⟨hstart, hshared, hnone, hgreatest⟩
    exact ⟨⟨hstart, hshared, hnone⟩, fun cts hcts => by
      obtain ⟨h, h', h''⟩ := (hmem cts).mp hcts
      exact hgreatest cts h h' h''⟩

theorem leadingRun_getLast?_iff (hselected : streamIds ≠ []) :
    (leadingRun session streamIds start).getLast? = some endCts ↔
      start ≤ endCts ∧ Shared (selectedCts session.streams streamIds) endCts ∧
        ¬ RetainsUnshared session streamIds start endCts (streamIds.headD 0) ∧
        ∀ cts, start ≤ cts → Shared (selectedCts session.streams streamIds) cts →
          ¬ RetainsUnshared session streamIds start cts (streamIds.headD 0) → cts ≤ endCts :=
  getLast?_run_iff (headD_mem hselected)

/-- Where every retained source CTS of the range is shared, all streams carry the
same ones. -/
theorem copiedCts_eq_of_shared
    (hshared : ∀ streamId ∈ streamIds, ¬ RetainsUnshared session streamIds start endCts streamId)
    {streamId other : CaptureStreamId} (hid : streamId ∈ streamIds) (hother : other ∈ streamIds) :
    copiedCts session ⟨start, endCts⟩ streamId = copiedCts session ⟨start, endCts⟩ other := by
  have hsub : ∀ first ∈ streamIds, ∀ second ∈ streamIds, ∀ cts,
      cts ∈ copiedCts session ⟨start, endCts⟩ first →
        cts ∈ copiedCts session ⟨start, endCts⟩ second := by
    intro first hfirst second hsecond cts hcts
    obtain ⟨hmem, hstart, hend⟩ := mem_copiedCts.mp hcts
    have hall : Shared (selectedCts session.streams streamIds) cts := by
      by_contra hnot
      exact hshared first hfirst ⟨cts, hmem, hstart, hend, hnot⟩
    exact mem_copiedCts.mpr ⟨shared_selectedCts.mp hall second hsecond, hstart, hend⟩
  exact eq_of_mem_iff (copiedCts_ascending _ _) (copiedCts_ascending _ _)
    (fun cts => ⟨hsub streamId hid other hother cts, hsub other hother streamId hid cts⟩)

/-- Aligned holes stop the walk over the first stream before any of them. -/
theorem HolesAligned.shared (h : HolesAligned session streamIds durationNs)
    (hstart : ReplayStart session streamIds durationNs start)
    (hend : (leadingRun session streamIds start).getLast? = some endCts) :
    ∀ streamId ∈ streamIds, ¬ RetainsUnshared session streamIds start endCts streamId := by
  obtain ⟨hle, hshared, hnone, -⟩ := (leadingRun_getLast?_iff hstart.selected).mp hend
  exact fun streamId hid hretains => hnone
    (h start hstart endCts hle hshared ⟨streamId, hid, hretains⟩ _ (headD_mem hstart.selected))

/-- With aligned holes every order of the ids gives the same end. -/
theorem HolesAligned.end_perm (h : HolesAligned session streamIds durationNs)
    (hstart : ReplayStart session streamIds durationNs start)
    (hend : (leadingRun session streamIds start).getLast? = some endCts)
    {streamIds' : List CaptureStreamId} (hperm : streamIds'.Perm streamIds) :
    (leadingRun session streamIds' start).getLast? = some endCts := by
  have hnone := h.shared hstart hend
  obtain ⟨hle, hshared, -, hgreatest⟩ := (leadingRun_getLast?_iff hstart.selected).mp hend
  have hhead := hperm.mem_iff.mp (headD_mem (hstart.perm hperm).selected)
  have hretains : ∀ cts streamId, RetainsUnshared session streamIds' start cts streamId ↔
      RetainsUnshared session streamIds start cts streamId := fun cts streamId => by
    simp only [RetainsUnshared, shared_perm hperm]
  rw [leadingRun_getLast?_iff (hstart.perm hperm).selected]
  simp only [shared_perm hperm, hretains]
  refine ⟨hle, hshared, hnone _ hhead, fun cts hcts hall hfree => hgreatest cts hcts hall ?_⟩
  exact fun hlead => hfree
    (h start hstart cts hcts hall ⟨_, headD_mem hstart.selected, hlead⟩ _ hhead)

theorem HolesAligned.contract (h : HolesAligned session streamIds durationNs)
    (hkeyed : session.Keyed) (hstart : ReplayStart session streamIds durationNs start)
    (hend : (leadingRun session streamIds start).getLast? = some endCts) :
    CommonRangeContract session streamIds durationNs
      (snapshotRange session.streams streamIds ⟨start, endCts⟩) := by
  have hnone := h.shared hstart hend
  obtain ⟨hle, hshared, -, -⟩ := (leadingRun_getLast?_iff hstart.selected).mp hend
  have hhead := headD_mem hstart.selected
  have hrange : (snapshotRange session.streams streamIds ⟨start, endCts⟩).range =
      ⟨start, endCts⟩ := rfl
  refine ⟨⟨copiedCts session ⟨start, endCts⟩ (streamIds.headD 0), copiedCts_ascending _ _,
    ?_, ?_, ?_, ?_, ?_⟩, ?_, ?_⟩
  · refine (head?_eq_some_iff_least (copiedCts_ascending _ _)).mpr ⟨?_, ?_⟩
    · exact mem_copiedCts.mpr ⟨shared_selectedCts.mp hstart.shared _ hhead, le_rfl, hle⟩
    · exact fun cts hcts => (mem_copiedCts.mp hcts).2.1
  · refine (getLast?_eq_some_iff_greatest (copiedCts_ascending _ _)).mpr ⟨?_, ?_⟩
    · exact mem_copiedCts.mpr ⟨shared_selectedCts.mp hshared _ hhead, hle, le_rfl⟩
    · exact fun cts hcts => (mem_copiedCts.mp hcts).2.2
  · rw [packets_snapshotRange, List.length_map]
  · intro packets hpackets
    rw [packets_snapshotRange] at hpackets
    obtain ⟨streamId, hid, rfl⟩ := List.mem_map.mp hpackets
    rw [hkeyed.map_copied]
    exact copiedCts_eq_of_shared hnone hid hhead
  · intro streamId hid cts hcts hfrom hto
    rw [copiedCts_eq_of_shared hnone hhead hid]
    exact mem_copiedCts.mpr ⟨hcts, hfrom, hto⟩
  · intro packets hpackets
    rw [packets_snapshotRange] at hpackets
    obtain ⟨streamId, hid, rfl⟩ := List.mem_map.mp hpackets
    exact hstart.copied_head? hle hid
  · intro streamIds' hperm
    rw [(snapshot_eq_some_iff hkeyed).mpr
      ⟨start, endCts, hstart.perm hperm, h.end_perm hstart hend hperm, rfl⟩]
    rfl

/-- If the range does not depend on the order of the ids, the walk over any of the
streams finds the end of the range. -/
theorem CommonRangeContract.end_of (hkeyed : session.Keyed)
    (h : CommonRangeContract session streamIds durationNs
      (snapshotRange session.streams streamIds ⟨start, endCts⟩))
    {streamId : CaptureStreamId} (hid : streamId ∈ streamIds) :
    (run (selectedCts session.streams streamIds)
      (retainedCts session.streams streamId) start).getLast? = some endCts := by
  have hperm : (streamId :: streamIds.erase streamId).Perm streamIds :=
    (List.perm_cons_erase hid).symm
  have horder := h.order _ hperm
  obtain ⟨snapshot, hsnapshot, hrange⟩ := Option.map_eq_some_iff.mp horder
  obtain ⟨start', endCts', hstart', hend', rfl⟩ := (snapshot_eq_some_iff hkeyed).mp hsnapshot
  have hsame : (⟨start', endCts'⟩ : ReplayFrameRange) = ⟨start, endCts⟩ := hrange
  obtain ⟨hsamestart, hsameend⟩ := ReplayFrameRange.mk.inj hsame
  rw [hsamestart, hsameend] at hend'
  have hmem : streamId ∈ streamId :: streamIds.erase streamId := List.mem_cons_self
  have hlast := (getLast?_run_iff hmem).mp hend'
  simp only [RetainsUnshared, shared_perm hperm] at hlast
  exact (getLast?_run_iff hid).mpr hlast

theorem holesAligned_of_contract (hkeyed : session.Keyed)
    (h : ∀ snapshot, (session.snapshotCommonRangeDetailed streamIds durationNs).snapshot =
      some snapshot → CommonRangeContract session streamIds durationNs snapshot) :
    HolesAligned session streamIds durationNs := by
  intro start hstart cts hle hshared ⟨streamId, hid, x, hx, hfrom, hto, hnot⟩ other hother
  by_contra hfree
  obtain ⟨endCts, hend, -⟩ := walkEnd_leading (hstart.retaining hkeyed) hstart.shared
  have hcontract := h _ ((snapshot_eq_some_iff hkeyed).mpr ⟨start, endCts, hstart, hend, rfl⟩)
  have hend' := hcontract.end_of hkeyed hother
  have hreach := ((getLast?_run_iff hother).mp hend').2.2.2 cts hle hshared hfree
  -- the unshared source CTS lies in the range, so every stream carries it
  obtain ⟨shared, -, -, -, -, hagree, hall⟩ := hcontract.agree
  have hin := hall streamId hid x hx hfrom (hto.trans hreach)
  refine hnot (shared_selectedCts.mpr (fun third hthird => ?_))
  have hcopied := hagree (copied session ⟨start, endCts⟩ third) (by
    rw [packets_snapshotRange]
    exact List.mem_map_of_mem hthird)
  rw [hkeyed.map_copied] at hcopied
  rw [← hcopied] at hin
  exact (mem_copiedCts.mp hin).1

end Range

/-- In every reachable state, the snapshots of a selection keep the contract of a
common range exactly when the holes of its streams are aligned. -/
theorem common_range_contract_iff {session : SynchronizedCaptureSession}
    (hreachable : session.Reachable) (streamIds : List CaptureStreamId) (durationNs : Nat) :
    (∀ snapshot, (session.snapshotCommonRangeDetailed streamIds durationNs).snapshot =
      some snapshot → CommonRangeContract session streamIds durationNs snapshot) ↔
      HolesAligned session streamIds durationNs := by
  refine ⟨holesAligned_of_contract hreachable.keyed, fun h snapshot hsnapshot => ?_⟩
  obtain ⟨start, endCts, hstart, hend, rfl⟩ :=
    (snapshot_eq_some_iff hreachable.keyed).mp hsnapshot
  exact h.contract hreachable.keyed hstart hend

def replayPacket (cts : Fin 256) (keyframe : Bool) : EncodedPacket where
  sourceCts := cts
  timebaseNum := 1
  timebaseDen := 60
  keyframe := keyframe
  payload := [0]
  sourceCts_lt := byte_lt_uint64Size cts

/-- Two running streams whose rings have taken the packets in this order; the
source CTS 0 is a keyframe. -/
def replaySession (ingested : List (CaptureStreamId × Fin 256)) : SynchronizedCaptureSession :=
  let config : PacketStreamConfig :=
    { width := 16, height := 9, timebaseNum := 1, timebaseDen := 60 }
  Runs.exec step (create 1024)
    ([.registerStream 0 "master" config, .registerStream 1 "scene" config, .start] ++
      ingested.map (fun (streamId, cts) => .ingest streamId (replayPacket cts (cts = 0)) []))

theorem replaySession_reachable (ingested : List (CaptureStreamId × Fin 256)) :
    (replaySession ingested).Reachable :=
  ⟨1024, _, Runs.run_exec _ _⟩

def alignedReplay : SynchronizedCaptureSession :=
  replaySession [(0, 0), (1, 0), (0, 10), (1, 10)]

/-- Stream 0 lacks the source CTS 10. -/
def holedReplay : SynchronizedCaptureSession :=
  replaySession [(0, 0), (1, 0), (1, 10), (0, 20), (1, 20)]

theorem common_range_contract_without_hole :
    ∃ snapshot, (alignedReplay.snapshotCommonRangeDetailed [0, 1] 10).snapshot = some snapshot ∧
      CommonRangeContract alignedReplay [0, 1] 10 snapshot := by
  have hsnapshot : (alignedReplay.snapshotCommonRangeDetailed [0, 1] 10).snapshot =
      some (snapshotRange alignedReplay.streams [0, 1] ⟨0, 10⟩) := by
    decide
  have hshared : ∀ streamId ∈ ([0, 1] : List CaptureStreamId),
      ∀ x ∈ retainedCts alignedReplay.streams streamId,
        Shared (selectedCts alignedReplay.streams [0, 1]) x := by
    rw [List.forall_mem_cons, List.forall_mem_singleton]
    decide
  refine ⟨_, hsnapshot,
    (common_range_contract_iff (replaySession_reachable _) [0, 1] 10).mpr ?_ _ hsnapshot⟩
  rintro start - cts - - ⟨streamId, hid, x, hx, -, -, hnot⟩
  exact absurd (hshared streamId hid x hx) hnot

/-- The walk over stream 0 does not see the packet of stream 1 at 10, and the two
streams of the snapshot differ. -/
theorem range_over_one_sided_hole :
    holedReplay.Reachable ∧ ∃ snapshot,
      (holedReplay.snapshotCommonRangeDetailed [0, 1] 10).snapshot = some snapshot ∧
        ¬ CommonRangeContract holedReplay [0, 1] 10 snapshot := by
  have hsnapshot : (holedReplay.snapshotCommonRangeDetailed [0, 1] 10).snapshot =
      some (snapshotRange holedReplay.streams [0, 1] ⟨0, 20⟩) := by
    decide
  have hlists : (snapshotRange holedReplay.streams [0, 1] ⟨0, 20⟩).packets.map
      (List.map (fun captured => captured.packet.sourceCts)) = [[0, 20], [0, 10, 20]] := by
    decide
  refine ⟨replaySession_reachable _, _, hsnapshot, fun hcontract => ?_⟩
  obtain ⟨shared, -, -, -, -, hagree, -⟩ := hcontract.agree
  have hmem : ∀ l ∈ [[0, 20], [0, 10, 20]], l = shared := fun l hl => by
    rw [← hlists] at hl
    obtain ⟨packets, hpackets, rfl⟩ := List.mem_map.mp hl
    exact hagree packets hpackets
  have hfirst := hmem [0, 20] (by simp)
  have hsecond := hmem [0, 10, 20] (by simp)
  exact absurd (hfirst.trans hsecond.symm) (by decide)

end SynchronizedCaptureSession

end ObsSyncReplay
