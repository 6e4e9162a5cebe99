import ObsSyncReplay.Capture.CaptureRuns
import ObsSyncReplay.Lib.CommonRun

/-!
Which snapshot `SnapshotCommonRangeDetailed` returns. The window in which it looks
for keyframes never excludes a shared one, so its start and its end can be described
by what the selected streams retain, without the bounds that the code computes.
-/

namespace ObsSyncReplay

namespace SynchronizedCaptureSession

open CommonRun AscendingList

section Selection

variable {streams : List StreamState} {streamIds : List CaptureStreamId}

/-- The source CTS that each selected stream retains. -/
def selectedCts (streams : List StreamState) (streamIds : List CaptureStreamId) :
    List (List Nat) :=
  streamIds.map (retainedCts streams)

theorem retainedCts_ascending (streamId : CaptureStreamId) :
    (retainedCts streams streamId).Pairwise (· < ·) :=
  OrderedMap.keys_ascending _

theorem shared_selectedCts {cts : Nat} :
    Shared (selectedCts streams streamIds) cts ↔
      ∀ streamId ∈ streamIds, cts ∈ retainedCts streams streamId := by
  simp [Shared, selectedCts]

theorem containsAll_iff {cts : Nat} :
    containsAll streams streamIds cts = true ↔ Shared (selectedCts streams streamIds) cts := by
  rw [shared_selectedCts, containsAll, List.all_eq_true]
  exact forall₂_congr (fun _ _ => OrderedMap.contains_iff)

theorem allKeyframes_iff {cts : Nat} :
    allKeyframes streams streamIds cts = true ↔
      ∀ streamId ∈ streamIds, ∃ captured,
        (streamAt streams streamId).packets.find? cts = some captured ∧
          captured.packet.keyframe = true := by
  simp [allKeyframes, Option.any_eq_true]

theorem shared_of_allKeyframes {cts : Nat} (h : allKeyframes streams streamIds cts = true) :
    Shared (selectedCts streams streamIds) cts := by
  refine shared_selectedCts.mpr (fun streamId hid => ?_)
  obtain ⟨captured, hfind, -⟩ := allKeyframes_iff.mp h streamId hid
  exact OrderedMap.mem_keys_of_find? hfind

theorem nodup_iff_not_mem_take {α : Type*} {l : List α} :
    l.Nodup ↔ ∀ x index, l[index]? = some x → x ∉ l.take index := by
  rw [List.nodup_iff_pairwise_ne, List.pairwise_iff_getElem]
  constructor
  · intro h x index hindex hmem
    obtain ⟨hlt, rfl⟩ := List.getElem?_eq_some_iff.mp hindex
    obtain ⟨earlier, hearlier, heq⟩ := List.mem_take_iff_getElem.mp hmem
    exact h earlier index (by omega) hlt (by omega) heq
  · intro h earlier index hearlier hlt hlt' heq
    refine h l[index] index (List.getElem?_eq_getElem hlt) ?_
    exact List.mem_take_iff_getElem.mpr ⟨earlier, by omega, heq⟩

/-- The check made on the ids: they are distinct, known, and have packets. -/
theorem selectable_iff :
    selectable streams streamIds = true ↔
      streamIds.Nodup ∧ (∀ streamId ∈ streamIds, streamId.toNat < streams.length) ∧
        ∀ streamId ∈ streamIds, retainedCts streams streamId ≠ [] := by
  have hempty : ∀ streamId, (streamAt streams streamId).packets.isEmpty = false ↔
      retainedCts streams streamId ≠ [] := fun streamId => by
    simp [retainedCts, OrderedMap.isEmpty, OrderedMap.keys]
  simp only [selectable, List.all_eq_true, List.mem_zipIdx_iff_getElem?, decide_eq_true_eq,
    Prod.forall, Bool.not_eq_true', hempty]
  constructor
  · intro h
    refine ⟨?_, fun streamId hid => ?_, fun streamId hid => ?_⟩
    · exact nodup_iff_not_mem_take.mpr (fun streamId index hindex => (h streamId index hindex).2.1)
    · obtain ⟨index, hindex⟩ := List.mem_iff_getElem?.mp hid
      exact (h streamId index hindex).1
    · obtain ⟨index, hindex⟩ := List.mem_iff_getElem?.mp hid
      exact (h streamId index hindex).2.2
  · rintro ⟨hnodup, hregistered, hretained⟩ streamId index hindex
    have hid := List.mem_of_getElem? hindex
    exact ⟨hregistered streamId hid, nodup_iff_not_mem_take.mp hnodup streamId index hindex,
      hretained streamId hid⟩

theorem headD_mem (hselected : streamIds ≠ []) : streamIds.headD 0 ∈ streamIds := by
  obtain ⟨streamId, rest, rfl⟩ := List.exists_cons_of_ne_nil hselected
  exact List.mem_cons_self

/-- Every selected stream retains something, and nothing beyond a `uint64_t`. -/
structure Retaining (streams : List StreamState) (streamIds : List CaptureStreamId) :
    Prop where
  selected : streamIds ≠ []
  retained : ∀ streamId ∈ streamIds, retainedCts streams streamId ≠ []
  bounded : ∀ streamId ∈ streamIds, ∀ cts ∈ retainedCts streams streamId, cts < uint64Size

/-- Every selected stream retains a packet that is at least the duration after `cts`. -/
def Covered (streams : List StreamState) (streamIds : List CaptureStreamId)
    (durationNs cts : Nat) : Prop :=
  ∀ streamId ∈ streamIds, ∃ last ∈ retainedCts streams streamId, cts + durationNs ≤ last

theorem latestFirst_le_iff (h : Retaining streams streamIds) {bound : Nat} :
    latestFirst streams streamIds ≤ bound ↔
      ∀ streamId ∈ streamIds, ∃ first ∈ retainedCts streams streamId, first ≤ bound := by
  rw [latestFirst, foldl_max_le_iff]
  refine (and_iff_right (Nat.zero_le bound)).trans (forall₂_congr fun streamId hid => ?_)
  exact head?_getD_le_iff (retainedCts_ascending streamId) (h.retained streamId hid)

theorem le_earliestLast_iff (h : Retaining streams streamIds) {bound : Nat} :
    bound ≤ earliestLast streams streamIds ↔
      ∀ streamId ∈ streamIds, ∃ last ∈ retainedCts streams streamId, bound ≤ last := by
  rw [earliestLast, le_foldl_min_iff]
  have hlast : (∀ streamId ∈ streamIds,
      bound ≤ (retainedCts streams streamId).getLast?.getD 0) ↔
      ∀ streamId ∈ streamIds, ∃ last ∈ retainedCts streams streamId, bound ≤ last :=
    forall₂_congr fun streamId hid =>
      le_getLast?_getD_iff (retainedCts_ascending streamId) (h.retained streamId hid)
  rw [hlast]
  refine ⟨And.right, fun hall => ⟨?_, hall⟩⟩
  obtain ⟨streamId, hid⟩ := List.exists_mem_of_ne_nil _ h.selected
  obtain ⟨last, hmem, hle⟩ := hall streamId hid
  have := h.bounded streamId hid last hmem
  omega

theorem covered_iff (h : Retaining streams streamIds) {durationNs cts : Nat} :
    Covered streams streamIds durationNs cts ↔
      cts + durationNs ≤ earliestLast streams streamIds :=
  (le_earliestLast_iff h).symm

/-- A shared source CTS lies in the window. -/
theorem window_of_shared (h : Retaining streams streamIds) {cts : Nat}
    (hshared : Shared (selectedCts streams streamIds) cts) :
    latestFirst streams streamIds ≤ cts ∧ cts ≤ earliestLast streams streamIds := by
  have hall := shared_selectedCts.mp hshared
  exact ⟨(latestFirst_le_iff h).mpr (fun streamId hid => ⟨cts, hall streamId hid, le_rfl⟩),
    (le_earliestLast_iff h).mpr (fun streamId hid => ⟨cts, hall streamId hid, le_rfl⟩)⟩

/-- The history reaches over the duration: what the window test asks for. -/
theorem history_iff (h : Retaining streams streamIds) {durationNs : Nat} :
    latestFirst streams streamIds + durationNs ≤ earliestLast streams streamIds ↔
      ∀ streamId ∈ streamIds, ∃ first ∈ retainedCts streams streamId,
        Covered streams streamIds durationNs first := by
  constructor
  · intro hwindow streamId hid
    obtain ⟨first, hmem, hle⟩ := (latestFirst_le_iff h).mp le_rfl streamId hid
    exact ⟨first, hmem, (covered_iff h).mpr (by omega)⟩
  · intro hall
    obtain ⟨streamId, hid⟩ := List.exists_mem_of_ne_nil _ h.selected
    obtain ⟨first, -, hcovered⟩ := hall streamId hid
    have hduration := (covered_iff h).mp hcovered
    have hlatest : latestFirst streams streamIds ≤
        earliestLast streams streamIds - durationNs := by
      refine (latestFirst_le_iff h).mpr (fun other hother => ?_)
      obtain ⟨first', hmem, hcovered'⟩ := hall other hother
      have := (covered_iff h).mp hcovered'
      exact ⟨first', hmem, by omega⟩
    omega

/-- `start` is the last common keyframe that the history covers for the
duration, or the first common keyframe if there is none. -/
def ChosenStart (streams : List StreamState) (streamIds : List CaptureStreamId)
    (durationNs start : Nat) : Prop :=
  (Covered streams streamIds durationNs start ∧
    ∀ cts, allKeyframes streams streamIds cts = true →
      Covered streams streamIds durationNs cts → cts ≤ start) ∨
  ∀ cts, allKeyframes streams streamIds cts = true →
    ¬ Covered streams streamIds durationNs cts ∧ start ≤ cts

theorem mem_commonKeyframes (h : Retaining streams streamIds) {cts : Nat} :
    cts ∈ commonKeyframes streams streamIds ↔ allKeyframes streams streamIds cts = true := by
  simp only [commonKeyframes, List.mem_filter, decide_eq_true_eq]
  refine ⟨fun hmem => hmem.2.2.2, fun hkeyframes => ?_⟩
  have hshared := shared_of_allKeyframes hkeyframes
  obtain ⟨hfirst, hlast⟩ := window_of_shared h hshared
  refine ⟨?_, hfirst, hlast, hkeyframes⟩
  exact shared_selectedCts.mp hshared _ (headD_mem h.selected)

theorem selectStart_eq_some_iff (h : Retaining streams streamIds) {durationNs start : Nat}
    (hhistory : latestFirst streams streamIds + durationNs ≤ earliestLast streams streamIds) :
    selectStart streams streamIds durationNs = some start ↔
      allKeyframes streams streamIds start = true ∧
        ChosenStart streams streamIds durationNs start := by
  have hascending : (commonKeyframes streams streamIds).Pairwise (· < ·) :=
    (retainedCts_ascending _).filter _
  have htarget : (if earliestLast streams streamIds > durationNs then
      earliestLast streams streamIds - durationNs else latestFirst streams streamIds) =
      earliestLast streams streamIds - durationNs := by
    split_ifs <;> omega
  have hmem : ∀ cts, cts ∈ (commonKeyframes streams streamIds).filter
      (· ≤ earliestLast streams streamIds - durationNs) ↔
      allKeyframes streams streamIds cts = true ∧
        Covered streams streamIds durationNs cts := fun cts => by
    rw [List.mem_filter, mem_commonKeyframes h, covered_iff h, decide_eq_true_eq]
    exact and_congr_right fun _ => by omega
  simp only [selectStart, htarget]
  cases hlast : ((commonKeyframes streams streamIds).filter
      (· ≤ earliestLast streams streamIds - durationNs)).getLast? with
  | some last =>
      obtain ⟨hin, hgreatest⟩ := (getLast?_eq_some_iff_greatest (hascending.filter _)).mp hlast
      obtain ⟨hkeyframes, hcovered⟩ := (hmem last).mp hin
      simp only [Option.some_or, Option.some.injEq]
      constructor
      · rintro rfl
        exact ⟨hkeyframes, Or.inl ⟨hcovered, fun cts hcts hcov =>
          hgreatest cts ((hmem cts).mpr ⟨hcts, hcov⟩)⟩⟩
      · rintro ⟨hstart, ⟨hcov, hmax⟩ | hnone⟩
        · exact le_antisymm (hmax last hkeyframes hcovered)
            (hgreatest start ((hmem start).mpr ⟨hstart, hcov⟩))
        · exact absurd hcovered (hnone last hkeyframes).1
  | none =>
      have hnone : ∀ cts, allKeyframes streams streamIds cts = true →
          ¬ Covered streams streamIds durationNs cts := fun cts hcts hcov => by
        have hin := (hmem cts).mpr ⟨hcts, hcov⟩
        rw [List.getLast?_eq_none_iff.mp hlast] at hin
        cases hin
      rw [Option.none_or, head?_eq_some_iff_least hascending, mem_commonKeyframes h]
      refine and_congr_right fun hstart => ?_
      constructor
      · exact fun hleast => Or.inr fun cts hcts =>
          ⟨hnone cts hcts, hleast cts ((mem_commonKeyframes h).mpr hcts)⟩
      · rintro (⟨hcov, -⟩ | hleast) cts hcts
        · exact absurd hcov (hnone start hstart)
        · exact (hleast cts ((mem_commonKeyframes h).mp hcts)).2

theorem walkEnd_eq (start last endCts : Nat) (l : List Nat) :
    walkEnd streams streamIds start last l endCts =
      (((l.filter (fun cts => start ≤ cts ∧ cts ≤ last)).takeWhile
        (containsAll streams streamIds)).getLast?).getD endCts := by
  induction l generalizing endCts with
  | nil => rfl
  | cons cts rest ih =>
      by_cases hout : cts < start ∨ cts > last
      · have hskip : ¬ (start ≤ cts ∧ cts ≤ last) := by omega
        rw [walkEnd, if_pos hout, ih, List.filter_cons_of_neg (by simpa using hskip)]
      · have hkeep : start ≤ cts ∧ cts ≤ last := by omega
        rw [walkEnd, if_neg hout, List.filter_cons_of_pos (by simpa using hkeep)]
        by_cases hall : containsAll streams streamIds cts = true
        · rw [if_pos hall, ih, List.takeWhile_cons_of_pos hall, List.getLast?_cons,
            Option.getD_some]
        · rw [if_neg hall, List.takeWhile_cons_of_neg hall]
          rfl

/-- The walk ends at the last element of the run that the streams share. -/
theorem walkEnd_eq_run (h : Retaining streams streamIds) (streamId : CaptureStreamId)
    (start : Nat) :
    walkEnd streams streamIds start (earliestLast streams streamIds)
        (retainedCts streams streamId) start =
      ((run (selectedCts streams streamIds) (retainedCts streams streamId) start).getLast?).getD
        start := by
  have hl : (retainedCts streams streamId).Pairwise (· < ·) := retainedCts_ascending streamId
  have hsame : ((retainedCts streams streamId).filter
      (fun cts => start ≤ cts ∧ cts ≤ earliestLast streams streamIds)).takeWhile
        (containsAll streams streamIds) =
      run (selectedCts streams streamIds) (retainedCts streams streamId) start := by
    refine eq_of_mem_iff ((hl.filter _).sublist (List.takeWhile_sublist _))
      (run_ascending hl) (fun y => ?_)
    rw [mem_run hl, mem_takeWhile_iff (hl.filter _)]
    simp only [List.mem_filter, decide_eq_true_eq, containsAll_iff]
    constructor
    · rintro ⟨⟨hmem, hstart, hlast⟩, hall⟩
      exact ⟨hmem, hstart, fun x hx hx' hle => hall x ⟨hx, hx', hle.trans hlast⟩ hle⟩
    · rintro ⟨hmem, hstart, hall⟩
      exact ⟨⟨hmem, hstart, (window_of_shared h (hall y hmem hstart le_rfl)).2⟩,
        fun x ⟨hx, hx', _⟩ hle => hall x hx hx' hle⟩
  rw [walkEnd_eq, hsame]

end Selection

section Snapshot

variable {session : SynchronizedCaptureSession} {streamIds : List CaptureStreamId}
  {durationNs : Nat}

/-- What a snapshot that starts at `start` asks of the session: the retention is
on, the ids are distinct and known, every selected stream's history reaches over
the duration, and the start is chosen among the common keyframes. -/
structure ReplayStart (session : SynchronizedCaptureSession) (streamIds : List CaptureStreamId)
    (durationNs start : Nat) : Prop where
  retention : session.replayRetentionEnabled = true
  selected : streamIds ≠ []
  distinct : streamIds.Nodup
  registered : ∀ streamId ∈ streamIds, streamId.toNat < session.streams.length
  duration : durationNs ≠ 0
  history : ∀ streamId ∈ streamIds, ∃ first ∈ retainedCts session.streams streamId,
    Covered session.streams streamIds durationNs first
  keyframes : allKeyframes session.streams streamIds start = true
  chosen : ChosenStart session.streams streamIds durationNs start

theorem Keyed.stream (h : session.Keyed) (streamId : CaptureStreamId) :
    (streamAt session.streams streamId).Keyed := by
  unfold streamAt
  rw [List.getD_eq_getElem?_getD]
  cases hget : session.streams[streamId.toNat]? with
  | none => simp [StreamState.Keyed]
  | some stream => exact h stream (List.mem_of_getElem? hget)

theorem Keyed.retainedCts_lt (h : session.Keyed) {streamId : CaptureStreamId} {cts : Nat}
    (hcts : cts ∈ retainedCts session.streams streamId) : cts < uint64Size := by
  obtain ⟨captured, hmem⟩ := OrderedMap.mem_keys.mp hcts
  rw [show cts = captured.packet.sourceCts from h.stream streamId _ hmem]
  exact captured.packet.sourceCts_lt

theorem Keyed.retaining (h : session.Keyed) (hselected : streamIds ≠ [])
    (hretained : ∀ streamId ∈ streamIds, retainedCts session.streams streamId ≠ []) :
    Retaining session.streams streamIds :=
  ⟨hselected, hretained, fun _ _ _ hcts => h.retainedCts_lt hcts⟩

theorem ReplayStart.retaining {start : Nat} (h : ReplayStart session streamIds durationNs start)
    (hkeyed : session.Keyed) : Retaining session.streams streamIds :=
  hkeyed.retaining h.selected (fun streamId hid => by
    obtain ⟨first, hfirst, -⟩ := h.history streamId hid
    exact List.ne_nil_of_mem hfirst)

theorem ReplayStart.shared {start : Nat} (h : ReplayStart session streamIds durationNs start) :
    Shared (selectedCts session.streams streamIds) start :=
  shared_of_allKeyframes h.keyframes

/-- The run that the streams share, walked along the first selected one. -/
def leadingRun (session : SynchronizedCaptureSession) (streamIds : List CaptureStreamId)
    (start : Nat) : List Nat :=
  run (selectedCts session.streams streamIds)
    (retainedCts session.streams (streamIds.headD 0)) start

theorem start_mem_leadingRun (hselected : streamIds ≠ []) {start : Nat}
    (hshared : Shared (selectedCts session.streams streamIds) start) :
    start ∈ leadingRun session streamIds start :=
  List.mem_of_head? (head?_run (retainedCts_ascending _)
    (shared_selectedCts.mp hshared _ (headD_mem hselected)) hshared)

theorem walkEnd_leading (h : Retaining session.streams streamIds) {start : Nat}
    (hshared : Shared (selectedCts session.streams streamIds) start) :
    ∃ endCts, (leadingRun session streamIds start).getLast? = some endCts ∧ start ≤ endCts ∧
      walkEnd session.streams streamIds start (earliestLast session.streams streamIds)
        (retainedCts session.streams (streamIds.headD 0)) start = endCts := by
  have hstart := start_mem_leadingRun h.selected hshared
  obtain ⟨endCts, hend⟩ := Option.ne_none_iff_exists'.mp
    (fun hnone => List.ne_nil_of_mem hstart (List.getLast?_eq_none_iff.mp hnone))
  refine ⟨endCts, hend, le_getLast? (run_ascending (retainedCts_ascending _)) hstart hend, ?_⟩
  rw [walkEnd_eq_run h]
  change ((leadingRun session streamIds start).getLast?).getD start = endCts
  rw [hend, Option.getD_some]

/-- A snapshot is returned exactly when there is a start, and it ends where the
shared run of the first selected stream ends. -/
theorem snapshot_eq_some_iff (hkeyed : session.Keyed) {snapshot : ReplaySnapshot} :
    (session.snapshotCommonRangeDetailed streamIds durationNs).snapshot = some snapshot ↔
      ∃ start endCts, ReplayStart session streamIds durationNs start ∧
        (leadingRun session streamIds start).getLast? = some endCts ∧
        snapshot = snapshotRange session.streams streamIds ⟨start, endCts⟩ := by
  constructor
  · intro h
    unfold snapshotCommonRangeDetailed at h
    dsimp only at h
    split_ifs at h with hretention hselected hduration hselectable hwindow
    cases hstart : selectStart session.streams streamIds durationNs with
    | none => rw [hstart] at h; cases h
    | some start =>
        rw [hstart] at h
        dsimp only at h
        split_ifs at h with horder
        obtain ⟨hdistinct, hregistered, hretained⟩ :=
          selectable_iff.mp (by simpa using hselectable)
        have hne : streamIds ≠ [] := fun hnil => hselected (by rw [hnil]; rfl)
        have hretaining := hkeyed.retaining hne hretained
        have hreach : latestFirst session.streams streamIds + durationNs ≤
            earliestLast session.streams streamIds := by omega
        obtain ⟨hkeyframes, hchosen⟩ := (selectStart_eq_some_iff hretaining hreach).mp hstart
        obtain ⟨endCts, hend, -, hwalk⟩ :=
          walkEnd_leading hretaining (shared_of_allKeyframes hkeyframes)
        refine ⟨start, endCts, ⟨by simpa using hretention, hne, hdistinct, hregistered,
          hduration, (history_iff hretaining).mp hreach, hkeyframes, hchosen⟩, hend, ?_⟩
        rw [← hwalk]
        exact (Option.some.inj h).symm
  · rintro ⟨start, endCts, hstart, hend, rfl⟩
    have hretaining := hstart.retaining hkeyed
    have hreach := (history_iff hretaining).mpr hstart.history
    have hselect := (selectStart_eq_some_iff hretaining hreach).mpr
      ⟨hstart.keyframes, hstart.chosen⟩
    have hselectable : selectable session.streams streamIds = true :=
      selectable_iff.mpr ⟨hstart.distinct, hstart.registered, hretaining.retained⟩
    obtain ⟨endCts', hend', hle, hwalk⟩ := walkEnd_leading hretaining hstart.shared
    obtain rfl : endCts' = endCts := Option.some.inj (hend'.symm.trans hend)
    have hempty : streamIds.isEmpty = false := List.isEmpty_eq_false_iff.mpr hstart.selected
    unfold snapshotCommonRangeDetailed
    simp only [hstart.retention, hempty, hselectable, hselect, hwalk, Bool.not_true,
      Bool.false_eq_true, if_false, if_neg hstart.duration]
    rw [if_neg (by omega), if_neg (by omega)]

end Snapshot

end SynchronizedCaptureSession

end ObsSyncReplay
