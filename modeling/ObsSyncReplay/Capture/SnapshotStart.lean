import ObsSyncReplay.Capture.RangeContract

/-!
When `SnapshotCommonRangeDetailed` returns a snapshot, and where it starts, said of
the window between the greatest first and the least last source CTS of the selected
streams. The function is also written once more with its two scans as the source has
them and with subtractions that refuse to wrap: none of them ever does.
-/

namespace ObsSyncReplay

namespace SynchronizedCaptureSession

open CommonRun AscendingList

section Window

variable (streams : List StreamState) (streamIds : List CaptureStreamId)

/-- `first` is the greatest first, `last` the least last source CTS of the selected
streams. -/
structure Window (first last : Nat) : Prop where
  first : IsGreatest
    {cts | ∃ streamId ∈ streamIds, (retainedCts streams streamId).head? = some cts} first
  last : IsLeast
    {cts | ∃ streamId ∈ streamIds, (retainedCts streams streamId).getLast? = some cts} last

/-- The source CTS of a window that are keyframes in every selected stream. -/
def windowKeyframes (first last : Nat) : Set Nat :=
  {cts | first ≤ cts ∧ cts ≤ last ∧ ∀ streamId ∈ streamIds, ∃ captured,
    (streamAt streams streamId).packets.find? cts = some captured ∧
      captured.packet.keyframe = true}

/-- The greatest keyframe up to the target, or the least one if there is none. -/
def StartRule (keyframes : Set Nat) (target start : Nat) : Prop :=
  IsGreatest {cts ∈ keyframes | cts ≤ target} start ∨
    (∀ cts ∈ keyframes, target < cts) ∧ IsLeast keyframes start

/-- What a selection needs for a snapshot. -/
structure Snapshottable (session : SynchronizedCaptureSession)
    (streamIds : List CaptureStreamId) (durationNs : Nat) : Prop where
  retention : session.replayRetentionEnabled = true
  selected : streamIds ≠ []
  distinct : streamIds.Nodup
  registered : ∀ streamId ∈ streamIds, streamId.toNat < session.streams.length
  retained : ∀ streamId ∈ streamIds, retainedCts session.streams streamId ≠ []
  duration : 0 < durationNs
  window : ∃ first last, Window session.streams streamIds first last ∧ first ≤ last ∧
    durationNs ≤ last - first ∧ (windowKeyframes session.streams streamIds first last).Nonempty

variable {streams streamIds} {first last : Nat}

theorem Window.unique {first' last' : Nat} (h : Window streams streamIds first last)
    (h' : Window streams streamIds first' last') : first = first' ∧ last = last' :=
  ⟨h.first.unique h'.first, h.last.unique h'.last⟩

/-- The two bounds that the code computes are those of the window. -/
theorem Retaining.window (h : Retaining streams streamIds) :
    Window streams streamIds (latestFirst streams streamIds) (earliestLast streams streamIds) := by
  have hhead (streamId : CaptureStreamId) (hid : streamId ∈ streamIds) :
      (retainedCts streams streamId).head? =
        some ((retainedCts streams streamId).head?.getD 0) := by
    obtain ⟨least, hleast⟩ := Option.isSome_iff_exists.mp
      (List.isSome_head?.mpr (h.retained streamId hid))
    rw [hleast, Option.getD_some]
  have hlast (streamId : CaptureStreamId) (hid : streamId ∈ streamIds) :
      (retainedCts streams streamId).getLast? =
        some ((retainedCts streams streamId).getLast?.getD 0) := by
    obtain ⟨greatest, hgreatest⟩ := Option.ne_none_iff_exists'.mp
      (fun hnone => h.retained streamId hid (List.getLast?_eq_none_iff.mp hnone))
    rw [hgreatest, Option.getD_some]
  constructor
  · obtain ⟨⟨streamId, hid, heq⟩, hupper⟩ := isGreatest_foldl_max
      (fun streamId => (retainedCts streams streamId).head?.getD 0) h.selected
      (fun _ _ => Nat.zero_le _)
    refine ⟨⟨streamId, hid, (hhead streamId hid).trans (congrArg some heq)⟩, ?_⟩
    rintro cts ⟨other, hother, hcts⟩
    exact hupper ⟨other, hother, Option.some.inj ((hhead other hother).symm.trans hcts)⟩
  · obtain ⟨⟨streamId, hid, heq⟩, hlower⟩ := isLeast_foldl_min
      (fun streamId => (retainedCts streams streamId).getLast?.getD 0) h.selected
      (fun streamId hid => Nat.le_pred_of_lt
        (h.bounded streamId hid _ (List.mem_of_getLast? (hlast streamId hid))))
    refine ⟨⟨streamId, hid, (hlast streamId hid).trans (congrArg some heq)⟩, ?_⟩
    rintro cts ⟨other, hother, hcts⟩
    exact hlower ⟨other, hother, Option.some.inj ((hlast other hother).symm.trans hcts)⟩

/-- No common keyframe lies outside the window. -/
theorem Retaining.mem_windowKeyframes (h : Retaining streams streamIds) {cts : Nat} :
    cts ∈ windowKeyframes streams streamIds (latestFirst streams streamIds)
      (earliestLast streams streamIds) ↔ allKeyframes streams streamIds cts = true := by
  rw [allKeyframes_iff]
  constructor
  · exact fun hmem => hmem.2.2
  · intro hall
    obtain ⟨hfirst, hlast⟩ :=
      window_of_shared h (shared_of_allKeyframes (allKeyframes_iff.mpr hall))
    exact ⟨hfirst, hlast, hall⟩

end Window

/-! ### Subtractions that refuse to wrap -/

/-- `a - b` on a `uint64_t`, refused where it would wrap. -/
def checkedSub (a b : Nat) : Option Nat := if b ≤ a then some (a - b) else none

section Checked

variable (streams : List StreamState) (streamIds : List CaptureStreamId) (durationNs : Nat)

/-- The test of the window, as the condition evaluates it. -/
def checkedShort (first last : Nat) : Option Bool :=
  if first > last then some true
  else do
    let length ← checkedSub last first
    return length < durationNs

def checkedTarget (first last : Nat) : Option Nat :=
  if last > durationNs then checkedSub last durationNs else some first

/-- What both scans accept: a common keyframe within the window. -/
def scanned (cts : Nat) : Bool :=
  latestFirst streams streamIds ≤ cts ∧ cts ≤ earliestLast streams streamIds ∧
    allKeyframes streams streamIds cts

/-- The first scan, which computes its target at each keyframe. -/
def scanToTarget : List Nat → Option Nat → Option (Option Nat)
  | [], start => some start
  | cts :: rest, start =>
      if !scanned streams streamIds cts then scanToTarget rest start
      else do
        let target ← checkedTarget durationNs (latestFirst streams streamIds)
          (earliestLast streams streamIds)
        scanToTarget rest (if cts ≤ target then some cts else start)

/-- Both scans: the second one only if the first has found nothing. -/
def checkedStart : Option (Option Nat) := do
  let keys := retainedCts streams (streamIds.headD 0)
  match ← scanToTarget streams streamIds durationNs keys none with
  | some start => return some start
  | none => return keys.find? (scanned streams streamIds)

/-- `SnapshotCommonRangeDetailed`, without a result as soon as a subtraction wraps. -/
def snapshotCommonRangeChecked (session : SynchronizedCaptureSession)
    (streamIds : List CaptureStreamId) (durationNs : Nat) : Option ReplaySnapshotAttempt := do
  let streams := session.streams
  if !session.replayRetentionEnabled then return { reason := "replay-retention-disabled" }
  else if streamIds.isEmpty then return { reason := "no-replay-streams" }
  else if durationNs = 0 then return { reason := "invalid-duration" }
  else if !selectable streams streamIds then return { reason := "insufficient-history" }
  else
    let first := latestFirst streams streamIds
    let last := earliestLast streams streamIds
    if ← checkedShort durationNs first last then return { reason := "insufficient-history" }
    else match ← checkedStart streams streamIds durationNs with
      | none => return { reason := "no-common-keyframe" }
      | some start =>
          let endCts := walkEnd streams streamIds start last
            (retainedCts streams (streamIds.headD 0)) start
          if endCts < start then return { reason := "no-common-range" }
          else return { snapshot := some (snapshotRange streams streamIds ⟨start, endCts⟩) }

variable {streams streamIds durationNs} {first last : Nat}

theorem checkedShort_eq :
    checkedShort durationNs first last =
      some (decide (first > last ∨ last - first < durationNs)) := by
  unfold checkedShort checkedSub
  by_cases hcrossed : first > last
  · simp [hcrossed]
  · simp [hcrossed, not_lt.mp hcrossed]

theorem checkedTarget_eq :
    checkedTarget durationNs first last =
      some (if last > durationNs then last - durationNs else first) := by
  unfold checkedTarget checkedSub
  by_cases hlonger : last > durationNs
  · simp [hlonger, hlonger.le]
  · simp [hlonger]

/-- The first scan ends with the last keyframe up to the target. -/
theorem scanToTarget_eq (l : List Nat) (start : Option Nat) :
    scanToTarget streams streamIds durationNs l start =
      some ((((l.filter (scanned streams streamIds)).filter
        (· ≤ if earliestLast streams streamIds > durationNs then
          earliestLast streams streamIds - durationNs
        else latestFirst streams streamIds)).getLast?).or start) := by
  induction l generalizing start with
  | nil => simp [scanToTarget]
  | cons cts rest ih =>
      rw [scanToTarget, checkedTarget_eq]
      generalize (if earliestLast streams streamIds > durationNs then
        earliestLast streams streamIds - durationNs
      else latestFirst streams streamIds) = target at ih ⊢
      by_cases hscanned : scanned streams streamIds cts = true
      · rw [if_neg (by simp [hscanned]), List.filter_cons_of_pos hscanned]
        simp only [Option.bind_eq_bind, Option.bind_some]
        rw [ih]
        by_cases htarget : cts ≤ target
        · rw [if_pos htarget, List.filter_cons_of_pos (by simpa using htarget),
            List.getLast?_cons]
          cases ((rest.filter (scanned streams streamIds)).filter (· ≤ target)).getLast? <;> simp
        · rw [if_neg htarget, List.filter_cons_of_neg (by simpa using htarget)]
      · rw [if_pos (by simpa using hscanned), List.filter_cons_of_neg hscanned, ih]

theorem checkedStart_eq :
    checkedStart streams streamIds durationNs =
      some (selectStart streams streamIds durationNs) := by
  have hkeyframes : (retainedCts streams (streamIds.headD 0)).filter (scanned streams streamIds) =
      commonKeyframes streams streamIds := rfl
  simp only [checkedStart, scanToTarget_eq, Option.or_none, hkeyframes, selectStart,
    ← List.head?_filter]
  generalize ((commonKeyframes streams streamIds).filter _).getLast? = start
  cases start <;> rfl

/-- No subtraction wraps: the checked function always has a result, and it is the
one of `SnapshotCommonRangeDetailed`. -/
theorem snapshotCommonRangeChecked_eq (session : SynchronizedCaptureSession)
    (streamIds : List CaptureStreamId) (durationNs : Nat) :
    session.snapshotCommonRangeChecked streamIds durationNs =
      some (session.snapshotCommonRangeDetailed streamIds durationNs) := by
  unfold snapshotCommonRangeChecked snapshotCommonRangeDetailed
  simp only [checkedShort_eq, checkedStart_eq, Option.bind_eq_bind, Option.bind_some,
    decide_eq_true_eq]
  split_ifs
  · rfl
  · rfl
  · rfl
  · rfl
  · rfl
  · cases selectStart session.streams streamIds durationNs with
    | none => rfl
    | some start =>
        dsimp only
        split_ifs <;> rfl

end Checked

section Start

variable {session : SynchronizedCaptureSession} {streamIds : List CaptureStreamId}
  {durationNs start : Nat}

/-- Common keyframes and a long enough window make a start. -/
theorem Snapshottable.exists_start (h : Snapshottable session streamIds durationNs)
    (hkeyed : session.Keyed) : ∃ start, ReplayStart session streamIds durationNs start := by
  have hretaining := hkeyed.retaining h.selected h.retained
  obtain ⟨first, last, hwindow, horder, hlength, cts, hcts⟩ := h.window
  obtain ⟨rfl, rfl⟩ := hwindow.unique hretaining.window
  have hreach : latestFirst session.streams streamIds + durationNs ≤
      earliestLast session.streams streamIds := by
    omega
  have hmem : cts ∈ commonKeyframes session.streams streamIds :=
    (mem_commonKeyframes hretaining).mpr (hretaining.mem_windowKeyframes.mp hcts)
  obtain ⟨start, hstart⟩ : ∃ start,
      selectStart session.streams streamIds durationNs = some start := by
    apply Option.ne_none_iff_exists'.mp
    intro hnone
    have hhead := (Option.or_eq_none_iff.mp hnone).2
    rw [List.head?_eq_none_iff.mp hhead] at hmem
    cases hmem
  obtain ⟨hkeyframes, hchosen⟩ := (selectStart_eq_some_iff hretaining hreach).mp hstart
  exact ⟨start, h.retention, h.selected, h.distinct, h.registered, h.duration.ne',
    (history_iff hretaining).mp hreach, hkeyframes, hchosen⟩

theorem ReplayStart.snapshottable (h : ReplayStart session streamIds durationNs start)
    (hkeyed : session.Keyed) : Snapshottable session streamIds durationNs := by
  have hretaining := h.retaining hkeyed
  have hreach := (history_iff hretaining).mpr h.history
  refine ⟨h.retention, h.selected, h.distinct, h.registered, hretaining.retained,
    Nat.pos_of_ne_zero h.duration, _, _, hretaining.window, ?_, ?_, start, ?_⟩
  · omega
  · omega
  · exact hretaining.mem_windowKeyframes.mpr h.keyframes

/-- The start that is chosen, said of the window. -/
theorem ReplayStart.startRule (h : ReplayStart session streamIds durationNs start)
    (hretaining : Retaining session.streams streamIds) :
    StartRule (windowKeyframes session.streams streamIds
        (latestFirst session.streams streamIds) (earliestLast session.streams streamIds))
      (earliestLast session.streams streamIds - durationNs) start := by
  have hreach := (history_iff hretaining).mpr h.history
  have hcovered (cts : Nat) : Covered session.streams streamIds durationNs cts ↔
      cts ≤ earliestLast session.streams streamIds - durationNs := by
    rw [covered_iff hretaining]
    omega
  have hstart := hretaining.mem_windowKeyframes.mpr h.keyframes
  rcases h.chosen with ⟨hbefore, hgreatest⟩ | hleast
  · left
    refine ⟨⟨hstart, (hcovered start).mp hbefore⟩, ?_⟩
    rintro cts ⟨hcts, htarget⟩
    exact hgreatest cts (hretaining.mem_windowKeyframes.mp hcts) ((hcovered cts).mpr htarget)
  · right
    refine ⟨fun cts hcts => ?_, hstart, fun cts hcts => ?_⟩
    · have hnot := (hleast cts (hretaining.mem_windowKeyframes.mp hcts)).1
      rw [hcovered] at hnot
      omega
    · exact (hleast cts (hretaining.mem_windowKeyframes.mp hcts)).2

/-- In every reachable session, a snapshot is returned exactly for a selection that
is snapshottable, it starts by the rule, and no subtraction on the way wraps. -/
theorem snapshot_common_range (hreachable : session.Reachable)
    (streamIds : List CaptureStreamId) (durationNs : Nat) :
    ((∃ snapshot, (session.snapshotCommonRangeDetailed streamIds durationNs).snapshot =
        some snapshot) ↔ Snapshottable session streamIds durationNs) ∧
    (∀ snapshot, (session.snapshotCommonRangeDetailed streamIds durationNs).snapshot =
        some snapshot → ∀ first last, Window session.streams streamIds first last →
      StartRule (windowKeyframes session.streams streamIds first last) (last - durationNs)
        snapshot.range.startCts) ∧
    session.snapshotCommonRangeChecked streamIds durationNs =
      some (session.snapshotCommonRangeDetailed streamIds durationNs) := by
  have hkeyed := hreachable.keyed
  refine ⟨⟨?_, ?_⟩, ?_, snapshotCommonRangeChecked_eq session streamIds durationNs⟩
  · rintro ⟨snapshot, hsnapshot⟩
    obtain ⟨start, _, hstart, _, _⟩ := (snapshot_eq_some_iff hkeyed).mp hsnapshot
    exact hstart.snapshottable hkeyed
  · intro h
    obtain ⟨start, hstart⟩ := h.exists_start hkeyed
    obtain ⟨endCts, hend, _, _⟩ := walkEnd_leading (hstart.retaining hkeyed) hstart.shared
    exact ⟨_, (snapshot_eq_some_iff hkeyed).mpr ⟨start, endCts, hstart, hend, rfl⟩⟩
  · intro snapshot hsnapshot first last hwindow
    obtain ⟨start, _, hstart, _, rfl⟩ := (snapshot_eq_some_iff hkeyed).mp hsnapshot
    have hretaining := hstart.retaining hkeyed
    obtain ⟨rfl, rfl⟩ := hwindow.unique hretaining.window
    exact hstart.startRule hretaining

/-- The history of two streams that ends at 10 covers a duration of 10 and none of 11. -/
theorem snapshot_common_range_aligned :
    Snapshottable alignedReplay [0, 1] 10 ∧ ¬ Snapshottable alignedReplay [0, 1] 11 ∧
      alignedReplay.snapshotCommonRangeChecked [1, 0] 10 =
        some (alignedReplay.snapshotCommonRangeDetailed [1, 0] 10) := by
  have hreachable : alignedReplay.Reachable := replaySession_reachable _
  refine ⟨(snapshot_common_range hreachable [0, 1] 10).1.mp ?_, fun h => ?_,
    (snapshot_common_range hreachable [1, 0] 10).2.2⟩
  · exact Option.isSome_iff_exists.mp (by decide)
  · have hsome := Option.isSome_iff_exists.mpr
      ((snapshot_common_range hreachable [0, 1] 11).1.mpr h)
    exact absurd hsome (by decide)

end Start

end SynchronizedCaptureSession

end ObsSyncReplay
