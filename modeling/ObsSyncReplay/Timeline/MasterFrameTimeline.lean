import ObsSyncReplay.Lib.AscendingList
import ObsSyncReplay.Lib.Traces
import ObsSyncReplay.Lib.Runs
import Mathlib.Data.List.DropRight

/-!
`timeline/master-frame-timeline`: the issuer of the master frames. Ids count up in 64 bits; the
last one is remembered by a flag, so that the count does not wrap. From one `Reset` to the next
the ids are 0, 1, 2 and so on, and the time stamps ascend.
-/

namespace ObsSyncReplay

abbrev MasterFrameId := UInt64

abbrev MasterFramePts := UInt64

structure MasterFrame where
  frameId : MasterFrameId
  ptsNs : MasterFramePts
deriving DecidableEq, Repr

inductive MasterFrameObservationResult where
  | accepted
  | nonMonotonicPts
  | frameIdExhausted
deriving DecidableEq, Repr

/-- `std::numeric_limits<MasterFrameId>::max()`. -/
def maxFrameId : MasterFrameId := 0xFFFFFFFFFFFFFFFF

structure MasterFrameTimeline where
  nextFrameId : MasterFrameId := 0
  lastPtsNs : Option MasterFramePts := none
  frameIdExhausted : Bool := false
deriving DecidableEq

namespace MasterFrameTimeline

/-- `frame` is what the caller's reference holds, before and after. -/
def observe (timeline : MasterFrameTimeline) (ptsNs : MasterFramePts) (frame : Option MasterFrame) :
    (MasterFrameObservationResult × Option MasterFrame) × MasterFrameTimeline :=
  if timeline.frameIdExhausted then ((.frameIdExhausted, frame), timeline)
  else if timeline.lastPtsNs.any (fun lastPtsNs => ptsNs ≤ lastPtsNs) then
    ((.nonMonotonicPts, frame), timeline)
  else
    ((.accepted, some ⟨timeline.nextFrameId, ptsNs⟩),
      if timeline.nextFrameId = maxFrameId then
        { timeline with lastPtsNs := some ptsNs, frameIdExhausted := true }
      else
        { timeline with lastPtsNs := some ptsNs, nextFrameId := timeline.nextFrameId + 1 })

def reset (_ : MasterFrameTimeline) : MasterFrameTimeline := {}

inductive Call where
  | observe (ptsNs : MasterFramePts) (frame : Option MasterFrame)
  | reset
deriving DecidableEq

/-- `result` and the frame that the caller is left with. -/
inductive Answer where
  | observed (result : MasterFrameObservationResult) (frame : Option MasterFrame)
  | done
deriving DecidableEq

def step (timeline : MasterFrameTimeline) : Call → Answer × MasterFrameTimeline
  | .observe ptsNs frame =>
      let ((result, frame), timeline) := timeline.observe ptsNs frame
      (.observed result frame, timeline)
  | .reset => (.done, timeline.reset)

abbrev Transition := Runs.Transition MasterFrameTimeline Call Answer

/-- What has happened since the last `Reset`. -/
def sinceReset (past : List Transition) : List Transition :=
  past.rtakeWhile (fun t => t.input ≠ .reset)

/-- The frame that an accepted `Observe` has left the caller with. -/
def acceptedFrame (t : Transition) : Option MasterFrame :=
  match t.output with
  | .observed .accepted frame => frame
  | _ => none

/-- The time stamp that an accepted `Observe` was given. -/
def acceptedPts (t : Transition) : Option MasterFramePts :=
  match t.input, t.output with
  | .observe ptsNs _, .observed .accepted _ => some ptsNs
  | _, _ => none

/-- The frames that have been issued since the last `Reset`. -/
def issued (past : List Transition) : List MasterFrame :=
  (sinceReset past).filterMap acceptedFrame

def observedPts (past : List Transition) : List MasterFramePts :=
  (sinceReset past).filterMap acceptedPts

/-- The frames since the last `Reset` are numbered from 0, and have the time stamps that were
observed, which ascend. -/
structure IssuesInOrder (past : List Transition) : Prop where
  ids : (issued past).map (fun frame => frame.frameId.toNat) = List.range (issued past).length
  observed : (issued past).map MasterFrame.ptsNs = observedPts past
  ascending : (observedPts past).Pairwise (· < ·)

/-- An `Observe` that is not accepted changes nothing. -/
def Undisturbed (t : Transition) : Prop :=
  ∀ ptsNs frame result frame', t.input = .observe ptsNs frame → t.output = .observed result frame' →
    result ≠ .accepted → t.after = t.before ∧ frame' = frame

/-- Once the last id has been issued, an `Observe` is refused for that. -/
def RefusesExhausted (before : List Transition) (t : Transition) : Prop :=
  (∃ frame ∈ issued before, frame.frameId = maxFrameId) →
    ∀ ptsNs frame, t.input = .observe ptsNs frame → t.output = .observed .frameIdExhausted frame

variable {timeline : MasterFrameTimeline} {past : List Transition}

theorem sinceReset_reset {t : Transition} (h : t.input = .reset) :
    sinceReset (past ++ [t]) = [] := by
  simp [sinceReset, h]

theorem sinceReset_observe {t : Transition} (h : t.input ≠ .reset) :
    sinceReset (past ++ [t]) = sinceReset past ++ [t] := by
  simp [sinceReset, h]

theorem toNat_succ {frameId : MasterFrameId} (h : frameId ≠ maxFrameId) :
    (frameId + 1).toNat = frameId.toNat + 1 := by
  have hne : frameId.toNat ≠ 18446744073709551615 := fun hmax => h (UInt64.toNat_inj.mp hmax)
  have hlt := frameId.toNat_lt
  rw [UInt64.toNat_add, UInt64.toNat_one]
  omega

/-- An `Observe` issues the next frame, or is refused without effect. -/
theorem observe_cases (timeline : MasterFrameTimeline) (ptsNs : MasterFramePts)
    (frame : Option MasterFrame) :
    (timeline.frameIdExhausted = true ∧
      timeline.observe ptsNs frame = ((.frameIdExhausted, frame), timeline)) ∨
    (timeline.frameIdExhausted = false ∧ (∃ lastPtsNs ∈ timeline.lastPtsNs, ptsNs ≤ lastPtsNs) ∧
      timeline.observe ptsNs frame = ((.nonMonotonicPts, frame), timeline)) ∨
    (timeline.frameIdExhausted = false ∧ (∀ lastPtsNs ∈ timeline.lastPtsNs, lastPtsNs < ptsNs) ∧
      ∃ timeline', timeline.observe ptsNs frame =
          ((.accepted, some ⟨timeline.nextFrameId, ptsNs⟩), timeline') ∧
        timeline'.lastPtsNs = some ptsNs ∧
        (timeline'.frameIdExhausted = true ↔ timeline.nextFrameId = maxFrameId) ∧
        (timeline.nextFrameId ≠ maxFrameId →
          timeline'.nextFrameId = timeline.nextFrameId + 1)) := by
  unfold observe
  split_ifs with hexhausted hearly hlast
  · exact Or.inl ⟨hexhausted, rfl⟩
  · refine Or.inr (Or.inl ⟨by simpa using hexhausted, ?_, rfl⟩)
    cases hlastPts : timeline.lastPtsNs with
    | none => simp [hlastPts] at hearly
    | some lastPtsNs => exact ⟨lastPtsNs, rfl, by simpa [hlastPts] using hearly⟩
  all_goals
    have hlater : ∀ lastPtsNs ∈ timeline.lastPtsNs, lastPtsNs < ptsNs := by
      intro lastPtsNs hlastPts
      have hsome : timeline.lastPtsNs = some lastPtsNs := hlastPts
      simpa [hsome] using hearly
    refine Or.inr (Or.inr ⟨by simpa using hexhausted, hlater, _, rfl, rfl, ?_, ?_⟩)
  · simp [hlast]
  · exact fun hne => absurd hlast hne
  · simp [hlast, hexhausted]
  · exact fun _ => rfl

theorem le_lastPts {pts : List MasterFramePts} (hascending : pts.Pairwise (· < ·))
    {earlier last : MasterFramePts} (hearlier : earlier ∈ pts) (hlast : pts.getLast? = some last) :
    earlier ≤ last := by
  have hnumbers : (pts.map UInt64.toNat).Pairwise (· < ·) :=
    List.pairwise_map.mpr (hascending.imp UInt64.lt_iff_toNat_lt.mp)
  rw [UInt64.le_iff_toNat_le]
  apply AscendingList.le_getLast? hnumbers (List.mem_map_of_mem hearlier)
  rw [List.getLast?_map, hlast]
  rfl

/-- The timeline knows the last time stamp, and the number of issued frames until the ids are
exhausted. -/
structure Counts (past : List Transition) (timeline : MasterFrameTimeline) : Prop where
  inOrder : IssuesInOrder past
  last : timeline.lastPtsNs = (observedPts past).getLast?
  next : timeline.frameIdExhausted = false → timeline.nextFrameId.toNat = (issued past).length

theorem counts_of_unissued {t : Transition} (h : Counts past timeline) (hinput : t.input ≠ .reset)
    (hframe : acceptedFrame t = none) (hpts : acceptedPts t = none) :
    Counts (past ++ [t]) timeline := by
  have hissued : issued (past ++ [t]) = issued past := by
    simp [issued, sinceReset_observe hinput, hframe]
  have hobserved : observedPts (past ++ [t]) = observedPts past := by
    simp [observedPts, sinceReset_observe hinput, hpts]
  constructor
  · constructor
    · rw [hissued]
      exact h.inOrder.ids
    · rw [hissued, hobserved]
      exact h.inOrder.observed
    · rw [hobserved]
      exact h.inOrder.ascending
  · rw [hobserved]
    exact h.last
  · rw [hissued]
    exact h.next

/-- The next frame carries the number of the frames before it. -/
theorem counts_of_issued {t : Transition} {timeline' : MasterFrameTimeline} {ptsNs : MasterFramePts}
    (h : Counts past timeline) (hinput : t.input ≠ .reset)
    (hopen : timeline.frameIdExhausted = false)
    (hlater : ∀ lastPtsNs ∈ timeline.lastPtsNs, lastPtsNs < ptsNs)
    (hframe : acceptedFrame t = some ⟨timeline.nextFrameId, ptsNs⟩)
    (hpts : acceptedPts t = some ptsNs) (hlast : timeline'.lastPtsNs = some ptsNs)
    (hexhausted : timeline'.frameIdExhausted = true ↔ timeline.nextFrameId = maxFrameId)
    (hnext : timeline.nextFrameId ≠ maxFrameId →
      timeline'.nextFrameId = timeline.nextFrameId + 1) :
    Counts (past ++ [t]) timeline' := by
  have hissued : issued (past ++ [t]) = issued past ++ [⟨timeline.nextFrameId, ptsNs⟩] := by
    simp [issued, sinceReset_observe hinput, hframe]
  have hobserved : observedPts (past ++ [t]) = observedPts past ++ [ptsNs] := by
    simp [observedPts, sinceReset_observe hinput, hpts]
  constructor
  · constructor
    · rw [hissued, List.map_append, h.inOrder.ids, List.length_append, List.length_singleton,
        List.range_succ, ← h.next hopen]
      rfl
    · rw [hissued, hobserved, List.map_append, h.inOrder.observed]
      rfl
    · rw [hobserved, List.pairwise_append]
      refine ⟨h.inOrder.ascending, List.pairwise_singleton _ _, ?_⟩
      intro earlier hearlier last hmem
      obtain rfl := List.mem_singleton.mp hmem
      -- the last time stamp bounds the earlier ones
      have hbound := h.last
      cases hsome : (observedPts past).getLast? with
      | none =>
          rw [List.getLast?_eq_none_iff.mp hsome] at hearlier
          cases hearlier
      | some lastPtsNs =>
          have hle := le_lastPts h.inOrder.ascending hearlier hsome
          exact UInt64.lt_of_le_of_lt hle (hlater lastPtsNs (hbound.trans hsome))
  · rw [hobserved, hlast, List.getLast?_concat]
  · intro hstill
    have hne : timeline.nextFrameId ≠ maxFrameId := by
      intro hmax
      rw [hexhausted.mpr hmax] at hstill
      cases hstill
    rw [hnext hne, hissued, List.length_append, List.length_singleton, ← h.next hopen]
    exact toNat_succ hne

theorem Counts.step (h : Counts past timeline) (call : Call) :
    Counts (past ++ [Runs.transition step timeline call]) (timeline.step call).2 := by
  cases call with
  | reset =>
      have hsince :
          sinceReset (past ++ [Runs.transition MasterFrameTimeline.step timeline .reset]) = [] :=
        sinceReset_reset rfl
      constructor
      · constructor <;> simp [issued, observedPts, hsince]
      · simp [MasterFrameTimeline.step, reset, observedPts, hsince]
      · intro _
        simp [MasterFrameTimeline.step, reset, issued, hsince]
  | observe ptsNs frame =>
      rcases timeline.observe_cases ptsNs frame with
        ⟨-, hobserve⟩ | ⟨-, -, hobserve⟩ |
        ⟨hopen, hlater, timeline', hobserve, hlast, hexhausted, hnext⟩
      · have hstep : timeline.step (.observe ptsNs frame) =
            (.observed .frameIdExhausted frame, timeline) := by
          simp only [MasterFrameTimeline.step, hobserve]
        rw [hstep]
        apply counts_of_unissued h <;>
          simp [Runs.transition, hstep, acceptedFrame, acceptedPts]
      · have hstep : timeline.step (.observe ptsNs frame) =
            (.observed .nonMonotonicPts frame, timeline) := by
          simp only [MasterFrameTimeline.step, hobserve]
        rw [hstep]
        apply counts_of_unissued h <;>
          simp [Runs.transition, hstep, acceptedFrame, acceptedPts]
      · have hstep : timeline.step (.observe ptsNs frame) =
            (.observed .accepted (some ⟨timeline.nextFrameId, ptsNs⟩), timeline') := by
          simp only [MasterFrameTimeline.step, hobserve]
        rw [hstep]
        refine counts_of_issued h ?_ hopen hlater ?_ ?_ hlast hexhausted hnext <;>
          simp [Runs.transition, hstep, acceptedFrame, acceptedPts]

theorem counts_run (hrun : Runs.Run step {} past timeline) : Counts past timeline := by
  apply hrun.invariant (P := fun past timeline => Counts past timeline)
  · constructor
    · constructor <;> simp [issued, observedPts, sinceReset]
    · rfl
    · intro _
      rfl
  · exact fun past timeline call _ h => h.step call

/-- Until the ids are exhausted the last one has not been issued. -/
theorem Counts.exhausted (h : Counts past timeline)
    (hlast : ∃ frame ∈ issued past, frame.frameId = maxFrameId) :
    timeline.frameIdExhausted = true := by
  obtain ⟨frame, hframe, hmax⟩ := hlast
  by_contra hopen
  have hcount := h.next (by simpa using hopen)
  have hmem : frame.frameId.toNat ∈ List.range (issued past).length := by
    rw [← h.inOrder.ids]
    exact List.mem_map_of_mem hframe
  rw [hmax, List.mem_range, ← hcount] at hmem
  have hlt := timeline.nextFrameId.toNat_lt
  have hmaxNat : maxFrameId.toNat = 18446744073709551615 := rfl
  omega

theorem undisturbed_step (timeline : MasterFrameTimeline) (call : Call) :
    Undisturbed (Runs.transition step timeline call) := by
  rintro ptsNs frame result frame' hinput houtput hrefused
  obtain rfl : call = .observe ptsNs frame := hinput
  rcases timeline.observe_cases ptsNs frame with
    ⟨-, hobserve⟩ | ⟨-, -, hobserve⟩ | ⟨-, -, timeline', hobserve, -⟩
  all_goals
    simp only [Runs.transition, MasterFrameTimeline.step, hobserve, Answer.observed.injEq]
      at houtput ⊢
  · exact ⟨trivial, houtput.2.symm⟩
  · exact ⟨trivial, houtput.2.symm⟩
  · exact absurd houtput.1.symm hrefused

theorem refusesExhausted_step (h : Counts past timeline) (call : Call) :
    RefusesExhausted past (Runs.transition step timeline call) := by
  rintro hlast ptsNs frame hinput
  obtain rfl : call = .observe ptsNs frame := hinput
  simp [Runs.transition, MasterFrameTimeline.step, observe, h.exhausted hlast]

/-- In every run of `Observe` and `Reset`, the frames since the last `Reset` are numbered and
stamped in order, a refused `Observe` changes nothing, and the ids do not wrap. -/
theorem timeline_issues_in_order (hrun : Runs.Run step {} past timeline) :
    IssuesInOrder past ∧ ((issued past).map MasterFrame.frameId).Nodup ∧
      (∀ t ∈ past, Undisturbed t) ∧ Traces.Obeys RefusesExhausted past := by
  have hcounts := counts_run hrun
  refine ⟨hcounts.inOrder, ?_, ?_⟩
  · have hdistinct : ((issued past).map (fun frame => frame.frameId.toNat)).Nodup := by
      rw [hcounts.inOrder.ids]
      exact List.nodup_range
    apply List.Nodup.of_map UInt64.toNat
    rwa [List.map_map]
  · apply hrun.invariant (P := fun past _ =>
      (∀ t ∈ past, Undisturbed t) ∧ Traces.Obeys RefusesExhausted past)
    · exact ⟨by simp, Traces.obeys_nil⟩
    · rintro past timeline call hrun ⟨hundisturbed, hobeys⟩
      refine ⟨?_, hobeys.concat (refusesExhausted_step (counts_run hrun) call)⟩
      rw [List.forall_mem_append, List.forall_mem_singleton]
      exact ⟨hundisturbed, undisturbed_step timeline call⟩

/-- Two frames, a time stamp that does not ascend, and a new session. -/
def sampleCalls : List Call :=
  [.observe 100 none, .observe 200 none, .observe 200 none, .reset, .observe 50 none]

theorem timeline_issues_in_order_sample :
    issued (Runs.history step {} sampleCalls) = [⟨0, 50⟩] ∧
      IssuesInOrder (Runs.history step {} sampleCalls) :=
  ⟨by decide, (timeline_issues_in_order (Runs.run_exec _ sampleCalls)).1⟩

end MasterFrameTimeline

end ObsSyncReplay
