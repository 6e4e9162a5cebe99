import ObsSyncReplay.Timeline.MasterFrameTimeline
import ObsSyncReplay.Lib.BoundedFifo
import ObsSyncReplay.Lib.Traces
import ObsSyncReplay.Lib.Runs
import Mathlib.Data.List.DropRight

/-!
`pipeline/synchronized-frame-queue`: the identities of the retained pairs. The frames that were
taken stay in the vector, before `head`, until the queue is drained. So the queue holds at most
its capacity, and the vector holds whatever was retained since the queue was last empty.
-/

namespace ObsSyncReplay

structure SynchronizedFramePairIdentity where
  outputA : MasterFrame
  outputB : MasterFrame
  resourcesComplete : Bool
deriving DecidableEq, Repr

inductive SynchronizedFrameQueueResult where
  | retained
  | invalidPair
  | capacity
deriving DecidableEq, Repr

structure SynchronizedFrameQueue where
  capacity : Nat
  head : Nat := 0
  frames : List MasterFrame := []
deriving DecidableEq

namespace SynchronizedFrameQueue

/-- The constructor, which throws without a capacity. -/
def create (capacity : Nat) : Option SynchronizedFrameQueue :=
  if capacity = 0 then none else some { capacity := capacity }

def size (queue : SynchronizedFrameQueue) : Nat := queue.frames.length - queue.head

def isValid (pair : SynchronizedFramePairIdentity) : Bool :=
  pair.resourcesComplete && pair.outputA.frameId == pair.outputB.frameId &&
    pair.outputA.ptsNs == pair.outputB.ptsNs

def compactIfDrained (queue : SynchronizedFrameQueue) : SynchronizedFrameQueue :=
  if queue.head = queue.frames.length then { queue with frames := [], head := 0 } else queue

def canRetain (queue : SynchronizedFrameQueue) (pair : SynchronizedFramePairIdentity) :
    SynchronizedFrameQueueResult :=
  if !isValid pair then .invalidPair
  else if queue.size ≥ queue.capacity then .capacity
  else .retained

def tryRetain (queue : SynchronizedFrameQueue) (pair : SynchronizedFramePairIdentity) :
    SynchronizedFrameQueueResult × SynchronizedFrameQueue :=
  let result := queue.canRetain pair
  if result ≠ .retained then (result, queue)
  else
    let queue := queue.compactIfDrained
    (.retained, { queue with frames := queue.frames ++ [pair.outputA] })

def takeNext (queue : SynchronizedFrameQueue) : Option MasterFrame × SynchronizedFrameQueue :=
  if queue.head = queue.frames.length then (none, queue)
  else (queue.frames[queue.head]?, { queue with head := queue.head + 1 }.compactIfDrained)

def reset (queue : SynchronizedFrameQueue) : SynchronizedFrameQueue :=
  { queue with frames := [], head := 0 }

inductive Call where
  | tryRetain (pair : SynchronizedFramePairIdentity)
  | takeNext
  | reset
deriving DecidableEq

inductive Answer where
  | tried (result : SynchronizedFrameQueueResult)
  | taken (frame : Option MasterFrame)
  | done
deriving DecidableEq

def step (queue : SynchronizedFrameQueue) : Call → Answer × SynchronizedFrameQueue
  | .tryRetain pair =>
      let (result, queue) := queue.tryRetain pair
      (.tried result, queue)
  | .takeNext =>
      let (frame, queue) := queue.takeNext
      (.taken frame, queue)
  | .reset => (.done, queue.reset)

abbrev Transition := Runs.Transition SynchronizedFrameQueue Call Answer

/-- What the queue holds. -/
def contents (queue : SynchronizedFrameQueue) : List MasterFrame := queue.frames.drop queue.head

/-- Frames that were taken are kept only before one that was not. -/
def Compacted (queue : SynchronizedFrameQueue) : Prop :=
  queue.frames = [] ∧ queue.head = 0 ∨ queue.head < queue.frames.length

/-- The call is a `TryRetain` of a pair that can be retained. -/
def retains (t : Transition) : Bool :=
  match t.input with
  | .tryRetain pair => t.before.canRetain pair == .retained
  | _ => false

/-- How many pairs have been retained since the queue was last empty. -/
def retainedSinceEmpty (past : List Transition) : Nat :=
  (past.rtakeWhile (fun t => t.after.size ≠ 0)).countP retains

variable {queue : SynchronizedFrameQueue} {pair : SynchronizedFramePairIdentity}
  {past : List Transition} {capacity : Nat}

theorem canRetain_eq_retained_iff :
    queue.canRetain pair = .retained ↔ isValid pair = true ∧ queue.size < queue.capacity := by
  unfold canRetain
  split_ifs with hvalid hfull
  · have hinvalid : isValid pair = false := by simpa using hvalid
    simp [hinvalid]
  · simp [hfull]
  · have hisValid : isValid pair = true := by simpa using hvalid
    simpa [hisValid] using hfull

theorem isValid_iff :
    isValid pair = true ↔ pair.resourcesComplete = true ∧ pair.outputA = pair.outputB := by
  obtain ⟨⟨idA, ptsA⟩, ⟨idB, ptsB⟩, complete⟩ := pair
  simp [isValid, and_assoc]

@[simp] theorem length_contents : queue.contents.length = queue.size := List.length_drop

theorem reset_compacted : queue.reset.Compacted := Or.inl ⟨rfl, rfl⟩

@[simp] theorem compactIfDrained_capacity :
    queue.compactIfDrained.capacity = queue.capacity := by
  unfold compactIfDrained
  split <;> rfl

@[simp] theorem compactIfDrained_contents :
    queue.compactIfDrained.contents = queue.contents := by
  unfold compactIfDrained
  split
  · next hdrained => simp [contents, hdrained]
  · rfl

theorem compactIfDrained_length_le :
    queue.compactIfDrained.frames.length ≤ queue.frames.length := by
  unfold compactIfDrained
  split
  · exact Nat.zero_le _
  · exact le_rfl

theorem compactIfDrained_frames_of_held (h : queue.compactIfDrained.size ≠ 0) :
    queue.compactIfDrained.frames = queue.frames := by
  unfold compactIfDrained at h ⊢
  split
  · next hdrained =>
      rw [if_pos hdrained] at h
      exact absurd rfl h
  · rfl

theorem compactIfDrained_compacted (h : queue.head ≤ queue.frames.length) :
    queue.compactIfDrained.Compacted := by
  unfold compactIfDrained
  split
  · exact Or.inl ⟨rfl, rfl⟩
  · next hdrained => exact Or.inr (Nat.lt_of_le_of_ne h hdrained)

theorem Compacted.head_le (h : queue.Compacted) : queue.head ≤ queue.frames.length := by
  rcases h with ⟨-, hhead⟩ | hhead
  · rw [hhead]
    exact Nat.zero_le _
  · exact hhead.le

/-- In a compacted queue there is nothing left to compact. -/
theorem Compacted.compactIfDrained_eq (h : queue.Compacted) : queue.compactIfDrained = queue := by
  obtain ⟨capacity, head, frames⟩ := queue
  unfold compactIfDrained
  split
  · next hdrained =>
      rcases h with ⟨rfl, rfl⟩ | hhead
      · rfl
      · exact absurd hdrained hhead.ne
  · rfl

theorem Compacted.frames_eq_nil (h : queue.Compacted) (hempty : queue.size = 0) :
    queue.frames = [] := by
  rcases h with ⟨hframes, -⟩ | hhead
  · exact hframes
  · exact absurd hempty (Nat.sub_pos_of_lt hhead).ne'

theorem tryRetain_refused (h : queue.canRetain pair ≠ .retained) :
    queue.tryRetain pair = (queue.canRetain pair, queue) := if_pos h

theorem Compacted.tryRetain_retained (hcompacted : queue.Compacted)
    (h : queue.canRetain pair = .retained) :
    queue.tryRetain pair =
      (.retained, { queue with frames := queue.frames ++ [pair.outputA] }) := by
  unfold tryRetain
  simp only [h, ne_eq, not_true_eq_false, if_false, hcompacted.compactIfDrained_eq]

theorem Compacted.retained_compacted (h : queue.Compacted) (frame : MasterFrame) :
    Compacted { queue with frames := queue.frames ++ [frame] } := by
  right
  rw [List.length_append, List.length_singleton]
  exact Nat.lt_succ_of_le h.head_le

theorem Compacted.retained_contents (h : queue.Compacted) (frame : MasterFrame) :
    contents { queue with frames := queue.frames ++ [frame] } = queue.contents ++ [frame] :=
  List.drop_append_of_le_length h.head_le

theorem Compacted.takeNext_none (h : queue.Compacted) (hempty : queue.contents = []) :
    queue.takeNext = (none, queue) := by
  have hle : queue.frames.length ≤ queue.head := List.drop_eq_nil_iff.mp hempty
  exact if_pos (h.head_le.antisymm hle)

/-- `TakeNext` gives out the oldest frame, and compacts if it was the last one. -/
theorem takeNext_some {frame : MasterFrame} {rest : List MasterFrame}
    (hcontents : queue.contents = frame :: rest) :
    queue.head < queue.frames.length ∧
      queue.takeNext =
        (some frame, { queue with head := queue.head + 1 }.compactIfDrained) ∧
      contents { queue with head := queue.head + 1 } = rest := by
  have hlt : queue.head < queue.frames.length := by
    by_contra hge
    have hnil : queue.contents = [] := List.drop_eq_nil_iff.mpr (not_lt.mp hge)
    rw [hnil] at hcontents
    cases hcontents
  have hdrop := List.drop_eq_getElem_cons hlt
  rw [contents, hdrop, List.cons.injEq] at hcontents
  refine ⟨hlt, ?_, hcontents.2⟩
  unfold takeNext
  rw [if_neg hlt.ne, List.getElem?_eq_getElem hlt, hcontents.1]

/-- What a call does to a compacted queue. -/
theorem Compacted.step_cases (hcompacted : queue.Compacted) (call : Call) :
    (∃ pair, call = .tryRetain pair ∧ queue.canRetain pair ≠ .retained ∧
      queue.step call = (.tried (queue.canRetain pair), queue)) ∨
    (∃ pair, call = .tryRetain pair ∧ queue.canRetain pair = .retained ∧
      queue.step call =
        (.tried .retained, { queue with frames := queue.frames ++ [pair.outputA] })) ∨
    (call = .takeNext ∧ queue.contents = [] ∧ queue.step call = (.taken none, queue)) ∨
    (∃ frame rest, call = .takeNext ∧ queue.contents = frame :: rest ∧
      queue.step call =
        (.taken (some frame), { queue with head := queue.head + 1 }.compactIfDrained)) ∨
    (call = .reset ∧ queue.step call = (.done, queue.reset)) := by
  cases call with
  | tryRetain pair =>
      by_cases hretain : queue.canRetain pair = .retained
      · refine Or.inr (Or.inl ⟨pair, rfl, hretain, ?_⟩)
        simp only [step, hcompacted.tryRetain_retained hretain]
      · refine Or.inl ⟨pair, rfl, hretain, ?_⟩
        simp only [step, tryRetain_refused hretain]
  | takeNext =>
      cases hcontents : queue.contents with
      | nil =>
          refine Or.inr (Or.inr (Or.inl ⟨rfl, rfl, ?_⟩))
          simp only [step, hcompacted.takeNext_none hcontents]
      | cons frame rest =>
          refine Or.inr (Or.inr (Or.inr (Or.inl ⟨frame, rest, rfl, rfl, ?_⟩)))
          simp only [step, (takeNext_some hcontents).2.1]
  | reset => exact Or.inr (Or.inr (Or.inr (Or.inr ⟨rfl, rfl⟩)))

theorem Compacted.step (h : queue.Compacted) (call : Call) : (queue.step call).2.Compacted := by
  rcases h.step_cases call with ⟨pair, -, -, hstep⟩ | ⟨pair, -, -, hstep⟩ | ⟨-, -, hstep⟩ |
    ⟨frame, rest, -, hcontents, hstep⟩ | ⟨-, hstep⟩
  · rwa [hstep]
  · rw [hstep]
    exact h.retained_compacted pair.outputA
  · rwa [hstep]
  · rw [hstep]
    exact compactIfDrained_compacted (takeNext_some hcontents).1
  · rw [hstep]
    exact reset_compacted

theorem retainedSinceEmpty_of_empty {t : Transition} (h : t.after.size = 0) :
    retainedSinceEmpty (past ++ [t]) = 0 := by
  simp [retainedSinceEmpty, h]

theorem retainedSinceEmpty_of_held {t : Transition} (h : t.after.size ≠ 0) :
    retainedSinceEmpty (past ++ [t]) =
      retainedSinceEmpty past + if retains t = true then 1 else 0 := by
  unfold retainedSinceEmpty
  rw [List.rtakeWhile_concat_pos _ _ _ (by simpa using h), List.countP_append,
    List.countP_singleton]

/-- The vector holds what has been retained since the queue was last empty. -/
structure Accounts (past : List Transition) (queue : SynchronizedFrameQueue) : Prop where
  compacted : queue.Compacted
  length : queue.frames.length = retainedSinceEmpty past

theorem Accounts.step (h : Accounts past queue) (call : Call) :
    Accounts (past ++ [Runs.transition step queue call]) (queue.step call).2 := by
  have hcompacted := h.compacted.step call
  refine ⟨hcompacted, ?_⟩
  by_cases hempty : (queue.step call).2.size = 0
  · rw [hcompacted.frames_eq_nil hempty, retainedSinceEmpty_of_empty hempty, List.length_nil]
  · rw [retainedSinceEmpty_of_held hempty, ← h.length]
    rcases h.compacted.step_cases call with ⟨pair, rfl, hrefused, hstep⟩ |
      ⟨pair, rfl, hretained, hstep⟩ | ⟨rfl, -, hstep⟩ | ⟨frame, rest, rfl, hcontents, hstep⟩ |
      ⟨rfl, hstep⟩
    · rw [hstep]
      simp [retains, Runs.transition, hrefused]
    · rw [hstep]
      simp [retains, Runs.transition, hretained]
    · rw [hstep]
      rfl
    · -- what is left keeps the frame that was taken in the vector
      rw [hstep] at hempty ⊢
      exact congrArg List.length (compactIfDrained_frames_of_held hempty)
    · exact absurd rfl hempty

theorem accounts_run (hcreate : create capacity = some queue)
    {reached : SynchronizedFrameQueue} (hrun : Runs.Run step queue past reached) :
    Accounts past reached := by
  apply hrun.invariant (P := Accounts)
  · unfold create at hcreate
    split at hcreate
    · cases hcreate
    · cases hcreate
      exact ⟨Or.inl ⟨rfl, rfl⟩, rfl⟩
  · exact fun past queue call _ h => h.step call

/-- A pair is retained only while fewer than `capacity` have been since the queue was last
empty. -/
def RetainsWithin (capacity : Nat) (before : List Transition) (t : Transition) : Prop :=
  ∀ pair, t.input = .tryRetain pair → t.before.canRetain pair = .retained →
    retainedSinceEmpty before < capacity

/-- A step keeps the vector within the capacity if and only if it retains within it. -/
theorem Accounts.within_iff (h : Accounts past queue) (hwithin : queue.frames.length ≤ capacity)
    (call : Call) :
    (queue.step call).2.frames.length ≤ capacity ↔
      RetainsWithin capacity past (Runs.transition SynchronizedFrameQueue.step queue call) := by
  have hlength := h.length
  rcases h.compacted.step_cases call with ⟨pair, rfl, hrefused, hstep⟩ |
    ⟨pair, rfl, hretained, hstep⟩ | ⟨rfl, -, hstep⟩ | ⟨frame, rest, rfl, hcontents, hstep⟩ |
    ⟨rfl, hstep⟩
  · rw [hstep]
    refine iff_of_true hwithin ?_
    intro pair' hinput hretained
    obtain rfl := Call.tryRetain.inj hinput
    exact absurd hretained hrefused
  · rw [hstep, List.length_append, List.length_singleton, hlength]
    constructor
    · exact fun hbound _ _ _ => hbound
    · exact fun hretains => hretains pair rfl hretained
  · rw [hstep]
    exact iff_of_true hwithin nofun
  · rw [hstep]
    exact iff_of_true (compactIfDrained_length_le.trans hwithin) nofun
  · rw [hstep]
    exact iff_of_true (Nat.zero_le _) nofun

/-- In a run of `TryRetain`, `TakeNext` and `Reset`, the vector stays within the capacity if and
only if no more than `capacity` pairs are ever retained without the queue running empty. -/
theorem frames_within_capacity_iff (hcreate : create capacity = some queue)
    {reached : SynchronizedFrameQueue} (hrun : Runs.Run step queue past reached) :
    (∀ t ∈ past, t.after.frames.length ≤ capacity) ↔
      Traces.Obeys (RetainsWithin capacity) past := by
  suffices h : ((∀ t ∈ past, t.after.frames.length ≤ capacity) ↔
      Traces.Obeys (RetainsWithin capacity) past) ∧
      ((∀ t ∈ past, t.after.frames.length ≤ capacity) → reached.frames.length ≤ capacity) from h.1
  apply hrun.invariant (P := fun past reached =>
    ((∀ t ∈ past, t.after.frames.length ≤ capacity) ↔
      Traces.Obeys (RetainsWithin capacity) past) ∧
      ((∀ t ∈ past, t.after.frames.length ≤ capacity) → reached.frames.length ≤ capacity))
  · refine ⟨iff_of_true (by simp) Traces.obeys_nil, fun _ => ?_⟩
    have haccounts := accounts_run hcreate .start
    rw [haccounts.length]
    exact Nat.zero_le _
  · rintro past reached call hrun ⟨hiff, hbound⟩
    rw [List.forall_mem_append, List.forall_mem_singleton, Traces.obeys_concat_iff, hiff]
    refine ⟨and_congr_right fun hobeys => ?_, fun h => h.2⟩
    exact (accounts_run hcreate hrun).within_iff (hbound (hiff.mpr hobeys)) call

/-- Two pairs, then one taken and one more retained, without the queue running empty. -/
def undrainedCalls : List Call :=
  [.tryRetain ⟨⟨0, 10⟩, ⟨0, 10⟩, true⟩, .tryRetain ⟨⟨1, 20⟩, ⟨1, 20⟩, true⟩, .takeNext,
    .tryRetain ⟨⟨2, 30⟩, ⟨2, 30⟩, true⟩]

/-- A queue of capacity 2 comes to keep three frames in its vector. -/
theorem frames_exceed_capacity :
    create 2 = some { capacity := 2 } ∧
      ¬ ∀ t ∈ Runs.history step { capacity := 2 } undrainedCalls, t.after.frames.length ≤ 2 := by
  decide

theorem frames_within_capacity_drained :
    Traces.Obeys (RetainsWithin 2)
      (Runs.history step { capacity := 2 } (undrainedCalls.take 3 ++ [.takeNext])) :=
  (frames_within_capacity_iff rfl (Runs.run_exec _ _)).mp (by decide)

end SynchronizedFrameQueue

end ObsSyncReplay
