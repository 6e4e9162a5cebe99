import ObsSyncReplay.Pipeline.SynchronizedFrameQueue

/-!
`pipeline/synchronized-frame-pipeline`: the retained pairs of GPU frames beside the queue of their
identities. The two containers differ, and both hold the items of one bounded queue: the pairs of
the one carry the frames of the other, in the same order.
-/

namespace ObsSyncReplay

inductive OutputSlot where
  | a
  | b
deriving DecidableEq, Repr

inductive SceneRenderStatus where
  | rendered
  | missingScene
  | notAScene
  | invalidDimensions
  | renderTargetCreationFailed
  | renderTargetBeginFailed
deriving DecidableEq, Repr

/-- The address of a `gs_texture_t`. -/
abbrev GsTexture := UInt64

structure SceneRenderResult where
  masterFrame : MasterFrame
  output : OutputSlot
  status : SceneRenderStatus
  width : UInt32
  height : UInt32
  colorSpace : UInt32
  colorFormat : UInt32
  texture : Option GsTexture
deriving DecidableEq, Repr

structure RetainedGpuFrame where
  masterFrame : MasterFrame
  output : OutputSlot
  width : UInt32
  height : UInt32
  colorSpace : UInt32
  colorFormat : UInt32
  texture : GsTexture
deriving DecidableEq, Repr

namespace RetainedGpuFrame

/-- The private constructor. -/
def ofResult (result : SceneRenderResult) (texture : GsTexture) : RetainedGpuFrame where
  masterFrame := result.masterFrame
  output := result.output
  width := result.width
  height := result.height
  colorSpace := result.colorSpace
  colorFormat := result.colorFormat
  texture := texture

/-- `created` is what `gs_texture_create` returns. -/
def copyFrom (result : SceneRenderResult) (created : Option GsTexture) : Option RetainedGpuFrame :=
  created.map (ofResult result)

end RetainedGpuFrame

structure SynchronizedFramePair where
  masterFrame : MasterFrame
  outputA : RetainedGpuFrame
  outputB : RetainedGpuFrame
deriving DecidableEq, Repr

namespace SynchronizedFramePair

/-- The constructor, without a pair where an assertion fails. -/
def create (outputA outputB : RetainedGpuFrame) : Option SynchronizedFramePair :=
  if outputA.output = .a ∧ outputB.output = .b ∧
      outputA.masterFrame.frameId = outputB.masterFrame.frameId ∧
      outputA.masterFrame.ptsNs = outputB.masterFrame.ptsNs then
    some ⟨outputA.masterFrame, outputA, outputB⟩
  else none

/-- Frame id and time stamp are equal on the two outputs, which are in their own slots. -/
structure Synchronized (pair : SynchronizedFramePair) : Prop where
  slotA : pair.outputA.output = .a
  slotB : pair.outputB.output = .b
  frameA : pair.outputA.masterFrame = pair.masterFrame
  frameB : pair.outputB.masterFrame = pair.masterFrame

theorem create_of_synchronized {outputA outputB : RetainedGpuFrame}
    (h : Synchronized ⟨outputA.masterFrame, outputA, outputB⟩) :
    create outputA outputB = some ⟨outputA.masterFrame, outputA, outputB⟩ := by
  have hframe : outputB.masterFrame = outputA.masterFrame := h.frameB
  exact if_pos ⟨h.slotA, h.slotB, by rw [hframe], by rw [hframe]⟩

end SynchronizedFramePair

inductive SynchronizedFramePipelineResult where
  | retained
  | invalidPair
  | capacity
  | textureCreationFailed
deriving DecidableEq, Repr

structure SynchronizedFramePipeline where
  queue : SynchronizedFrameQueue
  retainedPairs : List SynchronizedFramePair := []
deriving DecidableEq

namespace SynchronizedFramePipeline

def create (capacity : Nat) : Option SynchronizedFramePipeline :=
  (SynchronizedFrameQueue.create capacity).map (fun queue => { queue := queue })

def pairIdentity (outputA outputB : SceneRenderResult) : SynchronizedFramePairIdentity where
  outputA := outputA.masterFrame
  outputB := outputB.masterFrame
  resourcesComplete :=
    outputA.status == .rendered && outputB.status == .rendered && outputA.output == .a &&
      outputB.output == .b && outputA.texture.isSome && outputB.texture.isSome &&
      outputA.width != 0 && outputA.height != 0 && outputB.width != 0 && outputB.height != 0

/-- `none` stands for a failed assertion. -/
def capture (pipeline : SynchronizedFramePipeline) (outputA outputB : SceneRenderResult)
    (createdA createdB : Option GsTexture) :
    Option (SynchronizedFramePipelineResult × SynchronizedFramePipeline) :=
  let identity := pairIdentity outputA outputB
  let acceptance := pipeline.queue.canRetain identity
  if acceptance = .invalidPair then some (.invalidPair, pipeline)
  else if acceptance = .capacity then some (.capacity, pipeline)
  else
    match RetainedGpuFrame.copyFrom outputA createdA,
      RetainedGpuFrame.copyFrom outputB createdB with
    | some retainedA, some retainedB =>
        match SynchronizedFramePair.create retainedA retainedB with
        | none => none
        | some pair =>
            let (result, queue) := pipeline.queue.tryRetain identity
            if result ≠ .retained then some (.invalidPair, { pipeline with queue := queue })
            else some (.retained,
              { queue := queue, retainedPairs := pipeline.retainedPairs ++ [pair] })
    | _, _ => some (.textureCreationFailed, pipeline)

/-- `none` stands for a failed assertion. -/
def takeNext (pipeline : SynchronizedFramePipeline) :
    Option (Option SynchronizedFramePair × SynchronizedFramePipeline) :=
  match pipeline.retainedPairs with
  | [] => some (none, pipeline)
  | pair :: rest =>
      let (queuedFrame, queue) := pipeline.queue.takeNext
      match queuedFrame with
      | none => none
      | some frame =>
          if frame.frameId = pair.masterFrame.frameId ∧ frame.ptsNs = pair.masterFrame.ptsNs then
            some (some pair, { queue := queue, retainedPairs := rest })
          else none

def reset (pipeline : SynchronizedFramePipeline) : SynchronizedFramePipeline :=
  { queue := pipeline.queue.reset, retainedPairs := [] }

def size (pipeline : SynchronizedFramePipeline) : Nat := pipeline.queue.size

inductive Call where
  | capture (outputA outputB : SceneRenderResult) (createdA createdB : Option GsTexture)
  | takeNext
  | reset
deriving DecidableEq

inductive Answer where
  | captured (result : SynchronizedFramePipelineResult)
  | taken (pair : Option SynchronizedFramePair)
  | done
  | assertionFailed
deriving DecidableEq

def answered {α : Type} (pipeline : SynchronizedFramePipeline) (answer : α → Answer) :
    Option (α × SynchronizedFramePipeline) → Answer × SynchronizedFramePipeline
  | some (result, pipeline) => (answer result, pipeline)
  | none => (.assertionFailed, pipeline)

def step (pipeline : SynchronizedFramePipeline) : Call → Answer × SynchronizedFramePipeline
  | .capture outputA outputB createdA createdB =>
      pipeline.answered .captured (pipeline.capture outputA outputB createdA createdB)
  | .takeNext => pipeline.answered .taken pipeline.takeNext
  | .reset => (.done, pipeline.reset)

abbrev Transition := Runs.Transition SynchronizedFramePipeline Call Answer

/-- The pair of the copies of two results. -/
def pairOf (outputA outputB : SceneRenderResult) (textureA textureB : GsTexture) :
    SynchronizedFramePair where
  masterFrame := outputA.masterFrame
  outputA := RetainedGpuFrame.ofResult outputA textureA
  outputB := RetainedGpuFrame.ofResult outputB textureB

/-- A call as it looks from the two ends of a queue of pairs. -/
def event (t : Transition) : BoundedFifo.Event SynchronizedFramePair :=
  match t.input, t.output with
  | .capture outputA outputB (some textureA) (some textureB), .captured .retained =>
      .pushed (pairOf outputA outputB textureA textureB)
  | .takeNext, .taken (some pair) => .popped pair
  | .reset, _ => .cleared
  | _, _ => .idle

/-- The two containers hold the same frames in the same order. -/
structure InLockStep (pipeline : SynchronizedFramePipeline) : Prop where
  compacted : pipeline.queue.Compacted
  frames : pipeline.retainedPairs.map SynchronizedFramePair.masterFrame = pipeline.queue.contents

/-- What a call of a pipeline in lock step promises: no assertion fails, a pair comes out with one
identity, a `Capture` that does not retain changes nothing, and one that `CanRetain` lets through
is not refused by `TryRetain`. -/
structure Sound (t : Transition) : Prop where
  asserted : t.output ≠ .assertionFailed
  synchronized : ∀ pair, t.output = .taken (some pair) → pair.Synchronized
  undisturbed : ∀ outputA outputB createdA createdB result,
    t.input = .capture outputA outputB createdA createdB → t.output = .captured result →
      result ≠ .retained → t.after = t.before
  accepted : ∀ outputA outputB createdA createdB,
    t.input = .capture outputA outputB createdA createdB →
      t.before.queue.canRetain (pairIdentity outputA outputB) = .retained →
      (t.before.queue.tryRetain (pairIdentity outputA outputB)).1 = .retained ∧
        (createdA.isSome = true → createdB.isSome = true → t.output = .captured .retained)

variable {pipeline : SynchronizedFramePipeline} {outputA outputB : SceneRenderResult}
  {createdA createdB : Option GsTexture} {capacity : Nat} {past : List Transition}

theorem InLockStep.length (h : pipeline.InLockStep) :
    pipeline.retainedPairs.length = pipeline.size := by
  have hlength := congrArg List.length h.frames
  rwa [List.length_map, SynchronizedFrameQueue.length_contents] at hlength

/-- What can be retained makes a synchronized pair. -/
theorem pairOf_synchronized (textureA textureB : GsTexture)
    (h : pipeline.queue.canRetain (pairIdentity outputA outputB) = .retained) :
    (pairOf outputA outputB textureA textureB).Synchronized := by
  have hvalid := (SynchronizedFrameQueue.canRetain_eq_retained_iff.mp h).1
  obtain ⟨hcomplete, hsame⟩ := SynchronizedFrameQueue.isValid_iff.mp hvalid
  simp only [pairIdentity, Bool.and_eq_true, beq_iff_eq] at hcomplete hsame
  obtain ⟨⟨⟨⟨⟨⟨⟨⟨-, hslotA⟩, hslotB⟩, -⟩, -⟩, -⟩, -⟩, -⟩, -⟩ := hcomplete
  exact ⟨hslotA, hslotB, rfl, hsame.symm⟩

theorem InLockStep.retained (h : pipeline.InLockStep) (pair : SynchronizedFramePair) :
    InLockStep
      { queue := { pipeline.queue with frames := pipeline.queue.frames ++ [pair.masterFrame] }
        retainedPairs := pipeline.retainedPairs ++ [pair] } := by
  constructor
  · exact h.compacted.retained_compacted pair.masterFrame
  · rw [h.compacted.retained_contents, List.map_append, h.frames]
    rfl

/-- A pair that cannot be retained is refused, and nothing else happens. -/
theorem capture_refused (createdA createdB : Option GsTexture)
    (h : pipeline.queue.canRetain (pairIdentity outputA outputB) ≠ .retained) :
    ∃ result, result ≠ .retained ∧
      pipeline.capture outputA outputB createdA createdB = some (result, pipeline) := by
  cases hresult : pipeline.queue.canRetain (pairIdentity outputA outputB) with
  | retained => exact absurd hresult h
  | invalidPair =>
      refine ⟨.invalidPair, nofun, ?_⟩
      simp only [capture, hresult, if_true]
  | capacity =>
      refine ⟨.capacity, nofun, ?_⟩
      simp only [capture, hresult, reduceCtorEq, if_true, if_false]

theorem capture_uncreated
    (h : pipeline.queue.canRetain (pairIdentity outputA outputB) = .retained)
    (hcreated : createdA = none ∨ createdB = none) :
    pipeline.capture outputA outputB createdA createdB =
      some (.textureCreationFailed, pipeline) := by
  simp only [capture, h, reduceCtorEq, if_false]
  rcases hcreated with rfl | rfl
  · rfl
  · cases createdA <;> rfl

/-- With both textures at hand, what can be retained is. -/
theorem InLockStep.capture_retained (hstep : pipeline.InLockStep)
    (h : pipeline.queue.canRetain (pairIdentity outputA outputB) = .retained)
    (textureA textureB : GsTexture) :
    pipeline.capture outputA outputB (some textureA) (some textureB) =
      some (.retained,
        { queue := { pipeline.queue with frames := pipeline.queue.frames ++ [outputA.masterFrame] }
          retainedPairs :=
            pipeline.retainedPairs ++ [pairOf outputA outputB textureA textureB] }) := by
  have hcreate : SynchronizedFramePair.create (RetainedGpuFrame.ofResult outputA textureA)
      (RetainedGpuFrame.ofResult outputB textureB) =
        some (pairOf outputA outputB textureA textureB) :=
    SynchronizedFramePair.create_of_synchronized (pairOf_synchronized textureA textureB h)
  simp only [capture, h, reduceCtorEq, RetainedGpuFrame.copyFrom, Option.map_some, hcreate,
    hstep.compacted.tryRetain_retained h, ne_eq, not_true_eq_false, if_false]
  rfl

theorem takeNext_none (h : pipeline.retainedPairs = []) :
    pipeline.takeNext = some (none, pipeline) := by
  unfold takeNext
  rw [h]

/-- The frame that leaves the queue is that of the pair. -/
theorem InLockStep.takeNext_some (hstep : pipeline.InLockStep) {pair : SynchronizedFramePair}
    {rest : List SynchronizedFramePair} (h : pipeline.retainedPairs = pair :: rest) :
    ∃ after, pipeline.takeNext = some (some pair, after) ∧ after.InLockStep ∧
      after.retainedPairs = rest ∧ after.queue.capacity = pipeline.queue.capacity := by
  have hcontents : pipeline.queue.contents =
      pair.masterFrame :: rest.map SynchronizedFramePair.masterFrame := by
    rw [← hstep.frames, h, List.map_cons]
  obtain ⟨hhead, htake, hrest⟩ := SynchronizedFrameQueue.takeNext_some hcontents
  refine ⟨{ queue := { pipeline.queue with head := pipeline.queue.head + 1 }.compactIfDrained
            retainedPairs := rest }, ?_, ⟨?_, ?_⟩, rfl, ?_⟩
  · simp only [takeNext, h, htake, and_self, if_true]
  · exact SynchronizedFrameQueue.compactIfDrained_compacted hhead
  · rw [SynchronizedFrameQueue.compactIfDrained_contents, hrest]
  · rw [SynchronizedFrameQueue.compactIfDrained_capacity]

theorem reset_inLockStep (pipeline : SynchronizedFramePipeline) : pipeline.reset.InLockStep :=
  ⟨SynchronizedFrameQueue.reset_compacted, rfl⟩

/-- What a call does while the containers are in lock step. -/
theorem InLockStep.step_cases (h : pipeline.InLockStep) (call : Call) :
    (∃ outputA outputB createdA createdB result,
      call = .capture outputA outputB createdA createdB ∧ result ≠ .retained ∧
      ¬ (pipeline.queue.canRetain (pairIdentity outputA outputB) = .retained ∧
        createdA.isSome = true ∧ createdB.isSome = true) ∧
      pipeline.step call = (.captured result, pipeline)) ∨
    (∃ outputA outputB textureA textureB,
      call = .capture outputA outputB (some textureA) (some textureB) ∧
      pipeline.queue.canRetain (pairIdentity outputA outputB) = .retained ∧
      pipeline.step call = (.captured .retained,
        { queue := { pipeline.queue with frames := pipeline.queue.frames ++ [outputA.masterFrame] }
          retainedPairs :=
            pipeline.retainedPairs ++ [pairOf outputA outputB textureA textureB] })) ∨
    (call = .takeNext ∧ pipeline.retainedPairs = [] ∧
      pipeline.step call = (.taken none, pipeline)) ∨
    (∃ pair rest after, call = .takeNext ∧ pipeline.retainedPairs = pair :: rest ∧
      pipeline.step call = (.taken (some pair), after) ∧ after.InLockStep ∧
      after.retainedPairs = rest ∧ after.queue.capacity = pipeline.queue.capacity) ∨
    (call = .reset ∧ pipeline.step call = (.done, pipeline.reset)) := by
  cases call with
  | capture outputA outputB createdA createdB =>
      by_cases hretain : pipeline.queue.canRetain (pairIdentity outputA outputB) = .retained
      · cases createdA with
        | none =>
            refine Or.inl ⟨outputA, outputB, none, createdB, .textureCreationFailed, rfl, nofun,
              nofun, ?_⟩
            simp only [step, answered, capture_uncreated hretain (Or.inl rfl)]
        | some textureA =>
            cases createdB with
            | none =>
                refine Or.inl ⟨outputA, outputB, some textureA, none, .textureCreationFailed, rfl,
                  nofun, nofun, ?_⟩
                simp only [step, answered, capture_uncreated hretain (Or.inr rfl)]
            | some textureB =>
                refine Or.inr (Or.inl ⟨outputA, outputB, textureA, textureB, rfl, hretain, ?_⟩)
                simp only [step, answered, h.capture_retained hretain]
      · obtain ⟨result, hresult, hcapture⟩ := capture_refused createdA createdB hretain
        refine Or.inl ⟨outputA, outputB, createdA, createdB, result, rfl, hresult,
          fun hboth => hretain hboth.1, ?_⟩
        simp only [step, answered, hcapture]
  | takeNext =>
      cases hpairs : pipeline.retainedPairs with
      | nil =>
          refine Or.inr (Or.inr (Or.inl ⟨rfl, rfl, ?_⟩))
          simp only [step, answered, takeNext_none hpairs]
      | cons pair rest =>
          obtain ⟨after, htake, hafter⟩ := h.takeNext_some hpairs
          refine Or.inr (Or.inr (Or.inr (Or.inl ⟨pair, rest, after, rfl, rfl, ?_, hafter⟩)))
          simp only [step, answered, htake]
  | reset => exact Or.inr (Or.inr (Or.inr (Or.inr ⟨rfl, rfl⟩)))

theorem InLockStep.step (h : pipeline.InLockStep) (call : Call) :
    (pipeline.step call).2.InLockStep := by
  rcases h.step_cases call with ⟨_, _, _, _, _, -, -, -, hstep⟩ | ⟨outputA, outputB, textureA,
    textureB, -, -, hstep⟩ | ⟨-, -, hstep⟩ | ⟨_, _, after, -, -, hstep, hafter, -, -⟩ | ⟨-, hstep⟩
  · rwa [hstep]
  · rw [hstep]
    exact h.retained (pairOf outputA outputB textureA textureB)
  · rwa [hstep]
  · rwa [hstep]
  · rw [hstep]
    exact reset_inLockStep pipeline

theorem transition_eq {call : Call} {answer : Answer} {after : SynchronizedFramePipeline}
    (h : pipeline.step call = (answer, after)) :
    Runs.transition SynchronizedFramePipeline.step pipeline call =
      ⟨pipeline, call, answer, after⟩ := by
  unfold Runs.transition
  rw [h]

/-- A call that captures nothing has only its answer to keep. -/
theorem sound_of_other {t : Transition} (hasserted : t.output ≠ .assertionFailed)
    (hother : ∀ outputA outputB createdA createdB,
      t.input ≠ .capture outputA outputB createdA createdB)
    (hsynchronized : ∀ pair, t.output = .taken (some pair) → pair.Synchronized) : Sound t where
  asserted := hasserted
  synchronized := hsynchronized
  undisturbed := by
    intro outputA outputB createdA createdB _ hinput
    exact absurd hinput (hother outputA outputB createdA createdB)
  accepted := by
    intro outputA outputB createdA createdB hinput
    exact absurd hinput (hother outputA outputB createdA createdB)

theorem InLockStep.sound_of_capture (h : pipeline.InLockStep)
    {result : SynchronizedFramePipelineResult} {after : SynchronizedFramePipeline}
    (hundisturbed : result ≠ .retained → after = pipeline)
    (hretained : pipeline.queue.canRetain (pairIdentity outputA outputB) = .retained →
      createdA.isSome = true → createdB.isSome = true → result = .retained) :
    Sound ⟨pipeline, .capture outputA outputB createdA createdB, .captured result, after⟩ where
  asserted := by simp
  synchronized := by
    intro pair houtput
    cases houtput
  undisturbed := by
    intro _ _ _ _ _ _ houtput hrefused
    obtain rfl := Answer.captured.inj houtput
    exact hundisturbed hrefused
  accepted := by
    intro _ _ _ _ hinput hretain
    obtain ⟨rfl, rfl, rfl, rfl⟩ := Call.capture.inj hinput
    constructor
    · rw [h.compacted.tryRetain_retained hretain]
    · intro hcreatedA hcreatedB
      rw [hretained hretain hcreatedA hcreatedB]

theorem InLockStep.sound (h : pipeline.InLockStep)
    (hsynchronized : ∀ pair ∈ pipeline.retainedPairs, pair.Synchronized) (call : Call) :
    Sound (Runs.transition SynchronizedFramePipeline.step pipeline call) := by
  rcases h.step_cases call with ⟨outputA, outputB, createdA, createdB, result, rfl, hresult,
    hrefused, hstep⟩ | ⟨outputA, outputB, textureA, textureB, rfl, hretain, hstep⟩ |
    ⟨rfl, -, hstep⟩ | ⟨pair, rest, after, rfl, hpairs, hstep, -, -, -⟩ | ⟨rfl, hstep⟩
  · rw [transition_eq hstep]
    apply h.sound_of_capture
    · exact fun _ => rfl
    · exact fun hretain hcreatedA hcreatedB =>
        absurd ⟨hretain, hcreatedA, hcreatedB⟩ hrefused
  · rw [transition_eq hstep]
    apply h.sound_of_capture
    · exact fun hrefused => absurd rfl hrefused
    · exact fun _ _ _ => rfl
  · rw [transition_eq hstep]
    exact sound_of_other (by simp) (by simp) (by simp)
  · rw [transition_eq hstep]
    refine sound_of_other (by simp) (by simp) fun taken houtput => ?_
    obtain rfl := Option.some.inj (Answer.taken.inj houtput)
    apply hsynchronized
    rw [hpairs]
    exact List.mem_cons_self
  · rw [transition_eq hstep]
    exact sound_of_other (by simp) (by simp) (by simp)

def sampleResult (output : OutputSlot) (frame : MasterFrame) : SceneRenderResult :=
  ⟨frame, output, .rendered, 1920, 1080, 0, 0, some 1⟩

/-- Two pairs, one too many, one taken, and one whose texture is not created. -/
def sampleCalls : List Call :=
  [.capture (sampleResult .a ⟨0, 10⟩) (sampleResult .b ⟨0, 10⟩) (some 2) (some 3),
    .capture (sampleResult .a ⟨1, 20⟩) (sampleResult .b ⟨1, 20⟩) (some 4) (some 5),
    .capture (sampleResult .a ⟨2, 30⟩) (sampleResult .b ⟨2, 30⟩) (some 6) (some 7),
    .takeNext,
    .capture (sampleResult .a ⟨3, 40⟩) (sampleResult .b ⟨3, 40⟩) (some 8) none]

end SynchronizedFramePipeline

end ObsSyncReplay
