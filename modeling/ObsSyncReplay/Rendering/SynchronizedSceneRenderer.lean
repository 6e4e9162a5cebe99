import ObsSyncReplay.Rendering.SceneRenderer

/-!
`rendering/scene-render-pair-tracker` and `rendering/synchronized-scene-renderer`: both scenes are
rendered for one master frame inside one visit of the graphics context, and the pair goes to a
pipeline of four places, from which the renderer itself takes nothing.
-/

namespace ObsSyncReplay

structure SceneRenderPairTracker where
  activeFrame : Option MasterFrame := none
  outputARecorded : Bool := false
  outputBRecorded : Bool := false
deriving DecidableEq

namespace SceneRenderPairTracker

def beginFrame (tracker : SceneRenderPairTracker) (masterFrame : MasterFrame) :
    Bool × SceneRenderPairTracker :=
  if tracker.activeFrame.isSome then (false, tracker)
  else (true, ⟨some masterFrame, false, false⟩)

def record (tracker : SceneRenderPairTracker) (result : SceneRenderResult) :
    Bool × SceneRenderPairTracker :=
  match tracker.activeFrame with
  | none => (false, tracker)
  | some activeFrame =>
      if result.masterFrame.frameId ≠ activeFrame.frameId ∨
          result.masterFrame.ptsNs ≠ activeFrame.ptsNs then (false, tracker)
      else
        match result.output with
        | .a =>
            if tracker.outputARecorded then (false, tracker)
            else (true, { tracker with outputARecorded := true })
        | .b =>
            if tracker.outputBRecorded then (false, tracker)
            else (true, { tracker with outputBRecorded := true })

def isComplete (tracker : SceneRenderPairTracker) : Bool :=
  tracker.activeFrame.isSome && tracker.outputARecorded && tracker.outputBRecorded

def reset (_ : SceneRenderPairTracker) : SceneRenderPairTracker := {}

def isRecorded (tracker : SceneRenderPairTracker) : OutputSlot → Bool
  | .a => tracker.outputARecorded
  | .b => tracker.outputBRecorded

def markRecorded (tracker : SceneRenderPairTracker) : OutputSlot → SceneRenderPairTracker
  | .a => { tracker with outputARecorded := true }
  | .b => { tracker with outputBRecorded := true }

/-- The first result of the active frame for a slot is recorded. -/
theorem record_first {tracker : SceneRenderPairTracker} {result : SceneRenderResult}
    (hactive : tracker.activeFrame = some result.masterFrame)
    (hfirst : tracker.isRecorded result.output = false) :
    tracker.record result = (true, tracker.markRecorded result.output) := by
  unfold record
  rw [hactive]
  cases houtput : result.output <;> rw [houtput] at hfirst <;>
    simp_all [isRecorded, markRecorded]

end SceneRenderPairTracker

inductive LogLevel where
  | debug
  | info
  | warning
  | error
deriving DecidableEq

/-- The lines of the log, with the values they print. -/
inductive RenderLog where
  | renderAfterStop (masterFrame : MasterFrame)
  | reentrantDispatch (masterFrame : MasterFrame)
  | incompletePair (masterFrame : MasterFrame)
  | staleResult (result : SceneRenderResult)
  | recorded (level : LogLevel) (sceneName : String) (result : SceneRenderResult)
  | captured (level : LogLevel) (masterFrame : MasterFrame)
      (result : SynchronizedFramePipelineResult) (reason : String) (queueSize capacity : Nat)
deriving DecidableEq

/-- The lines that report a broken invariant of the renderer itself. -/
def RenderLog.isBroken : RenderLog → Bool
  | .reentrantDispatch _ | .incompletePair _ | .staleResult _ => true
  | _ => false

/-- What libobs answers while a pair is rendered and copied. -/
structure RenderReadings where
  sceneA : SceneReadings
  sceneB : SceneReadings
  createdA : Option GsTexture
  createdB : Option GsTexture
deriving DecidableEq

structure SynchronizedSceneRenderer where
  sceneARenderer : SceneRenderer
  sceneBRenderer : SceneRenderer
  pairTracker : SceneRenderPairTracker := {}
  pipeline : SynchronizedFramePipeline := { queue := { capacity := 4 } }
  lastReportedStatus : OutputSlot → Option SceneRenderStatus := fun _ => none
  lastReportedPipelineResult : Option SynchronizedFramePipelineResult := none
  stopped : Bool := false

namespace SynchronizedSceneRenderer

def create (sceneAName sceneBName : String) : SynchronizedSceneRenderer where
  sceneARenderer := { output := .a, sceneName := sceneAName }
  sceneBRenderer := { output := .b, sceneName := sceneBName }

def pipelineFailureReason (outputA outputB : SceneRenderResult) :
    SynchronizedFramePipelineResult → String
  | .capacity => "capacity"
  | .textureCreationFailed => "texture-creation"
  | .retained => "none"
  | .invalidPair =>
      if outputA.masterFrame.frameId ≠ outputB.masterFrame.frameId ∨
          outputA.masterFrame.ptsNs ≠ outputB.masterFrame.ptsNs then "master-identity-mismatch"
      else if outputA.status ≠ .rendered ∨ outputB.status ≠ .rendered then "render-incomplete"
      else "render-resource-invalid"

def sceneRenderer (renderer : SynchronizedSceneRenderer) : OutputSlot → SceneRenderer
  | .a => renderer.sceneARenderer
  | .b => renderer.sceneBRenderer

/-- The first frames, and every 300th, are logged in any case. -/
def sampled (masterFrame : MasterFrame) : Bool :=
  masterFrame.frameId < 3 || masterFrame.frameId % 300 == 0

def recordAndLog (renderer : SynchronizedSceneRenderer) (result : SceneRenderResult) :
    List RenderLog × SynchronizedSceneRenderer :=
  let (recorded, pairTracker) := renderer.pairTracker.record result
  let renderer := { renderer with pairTracker := pairTracker }
  if !recorded then ([.staleResult result], renderer)
  else
    let statusChanged := renderer.lastReportedStatus result.output != some result.status
    let sampled := sampled result.masterFrame
    let renderer :=
      { renderer with
        lastReportedStatus :=
          Function.update renderer.lastReportedStatus result.output (some result.status) }
    if result.status ≠ .rendered ∧ !statusChanged ∧ !sampled then ([], renderer)
    else
      let level : LogLevel :=
        if result.status = .rendered then (if sampled then .info else .debug) else .warning
      ([.recorded level (renderer.sceneRenderer result.output).sceneName result], renderer)

/-- The textures that a `Capture` creates, and those it destroys again since it keeps no pair. The
copies are destroyed in the opposite order. -/
def captureEntries (pipeline : SynchronizedFramePipeline) (outputA outputB : SceneRenderResult)
    (createdA createdB : Option GsTexture) : List GraphicsEntry :=
  let identity := SynchronizedFramePipeline.pairIdentity outputA outputB
  if pipeline.queue.canRetain identity ≠ .retained then []
  else
    let texturesA := createdA.toList.map GraphicsResource.texture
    let texturesB := createdB.toList.map GraphicsResource.texture
    let copied := (texturesA ++ texturesB).map Ledger.Entry.acquired
    if createdA.isSome ∧ createdB.isSome ∧ (pipeline.queue.tryRetain identity).1 = .retained then
      copied
    else copied ++ (texturesB ++ texturesA).map Ledger.Entry.released

/-- The line of the log for a capture, after it. -/
def captureLogs (renderer : SynchronizedSceneRenderer) (outputA outputB : SceneRenderResult)
    (result : SynchronizedFramePipelineResult) (pipeline : SynchronizedFramePipeline) :
    List RenderLog :=
  let masterFrame := outputA.masterFrame
  let sampled := sampled masterFrame
  let statusChanged := renderer.lastReportedPipelineResult != some result
  if result ≠ .retained ∧ !statusChanged ∧ !sampled then []
  else
    let level : LogLevel :=
      match result with
      | .retained => if sampled || statusChanged then .info else .debug
      | .invalidPair => .error
      | _ => .warning
    [.captured level masterFrame result (pipelineFailureReason outputA outputB result)
      pipeline.size pipeline.queue.capacity]

/-- `none` stands for a failed assertion. -/
def captureAndLog (renderer : SynchronizedSceneRenderer) (outputA outputB : SceneRenderResult)
    (createdA createdB : Option GsTexture) :
    Option (List RenderLog × List GraphicsEntry × SynchronizedSceneRenderer) :=
  (renderer.pipeline.capture outputA outputB createdA createdB).map fun (result, pipeline) =>
    (renderer.captureLogs outputA outputB result pipeline,
      captureEntries renderer.pipeline outputA outputB createdA createdB,
      { renderer with pipeline := pipeline, lastReportedPipelineResult := some result })

/-- `none` stands for a failed assertion. -/
def render (renderer : SynchronizedSceneRenderer) (masterFrame : MasterFrame)
    (readings : RenderReadings) :
    Option (List RenderLog × List GraphicsEntry × SynchronizedSceneRenderer) :=
  if renderer.stopped then some ([.renderAfterStop masterFrame], [], renderer)
  else
    let (begun, pairTracker) := renderer.pairTracker.beginFrame masterFrame
    let renderer := { renderer with pairTracker := pairTracker }
    if !begun then some ([.reentrantDispatch masterFrame], [], renderer)
    else
      let (outputA, entriesA, sceneARenderer) :=
        renderer.sceneARenderer.render masterFrame readings.sceneA
      let (outputB, entriesB, sceneBRenderer) :=
        renderer.sceneBRenderer.render masterFrame readings.sceneB
      let renderer :=
        { renderer with sceneARenderer := sceneARenderer, sceneBRenderer := sceneBRenderer }
      let (logsA, renderer) := renderer.recordAndLog outputA
      let (logsB, renderer) := renderer.recordAndLog outputB
      (renderer.captureAndLog outputA outputB readings.createdA readings.createdB).map
        fun (captureLogs, captureEntries, renderer) =>
          let incomplete : List RenderLog :=
            if !renderer.pairTracker.isComplete then [.incompletePair masterFrame] else []
          (logsA ++ logsB ++ captureLogs ++ incomplete,
            .acquired .context :: (entriesA ++ entriesB ++ captureEntries) ++
              [.released .context],
            { renderer with pairTracker := renderer.pairTracker.reset })

/-- A pair is destroyed with its members, the last one first. -/
def pairEntries (pair : SynchronizedFramePair) : List GraphicsEntry :=
  [.released (.texture pair.outputB.texture), .released (.texture pair.outputA.texture)]

def stop (renderer : SynchronizedSceneRenderer) :
    List GraphicsEntry × SynchronizedSceneRenderer :=
  if renderer.stopped then ([], renderer)
  else
    let (entriesA, sceneARenderer) := renderer.sceneARenderer.destroyRenderTarget
    let (entriesB, sceneBRenderer) := renderer.sceneBRenderer.destroyRenderTarget
    (.acquired .context ::
        (renderer.pipeline.retainedPairs.flatMap pairEntries ++ entriesA ++ entriesB) ++
        [.released .context],
      { renderer with
        stopped := true
        pairTracker := renderer.pairTracker.reset
        pipeline := renderer.pipeline.reset
        sceneARenderer := sceneARenderer
        sceneBRenderer := sceneBRenderer })

inductive Call where
  | render (masterFrame : MasterFrame) (readings : RenderReadings)
  | stop
deriving DecidableEq

inductive Answer where
  | done (logs : List RenderLog) (entries : List GraphicsEntry)
  | assertionFailed
deriving DecidableEq

def step (renderer : SynchronizedSceneRenderer) : Call → Answer × SynchronizedSceneRenderer
  | .render masterFrame readings =>
      match renderer.render masterFrame readings with
      | none => (.assertionFailed, renderer)
      | some (logs, entries, renderer) => (.done logs entries, renderer)
  | .stop =>
      let (entries, renderer) := renderer.stop
      (.done [] entries, renderer)

abbrev Transition := Runs.Transition SynchronizedSceneRenderer Call Answer

def Answer.logs : Answer → List RenderLog
  | .done logs _ => logs
  | .assertionFailed => []

def Answer.entries : Answer → List GraphicsEntry
  | .done _ entries => entries
  | .assertionFailed => []

/-- The two results of a frame. -/
def results (renderer : SynchronizedSceneRenderer) (masterFrame : MasterFrame)
    (readings : RenderReadings) : SceneRenderResult × SceneRenderResult :=
  ((renderer.sceneARenderer.render masterFrame readings.sceneA).1,
    (renderer.sceneBRenderer.render masterFrame readings.sceneB).1)

/-- The pair of a frame whose scenes were both rendered and both copied. -/
def completePair (t : Transition) : Option SynchronizedFramePair :=
  match t.input with
  | .stop => none
  | .render masterFrame readings =>
      let (outputA, outputB) := t.before.results masterFrame readings
      if t.before.stopped then none
      else if outputA.status = .rendered ∧ outputA.texture.isSome ∧
          outputB.status = .rendered ∧ outputB.texture.isSome then
        match readings.createdA, readings.createdB with
        | some textureA, some textureB =>
            some (SynchronizedFramePipeline.pairOf outputA outputB textureA textureB)
        | _, _ => none
      else none

variable {renderer : SynchronizedSceneRenderer} {masterFrame : MasterFrame}
  {readings : RenderReadings} {past : List Transition}

/-- A result of the active frame that is the first of its slot is recorded, without a complaint. -/
theorem recordAndLog_first {result : SceneRenderResult}
    (hactive : renderer.pairTracker.activeFrame = some result.masterFrame)
    (hfirst : renderer.pairTracker.isRecorded result.output = false) :
    ∃ logs lastReportedStatus,
      renderer.recordAndLog result =
        (logs, { renderer with
          pairTracker := renderer.pairTracker.markRecorded result.output
          lastReportedStatus := lastReportedStatus }) ∧
      ∀ log ∈ logs, log.isBroken = false := by
  simp only [recordAndLog, SceneRenderPairTracker.record_first hactive hfirst, Bool.not_true,
    Bool.false_eq_true, if_false]
  split_ifs
  · exact ⟨[], _, rfl, List.forall_mem_nil _⟩
  all_goals exact ⟨_, _, rfl, by simp [RenderLog.isBroken]⟩

open SynchronizedFramePipeline Ledger

/-- What a `Capture` does to a pipeline in lock step: it retains the pair, or leaves everything as
it was. -/
structure Captures (pipeline : SynchronizedFramePipeline) (outputA outputB : SceneRenderResult)
    (createdA createdB : Option GsTexture) (after : SynchronizedFramePipeline) : Prop where
  inLockStep : after.InLockStep
  capacity : after.queue.capacity = pipeline.queue.capacity
  pairs : (∃ textureA textureB, createdA = some textureA ∧ createdB = some textureB ∧
      pipeline.queue.canRetain (pairIdentity outputA outputB) = .retained ∧
      after.retainedPairs =
        pipeline.retainedPairs ++ [pairOf outputA outputB textureA textureB]) ∨
    (¬ (createdA.isSome = true ∧ createdB.isSome = true ∧
        pipeline.queue.canRetain (pairIdentity outputA outputB) = .retained) ∧
      after = pipeline)

theorem capture_captures {pipeline : SynchronizedFramePipeline} (h : pipeline.InLockStep)
    (outputA outputB : SceneRenderResult) (createdA createdB : Option GsTexture) :
    ∃ result after, pipeline.capture outputA outputB createdA createdB = some (result, after) ∧
      Captures pipeline outputA outputB createdA createdB after := by
  by_cases hretain : pipeline.queue.canRetain (pairIdentity outputA outputB) = .retained
  · cases createdA with
    | none =>
        exact ⟨_, _, capture_uncreated hretain (Or.inl rfl), h, rfl, Or.inr ⟨nofun, rfl⟩⟩
    | some textureA =>
        cases createdB with
        | none =>
            exact ⟨_, _, capture_uncreated hretain (Or.inr rfl), h, rfl, Or.inr ⟨nofun, rfl⟩⟩
        | some textureB =>
            exact ⟨_, _, h.capture_retained hretain textureA textureB,
              h.retained (pairOf outputA outputB textureA textureB), rfl,
              Or.inl ⟨textureA, textureB, rfl, rfl, hretain, rfl⟩⟩
  · obtain ⟨result, -, hcapture⟩ := capture_refused createdA createdB hretain
    exact ⟨_, _, hcapture, h, rfl, Or.inr ⟨fun hboth => hretain hboth.2.2, rfl⟩⟩

theorem captureLogs_sound (renderer : SynchronizedSceneRenderer)
    (outputA outputB : SceneRenderResult) (result : SynchronizedFramePipelineResult)
    (pipeline : SynchronizedFramePipeline) :
    ∀ log ∈ renderer.captureLogs outputA outputB result pipeline, log.isBroken = false := by
  unfold captureLogs
  dsimp only
  split_ifs
  · exact List.forall_mem_nil _
  all_goals exact List.forall_mem_singleton.mpr rfl

theorem captureAndLog_captures (h : renderer.pipeline.InLockStep)
    (outputA outputB : SceneRenderResult) (createdA createdB : Option GsTexture) :
    ∃ result after,
      renderer.captureAndLog outputA outputB createdA createdB =
        some (renderer.captureLogs outputA outputB result after,
          captureEntries renderer.pipeline outputA outputB createdA createdB,
          { renderer with pipeline := after, lastReportedPipelineResult := some result }) ∧
      Captures renderer.pipeline outputA outputB createdA createdB after := by
  obtain ⟨result, after, hcapture, hcaptures⟩ :=
    capture_captures h outputA outputB createdA createdB
  refine ⟨result, after, ?_, hcaptures⟩
  rw [captureAndLog, hcapture, Option.map_some]

/-- The textures of the retained pairs. -/
def textures (pipeline : SynchronizedFramePipeline) : List GraphicsResource :=
  pipeline.retainedPairs.flatMap
    (fun pair => [.texture pair.outputB.texture, .texture pair.outputA.texture])

theorem captureEntries_settles {pipeline after : SynchronizedFramePipeline}
    {outputA outputB : SceneRenderResult} {createdA createdB : Option GsTexture}
    (h : pipeline.InLockStep)
    (hcaptures : Captures pipeline outputA outputB createdA createdB after) :
    Settles ↑(textures pipeline)
      (captureEntries pipeline outputA outputB createdA createdB) ↑(textures after) := by
  rcases hcaptures.pairs with
    ⟨textureA, textureB, rfl, rfl, hretain, hpairs⟩ | ⟨hrefused, rfl⟩
  · have hentries : captureEntries pipeline outputA outputB (some textureA) (some textureB) =
        [.acquired (.texture textureA), .acquired (.texture textureB)] := by
      simp [captureEntries, hretain, h.compacted.tryRetain_retained hretain]
    have htextures : (↑(textures after) : Multiset GraphicsResource) =
        .texture textureB ::ₘ .texture textureA ::ₘ ↑(textures pipeline) := by
      rw [textures, hpairs, List.flatMap_append, ← Multiset.coe_add, add_comm]
      rfl
    rw [hentries, htextures]
    exact .acquired _ (.acquired _ (.nil _))
  · unfold captureEntries
    dsimp only
    split_ifs with hretain hboth
    · exact .nil _
    · exact absurd ⟨hboth.1, hboth.2.1, not_not.mp hretain⟩ hrefused
    · cases createdA with
      | none =>
          cases createdB with
          | none => exact .nil _
          | some textureB => exact .acquired _ (.released _ (.nil _))
      | some textureA =>
          cases createdB with
          | none => exact .acquired _ (.released _ (.nil _))
          | some textureB =>
              exact .acquired _ (.acquired _ (.released _ (.released _ (.nil _))))

/-- What holds of the renderer between calls. -/
structure Ready (renderer : SynchronizedSceneRenderer) : Prop where
  idle : renderer.pairTracker = {}
  slotA : renderer.sceneARenderer.output = .a
  slotB : renderer.sceneBRenderer.output = .b
  inLockStep : renderer.pipeline.InLockStep
  capacity : renderer.pipeline.queue.capacity = 4
  emptied : renderer.stopped = true → renderer.pipeline.retainedPairs = [] ∧
    renderer.sceneARenderer.renderTarget = none ∧ renderer.sceneBRenderer.renderTarget = none

/-- The entries of a render: both scenes and the capture, inside one visit of the context. -/
def renderEntries (renderer : SynchronizedSceneRenderer) (masterFrame : MasterFrame)
    (readings : RenderReadings) : List GraphicsEntry :=
  (renderer.sceneARenderer.render masterFrame readings.sceneA).2.1 ++
    (renderer.sceneBRenderer.render masterFrame readings.sceneB).2.1 ++
    captureEntries renderer.pipeline (renderer.results masterFrame readings).1
      (renderer.results masterFrame readings).2 readings.createdA readings.createdB

/-- A render of a renderer that is ready and not stopped. -/
theorem Ready.render_running (h : renderer.Ready) (hrunning : renderer.stopped = false)
    (masterFrame : MasterFrame) (readings : RenderReadings) :
    ∃ logs after, renderer.render masterFrame readings =
        some (logs,
          .acquired .context :: renderer.renderEntries masterFrame readings ++
            [.released .context], after) ∧
      (∀ log ∈ logs, log.isBroken = false) ∧ after.pairTracker = {} ∧ after.stopped = false ∧
      after.sceneARenderer = (renderer.sceneARenderer.render masterFrame readings.sceneA).2.2 ∧
      after.sceneBRenderer = (renderer.sceneBRenderer.render masterFrame readings.sceneB).2.2 ∧
      Captures renderer.pipeline (renderer.results masterFrame readings).1
        (renderer.results masterFrame readings).2 readings.createdA readings.createdB
        after.pipeline := by
  have hrendersA := renderer.sceneARenderer.render_renders masterFrame readings.sceneA
  have hrendersB := renderer.sceneBRenderer.render_renders masterFrame readings.sceneB
  simp only [render, renderEntries, results, hrunning, h.idle, SceneRenderPairTracker.beginFrame,
    Bool.false_eq_true, if_false, Option.isSome_none, Bool.not_true]
  generalize hrenderA : renderer.sceneARenderer.render masterFrame readings.sceneA = renderedA
    at hrendersA ⊢
  generalize hrenderB : renderer.sceneBRenderer.render masterFrame readings.sceneB = renderedB
    at hrendersB ⊢
  obtain ⟨outputA, entriesA, sceneARenderer⟩ := renderedA
  obtain ⟨outputB, entriesB, sceneBRenderer⟩ := renderedB
  dsimp only at hrendersA hrendersB ⊢
  have hslotA : outputA.output = .a := hrendersA.output.trans h.slotA
  have hslotB : outputB.output = .b := hrendersB.output.trans h.slotB
  -- the first result of each slot
  obtain ⟨logsA, statusA, hrecordA, hsoundA⟩ := @recordAndLog_first
    { renderer with
      pairTracker := ⟨some masterFrame, false, false⟩
      sceneARenderer := sceneARenderer
      sceneBRenderer := sceneBRenderer
      stopped := false } outputA (by rw [hrendersA.frame]) (by rw [hslotA]; rfl)
  simp only [hslotA, SceneRenderPairTracker.markRecorded] at hrecordA
  obtain ⟨logsB, statusB, hrecordB, hsoundB⟩ := @recordAndLog_first
    { renderer with
      pairTracker := ⟨some masterFrame, true, false⟩
      lastReportedStatus := statusA
      sceneARenderer := sceneARenderer
      sceneBRenderer := sceneBRenderer
      stopped := false } outputB (by rw [hrendersB.frame]) (by rw [hslotB]; rfl)
  simp only [hslotB, SceneRenderPairTracker.markRecorded] at hrecordB
  obtain ⟨result, after, hcapture, hcaptures⟩ := @captureAndLog_captures
    { renderer with
      pairTracker := ⟨some masterFrame, true, true⟩
      lastReportedStatus := statusB
      sceneARenderer := sceneARenderer
      sceneBRenderer := sceneBRenderer
      stopped := false } h.inLockStep outputA outputB readings.createdA readings.createdB
  simp only [hrecordA, hrecordB, hcapture, Option.map_some, SceneRenderPairTracker.isComplete,
    Option.isSome_some, Bool.and_true, Bool.not_true, Bool.false_eq_true, if_false,
    List.append_nil]
  refine ⟨_, _, rfl, ?_, rfl, rfl, rfl, rfl, hcaptures⟩
  simp only [List.forall_mem_append]
  exact ⟨⟨hsoundA, hsoundB⟩, captureLogs_sound _ _ _ _ _⟩

theorem create_ready (sceneAName sceneBName : String) : (create sceneAName sceneBName).Ready :=
  ⟨rfl, rfl, rfl, ⟨Or.inl ⟨rfl, rfl⟩, rfl⟩, rfl, nofun⟩

theorem stop_stopped (h : renderer.stopped = true) : renderer.stop = ([], renderer) := by
  simp only [stop, h, if_true]

theorem destroyRenderTarget_eq (renderer : SceneRenderer) :
    renderer.destroyRenderTarget.2 = { renderer with renderTarget := none } := by
  unfold SceneRenderer.destroyRenderTarget
  cases htarget : renderer.renderTarget with
  | none =>
      dsimp only
      rw [← htarget]
  | some target => rfl

/-- What a stop of a running renderer leaves. -/
def stoppedState (renderer : SynchronizedSceneRenderer) : SynchronizedSceneRenderer :=
  { renderer with
    stopped := true
    pairTracker := {}
    pipeline := renderer.pipeline.reset
    sceneARenderer := { renderer.sceneARenderer with renderTarget := none }
    sceneBRenderer := { renderer.sceneBRenderer with renderTarget := none } }

theorem stop_running (h : renderer.stopped = false) :
    renderer.stop =
      (.acquired .context ::
          (renderer.pipeline.retainedPairs.flatMap pairEntries ++
            renderer.sceneARenderer.destroyRenderTarget.1 ++
            renderer.sceneBRenderer.destroyRenderTarget.1) ++ [.released .context],
        renderer.stoppedState) := by
  simp only [stop, h, Bool.false_eq_true, if_false, destroyRenderTarget_eq]
  rfl

/-- The calls of a renderer that is ready: after a stop they do nothing, and before it a render
goes through. -/
theorem Ready.step_cases (h : renderer.Ready) (call : Call) :
    (renderer.stopped = true ∧ ∃ logs, renderer.step call = (.done logs [], renderer) ∧
      ∀ log ∈ logs, log.isBroken = false) ∨
    (renderer.stopped = false ∧ call = .stop ∧
      renderer.step call = (.done [] renderer.stop.1, renderer.stoppedState)) ∨
    (renderer.stopped = false ∧ ∃ masterFrame readings logs after,
      call = .render masterFrame readings ∧
      renderer.step call = (.done logs (.acquired .context ::
        renderer.renderEntries masterFrame readings ++ [.released .context]), after) ∧
      (∀ log ∈ logs, log.isBroken = false) ∧ after.pairTracker = {} ∧ after.stopped = false ∧
      after.sceneARenderer = (renderer.sceneARenderer.render masterFrame readings.sceneA).2.2 ∧
      after.sceneBRenderer = (renderer.sceneBRenderer.render masterFrame readings.sceneB).2.2 ∧
      Captures renderer.pipeline (renderer.results masterFrame readings).1
        (renderer.results masterFrame readings).2 readings.createdA readings.createdB
        after.pipeline) := by
  cases hstopped : renderer.stopped with
  | true =>
      refine Or.inl ⟨rfl, ?_⟩
      cases call with
      | render masterFrame readings =>
          refine ⟨[.renderAfterStop masterFrame], ?_, List.forall_mem_singleton.mpr rfl⟩
          simp only [step, render, hstopped, if_true]
      | stop =>
          refine ⟨[], ?_, List.forall_mem_nil _⟩
          simp only [step, stop_stopped hstopped]
  | false =>
      cases call with
      | render masterFrame readings =>
          obtain ⟨logs, after, hrender, hafter⟩ := h.render_running hstopped masterFrame readings
          refine Or.inr (Or.inr ⟨rfl, masterFrame, readings, logs, after, rfl, ?_, hafter⟩)
          simp only [step, hrender]
      | stop =>
          refine Or.inr (Or.inl ⟨rfl, rfl, ?_⟩)
          simp only [step, stop_running hstopped]

theorem Ready.step (h : renderer.Ready) (call : Call) : (renderer.step call).2.Ready := by
  rcases h.step_cases call with ⟨-, logs, hstep, -⟩ | ⟨-, -, hstep⟩ |
    ⟨-, masterFrame, readings, logs, after, -, hstep, -, hidle, hrunning, hsceneA, hsceneB,
      hcaptures⟩
  · rwa [hstep]
  · rw [hstep]
    exact ⟨rfl, h.slotA, h.slotB, reset_inLockStep _, h.capacity, fun _ => ⟨rfl, rfl, rfl⟩⟩
  · rw [hstep]
    refine ⟨hidle, ?_, ?_, hcaptures.inLockStep, hcaptures.capacity.trans h.capacity, ?_⟩
    · rw [hsceneA, (renderer.sceneARenderer.render_renders _ _).sameOutput, h.slotA]
    · rw [hsceneB, (renderer.sceneBRenderer.render_renders _ _).sameOutput, h.slotB]
    · intro hstopped
      rw [hrunning] at hstopped
      cases hstopped

variable {sceneAName sceneBName : String}

theorem ready_run (hrun : Runs.Run step (create sceneAName sceneBName) past renderer) :
    renderer.Ready :=
  hrun.stateInvariant (create_ready sceneAName sceneBName) (fun _ call h => h.step call)

/-- What a call promises: no assertion fails, no line reports a broken invariant, and once the
renderer has stopped nothing is rendered, taken or given back. -/
structure Orderly (t : Transition) : Prop where
  asserted : t.output ≠ .assertionFailed
  unbroken : ∀ log ∈ t.output.logs, log.isBroken = false
  quiet : t.before.stopped = true → t.output.entries = [] ∧ t.after = t.before

theorem Ready.orderly (h : renderer.Ready) (call : Call) :
    Orderly (Runs.transition SynchronizedSceneRenderer.step renderer call) := by
  rcases h.step_cases call with ⟨-, logs, hstep, hlogs⟩ | ⟨hrunning, -, hstep⟩ |
    ⟨hrunning, masterFrame, readings, logs, after, -, hstep, hlogs, -⟩
  · constructor
    · simp [Runs.transition, hstep]
    · simpa [Runs.transition, hstep, Answer.logs] using hlogs
    · simp [Runs.transition, hstep, Answer.entries]
  · constructor
    · simp [Runs.transition, hstep]
    · simp [Runs.transition, hstep, Answer.logs]
    · simp [Runs.transition, hrunning]
  · constructor
    · simp [Runs.transition, hstep]
    · simpa [Runs.transition, hstep, Answer.logs] using hlogs
    · simp [Runs.transition, hrunning]

/-- In every run of `Render` and `Stop`, whatever libobs answers, each frame begins with an idle
tracker and both of its results are recorded: none of the lines that report a duplicate dispatch,
a stale result or an incomplete pair is ever written. -/
theorem renderer_orderly (hrun : Runs.Run step (create sceneAName sceneBName) past renderer) :
    renderer.pairTracker = {} ∧ ∀ t ∈ past, Orderly t := by
  refine ⟨(ready_run hrun).idle, ?_⟩
  apply hrun.invariant (P := fun past _ => ∀ t ∈ past, Orderly t)
  · exact List.forall_mem_nil _
  · intro past renderer call hrun hpast
    rw [List.forall_mem_append, List.forall_mem_singleton]
    exact ⟨hpast, (ready_run hrun).orderly call⟩

/-- A scene that is missing, and a frame after the stop. -/
def missingSceneCalls : List Call :=
  let missing : SceneReadings := ⟨none, false, 0, 0, 0, 0, none, false, none⟩
  [.render ⟨0, 10⟩ ⟨missing, { missing with source := some 1, isScene := true }, none, none⟩,
    .stop, .render ⟨1, 20⟩ ⟨missing, missing, none, none⟩]

theorem renderer_orderly_sample :
    (Runs.exec step (create "A" "B") missingSceneCalls).pairTracker = {} ∧
      ∀ t ∈ Runs.history step (create "A" "B") missingSceneCalls, Orderly t :=
  renderer_orderly (Runs.run_exec (create "A" "B") missingSceneCalls)

end SynchronizedSceneRenderer

end ObsSyncReplay
