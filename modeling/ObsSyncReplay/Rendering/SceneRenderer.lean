import ObsSyncReplay.Pipeline.SynchronizedFramePipeline
import ObsSyncReplay.Lib.Ledger

/-!
`rendering/scene-renderer`: one scene is rendered into one off-screen target, which its renderer
owns and replaces when the colour format changes. Beside the result a render leaves the list of
what it has taken from libobs and given back, in the order of the calls.
-/

namespace ObsSyncReplay

/-- What is taken from libobs and given back: the graphics context
(`obs_enter_graphics`/`obs_leave_graphics`), a reference to a source, its showing count, a render
target, the pass between begin and end on one, the pushed states, a texture. -/
inductive GraphicsResource where
  | context
  | source (address : UInt64)
  | showing (address : UInt64)
  | renderTarget (address : UInt64)
  | targetPass (address : UInt64)
  | viewport
  | projection
  | blendState
  | texture (address : GsTexture)
deriving DecidableEq

abbrev GraphicsEntry := Ledger.Entry GraphicsResource

/-- A `gs_texrender_t`, with the format it was created with. -/
structure RenderTarget where
  address : UInt64
  colorFormat : UInt32
deriving DecidableEq

/-- What libobs answers while one scene is rendered: `obs_get_source_by_name`,
`obs_scene_from_source`, the dimensions and the colour space of the source,
`gs_get_format_from_space`, `gs_texrender_create`, `gs_texrender_begin_with_color_space` and
`gs_texrender_get_texture`. -/
structure SceneReadings where
  source : Option UInt64
  isScene : Bool
  width : UInt32
  height : UInt32
  colorSpace : UInt32
  colorFormat : UInt32
  createdTarget : Option UInt64
  begins : Bool
  targetTexture : Option GsTexture
deriving DecidableEq

structure SceneRenderer where
  output : OutputSlot
  sceneName : String
  renderTarget : Option RenderTarget := none
deriving DecidableEq

namespace SceneRenderer

/-- The target for a format: one of another format is destroyed, a missing one is created. -/
def prepareRenderTarget (renderer : SceneRenderer) (readings : SceneReadings) :
    List GraphicsEntry × Option RenderTarget :=
  let (destroyed, renderTarget) : List GraphicsEntry × Option RenderTarget :=
    match renderer.renderTarget with
    | some target =>
        if target.colorFormat ≠ readings.colorFormat then
          ([.released (.renderTarget target.address)], none)
        else ([], some target)
    | none => ([], none)
  match renderTarget with
  | some target => (destroyed, some target)
  | none =>
      match readings.createdTarget with
      | some address =>
          (destroyed ++ [.acquired (.renderTarget address)],
            some ⟨address, readings.colorFormat⟩)
      | none => (destroyed, none)

/-- The source is drawn between begin and end, with its states pushed and popped around it. -/
def passEntries (source : UInt64) (target : RenderTarget) : List GraphicsEntry :=
  [.acquired (.targetPass target.address), .acquired .viewport, .acquired .projection,
    .acquired .blendState, .acquired (.showing source), .released (.showing source),
    .released .blendState, .released .projection, .released .viewport,
    .released (.targetPass target.address)]

def render (renderer : SceneRenderer) (masterFrame : MasterFrame) (readings : SceneReadings) :
    SceneRenderResult × List GraphicsEntry × SceneRenderer :=
  let result : SceneRenderResult :=
    ⟨masterFrame, renderer.output, .missingScene, 0, 0, 0, 0, none⟩
  match readings.source with
  | none => (result, [], renderer)
  | some source =>
      -- the reference to the source is released on every way out
      let referenced (entries : List GraphicsEntry) : List GraphicsEntry :=
        .acquired (.source source) :: entries ++ [.released (.source source)]
      if !readings.isScene then
        ({ result with status := .notAScene }, referenced [], renderer)
      else
        let result := { result with width := readings.width, height := readings.height }
        if readings.width = 0 ∨ readings.height = 0 then
          ({ result with status := .invalidDimensions }, referenced [], renderer)
        else
          let result :=
            { result with colorSpace := readings.colorSpace, colorFormat := readings.colorFormat }
          let (entries, renderTarget) := renderer.prepareRenderTarget readings
          let renderer := { renderer with renderTarget := renderTarget }
          match renderTarget with
          | none =>
              ({ result with status := .renderTargetCreationFailed }, referenced entries, renderer)
          | some target =>
              if !readings.begins then
                ({ result with status := .renderTargetBeginFailed }, referenced entries, renderer)
              else
                ({ result with status := .rendered, texture := readings.targetTexture },
                  referenced (entries ++ passEntries source target), renderer)

def destroyRenderTarget (renderer : SceneRenderer) : List GraphicsEntry × SceneRenderer :=
  match renderer.renderTarget with
  | none => ([], renderer)
  | some target =>
      ([.released (.renderTarget target.address)], { renderer with renderTarget := none })

/-- What a renderer owns between calls. -/
def owned (renderer : SceneRenderer) : Multiset GraphicsResource :=
  ↑(renderer.renderTarget.toList.map (fun target => GraphicsResource.renderTarget target.address))

variable {renderer : SceneRenderer} {masterFrame : MasterFrame} {readings : SceneReadings}

/-- The ways out of a render: without a source, before the target is looked at, with a target that
cannot be had or begun, and with the source drawn. -/
theorem render_cases (renderer : SceneRenderer) (masterFrame : MasterFrame)
    (readings : SceneReadings) :
    (renderer.render masterFrame readings =
      (⟨masterFrame, renderer.output, .missingScene, 0, 0, 0, 0, none⟩, [], renderer)) ∨
    ∃ source result entries target,
      renderer.render masterFrame readings =
        (result, .acquired (.source source) :: entries ++ [.released (.source source)],
          { renderer with renderTarget := target }) ∧
      result.masterFrame = masterFrame ∧ result.output = renderer.output ∧
      ((result.status ≠ .rendered ∧ entries = [] ∧ target = renderer.renderTarget) ∨
        (result.status ≠ .rendered ∧ renderer.prepareRenderTarget readings = (entries, target)) ∨
        (result.status = .rendered ∧ result.width ≠ 0 ∧ result.height ≠ 0 ∧
          ∃ prepared begun, renderer.prepareRenderTarget readings = (prepared, some begun) ∧
            target = some begun ∧ entries = prepared ++ passEntries source begun)) := by
  cases hprepare : renderer.prepareRenderTarget readings with
  | mk prepared target =>
      cases hsource : readings.source with
      | none => exact Or.inl (by simp only [render, hsource])
      | some source =>
          refine Or.inr ⟨source, ?_⟩
          cases hscene : readings.isScene with
          | false =>
              refine ⟨⟨masterFrame, renderer.output, .notAScene, 0, 0, 0, 0, none⟩, [],
                renderer.renderTarget, ?_, rfl, rfl, Or.inl ⟨?_, rfl, rfl⟩⟩
              · simp only [render, hsource, hscene, Bool.not_false, if_true]
              · nofun
          | true =>
              by_cases hsize : readings.width = 0 ∨ readings.height = 0
              · refine ⟨⟨masterFrame, renderer.output, .invalidDimensions, readings.width,
                  readings.height, 0, 0, none⟩, [], renderer.renderTarget, ?_, rfl, rfl,
                  Or.inl ⟨?_, rfl, rfl⟩⟩
                · simp only [render, hsource, hscene, hsize, Bool.not_true, Bool.false_eq_true,
                    if_false, if_true]
                · nofun
              · obtain ⟨hwidth, hheight⟩ := not_or.mp hsize
                cases target with
                | none =>
                    refine ⟨⟨masterFrame, renderer.output, .renderTargetCreationFailed,
                      readings.width, readings.height, readings.colorSpace, readings.colorFormat,
                      none⟩, prepared, none, ?_, rfl, rfl, Or.inr (Or.inl ⟨?_, rfl⟩)⟩
                    · simp only [render, hsource, hscene, hsize, hprepare, Bool.not_true,
                        Bool.false_eq_true, if_false]
                    · nofun
                | some begun =>
                    cases hbegins : readings.begins with
                    | false =>
                        refine ⟨⟨masterFrame, renderer.output, .renderTargetBeginFailed,
                          readings.width, readings.height, readings.colorSpace,
                          readings.colorFormat, none⟩, prepared, some begun, ?_, rfl, rfl,
                          Or.inr (Or.inl ⟨?_, rfl⟩)⟩
                        · simp only [render, hsource, hscene, hsize, hprepare, hbegins,
                            Bool.not_true, Bool.not_false, Bool.false_eq_true, if_false, if_true]
                        · nofun
                    | true =>
                        refine ⟨⟨masterFrame, renderer.output, .rendered, readings.width,
                          readings.height, readings.colorSpace, readings.colorFormat,
                          readings.targetTexture⟩, prepared ++ passEntries source begun,
                          some begun, ?_, rfl, rfl,
                          Or.inr (Or.inr ⟨rfl, hwidth, hheight, prepared, begun, rfl, rfl, rfl⟩)⟩
                        simp only [render, hsource, hscene, hsize, hprepare, hbegins,
                          Bool.not_true, Bool.false_eq_true, if_false]

/-- The result is that of this frame and this slot, and a rendered one has its dimensions. -/
structure Renders (renderer : SceneRenderer) (masterFrame : MasterFrame)
    (result : SceneRenderResult) (after : SceneRenderer) : Prop where
  frame : result.masterFrame = masterFrame
  output : result.output = renderer.output
  sized : result.status = .rendered → result.width ≠ 0 ∧ result.height ≠ 0
  sameOutput : after.output = renderer.output

theorem render_renders (renderer : SceneRenderer) (masterFrame : MasterFrame)
    (readings : SceneReadings) :
    Renders renderer masterFrame (renderer.render masterFrame readings).1
      (renderer.render masterFrame readings).2.2 := by
  rcases renderer.render_cases masterFrame readings with
    hrender | ⟨source, result, entries, target, hrender, hframe, houtput, hresult⟩
  · rw [hrender]
    exact ⟨rfl, rfl, nofun, rfl⟩
  · rw [hrender]
    refine ⟨hframe, houtput, ?_, rfl⟩
    intro hrendered
    rcases hresult with ⟨hnot, -⟩ | ⟨hnot, -⟩ | ⟨-, hwidth, hheight, -⟩
    · exact absurd hrendered hnot
    · exact absurd hrendered hnot
    · exact ⟨hwidth, hheight⟩

open Ledger

theorem prepareRenderTarget_settles (renderer : SceneRenderer) (readings : SceneReadings) :
    Settles renderer.owned (renderer.prepareRenderTarget readings).1
      { renderer with renderTarget := (renderer.prepareRenderTarget readings).2 }.owned := by
  unfold prepareRenderTarget owned
  cases htarget : renderer.renderTarget with
  | none =>
      cases hcreated : readings.createdTarget with
      | none => exact .nil _
      | some address => exact settles_acquired _ 0
  | some target =>
      dsimp only
      split_ifs with hformat
      · cases hcreated : readings.createdTarget with
        | none => exact settles_released _ 0
        | some address => exact (settles_released _ 0).trans (settles_acquired _ 0)
      · exact .nil _

theorem passEntries_settles (source : UInt64) (target : RenderTarget)
    (held : Multiset GraphicsResource) : Settles held (passEntries source target) held :=
  .acquired _ (.acquired _ (.acquired _ (.acquired _ (.acquired _
    (.released _ (.released _ (.released _ (.released _ (.released _ (.nil held))))))))))

/-- A render gives back all it takes but its render target. -/
theorem render_settles (renderer : SceneRenderer) (masterFrame : MasterFrame)
    (readings : SceneReadings) :
    Settles renderer.owned (renderer.render masterFrame readings).2.1
      (renderer.render masterFrame readings).2.2.owned := by
  have hprepared := renderer.prepareRenderTarget_settles readings
  rcases renderer.render_cases masterFrame readings with
    hrender | ⟨source, result, entries, target, hrender, -, -, hresult⟩
  · rw [hrender]
    exact .nil _
  · rw [hrender]
    apply Settles.bracket
    rcases hresult with ⟨-, rfl, rfl⟩ | ⟨-, hprepare⟩ | ⟨-, -, -, prepared, begun, hprepare, rfl, rfl⟩
    · exact .nil _
    · rwa [hprepare] at hprepared
    · rw [hprepare] at hprepared
      exact hprepared.trans (passEntries_settles source begun _)

theorem destroyRenderTarget_settles (renderer : SceneRenderer) :
    Settles renderer.owned renderer.destroyRenderTarget.1 0 := by
  unfold destroyRenderTarget owned
  cases renderer.renderTarget with
  | none => exact .nil _
  | some target => exact settles_released _ 0

/-- A render and the destruction of the target never enter or leave the graphics context. -/
theorem render_keeps_context (renderer : SceneRenderer) (masterFrame : MasterFrame)
    (readings : SceneReadings) :
    ∀ entry ∈ (renderer.render masterFrame readings).2.1, entry.key ≠ .context := by
  have hprepared : ∀ entry ∈ (renderer.prepareRenderTarget readings).1, entry.key ≠ .context := by
    unfold prepareRenderTarget
    cases renderer.renderTarget with
    | none =>
        cases readings.createdTarget <;> simp [Entry.key]
    | some target =>
        dsimp only
        split_ifs
        · cases readings.createdTarget <;> simp [Entry.key]
        · simp
  rcases renderer.render_cases masterFrame readings with
    hrender | ⟨source, result, entries, target, hrender, -, -, hresult⟩
  · simp [hrender]
  · have hentries : ∀ entry ∈ entries, entry.key ≠ .context := by
      rcases hresult with ⟨-, rfl, -⟩ | ⟨-, hprepare⟩ | ⟨-, -, -, prepared, begun, hprepare, -, rfl⟩
      · exact nofun
      · rwa [hprepare] at hprepared
      · rw [hprepare] at hprepared
        rw [List.forall_mem_append]
        exact ⟨hprepared, by simp [passEntries, Entry.key]⟩
    rw [hrender]
    rw [List.cons_append, List.forall_mem_cons, List.forall_mem_append, List.forall_mem_singleton]
    exact ⟨nofun, hentries, nofun⟩

end SceneRenderer

end ObsSyncReplay
