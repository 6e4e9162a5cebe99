import ObsSyncReplay.Rendering.RetainedPairs

/-!
What the renderer owns of libobs: the two render targets and the textures of the retained pairs.
Everything else that a call takes it gives back, everything is taken and given back inside the
graphics context, and a renderer that has stopped owns nothing.
-/

namespace ObsSyncReplay

namespace SynchronizedSceneRenderer

open Ledger

variable {renderer : SynchronizedSceneRenderer} {past : List Transition}
  {sceneAName sceneBName : String}

/-- What the renderer owns between calls. -/
def owned (renderer : SynchronizedSceneRenderer) : Multiset GraphicsResource :=
  renderer.sceneARenderer.owned + renderer.sceneBRenderer.owned + ↑(textures renderer.pipeline)

/-- The entries of a call. -/
def posts (t : Transition) : List GraphicsEntry := t.output.entries

theorem Ready.renderEntries_settles (h : renderer.Ready) {after : SynchronizedSceneRenderer}
    {masterFrame : MasterFrame} {readings : RenderReadings}
    (hsceneA : after.sceneARenderer =
      (renderer.sceneARenderer.render masterFrame readings.sceneA).2.2)
    (hsceneB : after.sceneBRenderer =
      (renderer.sceneBRenderer.render masterFrame readings.sceneB).2.2)
    (hcaptures : Captures renderer.pipeline (renderer.results masterFrame readings).1
      (renderer.results masterFrame readings).2 readings.createdA readings.createdB
      after.pipeline) :
    Settles renderer.owned (renderer.renderEntries masterFrame readings) after.owned := by
  have hA := renderer.sceneARenderer.render_settles masterFrame readings.sceneA
  have hB := renderer.sceneBRenderer.render_settles masterFrame readings.sceneB
  have hcapture := captureEntries_settles h.inLockStep hcaptures
  rw [← hsceneA] at hA
  rw [← hsceneB] at hB
  -- each part leaves what the others own alone
  have hfirst := hA.frame (renderer.sceneBRenderer.owned + ↑(textures renderer.pipeline))
  have hsecond := (hB.frame ↑(textures renderer.pipeline)).frame_left after.sceneARenderer.owned
  have hthird := hcapture.frame_left (after.sceneARenderer.owned + after.sceneBRenderer.owned)
  rw [owned, owned, add_assoc]
  rw [add_assoc] at hthird
  exact (hfirst.trans hsecond).trans hthird

theorem pairEntries_eq (pipeline : SynchronizedFramePipeline) :
    pipeline.retainedPairs.flatMap pairEntries = (textures pipeline).map Entry.released := by
  rw [textures, List.map_flatMap]
  rfl

theorem stopEntries_settles (hrunning : renderer.stopped = false) :
    Settles renderer.owned renderer.stop.1 renderer.stoppedState.owned := by
  have hA := renderer.sceneARenderer.destroyRenderTarget_settles
  have hB := renderer.sceneBRenderer.destroyRenderTarget_settles
  have htextures := settles_releaseAll (textures renderer.pipeline)
    (renderer.sceneARenderer.owned + renderer.sceneBRenderer.owned)
  have hframe := hA.frame renderer.sceneBRenderer.owned
  rw [zero_add] at hframe
  rw [stop_running hrunning, pairEntries_eq]
  apply Settles.bracket
  rw [owned, add_comm]
  exact (htextures.trans hframe).trans hB

theorem destroyRenderTarget_keeps_context (renderer : SceneRenderer) :
    ∀ entry ∈ renderer.destroyRenderTarget.1, entry.key ≠ .context := by
  unfold SceneRenderer.destroyRenderTarget
  cases renderer.renderTarget <;> simp [Entry.key]

theorem captureEntries_keeps_context (pipeline : SynchronizedFramePipeline)
    (outputA outputB : SceneRenderResult) (createdA createdB : Option GsTexture) :
    ∀ entry ∈ captureEntries pipeline outputA outputB createdA createdB,
      entry.key ≠ .context := by
  unfold captureEntries
  dsimp only
  split_ifs
  · exact List.forall_mem_nil _
  all_goals cases createdA <;> cases createdB <;> simp [Entry.key]

theorem Ready.posts_settles (h : renderer.Ready) (call : Call) :
    Settles renderer.owned (posts (Runs.transition SynchronizedSceneRenderer.step renderer call))
      (renderer.step call).2.owned := by
  rcases h.step_cases call with ⟨-, logs, hstep, -⟩ | ⟨hrunning, -, hstep⟩ |
    ⟨-, masterFrame, readings, logs, after, -, hstep, -, -, -, hsceneA, hsceneB, hcaptures⟩
  · simp only [posts, Runs.transition, hstep]
    exact .nil _
  · simp only [posts, Runs.transition, hstep]
    exact stopEntries_settles hrunning
  · simp only [posts, Runs.transition, hstep]
    exact (h.renderEntries_settles hsceneA hsceneB hcaptures).bracket _

theorem Ready.posts_guarded (h : renderer.Ready) (call : Call) :
    Guarded .context (· ≠ .context) renderer.owned
      (posts (Runs.transition SynchronizedSceneRenderer.step renderer call)) := by
  rcases h.step_cases call with ⟨-, logs, hstep, -⟩ | ⟨hrunning, -, hstep⟩ |
    ⟨-, masterFrame, readings, logs, after, -, hstep, -⟩
  · simp only [posts, Runs.transition, hstep]
    exact guarded_nil
  · simp only [posts, Runs.transition, hstep, stop_running hrunning]
    apply guarded_bracket
    rw [List.forall_mem_append, List.forall_mem_append]
    refine ⟨⟨?_, destroyRenderTarget_keeps_context _⟩, destroyRenderTarget_keeps_context _⟩
    rintro entry hentry
    obtain ⟨pair, -, hmem⟩ := List.mem_flatMap.mp hentry
    rcases List.mem_pair.mp hmem with rfl | rfl <;> simp [Entry.key]
  · simp only [posts, Runs.transition, hstep]
    apply guarded_bracket
    rw [renderEntries, List.forall_mem_append, List.forall_mem_append]
    exact ⟨⟨SceneRenderer.render_keeps_context _ _ _, SceneRenderer.render_keeps_context _ _ _⟩,
      captureEntries_keeps_context _ _ _ _ _⟩

theorem Ready.owned_stopped (h : renderer.Ready) (hstopped : renderer.stopped = true) :
    renderer.owned = 0 := by
  obtain ⟨hpairs, htargetA, htargetB⟩ := h.emptied hstopped
  simp [owned, textures, SceneRenderer.owned, hpairs, htargetA, htargetB]

/-- In every run, whatever libobs answers: nothing is given back that is not held, all that is
taken and given back is so inside the graphics context, and what is held between calls is what
the two targets and the retained pairs own, which is nothing once the renderer has stopped. -/
theorem renderer_gives_everything_back
    (hrun : Runs.Run step (create sceneAName sceneBName) past renderer) :
    Settles 0 (past.flatMap posts) renderer.owned ∧
      Guarded .context (· ≠ .context) 0 (past.flatMap posts) ∧
      (renderer.stopped = true → renderer.owned = 0 ∧
        ∀ resource, (past.flatMap posts).count (.released resource) =
          (past.flatMap posts).count (.acquired resource)) := by
  have hsettles : Settles 0 (past.flatMap posts) renderer.owned :=
    settles_run posts owned hrun fun _ _ call hrun => (ready_run hrun).posts_settles call
  refine ⟨hsettles, ?_, ?_⟩
  · exact guarded_run posts owned hrun
      (fun _ _ call hrun => (ready_run hrun).posts_settles call)
      (fun _ _ call hrun => (ready_run hrun).posts_guarded call)
  · intro hstopped
    have hnothing := (ready_run hrun).owned_stopped hstopped
    rw [hnothing] at hsettles
    exact ⟨hnothing, hsettles.balanced⟩

theorem renderer_gives_everything_back_sample :
    (Runs.exec step (create "A" "B") [.render ⟨0, 10⟩ (sampleReadings 10), .stop]).owned = 0 := by
  have hback := renderer_gives_everything_back
    (Runs.run_exec (create "A" "B") [.render ⟨0, 10⟩ (sampleReadings 10), .stop])
  exact (hback.2.2 rfl).1

end SynchronizedSceneRenderer

end ObsSyncReplay
