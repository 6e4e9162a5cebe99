import ObsSyncReplay.Rendering.SynchronizedSceneRenderer

/-!
What a run of the renderer keeps: the pairs of the first four frames whose scenes were both
rendered and copied. Nothing takes them out before the renderer stops, so that every later pair is
refused for want of capacity.
-/

namespace ObsSyncReplay

namespace SynchronizedSceneRenderer

open SynchronizedFramePipeline

variable {renderer : SynchronizedSceneRenderer} {past : List Transition}
  {sceneAName sceneBName : String}

/-- What the renderer hands to the pipeline is one frame twice, in the two slots, and it is
complete when both scenes were rendered to a texture. -/
theorem Ready.isValid_results (h : renderer.Ready) (masterFrame : MasterFrame)
    (readings : RenderReadings) :
    SynchronizedFrameQueue.isValid (pairIdentity (renderer.results masterFrame readings).1
        (renderer.results masterFrame readings).2) = true ↔
      (renderer.results masterFrame readings).1.status = .rendered ∧
        (renderer.results masterFrame readings).1.texture.isSome = true ∧
        (renderer.results masterFrame readings).2.status = .rendered ∧
        (renderer.results masterFrame readings).2.texture.isSome = true := by
  have hA := renderer.sceneARenderer.render_renders masterFrame readings.sceneA
  have hB := renderer.sceneBRenderer.render_renders masterFrame readings.sceneB
  have hslotA := hA.output.trans h.slotA
  have hslotB := hB.output.trans h.slotB
  rw [SynchronizedFrameQueue.isValid_iff]
  simp only [pairIdentity, results, hA.frame, hB.frame, hslotA, hslotB, beq_self_eq_true,
    Bool.and_true, Bool.and_eq_true, beq_iff_eq, bne_iff_ne, and_true]
  constructor
  · rintro ⟨⟨⟨⟨⟨⟨⟨hrenderedA, hrenderedB⟩, htextureA⟩, htextureB⟩, -⟩, -⟩, -⟩, -⟩
    exact ⟨hrenderedA, htextureA, hrenderedB, htextureB⟩
  · rintro ⟨hrenderedA, htextureA, hrenderedB, htextureB⟩
    obtain ⟨hwidthA, hheightA⟩ := hA.sized hrenderedA
    obtain ⟨hwidthB, hheightB⟩ := hB.sized hrenderedB
    exact ⟨⟨⟨⟨⟨⟨⟨hrenderedA, hrenderedB⟩, htextureA⟩, htextureB⟩, hwidthA⟩, hheightA⟩, hwidthB⟩,
      hheightB⟩

/-- A frame completes exactly when its pair is valid and both copies were created. -/
theorem Ready.completePair_eq (h : renderer.Ready) (hrunning : renderer.stopped = false)
    (masterFrame : MasterFrame) (readings : RenderReadings) :
    completePair (Runs.transition SynchronizedSceneRenderer.step renderer (.render masterFrame readings)) =
      if SynchronizedFrameQueue.isValid (pairIdentity (renderer.results masterFrame readings).1
          (renderer.results masterFrame readings).2) then
        match readings.createdA, readings.createdB with
        | some textureA, some textureB =>
            some (pairOf (renderer.results masterFrame readings).1
              (renderer.results masterFrame readings).2 textureA textureB)
        | _, _ => none
      else none := by
  simp only [completePair, Runs.transition, hrunning, Bool.false_eq_true, if_false]
  exact if_congr (h.isValid_results masterFrame readings).symm rfl rfl

/-- One more item for the first `n`. -/
theorem take_concat {α : Type} (items : List α) (item : α) (n : Nat) :
    (items ++ [item]).take n =
      if (items.take n).length < n then items.take n ++ [item] else items.take n := by
  rw [List.take_append, List.length_take]
  split_ifs with hlength
  · have hroom : n - items.length ≥ 1 := by omega
    rw [List.take_of_length_le (l := [item]) hroom]
  · have hfull : n - items.length = 0 := by omega
    rw [hfull, List.take_zero, List.append_nil]

/-- The pairs of a renderer that has not stopped are the first four that were complete. -/
def RetainsFirst (past : List Transition) (renderer : SynchronizedSceneRenderer) : Prop :=
  renderer.pipeline.retainedPairs =
    if renderer.stopped then [] else (past.filterMap completePair).take 4

theorem RetainsFirst.step (h : RetainsFirst past renderer) (hready : renderer.Ready)
    (call : Call) :
    RetainsFirst (past ++ [Runs.transition SynchronizedSceneRenderer.step renderer call])
      (renderer.step call).2 := by
  unfold RetainsFirst at h ⊢
  rcases hready.step_cases call with ⟨hstopped, logs, hstep, -⟩ | ⟨-, rfl, hstep⟩ |
    ⟨hrunning, masterFrame, readings, logs, after, rfl, hstep, -, -, hafter, -, -, hcaptures⟩
  · rw [hstopped, if_pos rfl] at h
    rw [hstep, hstopped, if_pos rfl, h]
  · rw [hstep]
    rfl
  · rw [hrunning, if_neg (by simp)] at h
    have hcomplete := hready.completePair_eq hrunning masterFrame readings
    have hlength := hready.inLockStep.length
    generalize Runs.transition SynchronizedSceneRenderer.step renderer
      (.render masterFrame readings) = t at hcomplete
    rw [hstep, hafter, if_neg (by simp), List.filterMap_append]
    rcases hcaptures.pairs with
      ⟨textureA, textureB, hcreatedA, hcreatedB, hretain, hpairs⟩ | ⟨hrefused, hsame⟩
    · obtain ⟨hvalid, hroom⟩ := SynchronizedFrameQueue.canRetain_eq_retained_iff.mp hretain
      rw [if_pos hvalid, hcreatedA, hcreatedB] at hcomplete
      rw [hpairs, List.filterMap_cons_some hcomplete, List.filterMap_nil, take_concat, ← h,
        if_pos]
      rw [hlength]
      rwa [hready.capacity] at hroom
    · rw [hsame]
      cases hframe : completePair t with
      | none => rw [List.filterMap_cons_none hframe, List.filterMap_nil, List.append_nil, h]
      | some pair =>
          -- the frame is complete, so it is for want of room that it is refused
          rw [List.filterMap_cons_some hframe, List.filterMap_nil, take_concat, ← h, if_neg]
          intro hroom
          rw [hcomplete] at hframe
          split_ifs at hframe with hvalid
          cases hcreatedA : readings.createdA with
          | none => simp [hcreatedA] at hframe
          | some textureA =>
              cases hcreatedB : readings.createdB with
              | none => simp [hcreatedA, hcreatedB] at hframe
              | some textureB =>
                  apply hrefused
                  rw [hcreatedA, hcreatedB]
                  refine ⟨rfl, rfl, SynchronizedFrameQueue.canRetain_eq_retained_iff.mpr
                    ⟨hvalid, ?_⟩⟩
                  rw [hready.capacity]
                  rwa [hlength] at hroom

/-- A pair of a frame that completed is synchronized, and it is of that frame. -/
theorem Ready.completePair_synchronized (h : renderer.Ready) {call : Call}
    {pair : SynchronizedFramePair}
    (hpair : completePair (Runs.transition SynchronizedSceneRenderer.step renderer call) = some pair) :
    pair.Synchronized ∧ ∃ readings, call = .render pair.masterFrame readings := by
  cases call with
  | stop => cases hpair
  | render masterFrame readings =>
      have hA := renderer.sceneARenderer.render_renders masterFrame readings.sceneA
      have hB := renderer.sceneBRenderer.render_renders masterFrame readings.sceneB
      cases hstopped : renderer.stopped with
      | true => simp [completePair, Runs.transition, hstopped] at hpair
      | false =>
          rw [h.completePair_eq hstopped] at hpair
          split_ifs at hpair
          split at hpair
          · obtain rfl := Option.some.inj hpair
            refine ⟨⟨hA.output.trans h.slotA, hB.output.trans h.slotB, rfl, ?_⟩, readings, ?_⟩
            · exact hB.frame.trans hA.frame.symm
            · exact congrArg (Call.render · readings) hA.frame.symm
          · cases hpair

/-- In every run, whatever libobs answers, the renderer retains the first four frames whose scenes
were both rendered and copied, in order and each with one identity on both outputs, and nothing
once it has stopped. -/
theorem renderer_retains_first_pairs
    (hrun : Runs.Run step (create sceneAName sceneBName) past renderer) :
    renderer.pipeline.retainedPairs =
        (if renderer.stopped then [] else (past.filterMap completePair).take 4) ∧
      ∀ t ∈ past, ∀ pair, completePair t = some pair →
        pair.Synchronized ∧ ∃ readings, t.input = .render pair.masterFrame readings := by
  apply hrun.invariant (P := fun past renderer => RetainsFirst past renderer ∧
    ∀ t ∈ past, ∀ pair, completePair t = some pair →
      pair.Synchronized ∧ ∃ readings, t.input = .render pair.masterFrame readings)
  · exact ⟨rfl, List.forall_mem_nil _⟩
  · rintro past renderer call hrun ⟨hretains, hpast⟩
    have hready := ready_run hrun
    refine ⟨hretains.step hready call, ?_⟩
    rw [List.forall_mem_append, List.forall_mem_singleton]
    exact ⟨hpast, fun pair => hready.completePair_synchronized⟩

/-- libobs answers that render and copy both scenes of a frame. -/
def sampleReadings (texture : GsTexture) : RenderReadings :=
  let scene : SceneReadings := ⟨some 1, true, 1920, 1080, 0, 3, some 2, true, some 4⟩
  ⟨scene, { scene with createdTarget := some 3 }, some texture, some (texture + 1)⟩

/-- Five complete frames after one whose second scene is missing. -/
def sampleCalls : List Call :=
  .render ⟨0, 10⟩ { sampleReadings 10 with sceneB := ⟨none, false, 0, 0, 0, 0, none, false, none⟩ } ::
    [1, 2, 3, 4, 5].map (fun n =>
      .render ⟨UInt64.ofNat n, UInt64.ofNat (10 + n)⟩ (sampleReadings (UInt64.ofNat (10 * n + 10))))

theorem renderer_retains_first_pairs_sample :
    (Runs.exec step (create "A" "B") sampleCalls).pipeline.retainedPairs.map
        (fun pair => pair.masterFrame.frameId) = [1, 2, 3, 4] := by
  rw [(renderer_retains_first_pairs (Runs.run_exec _ sampleCalls)).1]
  decide

end SynchronizedSceneRenderer

end ObsSyncReplay
