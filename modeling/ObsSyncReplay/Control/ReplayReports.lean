import ObsSyncReplay.Control.PluginCaptureRuntime

/-!
Which save a report of the runtime is about. A report is made under the number of the save
accepted last; whether it shows the result of this save depends on what the engine holds
when it is polled.
-/

namespace ObsSyncReplay

namespace CaptureControlEngine

variable {ε : Type} {engine : CaptureControlEngine ε} {last : Option ReplaySave}

/-- A save that is pending is `last`. -/
structure Tracks (last : Option ReplaySave) (engine : CaptureControlEngine ε) : Prop where
  coherent : engine.Coherent
  pending : engine.replayState = .saving → ∃ save ∈ last, engine.savedResult = some save.result

/-- The worker of the pending save has finished, so that the next poll takes its result. -/
def ResultReady (engine : CaptureControlEngine ε) : Prop :=
  engine.replayState = .saving ∧
    ∃ consumer ∈ engine.replayConsumer, consumer.active = false

theorem pollReplaySave_of_ready (h : engine.ResultReady) :
    engine.pollReplaySave.replayResult = engine.savedResult := by
  obtain ⟨hsaving, consumer, hconsumer, hidle⟩ := h
  rw [Option.mem_def] at hconsumer
  unfold pollReplaySave savedResult
  simp [hconsumer, hsaving, hidle, SynchronizedReplayConsumer.wait]

theorem pollReplaySave_of_not_ready (h : ¬engine.ResultReady) :
    engine.pollReplaySave.replayResult = engine.replayResult := by
  unfold pollReplaySave
  cases hconsumer : engine.replayConsumer with
  | none => rfl
  | some consumer =>
      dsimp only
      split_ifs with hidle
      · rfl
      · push Not at hidle
        exact absurd ⟨hidle.1, consumer, hconsumer, by simpa using hidle.2⟩ h

variable [EncoderController ε]

theorem Tracks.step (h : engine.Tracks last) (call : ControlCall)
    (hcall : acceptedSave (Runs.transition CaptureControlEngine.step engine call) = none) :
    (engine.step call).2.Tracks last := by
  refine ⟨h.coherent.step call, fun hsaving => ?_⟩
  by_cases hbefore : engine.replayState = .saving
  · obtain ⟨save, hlast, hsaved⟩ := h.pending hbefore
    rcases h.coherent.step_of_saving hbefore call with ⟨-, hsame⟩ | ⟨hleft, -⟩ | ⟨hleft, -⟩
    · exact ⟨save, hlast, hsame.saved.trans hsaved⟩
    · exact absurd hsaving hleft
    · exact absurd (hleft.symm.trans hsaving) (by simp)
  · obtain ⟨save, haccepted, -⟩ := h.coherent.step_of_not_saving hbefore call hsaving
    rw [hcall] at haccepted
    cases haccepted

theorem tracks_create {configuration : CaptureConfiguration} {ringCapacityBytes : Nat}
    {controller : ε} :
    (create configuration (.create ringCapacityBytes) controller).initializeEngine.2.Tracks
      last := by
  have hcreated : (create configuration (.create ringCapacityBytes) controller).Tracks last :=
    ⟨coherent_create configuration ringCapacityBytes controller, fun hsaving => by cases hsaving⟩
  exact hcreated.step .initializeEngine rfl

end CaptureControlEngine

namespace PluginCaptureRuntime

variable {runtime : PluginCaptureRuntime} {last : Option ReplaySave}

/-- The save that a step has accepted. -/
def acceptedSave (t : Transition) : Option ReplaySave :=
  match t.input, t.output with
  | .saveReplay _ _ _ _, .command result =>
      if result.ok then
        (t.after.control.bind CaptureControlEngine.replayConsumer).bind
          SynchronizedReplayConsumer.writing
      else none
  | _, _ => none

def acceptedSaves (past : List Transition) : List ReplaySave := past.filterMap acceptedSave

/-- The result that a step has reported, under the generation it was reported for. -/
def report (t : Transition) : Option (Nat × ReplaySaveResult) :=
  match t.output with
  | .reported (some result) => some (t.after.replayResultLoggedGeneration, result)
  | _ => none

def reports (past : List Transition) : List (Nat × ReplaySaveResult) := past.filterMap report

/-- Generation `g` is reported with the result of the `g`-th accepted save, and at most
once. -/
def ReportsOwnResults (past : List Transition) : Prop :=
  (∀ reported ∈ reports past, ∃ save,
    (acceptedSaves past)[reported.1 - 1]? = some save ∧ 0 < reported.1 ∧
      reported.2 = save.result) ∧
    (reports past).Pairwise (fun earlier later => earlier.1 < later.1)

/-- A poll that has something to report finds no result held, or the pending save finished,
or the held result is that of the last save. -/
def PollsOnResult (before : List Transition) (t : Transition) : Prop :=
  t.input = .pollReplaySave →
    t.before.replayResultLoggedGeneration < t.before.replaySaveGeneration →
    ∀ engine ∈ t.before.control, engine.ResultReady ∨
      ∀ held ∈ engine.replayResult,
        ∃ save ∈ (acceptedSaves before).getLast?, held = save.result

def Tracks (last : Option ReplaySave) (runtime : PluginCaptureRuntime) : Prop :=
  ∀ engine ∈ runtime.control, engine.Tracks last

structure SameCounters (runtime runtime' : PluginCaptureRuntime) : Prop where
  generation : runtime'.replaySaveGeneration = runtime.replaySaveGeneration
  logged : runtime'.replayResultLoggedGeneration = runtime.replayResultLoggedGeneration

theorem SameCounters.refl : SameCounters runtime runtime := ⟨rfl, rfl⟩

theorem SameCounters.trans {first second third : PluginCaptureRuntime}
    (h : SameCounters first second) (h' : SameCounters second third) :
    SameCounters first third :=
  ⟨h'.generation.trans h.generation, h'.logged.trans h.logged⟩

theorem tracks_of_none (h : runtime.control = none) : runtime.Tracks last := by
  simp [Tracks, h]

theorem tracks_some {engine : CaptureControlEngine PluginEncoderController}
    (hcontrol : runtime.control = some engine) : runtime.Tracks last ↔ engine.Tracks last := by
  simp [Tracks, hcontrol]

/-- What a command does that is not an accepted save, and does not report. -/
structure Continues (last : Option ReplaySave) (runtime runtime' : PluginCaptureRuntime) :
    Prop extends SameCounters runtime runtime' where
  tracks : runtime'.Tracks last

theorem SameCounters.continues {first second third : PluginCaptureRuntime}
    (h : SameCounters first second) (h' : Continues last second third) :
    Continues last first third :=
  ⟨h.trans h'.toSameCounters, h'.tracks⟩

theorem Continues.trans {first second third : PluginCaptureRuntime}
    (h : Continues last first second) (h' : Continues last second third) :
    Continues last first third :=
  h.toSameCounters.continues h'

theorem buildControlState_continues (h : runtime.Tracks last) (rebuild : Rebuild) :
    Continues last runtime (runtime.buildControlState rebuild).2 := by
  unfold buildControlState
  split
  · exact ⟨.refl, h⟩
  · rename_i streams _
    split_ifs
    · exact ⟨⟨rfl, rfl⟩, tracks_of_none rfl⟩
    · dsimp only
      split
      · exact ⟨⟨rfl, rfl⟩, tracks_of_none rfl⟩
      · rename_i engine hbuilt
        refine ⟨⟨rfl, rfl⟩, (tracks_some rfl).mpr ?_⟩
        have hnew := congrArg Prod.snd hbuilt
        dsimp only at hnew
        rw [← hnew]
        exact CaptureControlEngine.tracks_create

theorem installSceneTargets_continues (h : runtime.Tracks last) (discovered : List DiscoveredScene)
    (rebuild : Rebuild) :
    Continues last runtime (runtime.installSceneTargets discovered rebuild).2 := by
  unfold installSceneTargets
  split <;> exact ⟨⟨rfl, rfl⟩, h⟩

theorem rebuildControl_continues (discovered : List DiscoveredScene) (rebuild : Rebuild) :
    Continues last runtime (runtime.rebuildControl discovered rebuild).2 := by
  have hinstalled : Continues last runtime
      ({ runtime with control := none }.installSceneTargets discovered rebuild).2 :=
    SameCounters.continues (by exact ⟨rfl, rfl⟩)
      (installSceneTargets_continues (tracks_of_none rfl) discovered rebuild)
  unfold rebuildControl
  split <;> rename_i installed hinstall <;> rw [hinstall] at hinstalled
  · exact hinstalled
  · exact hinstalled.trans (buildControlState_continues hinstalled.tracks rebuild)

theorem finishCaptureEpochIfIdle_continues (h : runtime.Tracks last) (rebuild : Rebuild) :
    Continues last runtime (runtime.finishCaptureEpochIfIdle rebuild) := by
  unfold finishCaptureEpochIfIdle
  split
  · exact ⟨.refl, h⟩
  · split_ifs
    · exact ⟨.refl, h⟩
    · dsimp only
      split
      · exact ⟨⟨rfl, rfl⟩, h⟩
      · split_ifs
        · exact ⟨⟨rfl, rfl⟩, h⟩
        · exact SameCounters.continues (by exact ⟨rfl, rfl⟩) (rebuildControl_continues _ rebuild)

theorem finished_continues {engine : CaptureControlEngine PluginEncoderController}
    (h : engine.Tracks last) (configuration : ReplayConfiguration) (rebuild : Rebuild) :
    Continues last runtime
      ({ runtime with
        replayConfiguration := configuration
        control := some engine }.finishCaptureEpochIfIdle rebuild) :=
  SameCounters.continues (by exact ⟨rfl, rfl⟩)
    (finishCaptureEpochIfIdle_continues ((tracks_some rfl).mpr h) rebuild)

theorem initializeRuntime_continues (h : runtime.Tracks last) (discovered : List DiscoveredScene)
    (rebuild : Rebuild) :
    Continues last runtime (runtime.initializeRuntime discovered rebuild).2 := by
  unfold initializeRuntime
  split_ifs with hcontrol
  · exact ⟨.refl, h⟩
  · have hnone : runtime.control = none := by simpa using hcontrol
    dsimp only
    have hinstalled : Continues last runtime
        ({ runtime with
          topologyModel := (runtime.topologyModel.applyDiscovery discovered false).2
          pendingScenes := [] }.installSceneTargets discovered rebuild).2 :=
      SameCounters.continues (by exact ⟨rfl, rfl⟩)
        (installSceneTargets_continues (tracks_of_none (by exact hnone)) discovered rebuild)
    split <;> rename_i installed hinstall <;> rw [hinstall] at hinstalled
    · exact hinstalled.toSameCounters.continues ⟨⟨rfl, rfl⟩, tracks_of_none rfl⟩
    · have hbuilt := hinstalled.trans (buildControlState_continues hinstalled.tracks rebuild)
      split <;> rename_i built hbuild <;> rw [hbuild] at hbuilt
      · exact hbuilt.toSameCounters.continues ⟨⟨rfl, rfl⟩, tracks_of_none rfl⟩
      · exact hbuilt

theorem applyReplayConfiguration_continues (h : runtime.Tracks last)
    (configuration : ReplayConfiguration) (rebuild : Rebuild) :
    Continues last runtime (runtime.applyReplayConfiguration configuration rebuild).2 := by
  unfold applyReplayConfiguration
  split_ifs
  · exact ⟨.refl, h⟩
  · dsimp only
    split
    · exact ⟨⟨rfl, rfl⟩, h⟩
    · rename_i engine hcontrol
      have hstep := ((tracks_some hcontrol).mp h).step (.applyReplayConfiguration configuration) rfl
      exact finished_continues hstep configuration rebuild

theorem startRecording_continues (h : runtime.Tracks last) (output : OutputDirectory)
    (starts : Bool) : Continues last runtime (runtime.startRecording output starts).2 := by
  unfold startRecording
  split
  · exact ⟨.refl, h⟩
  · rename_i engine hcontrol
    refine ⟨⟨rfl, rfl⟩, (tracks_some rfl).mpr ?_⟩
    exact ((tracks_some hcontrol).mp h).step (.startRecording _ starts) rfl

theorem stopRecording_continues (h : runtime.Tracks last)
    (recorded : Option SynchronizedRecordingConsumerResult) (rebuild : Rebuild) :
    Continues last runtime (runtime.stopRecording recorded rebuild).2 := by
  unfold stopRecording
  split
  · exact ⟨.refl, h⟩
  · rename_i engine hcontrol
    have hstep := ((tracks_some hcontrol).mp h).step (.stopRecording recorded) rfl
    exact finished_continues hstep runtime.replayConfiguration rebuild

theorem stopReplay_continues (h : runtime.Tracks last) (rebuild : Rebuild) :
    Continues last runtime (runtime.stopReplay rebuild).2 := by
  unfold stopReplay
  split
  · exact ⟨.refl, h⟩
  · rename_i engine hcontrol
    have hstep := ((tracks_some hcontrol).mp h).step .stopReplay rfl
    exact finished_continues hstep runtime.replayConfiguration rebuild

theorem startReplay_continues (h : runtime.Tracks last) (profile : ReplayConfiguration)
    (rebuild : Rebuild) : Continues last runtime (runtime.startReplay profile rebuild).2 := by
  have hrefreshed := applyReplayConfiguration_continues h profile rebuild
  unfold startReplay refreshReplayConfiguration
  dsimp only
  split
  · exact hrefreshed
  · rename_i engine hcontrol
    refine hrefreshed.toSameCounters.continues ⟨⟨rfl, rfl⟩, (tracks_some rfl).mpr ?_⟩
    exact ((tracks_some hcontrol).mp hrefreshed.tracks).step .startReplay rfl

theorem refreshSceneTopology_continues (h : runtime.Tracks last)
    (discovered : List DiscoveredScene) (rebuild : Rebuild) :
    Continues last runtime (runtime.refreshSceneTopology discovered rebuild).2 := by
  unfold refreshSceneTopology
  split_ifs
  · exact ⟨.refl, h⟩
  · dsimp only
    split
    · exact ⟨⟨rfl, rfl⟩, h⟩
    · rename_i update model hnot hupdate
      split_ifs
      · exact ⟨⟨rfl, rfl⟩, h⟩
      · have hrebuilt : Continues last runtime
            ({ runtime with topologyModel := model }.rebuildControl discovered rebuild).2 :=
          SameCounters.continues (by exact ⟨rfl, rfl⟩) (rebuildControl_continues _ rebuild)
        split <;> rename_i rebuilt hrebuild <;> rw [hrebuild] at hrebuilt
        · exact hrebuilt
        · exact hrebuilt

theorem ingest_continues (h : runtime.Tracks last) (streamId : CaptureStreamId)
    (packet : EncodedPacket) (codecExtraData : List UInt8) :
    Continues last runtime (runtime.ingest streamId packet codecExtraData).2 := by
  unfold ingest
  split
  · exact ⟨.refl, h⟩
  · rename_i engine hcontrol
    refine ⟨⟨rfl, rfl⟩, (tracks_some rfl).mpr ?_⟩
    exact ((tracks_some hcontrol).mp h).step (.ingest streamId packet codecExtraData) rfl

theorem saveFinishes_continues (h : runtime.Tracks last) :
    Continues last runtime runtime.saveFinishes := by
  refine ⟨⟨rfl, rfl⟩, ?_⟩
  cases hcontrol : runtime.control with
  | none => exact tracks_of_none (by simp [saveFinishes, hcontrol])
  | some engine =>
      apply (tracks_some (by simp only [saveFinishes, hcontrol]; rfl)).mpr
      exact ((tracks_some hcontrol).mp h).step .saveFinishes rfl

/-- A save is refused, or it is the next one in number. -/
theorem saveReplay_cases (h : runtime.Tracks last) (profile : ReplayConfiguration)
    (rebuild : Rebuild) (output : OutputDirectory) (library : Nat → MuxLibrary) :
    ((runtime.saveReplay profile rebuild output library).1.ok = false ∧
        Continues last runtime (runtime.saveReplay profile rebuild output library).2) ∨
      ((runtime.saveReplay profile rebuild output library).1.ok = true ∧
        (runtime.saveReplay profile rebuild output library).2.replaySaveGeneration =
          runtime.replaySaveGeneration + 1 ∧
        (runtime.saveReplay profile rebuild output library).2.replayResultLoggedGeneration =
          runtime.replayResultLoggedGeneration ∧
        ∃ save, ((runtime.saveReplay profile rebuild output library).2.control.bind
            CaptureControlEngine.replayConsumer).bind
              SynchronizedReplayConsumer.writing = some save ∧
          (runtime.saveReplay profile rebuild output library).2.Tracks (some save)) := by
  have hrefreshed := applyReplayConfiguration_continues h profile rebuild
  unfold saveReplay refreshReplayConfiguration
  dsimp only
  split
  · exact Or.inl ⟨rfl, hrefreshed⟩
  · rename_i engine hcontrol
    have htracks := (tracks_some hcontrol).mp hrefreshed.tracks
    generalize outputPaths engine .replay output ("replay-" ++
      toString ((runtime.applyReplayConfiguration profile rebuild).2.replayNumber + 1) ++ "-" ++
        toString output.wallClockNs) = paths
    rcases CaptureControlEngine.saveReplay_cases engine paths library with
      ⟨hrefused, -⟩ | ⟨haccepted, -, save, -, hwriting, hsaved, -⟩
    · refine Or.inl ⟨hrefused, hrefreshed.toSameCounters.continues ⟨⟨?_, rfl⟩, ?_⟩⟩
      · simp [hrefused]
      · exact (tracks_some rfl).mpr (htracks.step (.saveReplay paths library)
          (CaptureControlEngine.acceptedSave_of_refused hrefused))
    · have hok : (engine.saveReplay paths library).1.ok = true := by
        simp [ControlCommandResult.ok, haccepted]
      refine Or.inr ⟨hok, ?_, hrefreshed.logged, save, hwriting, (tracks_some rfl).mpr ?_⟩
      · rw [if_pos hok, hrefreshed.generation]
      · exact ⟨htracks.coherent.step (.saveReplay paths library), fun _ => ⟨save, rfl, hsaved⟩⟩

/-- What a poll reports is the result that the engine holds after it. -/
theorem report_pollReplaySave {engine : CaptureControlEngine PluginEncoderController}
    (hcontrol : runtime.control = some engine) :
    report (Runs.transition step runtime .pollReplaySave) =
      if runtime.replayResultLoggedGeneration < runtime.replaySaveGeneration then
        engine.pollReplaySave.replayResult.map (runtime.replaySaveGeneration, ·)
      else none := by
  simp only [report, Runs.transition, step, Prod.map_fst, Prod.map_snd, id, pollReplaySave,
    hcontrol]
  cases engine.pollReplaySave.replayResult with
  | none => simp
  | some held => split_ifs <;> rfl

/-- A poll reports under the number of the last save, and only a new one. -/
theorem report_pollReplaySave_new {reported : Nat × ReplaySaveResult}
    (h : report (Runs.transition step runtime .pollReplaySave) = some reported) :
    reported.1 = runtime.replaySaveGeneration ∧
      runtime.replayResultLoggedGeneration < runtime.replaySaveGeneration := by
  cases hcontrol : runtime.control with
  | none => simp [report, Runs.transition, step, pollReplaySave, hcontrol] at h
  | some engine =>
      rw [report_pollReplaySave hcontrol] at h
      split_ifs at h with hnew
      obtain ⟨held, -, rfl⟩ := Option.map_eq_some_iff.mp h
      exact ⟨rfl, hnew⟩

theorem pollReplaySave_tracks (h : runtime.Tracks last) : runtime.pollReplaySave.2.Tracks last := by
  unfold pollReplaySave
  split
  · exact h
  · rename_i engine hcontrol
    have hstep := ((tracks_some hcontrol).mp h).step .pollReplaySave rfl
    dsimp only
    split
    · exact (tracks_some rfl).mpr hstep
    · split_ifs <;> exact (tracks_some rfl).mpr hstep

theorem pollReplaySave_generation :
    runtime.pollReplaySave.2.replaySaveGeneration = runtime.replaySaveGeneration := by
  unfold pollReplaySave
  split
  · rfl
  · dsimp only
    split
    · rfl
    · split_ifs <;> rfl

theorem pollReplaySave_logged :
    runtime.pollReplaySave.2.replayResultLoggedGeneration =
      if (report (Runs.transition step runtime .pollReplaySave)).isSome then
        runtime.replaySaveGeneration
      else runtime.replayResultLoggedGeneration := by
  cases hcontrol : runtime.control with
  | none =>
      simp [report, Runs.transition, step, pollReplaySave, hcontrol]
  | some engine =>
      rw [report_pollReplaySave hcontrol]
      simp only [pollReplaySave, hcontrol]
      cases engine.pollReplaySave.replayResult with
      | none => simp
      | some held => split_ifs <;> simp_all

/-- A poll reports the result of the last save exactly if it meets the condition. -/
theorem pollsOnResult_iff {past : List Transition}
    (h : runtime.Tracks (acceptedSaves past).getLast?) :
    PollsOnResult past (Runs.transition step runtime .pollReplaySave) ↔
      ∀ reported ∈ report (Runs.transition step runtime .pollReplaySave),
        ∃ save ∈ (acceptedSaves past).getLast?, reported.2 = save.result := by
  unfold PollsOnResult
  cases hcontrol : runtime.control with
  | none =>
      apply iff_of_true
      · simp [Runs.transition, hcontrol]
      · simp [report, Runs.transition, step, pollReplaySave, hcontrol]
  | some engine =>
      rw [report_pollReplaySave hcontrol]
      simp only [Runs.transition, hcontrol, Option.mem_some, forall_eq', forall_const]
      by_cases hnew : runtime.replayResultLoggedGeneration < runtime.replaySaveGeneration
      · simp only [hnew, if_true, forall_const, Option.mem_map, forall_exists_index, and_imp,
          forall_apply_eq_imp_iff₂]
        by_cases hready : engine.ResultReady
        · rw [CaptureControlEngine.pollReplaySave_of_ready hready]
          apply iff_of_true (Or.inl hready)
          obtain ⟨save, hlast, hsaved⟩ := ((tracks_some hcontrol).mp h).pending hready.1
          intro held hheld
          refine ⟨save, hlast, ?_⟩
          exact (Option.some.inj (hsaved.symm.trans hheld)).symm
        · rw [CaptureControlEngine.pollReplaySave_of_not_ready hready]
          simp [hready]
      · simp [hnew]

/-- A step that does not poll reports nothing, and accepts one save at most. -/
theorem step_of_not_poll (h : runtime.Tracks last) {call : Call} (hcall : call ≠ .pollReplaySave) :
    report (Runs.transition step runtime call) = none ∧
      ((acceptedSave (Runs.transition step runtime call) = none ∧
          Continues last runtime (runtime.step call).2) ∨
        ∃ save, acceptedSave (Runs.transition step runtime call) = some save ∧
          (runtime.step call).2.replaySaveGeneration = runtime.replaySaveGeneration + 1 ∧
          (runtime.step call).2.replayResultLoggedGeneration =
            runtime.replayResultLoggedGeneration ∧
          (runtime.step call).2.Tracks (some save)) := by
  cases call with
  | pollReplaySave => exact absurd rfl hcall
  | saveReplay profile rebuild output library =>
      refine ⟨rfl, ?_⟩
      rcases saveReplay_cases h profile rebuild output library with
        ⟨hrefused, hcontinues⟩ | ⟨haccepted, hgeneration, hlogged, save, hwriting, htracks⟩
      · exact Or.inl ⟨if_neg (Bool.eq_false_iff.mp hrefused), hcontinues⟩
      · exact Or.inr ⟨save, (if_pos haccepted).trans hwriting, hgeneration, hlogged, htracks⟩
  | initializeRuntime discovered rebuild =>
      exact ⟨rfl, Or.inl ⟨rfl, initializeRuntime_continues h discovered rebuild⟩⟩
  | startRecording output starts =>
      exact ⟨rfl, Or.inl ⟨rfl, startRecording_continues h output starts⟩⟩
  | stopRecording recorded rebuild =>
      exact ⟨rfl, Or.inl ⟨rfl, stopRecording_continues h recorded rebuild⟩⟩
  | startReplay profile rebuild =>
      exact ⟨rfl, Or.inl ⟨rfl, startReplay_continues h profile rebuild⟩⟩
  | stopReplay rebuild => exact ⟨rfl, Or.inl ⟨rfl, stopReplay_continues h rebuild⟩⟩
  | applyReplayConfiguration configuration rebuild =>
      exact ⟨rfl, Or.inl ⟨rfl, applyReplayConfiguration_continues h configuration rebuild⟩⟩
  | refreshReplayConfiguration profile rebuild =>
      exact ⟨rfl, Or.inl ⟨rfl, applyReplayConfiguration_continues h profile rebuild⟩⟩
  | refreshSceneTopology discovered rebuild =>
      exact ⟨rfl, Or.inl ⟨rfl, refreshSceneTopology_continues h discovered rebuild⟩⟩
  | stop => exact ⟨rfl, Or.inl ⟨rfl, ⟨rfl, rfl⟩, tracks_of_none rfl⟩⟩
  | ingest streamId packet codecExtraData =>
      exact ⟨rfl, Or.inl ⟨rfl, ingest_continues h streamId packet codecExtraData⟩⟩
  | saveFinishes => exact ⟨rfl, Or.inl ⟨rfl, saveFinishes_continues h⟩⟩

/-- The numbers of the runtime are those of its history. -/
structure Accounted (past : List Transition) (runtime : PluginCaptureRuntime) : Prop where
  generation : (acceptedSaves past).length = runtime.replaySaveGeneration
  logged : runtime.replayResultLoggedGeneration ≤ runtime.replaySaveGeneration
  tracks : runtime.Tracks (acceptedSaves past).getLast?
  earlier : ∀ reported ∈ reports past,
    0 < reported.1 ∧ reported.1 ≤ runtime.replayResultLoggedGeneration
  ascending : (reports past).Pairwise (fun earlier later => earlier.1 < later.1)

section Histories

variable {past : List Transition} {t : Transition}

theorem acceptedSaves_concat :
    acceptedSaves (past ++ [t]) = acceptedSaves past ++ (acceptedSave t).toList := by
  unfold acceptedSaves
  cases h : acceptedSave t <;> simp [h]

theorem reports_concat : reports (past ++ [t]) = reports past ++ (report t).toList := by
  unfold reports
  cases h : report t <;> simp [h]

end Histories

theorem Accounted.step {past : List Transition} (h : Accounted past runtime) (call : Call) :
    Accounted (past ++ [Runs.transition step runtime call]) (runtime.step call).2 := by
  by_cases hcall : call = .pollReplaySave
  · subst hcall
    have hnone : acceptedSave (Runs.transition PluginCaptureRuntime.step runtime
        .pollReplaySave) = none := rfl
    have hlogged : runtime.pollReplaySave.2.replayResultLoggedGeneration =
        if (report (Runs.transition PluginCaptureRuntime.step runtime .pollReplaySave)).isSome then
          runtime.replaySaveGeneration
        else runtime.replayResultLoggedGeneration := pollReplaySave_logged
    have hgeneration : runtime.pollReplaySave.2.replaySaveGeneration =
        runtime.replaySaveGeneration := pollReplaySave_generation
    cases hreport : report (Runs.transition PluginCaptureRuntime.step runtime .pollReplaySave) with
    | none =>
        simp only [hreport, Option.isSome_none, Bool.false_eq_true, if_false] at hlogged
        constructor <;> simp only [acceptedSaves_concat, reports_concat, hnone, hreport,
          Option.toList_none, List.append_nil, PluginCaptureRuntime.step, Prod.map_snd, id,
          hlogged, hgeneration]
        · exact h.generation
        · exact h.logged
        · exact pollReplaySave_tracks h.tracks
        · exact h.earlier
        · exact h.ascending
    | some reported =>
        obtain ⟨hnumber, hnew⟩ := report_pollReplaySave_new hreport
        simp only [hreport, Option.isSome_some, if_true] at hlogged
        constructor <;> simp only [acceptedSaves_concat, reports_concat, hnone, hreport,
          Option.toList_none, Option.toList_some, List.append_nil, PluginCaptureRuntime.step,
          Prod.map_snd, id, hlogged, hgeneration, le_refl]
        · exact h.generation
        · exact pollReplaySave_tracks h.tracks
        · intro other hother
          rcases List.mem_append.mp hother with hold | hlast
          · have hbound := h.earlier other hold
            omega
          · obtain rfl := List.mem_singleton.mp hlast
            omega
        · apply List.pairwise_append.mpr
          refine ⟨h.ascending, List.pairwise_singleton _ _, fun other hother last hlast => ?_⟩
          obtain rfl := List.mem_singleton.mp hlast
          have hbound := h.earlier other hother
          omega
  · obtain ⟨hquiet, ⟨hnone, hcontinues⟩ | ⟨save, hsave, hgeneration, hlogged, htracks⟩⟩ :=
      step_of_not_poll h.tracks hcall
    · constructor <;> simp only [acceptedSaves_concat, reports_concat, hquiet, hnone,
        Option.toList_none, List.append_nil, hcontinues.generation, hcontinues.logged]
      · exact h.generation
      · exact h.logged
      · exact hcontinues.tracks
      · exact h.earlier
      · exact h.ascending
    · constructor <;> simp only [acceptedSaves_concat, reports_concat, hquiet, hsave,
        Option.toList_none, Option.toList_some, List.append_nil, hgeneration, hlogged]
      · rw [List.length_append, h.generation]
        rfl
      · exact h.logged.trans (Nat.le_succ _)
      · simpa using htracks
      · exact h.earlier
      · exact h.ascending

theorem accounted_run {profile : ReplayConfiguration} {past : List Transition}
    (hrun : Runs.Run step { replayConfiguration := profile } past runtime) :
    Accounted past runtime := by
  apply hrun.invariant (P := Accounted)
  · exact ⟨rfl, le_rfl, tracks_of_none rfl, by simp [reports], List.Pairwise.nil⟩
  · exact fun _ _ call _ h => h.step call

/-- What is reported under a number that is given out shows the same save after a step. -/
theorem acceptedSaves_concat_get? {past : List Transition} {t : Transition} {generation : Nat}
    (hpositive : 0 < generation) (hgiven : generation ≤ (acceptedSaves past).length) :
    (acceptedSaves (past ++ [t]))[generation - 1]? = (acceptedSaves past)[generation - 1]? := by
  rw [acceptedSaves_concat]
  apply List.getElem?_append_left
  omega

/-- A report more is right if it shows the result of the last save. -/
theorem reportsOwnResults_concat {past : List Transition} (h : Accounted past runtime)
    (call : Call) :
    ReportsOwnResults (past ++ [Runs.transition step runtime call]) ↔
      ReportsOwnResults past ∧ ∀ reported ∈ report (Runs.transition step runtime call),
        ∃ save ∈ (acceptedSaves past).getLast?, reported.2 = save.result := by
  have hascending := (h.step call).ascending
  have hold : ∀ reported ∈ reports past,
      (acceptedSaves (past ++ [Runs.transition step runtime call]))[reported.1 - 1]? =
        (acceptedSaves past)[reported.1 - 1]? := by
    intro reported hreported
    obtain ⟨hpositive, hlogged⟩ := h.earlier reported hreported
    apply acceptedSaves_concat_get? hpositive
    exact hlogged.trans (h.logged.trans h.generation.ge)
  have hnew : ∀ reported ∈ report (Runs.transition step runtime call), 0 < reported.1 ∧
      (acceptedSaves (past ++ [Runs.transition step runtime call]))[reported.1 - 1]? =
        (acceptedSaves past).getLast? := by
    intro reported hreported
    by_cases hcall : call = .pollReplaySave
    · subst hcall
      obtain ⟨hnumber, hunlogged⟩ := report_pollReplaySave_new hreported
      have hpositive : 0 < reported.1 := by omega
      refine ⟨hpositive, ?_⟩
      rw [acceptedSaves_concat_get? hpositive (by rw [hnumber, h.generation]), hnumber,
        ← h.generation, List.getLast?_eq_getElem?]
    · rw [(step_of_not_poll h.tracks hcall).1] at hreported
      cases hreported
  unfold ReportsOwnResults
  rw [reports_concat] at hascending ⊢
  simp only [List.forall_mem_append, Option.mem_toList]
  constructor
  · rintro ⟨⟨hpast, hreport⟩, -⟩
    refine ⟨⟨fun reported hreported => ?_, h.ascending⟩, fun reported hreported => ?_⟩
    · rw [← hold reported hreported]
      exact hpast reported hreported
    · obtain ⟨save, hsave, -, hshown⟩ := hreport reported hreported
      rw [(hnew reported hreported).2] at hsave
      exact ⟨save, hsave, hshown⟩
  · rintro ⟨⟨hpast, -⟩, hreport⟩
    refine ⟨⟨fun reported hreported => ?_, fun reported hreported => ?_⟩, hascending⟩
    · rw [hold reported hreported]
      exact hpast reported hreported
    · obtain ⟨save, hsave, hshown⟩ := hreport reported hreported
      obtain ⟨hpositive, hlast⟩ := hnew reported hreported
      exact ⟨save, hlast.trans hsave, hpositive, hshown⟩

/-- In every run each generation is reported at most once, and with the result of its own
save, if and only if no poll finds a result held that is not that of the last save. -/
theorem reports_own_results_iff {profile : ReplayConfiguration} {past : List Transition}
    (hrun : Runs.Run step { replayConfiguration := profile } past runtime) :
    ReportsOwnResults past ↔ Traces.Obeys PollsOnResult past := by
  apply hrun.invariant (P := fun past _ =>
    (ReportsOwnResults past ↔ Traces.Obeys PollsOnResult past))
  · exact iff_of_true ⟨by simp [reports], List.Pairwise.nil⟩ Traces.obeys_nil
  · intro past runtime call hrun hiff
    have haccounted := accounted_run hrun
    rw [reportsOwnResults_concat haccounted, Traces.obeys_concat_iff, hiff]
    apply and_congr_right
    intro _
    by_cases hcall : call = .pollReplaySave
    · subst hcall
      exact (pollsOnResult_iff haccounted.tracks).symm
    · rw [(step_of_not_poll haccounted.tracks hcall).1]
      apply iff_of_true (by simp)
      intro hclaim
      exact absurd hclaim hcall

/-- The profile asks for a replay of one second. -/
def replayProfile : ReplayConfiguration := { enabled := true, targetDurationNs := 1000000000 }

/-- Master alone is replayed; it has delivered two packets, and a save of them is accepted. -/
def firstSave : List Call :=
  [.initializeRuntime [] {}, .startReplay replayProfile {}, deliver 0, deliver 1, save]
where
  deliver (second : Fin 256) : Call := .ingest 0 (CaptureControlEngine.keyframeAt second) [1]
  save : Call :=
    .saveReplay replayProfile {} ⟨some "output", 0⟩
      (fun _ => CaptureControlEngine.obligingLibrary)

/-- The first save is finished and reported, and a second one is accepted with `later`
following. -/
def secondSave (later : List Call) : List Call :=
  firstSave ++ [.saveFinishes, .pollReplaySave, firstSave.deliver 2, firstSave.save] ++ later

/-- Both saves are polled when they are finished, and both are reported. -/
theorem reports_own_results_iff_sample :
    (reports (Runs.history step { replayConfiguration := replayProfile }
        (secondSave [.saveFinishes, .pollReplaySave]))).map
          (fun reported => (reported.1, reported.2.range)) =
      [(1, ⟨0, 1000000000⟩), (2, ⟨1000000000, 2000000000⟩)] ∧
    ReportsOwnResults (Runs.history step { replayConfiguration := replayProfile }
      (secondSave [.saveFinishes, .pollReplaySave])) := by
  have hready : ∀ t ∈ Runs.history step { replayConfiguration := replayProfile }
      (secondSave [.saveFinishes, .pollReplaySave]),
      t.input matches .pollReplaySave → ∀ engine ∈ t.before.control, engine.ResultReady := by
    unfold CaptureControlEngine.ResultReady
    decide
  refine ⟨by decide, (reports_own_results_iff (Runs.run_exec _ _)).mpr ?_⟩
  rintro before t after hsplit hpoll - engine hengine
  exact Or.inl (hready t (by simp [hsplit]) (by simp [hpoll]) engine hengine)

/-- The second save is polled while it is being written, and again when it is finished. -/
def polledEarly : List Transition :=
  Runs.history step { replayConfiguration := replayProfile }
    (secondSave [.pollReplaySave, .saveFinishes, .pollReplaySave])

/-- The early poll reports the range of the first save as that of the second, which is never
reported. -/
theorem first_result_reported_twice :
    (acceptedSaves polledEarly).map (fun save => save.result.range) =
        [⟨0, 1000000000⟩, ⟨1000000000, 2000000000⟩] ∧
      (reports polledEarly).map (fun reported => (reported.1, reported.2.range)) =
        [(1, ⟨0, 1000000000⟩), (2, ⟨0, 1000000000⟩)] ∧
      ¬ReportsOwnResults polledEarly := by
  have hsaves : (acceptedSaves polledEarly).map (fun save => save.result.range) =
      [⟨0, 1000000000⟩, ⟨1000000000, 2000000000⟩] := by decide
  have hreports : (reports polledEarly).map (fun reported => (reported.1, reported.2.range)) =
      [(1, ⟨0, 1000000000⟩), (2, ⟨0, 1000000000⟩)] := by decide
  refine ⟨hsaves, hreports, fun h => ?_⟩
  obtain ⟨reported, hreported, hshown⟩ : ∃ reported ∈ reports polledEarly,
      (reported.1, reported.2.range) = (2, ⟨0, 1000000000⟩) := by
    apply List.mem_map.mp
    rw [hreports]
    simp
  obtain ⟨hnumber, hrange⟩ := Prod.mk.inj hshown
  obtain ⟨save, hsave, -, hresult⟩ := h.1 reported hreported
  rw [hnumber] at hsave
  have hsecond := congrArg (Option.map (fun save : ReplaySave => save.result.range)) hsave
  rw [← List.getElem?_map, hsaves, Option.map_some, ← hresult, hrange] at hsecond
  exact absurd hsecond (by decide)

end PluginCaptureRuntime

end ObsSyncReplay
