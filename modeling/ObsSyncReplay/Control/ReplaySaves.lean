import ObsSyncReplay.Capture.RangeContract
import ObsSyncReplay.Control.EncoderDemand
import ObsSyncReplay.Lib.Traces

/-!
What becomes of the result of a replay save. A save that was accepted is pending until the
engine leaves the state `saving`: then its result is either taken over, or given up because
replay is stopped.
-/

namespace ObsSyncReplay

theorem writeStreams_paths (jobs : List StreamJob) (index : Nat) (result : ReplaySaveResult) :
    (writeStreams jobs index result).1.paths = result.paths := by
  induction jobs generalizing index result with
  | nil => rfl
  | cons job jobs ih =>
      unfold writeStreams
      dsimp only
      split
      · rfl
      · exact ih _ _

/-- A result names the files of its save, whatever has become of them. -/
theorem ReplaySave.result_paths (save : ReplaySave) : save.result.paths = save.paths := by
  unfold ReplaySave.result writeSnapshot
  dsimp only
  split_ifs
  · rfl
  · exact writeStreams_paths _ _ _

namespace CaptureControlEngine

variable {ε : Type} {engine : CaptureControlEngine ε}

/-- The result of the save accepted last, written or still to be written. -/
def savedResult (engine : CaptureControlEngine ε) : Option ReplaySaveResult :=
  engine.replayConsumer.bind SynchronizedReplayConsumer.savedResult

/-- A command that stops replay if it is on. -/
def StopsReplay : ControlCall → Prop
  | .stopReplay => True
  | .applyReplayConfiguration configuration => configuration.enabled = false
  | .shutdown _ => True
  | _ => False

instance : DecidablePred StopsReplay
  | .stopReplay | .shutdown _ => instDecidableTrue
  | .applyReplayConfiguration configuration =>
      inferInstanceAs (Decidable (configuration.enabled = false))
  | .initializeEngine | .startRecording _ _ | .stopRecording _ | .startReplay | .saveReplay _ _ |
    .pollReplaySave | .waitForReplaySave | .ingest _ _ _ | .saveFinishes => instDecidableFalse

/-- What a command on the recording leaves alone. -/
structure SameReplay (engine engine' : CaptureControlEngine ε) : Prop where
  state : engine'.replayState = engine.replayState
  saved : engine'.savedResult = engine.savedResult
  result : engine'.replayResult = engine.replayResult

theorem SameReplay.refl : SameReplay engine engine := ⟨rfl, rfl, rfl⟩

theorem SameReplay.of_eq {engine' : CaptureControlEngine ε}
    (hstate : engine'.replayState = engine.replayState)
    (hconsumer : engine'.replayConsumer = engine.replayConsumer)
    (hresult : engine'.replayResult = engine.replayResult) : SameReplay engine engine' :=
  ⟨hstate, congrArg (·.bind SynchronizedReplayConsumer.savedResult) hconsumer, hresult⟩

theorem savedResult_wait :
    (engine.replayConsumer.map SynchronizedReplayConsumer.wait).bind
      SynchronizedReplayConsumer.savedResult = engine.savedResult := by
  unfold savedResult SynchronizedReplayConsumer.wait
  cases engine.replayConsumer <;> simp

theorem initializeEngine_sameReplay : SameReplay engine engine.initializeEngine.2 := by
  unfold initializeEngine
  split_ifs
  · exact .refl
  · rcases registerStreams engine.configuration.streams 0 engine.capture with ⟨_ | _, capture⟩ <;>
      exact ⟨rfl, rfl, rfl⟩

/-- Polling takes the result over once the worker has finished. -/
theorem pollReplaySave_cases (engine : CaptureControlEngine ε) :
    SameReplay engine engine.pollReplaySave ∨
      (engine.pollReplaySave.replayState = .running ∧
        engine.pollReplaySave.replayResult = engine.savedResult) := by
  unfold pollReplaySave
  cases hconsumer : engine.replayConsumer with
  | none => exact Or.inl .refl
  | some consumer =>
      dsimp only
      split_ifs with hidle
      · exact Or.inl .refl
      · refine Or.inr ⟨rfl, ?_⟩
        simp [savedResult, hconsumer, SynchronizedReplayConsumer.wait]

theorem waitForReplaySave_of_saving (hsaving : engine.replayState = .saving)
    (hconsumer : engine.replayConsumer.isSome = true) :
    engine.waitForReplaySave.replayState = .running ∧
      engine.waitForReplaySave.replayResult = engine.savedResult := by
  obtain ⟨consumer, hconsumer⟩ := Option.isSome_iff_exists.mp hconsumer
  unfold waitForReplaySave
  simp [hconsumer, hsaving, savedResult, SynchronizedReplayConsumer.wait]

/-- A save is refused, or its result is the pending one. -/
theorem saveReplay_cases (engine : CaptureControlEngine ε) (paths : List String)
    (library : Nat → MuxLibrary) :
    ((engine.saveReplay paths library).1.ok = false ∧
        SameReplay engine (engine.saveReplay paths library).2) ∨
      ((engine.saveReplay paths library).1.status = .succeeded ∧ engine.replayState ≠ .saving ∧
        ∃ save : ReplaySave, (engine.saveReplay paths library).2.replayState = .saving ∧
          (engine.saveReplay paths library).2.replayConsumer.bind
            SynchronizedReplayConsumer.writing = some save ∧
          (engine.saveReplay paths library).2.savedResult = some save.result ∧
          (engine.saveReplay paths library).2.replayResult = engine.replayResult) := by
  rcases engine.saveReplay_eq paths library with ⟨refusal, hrefused, hsave⟩ |
    ⟨-, refusal, consumer, hrequest, hrefused, hsave⟩ | ⟨hrunning, consumer, hrequest, hsave⟩
  · rw [hsave]
    exact Or.inl ⟨hrefused, .refl⟩
  · rw [hsave]
    refine Or.inl ⟨hrefused, rfl, ?_, rfl⟩
    have hsame := SynchronizedReplayConsumer.savedResult_of_requestSave_false hrequest
    unfold savedResult
    cases hconsumer : engine.replayConsumer with
    | none =>
        rw [hconsumer] at hsame
        exact hsame
    | some old =>
        rw [hconsumer] at hsame
        exact hsame
  · rw [hsave]
    obtain ⟨save, hwriting⟩ := SynchronizedReplayConsumer.writing_of_requestSave_true hrequest
    refine Or.inr ⟨rfl, by simp [hrunning], save, rfl, hwriting, ?_, rfl⟩
    exact SynchronizedReplayConsumer.savedResult_of_writing hwriting

variable [EncoderController ε]

theorem Coherent.startRecording_sameReplay (h : engine.Coherent) (paths : List String)
    (starts : Bool) : SameReplay engine (engine.startRecording paths starts).2 := by
  by_cases hbegins : engine.BeginsRecording paths starts
  · rw [h.startRecording_of_begins hbegins]
    rcases hreconcile : (engine.attachRecording paths).captureActivated.reconcileEncoderDemand with
      ⟨_ | _, reconciled⟩ <;> have hkept := reconcileEncoderDemand_eq hreconcile
    · unfold abandonRecording
      dsimp only
      apply SameReplay.of_eq
      · rw [stopCaptureIfUnused_replayState, hkept]
        rfl
      · rw [stopCaptureIfUnused_replayConsumer, hkept]
        rfl
      · rw [stopCaptureIfUnused_replayResult, hkept]
        rfl
    · dsimp only
      rw [hkept]
      exact .of_eq rfl rfl rfl
  · rcases h.startRecording_of_not_begins hbegins with hsame | ⟨-, hsame⟩ <;> rw [hsame] <;>
      exact .of_eq rfl rfl rfl

theorem stopRecording_sameReplay {result : Option SynchronizedRecordingConsumerResult} :
    SameReplay engine (engine.stopRecording result).2 := by
  unfold stopRecording
  split_ifs
  · exact .refl
  · exact .of_eq rfl rfl rfl
  · exact .of_eq (stopCaptureIfUnused_replayState _) (stopCaptureIfUnused_replayConsumer _)
      (stopCaptureIfUnused_replayResult _)

/-- Stopping replay lets the worker finish and shows the old result all the same. -/
theorem stopReplay_replayResult : engine.stopReplay.2.replayResult = engine.replayResult := by
  by_cases hoff : engine.replayState = .off
  · unfold stopReplay
    rw [if_pos hoff]
  · rw [stopReplay_eq hoff, stopCaptureIfUnused_replayResult]
    rfl

/-- The save that a step has accepted. -/
def acceptedSave (t : Transition ε) : Option ReplaySave :=
  match t.input, t.output with
  | .saveReplay _ _, .command result =>
      if result.status = .succeeded then
        t.after.replayConsumer.bind SynchronizedReplayConsumer.writing
      else none
  | _, _ => none

/-- What a step does while a save is pending. -/
theorem Coherent.step_of_saving (h : engine.Coherent) (hsaving : engine.replayState = .saving)
    (call : ControlCall) :
    (¬StopsReplay call ∧ SameReplay engine (engine.step call).2) ∨
      ((engine.step call).2.replayState ≠ .saving ∧ ¬StopsReplay call ∧
        (engine.step call).2.replayResult = engine.savedResult) ∨
      ((engine.step call).2.replayState = .off ∧ StopsReplay call ∧
        (engine.step call).2.replayResult = engine.replayResult) := by
  cases call with
  | initializeEngine => exact Or.inl ⟨id, initializeEngine_sameReplay⟩
  | startRecording paths starts => exact Or.inl ⟨id, h.startRecording_sameReplay paths starts⟩
  | stopRecording result => exact Or.inl ⟨id, stopRecording_sameReplay⟩
  | startReplay =>
      have hbegins : ¬engine.BeginsReplay := fun hbegins => by
        simp [hbegins.2.2.1] at hsaving
      refine Or.inl ⟨id, ?_⟩
      simp only [CaptureControlEngine.step, Prod.map_snd, id]
      rw [startReplay_of_not_begins hbegins]
      exact .refl
  | stopReplay => exact Or.inr (Or.inr ⟨stopReplay_off, trivial, stopReplay_replayResult⟩)
  | saveReplay paths library =>
      rcases saveReplay_cases engine paths library with ⟨-, hsame⟩ | ⟨-, hidle, -⟩
      · exact Or.inl ⟨id, hsame⟩
      · exact absurd hsaving hidle
  | applyReplayConfiguration configuration =>
      have happlies : (engine.step (.applyReplayConfiguration configuration)).2 =
          (engine.applyReplayConfiguration configuration).2 := rfl
      rw [happlies]
      rcases engine.applyReplayConfiguration_cases configuration with ⟨-, hdisabled, happlied⟩ |
        ⟨henabled, happlied⟩
      · rw [happlied]
        exact Or.inr (Or.inr ⟨stopReplay_off, hdisabled, stopReplay_replayResult⟩)
      · rw [happlied]
        have hstays : configuration.enabled = true := henabled (by simp [hsaving])
        exact Or.inl ⟨by simp [StopsReplay, hstays], .of_eq rfl rfl rfl⟩
  | pollReplaySave =>
      rcases pollReplaySave_cases engine with hsame | ⟨hrunning, hresult⟩
      · exact Or.inl ⟨id, hsame⟩
      · refine Or.inr (Or.inl ⟨?_, id, hresult⟩)
        exact fun hclaim => absurd (hrunning.symm.trans hclaim) (by simp)
  | waitForReplaySave =>
      obtain ⟨hrunning, hresult⟩ := waitForReplaySave_of_saving hsaving (h.saving hsaving)
      refine Or.inr (Or.inl ⟨?_, id, hresult⟩)
      exact fun hclaim => absurd (hrunning.symm.trans hclaim) (by simp)
  | shutdown result =>
      have huse : engine.inUse = true := inUse_eq_true.mpr (Or.inr (by simp [hsaving]))
      have hready := h.ready huse
      simp only [CaptureControlEngine.step, CaptureControlEngine.shutdown]
      rw [if_neg (by simp [hready])]
      refine Or.inr (Or.inr ⟨?_, trivial, ?_⟩)
      · exact stopRecording_replayState.trans stopReplay_off
      · exact stopRecording_sameReplay.result.trans stopReplay_replayResult
  | ingest streamId packet codecExtraData => exact Or.inl ⟨id, .of_eq rfl rfl rfl⟩
  | saveFinishes =>
      refine Or.inl ⟨id, rfl, ?_, rfl⟩
      exact savedResult_wait

/-- The engine begins to save with a save that is accepted, and with no other step. -/
theorem Coherent.step_of_not_saving (h : engine.Coherent) (hidle : engine.replayState ≠ .saving)
    (call : ControlCall) (hsaving : (engine.step call).2.replayState = .saving) :
    ∃ save, acceptedSave (Runs.transition CaptureControlEngine.step engine call) = some save ∧
      (engine.step call).2.savedResult = some save.result := by
  have hnot (hsame : SameReplay engine (engine.step call).2) : False :=
    hidle (hsame.state.symm.trans hsaving)
  cases call with
  | initializeEngine => exact (hnot initializeEngine_sameReplay).elim
  | startRecording paths starts => exact (hnot (h.startRecording_sameReplay paths starts)).elim
  | stopRecording result => exact (hnot stopRecording_sameReplay).elim
  | startReplay =>
      by_cases hbegins : engine.BeginsReplay
      · simp only [CaptureControlEngine.step, Prod.map_snd, id,
          h.startReplay_of_begins hbegins] at hsaving
        rcases hreconcile : engine.attachReplay.captureActivated.reconcileEncoderDemand with
          ⟨_ | _, reconciled⟩ <;> rw [hreconcile] at hsaving
        · have hoff : reconciled.abandonReplay.2.replayState = .off :=
            stopCaptureIfUnused_replayState _
          exact absurd (hoff.symm.trans hsaving) (by simp)
        · cases hsaving
      · simp only [CaptureControlEngine.step, Prod.map_snd, id,
          startReplay_of_not_begins hbegins] at hsaving
        exact (hidle hsaving).elim
  | stopReplay => exact absurd (stopReplay_off.symm.trans hsaving) (by simp)
  | saveReplay paths library =>
      rcases saveReplay_cases engine paths library with ⟨-, hsame⟩ |
        ⟨haccepted, -, save, -, hwriting, hsaved, -⟩
      · exact (hnot hsame).elim
      · refine ⟨save, ?_, hsaved⟩
        unfold acceptedSave
        exact (if_pos haccepted).trans hwriting
  | applyReplayConfiguration configuration =>
      change (engine.applyReplayConfiguration configuration).2.replayState = _ at hsaving
      rcases engine.applyReplayConfiguration_cases configuration with ⟨-, -, happlied⟩ |
        ⟨-, happlied⟩
      · rw [happlied] at hsaving
        exact absurd (stopReplay_off.symm.trans hsaving) (by simp)
      · rw [happlied] at hsaving
        exact (hidle hsaving).elim
  | pollReplaySave =>
      rcases pollReplaySave_cases engine with hsame | ⟨hrunning, -⟩
      · exact (hnot hsame).elim
      · exact absurd (hrunning.symm.trans hsaving) (by simp)
  | waitForReplaySave =>
      simp only [CaptureControlEngine.step, waitForReplaySave_of_not_saving hidle] at hsaving
      exact (hidle hsaving).elim
  | shutdown result =>
      simp only [CaptureControlEngine.step, CaptureControlEngine.shutdown] at hsaving
      split_ifs at hsaving
      · exact (hidle hsaving).elim
      · have hoff : (engine.stopReplay.2.stopRecording result).2.replayState = .off :=
          stopRecording_replayState.trans stopReplay_off
        exact absurd (hoff.symm.trans hsaving) (by simp)
  | ingest streamId packet codecExtraData => exact (hidle hsaving).elim
  | saveFinishes => exact (hidle hsaving).elim

/-- Where no save is pending, a step leaves the result that is shown, or takes it away. -/
theorem Coherent.replayResult_of_not_saving (h : engine.Coherent)
    (hidle : engine.replayState ≠ .saving) (call : ControlCall) :
    (engine.step call).2.replayResult = engine.replayResult ∨
      (engine.step call).2.replayResult = none := by
  cases call with
  | initializeEngine => exact Or.inl initializeEngine_sameReplay.result
  | startRecording paths starts => exact Or.inl (h.startRecording_sameReplay paths starts).result
  | stopRecording result => exact Or.inl stopRecording_sameReplay.result
  | startReplay =>
      by_cases hbegins : engine.BeginsReplay
      · refine Or.inr ?_
        simp only [CaptureControlEngine.step, Prod.map_snd, id, h.startReplay_of_begins hbegins]
        rcases hreconcile : engine.attachReplay.captureActivated.reconcileEncoderDemand with
          ⟨_ | _, reconciled⟩ <;> have hkept := reconcileEncoderDemand_eq hreconcile
        · unfold abandonReplay
          dsimp only
          rw [stopCaptureIfUnused_replayResult, hkept]
          rfl
        · dsimp only
          rw [hkept]
          rfl
      · refine Or.inl ?_
        simp only [CaptureControlEngine.step, Prod.map_snd, id, startReplay_of_not_begins hbegins]
  | stopReplay => exact Or.inl stopReplay_replayResult
  | saveReplay paths library =>
      rcases saveReplay_cases engine paths library with ⟨-, hsame⟩ | ⟨-, -, save, -, -, -, hsame⟩
      · exact Or.inl hsame.result
      · exact Or.inl hsame
  | applyReplayConfiguration configuration =>
      refine Or.inl ?_
      change (engine.applyReplayConfiguration configuration).2.replayResult = _
      rcases engine.applyReplayConfiguration_cases configuration with ⟨-, -, happlied⟩ |
        ⟨-, happlied⟩
      · rw [happlied]
        exact stopReplay_replayResult
      · rw [happlied]
        rfl
  | pollReplaySave =>
      refine Or.inl ?_
      simp only [CaptureControlEngine.step, CaptureControlEngine.pollReplaySave]
      split
      · rfl
      · rw [if_pos (Or.inl hidle)]
  | waitForReplaySave =>
      refine Or.inl ?_
      simp only [CaptureControlEngine.step, waitForReplaySave_of_not_saving hidle]
  | shutdown result =>
      refine Or.inl ?_
      simp only [CaptureControlEngine.step, CaptureControlEngine.shutdown]
      split_ifs
      · rfl
      · exact stopRecording_sameReplay.result.trans stopReplay_replayResult
  | ingest streamId packet codecExtraData => exact Or.inl rfl
  | saveFinishes => exact Or.inl rfl

/-- The saves that a run has accepted, in turn. -/
def acceptedSaves (past : List (Transition ε)) : List ReplaySave := past.filterMap acceptedSave

/-- A step that leaves the state `saving` shows the result of the save that was pending. -/
def ShowsResult (before : List (Transition ε)) (t : Transition ε) : Prop :=
  t.before.replayState = .saving → t.after.replayState ≠ .saving →
    ∃ save ∈ (acceptedSaves before).getLast?, t.after.replayResult = some save.result

/-- Replay is not stopped while a save is pending. -/
def LetsSave (t : Transition ε) : Prop := t.before.replayState = .saving → ¬StopsReplay t.input

/-- While a save is pending it is the one accepted last. -/
def PendingIsLast (past : List (Transition ε)) (engine : CaptureControlEngine ε) : Prop :=
  engine.replayState = .saving →
    ∃ save ∈ (acceptedSaves past).getLast?, engine.savedResult = some save.result

omit [EncoderController ε] in
theorem acceptedSaves_concat {past : List (Transition ε)} {t : Transition ε} :
    acceptedSaves (past ++ [t]) = acceptedSaves past ++ (acceptedSave t).toList := by
  unfold acceptedSaves
  cases h : acceptedSave t <;> simp [h]

theorem acceptedSave_of_refused {paths : List String} {library : Nat → MuxLibrary}
    (h : (engine.saveReplay paths library).1.ok = false) :
    acceptedSave (Runs.transition CaptureControlEngine.step engine (.saveReplay paths library)) =
      none := by
  have hnot : (engine.saveReplay paths library).1.status ≠ .succeeded := fun haccepted => by
    simp [ControlCommandResult.ok, haccepted] at h
  exact if_neg hnot

/-- No save is accepted while one is pending. -/
theorem acceptedSave_of_saving (hsaving : engine.replayState = .saving) (call : ControlCall) :
    acceptedSave (Runs.transition CaptureControlEngine.step engine call) = none := by
  cases call with
  | saveReplay paths library =>
      rcases saveReplay_cases engine paths library with ⟨hrefused, -⟩ | ⟨-, hidle, -⟩
      · exact acceptedSave_of_refused hrefused
      · exact absurd hsaving hidle
  | _ => rfl

theorem pendingIsLast_run {init : CaptureControlEngine ε} {past : List (Transition ε)}
    (hinit : init.Coherent) (hidle : init.replayState ≠ .saving)
    (hrun : Runs.Run step init past engine) : PendingIsLast past engine := by
  suffices hboth : engine.Coherent ∧ PendingIsLast past engine from hboth.2
  apply hrun.invariant (P := fun past engine => engine.Coherent ∧ PendingIsLast past engine)
  · exact ⟨hinit, fun hsaving => absurd hsaving hidle⟩
  · intro past engine call _ ⟨hcoherent, hpending⟩
    refine ⟨hcoherent.step call, fun hsaving => ?_⟩
    rw [acceptedSaves_concat]
    by_cases hbefore : engine.replayState = .saving
    · obtain ⟨save, hlast, hsaved⟩ := hpending hbefore
      rw [acceptedSave_of_saving hbefore]
      refine ⟨save, by simpa using hlast, ?_⟩
      rcases hcoherent.step_of_saving hbefore call with ⟨-, hsame⟩ | ⟨hleft, -⟩ | ⟨hleft, -⟩
      · exact hsame.saved.trans hsaved
      · exact absurd hsaving hleft
      · exact absurd (hleft.symm.trans hsaving) (by simp)
    · obtain ⟨save, haccepted, hsaved⟩ := hcoherent.step_of_not_saving hbefore call hsaving
      rw [haccepted]
      exact ⟨save, by simp, hsaved⟩

/-- A result that is shown is one of a save that is not pending any more. -/
def ShownIsEarlier (past : List (Transition ε)) (engine : CaptureControlEngine ε) : Prop :=
  ∀ result ∈ engine.replayResult,
    ∃ save ∈ (if engine.replayState = .saving then (acceptedSaves past).dropLast
      else acceptedSaves past), save.result = result

theorem shownIsEarlier_run {init : CaptureControlEngine ε} {past : List (Transition ε)}
    (hinit : init.Coherent) (hidle : init.replayState ≠ .saving) (hnone : init.replayResult = none)
    (hrun : Runs.Run step init past engine) : ShownIsEarlier past engine := by
  suffices hboth : engine.Coherent ∧ ShownIsEarlier past engine from hboth.2
  apply hrun.invariant (P := fun past engine => engine.Coherent ∧ ShownIsEarlier past engine)
  · refine ⟨hinit, fun result hresult => ?_⟩
    rw [hnone] at hresult
    cases hresult
  · intro past engine call hrun ⟨hcoherent, hshown⟩
    refine ⟨hcoherent.step call, fun result hresult => ?_⟩
    rw [acceptedSaves_concat]
    by_cases hsaving : engine.replayState = .saving
    · rw [acceptedSave_of_saving hsaving, Option.toList_none, List.append_nil]
      have hearlier (hsame : (engine.step call).2.replayResult = engine.replayResult) :
          ∃ save ∈ (acceptedSaves past).dropLast, save.result = result := by
        rw [hsame] at hresult
        simpa [hsaving] using hshown result hresult
      rcases hcoherent.step_of_saving hsaving call with ⟨-, hsame⟩ | ⟨hleft, -, htaken⟩ |
        ⟨hleft, -, hsame⟩
      · rw [if_pos (hsame.state.trans hsaving)]
        exact hearlier hsame.result
      · obtain ⟨save, hlast, hsaved⟩ := pendingIsLast_run hinit hidle hrun hsaving
        rw [if_neg hleft]
        rw [htaken, hsaved] at hresult
        exact ⟨save, List.mem_of_getLast? hlast, Option.some.inj hresult⟩
      · rw [if_neg (by simp [hleft])]
        obtain ⟨save, hsave, hsame⟩ := hearlier hsame
        exact ⟨save, List.mem_of_mem_dropLast hsave, hsame⟩
    · have hbefore : ∃ save ∈ acceptedSaves past, save.result = result := by
        rcases hcoherent.replayResult_of_not_saving hsaving call with hsame | htaken
        · rw [hsame] at hresult
          simpa [hsaving] using hshown result hresult
        · rw [htaken] at hresult
          cases hresult
      obtain ⟨save, hsave, hsame⟩ := hbefore
      split_ifs with hafter
      · obtain ⟨pending, haccepted, -⟩ := hcoherent.step_of_not_saving hsaving call hafter
        rw [haccepted, Option.toList_some, List.dropLast_concat]
        exact ⟨save, hsave, hsame⟩
      · exact ⟨save, List.mem_append_left _ hsave, hsame⟩

theorem showsResult_of_letsSave {past : List (Transition ε)} (hcoherent : engine.Coherent)
    (hpending : PendingIsLast past engine) {call : ControlCall}
    (hlets : LetsSave (Runs.transition step engine call)) :
    ShowsResult past (Runs.transition step engine call) := by
  intro hsaving hleft
  obtain ⟨save, hlast, hsaved⟩ := hpending hsaving
  rcases hcoherent.step_of_saving hsaving call with ⟨-, hsame⟩ | ⟨-, -, hresult⟩ | ⟨-, hstops, -⟩
  · exact absurd (hsame.state.trans hsaving) hleft
  · exact ⟨save, hlast, hresult.trans hsaved⟩
  · exact absurd hstops (hlets hsaving)

/-- A save that is given up is not shown, for what is shown instead names other files. -/
theorem letsSave_of_showsResult {past : List (Transition ε)} (hcoherent : engine.Coherent)
    (hshown : ShownIsEarlier past engine)
    (hpaths : ((acceptedSaves past).map ReplaySave.paths).Nodup) {call : ControlCall}
    (hshows : ShowsResult past (Runs.transition step engine call)) :
    LetsSave (Runs.transition step engine call) := by
  intro hsaving hstops
  rcases hcoherent.step_of_saving hsaving call with ⟨hkeeps, -⟩ | ⟨-, hkeeps, -⟩ |
    ⟨hoff, -, hkept⟩
  · exact hkeeps hstops
  · exact hkeeps hstops
  · obtain ⟨save, hlast, hresult⟩ := hshows hsaving (by simp [Runs.transition, hoff])
    obtain ⟨earlier, hearlier, hsame⟩ := hshown save.result (hkept.symm.trans hresult)
    replace hearlier : earlier ∈ (acceptedSaves past).dropLast := by
      rwa [if_pos (show engine.replayState = .saving from hsaving)] at hearlier
    have hfiles : earlier.paths = save.paths := by
      rw [← earlier.result_paths, hsame, save.result_paths]
    have hsplit := List.dropLast_append_getLast? save hlast
    rw [← hsplit, List.map_append, List.nodup_append] at hpaths
    exact hpaths.2.2 earlier.paths (List.mem_map_of_mem hearlier) save.paths (by simp) hfiles

/-- In every run in which replay is never stopped while a save is pending, the result of each
accepted save is shown once the engine has stopped saving. Where no two saves are to the same
files, this is the only way. -/
theorem saved_result_shown {configuration : CaptureConfiguration} {ringCapacityBytes : Nat}
    {controller : ε} {past : List (Transition ε)}
    (hrun : Runs.Run step (create configuration (.create ringCapacityBytes) controller) past
      engine) :
    ((∀ t ∈ past, LetsSave t) → Traces.Obeys ShowsResult past) ∧
      (((acceptedSaves past).map ReplaySave.paths).Nodup →
        (Traces.Obeys ShowsResult past ↔ ∀ t ∈ past, LetsSave t)) := by
  have hcoherent := coherent_create configuration ringCapacityBytes controller
  have hidle : (create configuration (.create ringCapacityBytes) controller).replayState ≠
      .saving := by simp [create]
  have henough : (∀ t ∈ past, LetsSave t) → Traces.Obeys ShowsResult past := by
    apply hrun.invariant (P := fun past _ =>
      (∀ t ∈ past, LetsSave t) → Traces.Obeys ShowsResult past)
    · exact fun _ => Traces.obeys_nil
    · intro past engine call hrun hbefore hlets
      rw [List.forall_mem_append, List.forall_mem_singleton] at hlets
      have hpending := pendingIsLast_run hcoherent hidle hrun
      exact (hbefore hlets.1).concat
        (showsResult_of_letsSave (coherent_run hrun) hpending hlets.2)
  refine ⟨henough, fun hpaths => ⟨?_, henough⟩⟩
  revert hpaths
  apply hrun.invariant (P := fun past _ => ((acceptedSaves past).map ReplaySave.paths).Nodup →
    Traces.Obeys ShowsResult past → ∀ t ∈ past, LetsSave t)
  · exact fun _ _ => List.forall_mem_nil _
  · intro past engine call hrun hbefore hpaths hshows
    rw [acceptedSaves_concat, List.map_append] at hpaths
    rw [Traces.obeys_concat_iff] at hshows
    have hearlier := (List.nodup_append.mp hpaths).1
    have hshown := shownIsEarlier_run hcoherent hidle rfl hrun
    rw [List.forall_mem_append, List.forall_mem_singleton]
    exact ⟨hbefore hearlier hshows.1,
      letsSave_of_showsResult (coherent_run hrun) hshown hearlier hshows.2⟩

/-- A library whose every call succeeds, and which keeps time stamps as they are. -/
def obligingLibrary : MuxLibrary where
  rescale value _ _ := value
  answer _ _ := 0
  describe _ := ""

def replayedStream : CaptureConfiguration where
  replay := { enabled := true, targetDurationNs := 1000000000 }
  streams := [⟨.master, "Master", .both, { width := 16, height := 9 }⟩]

def newEngine : CaptureControlEngine ScriptedEncoders :=
  create replayedStream (.create 1000) {}

/-- A keyframe at a whole second. -/
def keyframeAt (second : Fin 256) : EncodedPacket :=
  { SynchronizedCaptureSession.replayPacket 0 true with
    sourceCts := second * 1000000000
    sourceCts_lt := by
      have hsecond := second.isLt
      unfold uint64Size
      omega }

/-- A save is accepted, and then `leave` is called. -/
def savedThen (leave : List ControlCall) : List ControlCall :=
  [.initializeEngine, .startReplay,
    .ingest 0 (keyframeAt 0) [], .ingest 0 (keyframeAt 1) [],
    .saveReplay ["master.mkv"] (fun _ => obligingLibrary)] ++
    leave

theorem saved_result_shown_sample :
    (acceptedSaves (Runs.history step newEngine (savedThen [.waitForReplaySave]))).length = 1 ∧
      Traces.Obeys ShowsResult (Runs.history step newEngine (savedThen [.waitForReplaySave])) := by
  refine ⟨by decide, (saved_result_shown (Runs.run_exec _ _)).1 ?_⟩
  unfold LetsSave
  decide

/-- Replay is stopped while the save is still being written. -/
theorem stopped_save_dropped :
    (Runs.exec step newEngine (savedThen [])).replayState = .saving ∧
      (Runs.exec step newEngine (savedThen [.stopReplay])).replayState = .off ∧
      (Runs.exec step newEngine (savedThen [.stopReplay])).replayResult = none ∧
      (Runs.exec step newEngine (savedThen [.stopReplay])).savedResult.isSome = true ∧
      ¬Traces.Obeys ShowsResult
        (Runs.history step newEngine (savedThen [.stopReplay])) := by
  have hresult : (Runs.exec step newEngine (savedThen [.stopReplay])).replayResult = none := by
    decide
  refine ⟨by decide, by decide, hresult, by decide, fun h => ?_⟩
  obtain ⟨save, -, hshown⟩ := h (Runs.history step newEngine (savedThen []))
    (Runs.transition step (Runs.exec step newEngine (savedThen [])) .stopReplay) [] rfl
    (by decide) (by decide)
  exact absurd (hresult.symm.trans hshown) (by simp)

end CaptureControlEngine

end ObsSyncReplay
