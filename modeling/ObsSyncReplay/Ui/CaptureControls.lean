import ObsSyncReplay.Control.RuntimeCommands

/-!
`ui/capture-controls` and `ui/capture-controls-state`: the three buttons that stand in for the
ones of OBS. A button is what Qt shows and enables; how it looks beyond that is not modelled, and
the texts come with each presentation. Presenting the buttons may throw, and then they are
disabled for good.
-/

namespace ObsSyncReplay

structure CaptureControlsLabels where
  startRecording : String := ""
  stopRecording : String := ""
  stoppingRecording : String := ""
  startReplayBuffer : String := ""
  stopReplayBuffer : String := ""
  stoppingReplayBuffer : String := ""
  saveReplay : String := ""
  startingRecording : String := ""
  startingReplayBuffer : String := ""
  recordingUnavailable : String := ""
  replayBufferUnavailable : String := ""
  recordingTooltip : String := ""
  replayTooltip : String := ""
deriving DecidableEq

inductive CaptureControlVisualState where
  | inactive
  | starting
  | active
  | saving
  | stopping
  | failed
deriving DecidableEq, Repr

structure CaptureButtonPresentation where
  state : CaptureControlVisualState := .inactive
  text : String := ""
  enabled : Bool := false
  visible : Bool := true
  pluginOwnedHelpTooltip : String := ""
deriving DecidableEq

structure CaptureControlsPresentation where
  recording : CaptureButtonPresentation := {}
  replay : CaptureButtonPresentation := {}
  saveReplayText : String := ""
  saveReplayVisible : Bool := false
  saveReplayEnabled : Bool := false
deriving DecidableEq

/-- The button of the recording, without its help. -/
def recordingPresentation (infrastructure : CaptureInfrastructureState)
    (recording : RecordingConsumerState) (recordingFailed : Bool)
    (labels : CaptureControlsLabels) : CaptureButtonPresentation :=
  if infrastructure = .failed ∨ recordingFailed then
    { state := .failed, text := labels.recordingUnavailable, enabled := false }
  else
    match recording with
    | .off => { state := .inactive, text := labels.startRecording, enabled := true }
    | .starting => { state := .starting, text := labels.startingRecording, enabled := false }
    | .running => { state := .active, text := labels.stopRecording, enabled := true }
    | .stopping => { state := .stopping, text := labels.stoppingRecording, enabled := false }

/-- The button of the replay, without its help, and whether the button of a save is visible and
enabled. -/
def replayPresentation (infrastructure : CaptureInfrastructureState)
    (replay : ReplayConsumerState) (replayAvailable replayFailed : Bool)
    (labels : CaptureControlsLabels) : CaptureButtonPresentation × Bool × Bool :=
  if !replayAvailable then
    ({ state := .inactive, text := labels.replayBufferUnavailable, enabled := false
       visible := false }, false, false)
  else if infrastructure = .failed ∨ replayFailed then
    ({ state := .failed, text := labels.replayBufferUnavailable, enabled := false }, false, false)
  else
    match replay with
    | .off =>
        ({ state := .inactive, text := labels.startReplayBuffer, enabled := true }, false, false)
    | .starting =>
        ({ state := .starting, text := labels.startingReplayBuffer, enabled := false },
          false, false)
    | .running =>
        ({ state := .active, text := labels.stopReplayBuffer, enabled := true }, true, true)
    | .saving =>
        ({ state := .saving, text := labels.stopReplayBuffer, enabled := false }, true, false)
    | .stopping =>
        ({ state := .stopping, text := labels.stoppingReplayBuffer, enabled := false },
          true, false)

def makeCaptureControlsPresentation (infrastructure : CaptureInfrastructureState)
    (recording : RecordingConsumerState) (replay : ReplayConsumerState)
    (replayAvailable recordingFailed replayFailed : Bool) (labels : CaptureControlsLabels) :
    CaptureControlsPresentation :=
  let recordingButton := recordingPresentation infrastructure recording recordingFailed labels
  let (replayButton, saveReplayVisible, saveReplayEnabled) :=
    replayPresentation infrastructure replay replayAvailable replayFailed labels
  { recording := { recordingButton with pluginOwnedHelpTooltip := labels.recordingTooltip }
    replay := { replayButton with pluginOwnedHelpTooltip := labels.replayTooltip }
    saveReplayText := labels.saveReplay
    saveReplayVisible := saveReplayVisible
    saveReplayEnabled := saveReplayEnabled }

/-- A push button as Qt makes it: without a text, and enabled. `style` is what `SetButtonClasses`
was last given. -/
structure Button where
  text : String := ""
  helpTooltip : String := ""
  toolTip : String := ""
  accessibleName : String := ""
  enabled : Bool := true
  visible : Bool := false
  style : CaptureControlVisualState := .inactive
deriving DecidableEq

/-- A button that is clicked emits `clicked` while it is visible and enabled. -/
def Button.clickable (button : Button) : Bool := button.visible && button.enabled

/-- The controls know the runtime and the adapter by their addresses. `firstRefreshDue` stands
for the single shot of the constructor. -/
structure CaptureControls where
  runtime : Nat
  controlsAdapter : Nat
  recordingButton : Button := {}
  replayButton : Button := {}
  saveReplayButton : Button := {}
  timerActive : Bool := true
  firstRefreshDue : Bool := true
  disabled : Bool := false
  recordingFailed : Bool := false
  replayFailed : Bool := false
deriving DecidableEq

namespace CaptureControls

/-- The buttons take the places of the native ones. -/
def install (controls : CaptureControls) : CaptureControls :=
  { controls with
    recordingButton := { controls.recordingButton with visible := true }
    replayButton := { controls.replayButton with visible := true }
    saveReplayButton := { controls.saveReplayButton with visible := true } }

def disableControls (controls : CaptureControls) : CaptureControls :=
  { controls with
    disabled := true
    timerActive := false
    recordingButton := { controls.recordingButton with enabled := false }
    replayButton := { controls.replayButton with enabled := false }
    saveReplayButton := { controls.saveReplayButton with enabled := false, visible := false } }

/-- The handlers of `ApplyPresentationSafely`. -/
def presentationFailed (controls : CaptureControls) : CaptureControls :=
  { controls with
    disabled := true
    timerActive := false
    recordingButton := { controls.recordingButton with enabled := false }
    replayButton := { controls.replayButton with enabled := false }
    saveReplayButton := { controls.saveReplayButton with enabled := false } }

/-- The calls on a button of the recording or of the replay, in their order. -/
def buttonCalls (presentation : CaptureButtonPresentation) : List (Button → Button) :=
  [fun button => { button with text := presentation.text },
    fun button => { button with helpTooltip := presentation.pluginOwnedHelpTooltip },
    fun button => { button with enabled := presentation.enabled },
    fun button => { button with visible := presentation.visible },
    fun button => { button with style := presentation.state }]

def saveReplayCalls (presentation : CaptureControlsPresentation) : List (Button → Button) :=
  [fun button => { button with enabled := presentation.saveReplayEnabled },
    fun button => { button with visible := presentation.saveReplayVisible },
    fun button => { button with text := "" },
    fun button => { button with toolTip := presentation.saveReplayText },
    fun button => { button with accessibleName := presentation.saveReplayText },
    fun button => { button with style := .inactive }]

/-- The calls of `ApplyPresentation` on the three buttons. -/
def presentationCalls (presentation : CaptureControlsPresentation) :
    List (CaptureControls → CaptureControls) :=
  (buttonCalls presentation.recording).map (fun call controls =>
      { controls with recordingButton := call controls.recordingButton }) ++
    (buttonCalls presentation.replay).map (fun call controls =>
      { controls with replayButton := call controls.replayButton }) ++
    (saveReplayCalls presentation).map (fun call controls =>
      { controls with saveReplayButton := call controls.saveReplayButton })

def presentation (controls : CaptureControls) (runtime : PluginCaptureRuntime)
    (labels : CaptureControlsLabels) : CaptureControlsPresentation :=
  makeCaptureControlsPresentation runtime.captureState runtime.recordingState
    runtime.replayState runtime.replayAvailable controls.recordingFailed controls.replayFailed
    labels

/-- What presenting the buttons reads: the labels, and after how many of its calls it throws, if
it does. -/
structure PresentationReadings where
  labels : CaptureControlsLabels
  throwsAfter : Option Nat
deriving DecidableEq

def applyPresentationSafely (controls : CaptureControls) (runtime : PluginCaptureRuntime)
    (readings : PresentationReadings) : CaptureControls :=
  if controls.disabled then controls
  else
    let calls := presentationCalls (controls.presentation runtime readings.labels)
    match readings.throwsAfter with
    | none => calls.foldl (fun controls call => call controls) controls
    | some made =>
        ((calls.take made).foldl (fun controls call => call controls) controls).presentationFailed

inductive ControlAction where
  | recordingToggle
  | replayToggle
  | replaySave
deriving DecidableEq, Repr

/-- The button that is clicked for an action. -/
def button (controls : CaptureControls) (action : ControlAction) : Button :=
  match action with
  | .recordingToggle => controls.recordingButton
  | .replayToggle => controls.replayButton
  | .replaySave => controls.saveReplayButton

def report (controls : CaptureControls) (runtime : PluginCaptureRuntime)
    (readings : PresentationReadings) (action : ControlAction) (result : ControlCommandResult) :
    CaptureControls :=
  let failed := decide (result.status = .failed ∨ result.status = .invalidState)
  let controls :=
    match action with
    | .recordingToggle => { controls with recordingFailed := failed }
    | .replayToggle => { controls with replayFailed := failed }
    | .replaySave => controls
  controls.applyPresentationSafely runtime readings

variable {controls : CaptureControls} {runtime : PluginCaptureRuntime}

/-- What lies behind the buttons. -/
structure SameBehind (controls controls' : CaptureControls) : Prop where
  runtime : controls'.runtime = controls.runtime
  controlsAdapter : controls'.controlsAdapter = controls.controlsAdapter
  recordingFailed : controls'.recordingFailed = controls.recordingFailed
  replayFailed : controls'.replayFailed = controls.replayFailed

theorem SameBehind.trans {controls' controls'' : CaptureControls}
    (h : SameBehind controls controls') (h' : SameBehind controls' controls'') :
    SameBehind controls controls'' :=
  ⟨h'.runtime.trans h.runtime, h'.controlsAdapter.trans h.controlsAdapter,
    h'.recordingFailed.trans h.recordingFailed, h'.replayFailed.trans h.replayFailed⟩

theorem sameBehind_calls {calls : List (CaptureControls → CaptureControls)}
    (h : ∀ call ∈ calls, ∀ controls, SameBehind controls (call controls)) :
    SameBehind controls (calls.foldl (fun controls call => call controls) controls) := by
  induction calls generalizing controls with
  | nil => exact ⟨rfl, rfl, rfl, rfl⟩
  | cons call rest ih =>
      rw [List.forall_mem_cons] at h
      exact (h.1 controls).trans (ih h.2)

theorem presentationCalls_behind (presentation : CaptureControlsPresentation) :
    ∀ call ∈ presentationCalls presentation, ∀ controls, SameBehind controls (call controls) := by
  intro call hcall controls
  simp only [presentationCalls, List.mem_append, List.mem_map] at hcall
  rcases hcall with (⟨_, -, rfl⟩ | ⟨_, -, rfl⟩) | ⟨_, -, rfl⟩ <;> exact ⟨rfl, rfl, rfl, rfl⟩

theorem applyPresentationSafely_behind (readings : PresentationReadings) :
    SameBehind controls (controls.applyPresentationSafely runtime readings) := by
  unfold applyPresentationSafely
  dsimp only
  split_ifs
  · exact ⟨rfl, rfl, rfl, rfl⟩
  · split
    · exact sameBehind_calls (presentationCalls_behind _)
    · exact (sameBehind_calls fun call hcall =>
        presentationCalls_behind _ call (List.mem_of_mem_take hcall)).trans ⟨rfl, rfl, rfl, rfl⟩

/-- The button once all of its calls have been made. -/
def shown (button : Button) (presentation : CaptureButtonPresentation) : Button :=
  { button with
    text := presentation.text
    helpTooltip := presentation.pluginOwnedHelpTooltip
    enabled := presentation.enabled
    visible := presentation.visible
    style := presentation.state }

def shownSave (button : Button) (presentation : CaptureControlsPresentation) : Button :=
  { button with
    text := ""
    toolTip := presentation.saveReplayText
    accessibleName := presentation.saveReplayText
    enabled := presentation.saveReplayEnabled
    visible := presentation.saveReplayVisible
    style := .inactive }

/-- The buttons show a presentation. -/
structure Shows (controls : CaptureControls) (presentation : CaptureControlsPresentation) :
    Prop where
  recording : controls.recordingButton = shown controls.recordingButton presentation.recording
  replay : controls.replayButton = shown controls.replayButton presentation.replay
  saveReplay : controls.saveReplayButton = shownSave controls.saveReplayButton presentation

/-- Buttons that are not disabled and do not throw show what the runtime is in. -/
theorem applyPresentationSafely_shows (hdisabled : controls.disabled = false)
    (labels : CaptureControlsLabels) :
    (controls.applyPresentationSafely runtime ⟨labels, none⟩).Shows
        (controls.presentation runtime labels) ∧
      (controls.applyPresentationSafely runtime ⟨labels, none⟩).disabled = false := by
  unfold applyPresentationSafely
  rw [if_neg (by simp [hdisabled])]
  exact ⟨⟨rfl, rfl, rfl⟩, hdisabled⟩

/-- No button of disabled controls is enabled, and a toggle that has failed is not offered
again; with the replay the save goes as well. -/
structure Latched (controls : CaptureControls) : Prop where
  disabled : controls.disabled = true →
    controls.timerActive = false ∧ ∀ action, (controls.button action).enabled = false
  recording : controls.recordingFailed = true → controls.recordingButton.enabled = false
  replay : controls.replayFailed = true →
    controls.replayButton.enabled = false ∧ controls.saveReplayButton.enabled = false

theorem latched_install (address controlsAdapter : Nat) :
    (install { runtime := address, controlsAdapter := controlsAdapter }).Latched :=
  ⟨nofun, nofun, nofun⟩

theorem latched_presentationFailed (controls : CaptureControls) :
    controls.presentationFailed.Latched where
  disabled _ := ⟨rfl, fun action => by cases action <;> rfl⟩
  recording _ := rfl
  replay _ := ⟨rfl, rfl⟩

/-- Presenting latches, whatever was shown before, so long as disabled controls are. -/
theorem latched_applyPresentationSafely (h : controls.disabled = true → controls.Latched)
    (readings : PresentationReadings) :
    (controls.applyPresentationSafely runtime readings).Latched := by
  cases hdisabled : controls.disabled with
  | true =>
      unfold applyPresentationSafely
      rw [if_pos hdisabled]
      exact h hdisabled
  | false =>
      obtain ⟨labels, throwsAfter⟩ := readings
      cases throwsAfter with
      | some made =>
          unfold applyPresentationSafely
          rw [if_neg (by simp [hdisabled])]
          exact latched_presentationFailed _
      | none =>
          obtain ⟨hshows, hstill⟩ :=
            @applyPresentationSafely_shows controls runtime hdisabled labels
          have hbehind := @applyPresentationSafely_behind controls runtime ⟨labels, none⟩
          refine ⟨fun hclaim => absurd (hstill.symm.trans hclaim) (by simp), ?_, ?_⟩
          · intro hfailed
            rw [hbehind.recordingFailed] at hfailed
            rw [hshows.recording]
            simp [shown, presentation, makeCaptureControlsPresentation, recordingPresentation,
              hfailed]
          · intro hfailed
            rw [hbehind.replayFailed] at hfailed
            rw [hshows.replay, hshows.saveReplay]
            simp only [shown, shownSave, presentation, makeCaptureControlsPresentation,
              replayPresentation, hfailed, or_true, if_true]
            split_ifs <;> exact ⟨rfl, rfl⟩

end CaptureControls

end ObsSyncReplay
