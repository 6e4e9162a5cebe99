import ObsSyncReplay.Plugin.PluginMain

/-!
What a callback does to the runtime that it was given: it makes calls on it, one after the other,
and leaves it where they lead. No callback initializes a runtime or stops it, and none takes or
gives back what the plugin owns.
-/

namespace ObsSyncReplay

/-- A call that is neither the initialization nor the stop. -/
def PluginCaptureRuntime.Call.isCommand : PluginCaptureRuntime.Call → Bool
  | .initializeRuntime _ _ | .stop => false
  | _ => true

namespace PluginEvent

/-- The call that is made on the runtime at an address. -/
def callOn (address : Nat) : PluginEvent → Option PluginCaptureRuntime.Call
  | .called other call => if other = address then some call else none
  | _ => none

def entry : PluginEvent → Option (Ledger.Entry PluginResource)
  | .posted entry => some entry
  | _ => none

def isDangled : PluginEvent → Bool
  | .dangled _ => true
  | _ => false

/-- A line of the log, or an answer. -/
def isLog : PluginEvent → Bool
  | .posted _ | .called _ _ | .dangled _ => false
  | _ => true

end PluginEvent

namespace PluginMain

/-- The calls on the runtime at an address. -/
def callsOn (address : Nat) (events : List PluginEvent) : List PluginCaptureRuntime.Call :=
  events.filterMap (PluginEvent.callOn address)

def posts (events : List PluginEvent) : List (Ledger.Entry PluginResource) :=
  events.filterMap PluginEvent.entry

/-- `Handles address runtime handled`: a callback into the runtime has left `handled`. -/
structure Handles (address : Nat) (runtime : PluginCaptureRuntime)
    (handled : List PluginEvent × PluginCaptureRuntime) : Prop where
  exec : handled.2 = Runs.exec PluginCaptureRuntime.step runtime (callsOn address handled.1)
  commands : ∀ call ∈ callsOn address handled.1, call.isCommand = true
  others : ∀ other, other ≠ address → callsOn other handled.1 = []
  posts : posts handled.1 = []
  sound : ∀ event ∈ handled.1, event.isDangled = false

variable {address : Nat} {runtime : PluginCaptureRuntime}

theorem callsOn_append (events events' : List PluginEvent) :
    callsOn address (events ++ events') = callsOn address events ++ callsOn address events' :=
  List.filterMap_append

theorem posts_append (events events' : List PluginEvent) :
    posts (events ++ events') = posts events ++ posts events' :=
  List.filterMap_append

theorem callsOn_called (calls : List PluginCaptureRuntime.Call) :
    callsOn address (calls.map (.called address)) = calls := by
  rw [callsOn, List.filterMap_map, List.filterMap_congr (g := some), List.filterMap_some]
  intro call _
  exact if_pos rfl

theorem callsOn_logs {logs : List PluginEvent} (h : ∀ event ∈ logs, event.isLog = true) :
    callsOn address logs = [] := by
  apply List.filterMap_eq_nil_iff.mpr
  intro event hevent
  have hlog := h event hevent
  cases event <;> first | rfl | cases hlog

theorem posts_logs {logs : List PluginEvent} (h : ∀ event ∈ logs, event.isLog = true) :
    posts logs = [] := by
  apply List.filterMap_eq_nil_iff.mpr
  intro event hevent
  have hlog := h event hevent
  cases event <;> first | rfl | cases hlog

/-- Calls, and then what is logged and answered. -/
theorem handles_of_calls (calls : List PluginCaptureRuntime.Call) (logs : List PluginEvent)
    (hcommands : ∀ call ∈ calls, call.isCommand = true)
    (hlogs : ∀ event ∈ logs, event.isLog = true) :
    Handles address runtime (calls.map (.called address) ++ logs,
      Runs.exec PluginCaptureRuntime.step runtime calls) := by
  have hcalls : callsOn address (calls.map (.called address) ++ logs) = calls := by
    rw [callsOn_append, callsOn_called, callsOn_logs hlogs, List.append_nil]
  constructor
  · rw [hcalls]
  · rw [hcalls]
    exact hcommands
  · intro other hother
    rw [callsOn_append, callsOn_logs hlogs, List.append_nil]
    apply List.filterMap_eq_nil_iff.mpr
    intro event hevent
    obtain ⟨call, -, rfl⟩ := List.mem_map.mp hevent
    exact if_neg (Ne.symm hother)
  · rw [posts_append, posts_logs hlogs, List.append_nil]
    apply List.filterMap_eq_nil_iff.mpr
    intro event hevent
    obtain ⟨call, -, rfl⟩ := List.mem_map.mp hevent
    rfl
  · intro event hevent
    rcases List.mem_append.mp hevent with hcall | hlog
    · obtain ⟨call, -, rfl⟩ := List.mem_map.mp hcall
      rfl
    · have hislog := hlogs event hlog
      cases event <;> first | rfl | cases hislog

theorem onHotkey_handles (pressed starts : Bool) (readings : HotkeyReadings) (kind : HotkeyKind) :
    Handles address runtime (onHotkey address runtime pressed readings kind starts) := by
  have hquiet (logs : List PluginEvent) (hlogs : ∀ event ∈ logs, event.isLog = true) :
      Handles address runtime (logs, runtime) := handles_of_calls [] logs (by simp) hlogs
  have hrefreshed (logs : List PluginEvent) (hlogs : ∀ event ∈ logs, event.isLog = true) :
      Handles address runtime
        (.called address (.refreshReplayConfiguration readings.profile readings.rebuild) :: logs,
          (runtime.refreshReplayConfiguration readings.profile readings.rebuild).2) :=
    handles_of_calls [.refreshReplayConfiguration readings.profile readings.rebuild] logs
      (by simp [PluginCaptureRuntime.Call.isCommand]) hlogs
  unfold onHotkey
  split
  · unfold onStartRecordingHotkey
    split_ifs
    · exact hquiet _ (by simp [PluginEvent.isLog])
    · exact handles_of_calls [.startRecording _ _] [.commanded _ _, .hotkeyAnswered true]
        (by simp [PluginCaptureRuntime.Call.isCommand]) (by simp [PluginEvent.isLog])
  · unfold onStopRecordingHotkey
    split_ifs
    · exact hquiet _ (by simp [PluginEvent.isLog])
    · exact handles_of_calls [.stopRecording _ _] [.commanded _ _, .hotkeyAnswered true]
        (by simp [PluginCaptureRuntime.Call.isCommand]) (by simp [PluginEvent.isLog])
  · unfold onStartReplayHotkey
    dsimp only
    split_ifs
    · exact hquiet _ (by simp [PluginEvent.isLog])
    · exact hrefreshed _ (by simp [PluginEvent.isLog])
    · exact hrefreshed _ (by simp [PluginEvent.isLog])
    · exact handles_of_calls [.refreshReplayConfiguration _ _, .startReplay _ _]
        [.commanded _ _, .hotkeyAnswered true] (by simp [PluginCaptureRuntime.Call.isCommand])
        (by simp [PluginEvent.isLog])
  · unfold onStopReplayHotkey
    dsimp only
    split_ifs
    · exact hquiet _ (by simp [PluginEvent.isLog])
    · exact hrefreshed _ (by simp [PluginEvent.isLog])
    · exact handles_of_calls [.refreshReplayConfiguration _ _, .stopReplay _]
        [.commanded _ _, .hotkeyAnswered true] (by simp [PluginCaptureRuntime.Call.isCommand])
        (by simp [PluginEvent.isLog])
  · unfold onSaveReplayHotkey
    dsimp only
    split_ifs
    · exact hquiet _ (by simp)
    · exact hrefreshed _ (by simp)
    · exact handles_of_calls [.refreshReplayConfiguration _ _, .saveReplay _ _ _ _]
        [.commanded _ _] (by simp [PluginCaptureRuntime.Call.isCommand])
        (by simp [PluginEvent.isLog])

theorem toggleRecordingCalls_exec (readings : ControlsReadings) :
    (runtime.toggleRecording readings.command).2 =
      Runs.exec PluginCaptureRuntime.step runtime (toggleRecordingCalls runtime readings) := by
  unfold PluginCaptureRuntime.toggleRecording toggleRecordingCalls
  cases runtime.recordingState <;> rfl

theorem toggleReplayCalls_exec (readings : ControlsReadings) :
    (runtime.toggleReplay readings.command).2 =
      Runs.exec PluginCaptureRuntime.step runtime (toggleReplayCalls runtime readings) := by
  unfold PluginCaptureRuntime.toggleReplay toggleReplayCalls
  cases runtime.replayState <;> rfl

theorem invoke_exec (readings : ControlsReadings) (action : CaptureControls.ControlAction) :
    (invoke runtime readings action).2.2 =
      Runs.exec PluginCaptureRuntime.step runtime (invoke runtime readings action).1 := by
  cases action with
  | recordingToggle => exact toggleRecordingCalls_exec readings
  | replayToggle => exact toggleReplayCalls_exec readings
  | replaySave => rfl

theorem invoke_commands (readings : ControlsReadings) (action : CaptureControls.ControlAction) :
    ∀ call ∈ (invoke runtime readings action).1, call.isCommand = true := by
  cases action with
  | recordingToggle =>
      simp only [invoke, toggleRecordingCalls]
      split <;> simp [PluginCaptureRuntime.Call.isCommand]
  | replayToggle =>
      simp only [invoke, toggleReplayCalls]
      split <;> simp [PluginCaptureRuntime.Call.isCommand]
  | replaySave => simp [invoke, PluginCaptureRuntime.Call.isCommand]

variable {controls : CaptureControls}

theorem onClicked_handles (readings : ControlsReadings)
    (action : CaptureControls.ControlAction) :
    Handles controls.runtime runtime ((onClicked controls runtime readings action).1,
      (onClicked controls runtime readings action).2.2) := by
  have hexec := @invoke_exec runtime readings action
  have hcommands := @invoke_commands runtime readings action
  have hhandles := @handles_of_calls controls.runtime runtime
    (invoke runtime readings action).1
    [.reported controls.runtime action (invoke runtime readings action).2.1] hcommands
    (by simp [PluginEvent.isLog])
  rw [← hexec] at hhandles
  exact hhandles

theorem onTimeout_handles (readings : ControlsReadings) :
    Handles controls.runtime runtime ((onTimeout controls runtime readings).1,
      (onTimeout controls runtime readings).2.2) := by
  have hhandles := @handles_of_calls controls.runtime runtime (timeoutCalls readings) []
    (by simp [timeoutCalls, PluginCaptureRuntime.Call.isCommand]) (by simp)
  rw [List.append_nil] at hhandles
  exact hhandles

theorem onFirstRefresh_handles (readings : ControlsReadings) :
    Handles controls.runtime runtime ((onFirstRefresh controls runtime readings).1,
      (onFirstRefresh controls runtime readings).2.2) :=
  handles_of_calls [] [] (by simp) (by simp)

end PluginMain

end ObsSyncReplay
