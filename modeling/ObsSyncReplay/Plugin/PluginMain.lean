import ObsSyncReplay.Lib.Ledger
import ObsSyncReplay.Ui.CaptureControls

/-!
`plugin/plugin-main`: what the plugin owns between the loading and the unloading of its module.
OBS calls in at the boundaries of profiles and scene collections, through hotkeys and through the
buttons; all of this happens on one thread, in any order. What OBS holds of the plugin (its event
callback, its hotkeys with the address that each is given) is a part of the state, so that a call
into a runtime that is gone can be told.
-/

namespace ObsSyncReplay

inductive FrontendEvent where
  | finishedLoading
  | exit
  | profileChanging
  | profileChanged
  | sceneCollectionCleanup
  | sceneCollectionChanged
  | other
deriving DecidableEq, Repr

inductive HotkeyKind where
  | recording
  | replay
  | saveReplay
deriving DecidableEq, Repr

/-- A hotkey, or a pair of them, as OBS holds it; `data` is the address of the runtime. -/
structure RegisteredHotkey where
  id : Nat
  kind : HotkeyKind
  data : Nat
deriving DecidableEq

/-- How the integration into the window of OBS goes, up to the step that fails or throws. -/
inductive UiIntegration where
  | adapterThrows
  | locateThrows
  | notLocated
  | controlsThrow
  | installThrows
  | notInstalled
  | installed
deriving DecidableEq, Repr

/-- libobs loads a module, tells it when all modules are loaded, and unloads it. -/
inductive ModuleStage where
  | found
  | loaded
  | postLoaded
  | unloaded
deriving DecidableEq, Repr

/-- What the plugin takes and gives back; objects are known by their addresses. -/
inductive PluginResource where
  | runtime (address : Nat)
  | controlsAdapter (address : Nat)
  | captureControls (runtime controlsAdapter : Nat)
  | hotkey (hotkey : RegisteredHotkey)
  | eventCallback
deriving DecidableEq

inductive PluginEvent where
  | posted (entry : Ledger.Entry PluginResource)
  | called (address : Nat) (call : PluginCaptureRuntime.Call)
  | commanded (action : String) (result : ControlCommandResult)
  | reported (address : Nat) (action : CaptureControls.ControlAction)
      (result : ControlCommandResult)
  | replayStartRejected
  | hotkeyAnswered (accepted : Bool)
  | initializationFailed
  | integrationFailed
  | controlsReady (uiReplaced replayAvailable : Bool)
  | stopped (boundary : String)
  | dangled (address : Nat)

structure PluginMain where
  captureRuntime : Option (Nat × PluginCaptureRuntime) := none
  controlsAdapter : Option Nat := none
  captureControls : Option CaptureControls := none
  shutdownRequested : Bool := false
  frontendRegistered : Bool := false
  recordingHotkeys : Option Nat := none
  replayHotkeys : Option Nat := none
  saveReplayHotkey : Option Nat := none
  moduleStage : ModuleStage := .found
  eventCallbackAdded : Bool := false
  hotkeys : List RegisteredHotkey := []
  nextHotkey : Nat := 0
  nextAddress : Nat := 0

namespace PluginMain

/-- What a hotkey reads: the profile when it refreshes the configuration, and what its command
reads. -/
structure HotkeyReadings where
  profile : ReplayConfiguration
  rebuild : Rebuild
  command : PluginCaptureRuntime.CommandReadings

section Hotkeys

variable (address : Nat) (runtime : PluginCaptureRuntime) (pressed : Bool)
  (readings : HotkeyReadings)

def onStartRecordingHotkey : List PluginEvent × PluginCaptureRuntime :=
  if !pressed ∨ runtime.recordingState ≠ .off then ([.hotkeyAnswered false], runtime)
  else
    let (result, runtime) :=
      runtime.startRecording readings.command.output readings.command.starts
    ([.called address (.startRecording readings.command.output readings.command.starts),
      .commanded "hotkey-recording-start" result, .hotkeyAnswered true], runtime)

def onStopRecordingHotkey : List PluginEvent × PluginCaptureRuntime :=
  if !pressed ∨ runtime.recordingState ≠ .running then ([.hotkeyAnswered false], runtime)
  else
    let (result, runtime) :=
      runtime.stopRecording readings.command.recorded readings.command.rebuild
    ([.called address (.stopRecording readings.command.recorded readings.command.rebuild),
      .commanded "hotkey-recording-stop" result, .hotkeyAnswered true], runtime)

def onStartReplayHotkey : List PluginEvent × PluginCaptureRuntime :=
  if !pressed then ([.hotkeyAnswered false], runtime)
  else
    let refreshed : PluginEvent :=
      .called address (.refreshReplayConfiguration readings.profile readings.rebuild)
    let runtime := (runtime.refreshReplayConfiguration readings.profile readings.rebuild).2
    if !runtime.replayAvailable then
      ([refreshed, .replayStartRejected, .hotkeyAnswered false], runtime)
    else if runtime.replayState ≠ .off then ([refreshed, .hotkeyAnswered false], runtime)
    else
      let (result, runtime) :=
        runtime.startReplay readings.command.profile readings.command.rebuild
      ([refreshed, .called address (.startReplay readings.command.profile readings.command.rebuild),
        .commanded "hotkey-replay-start" result, .hotkeyAnswered true], runtime)

def onStopReplayHotkey : List PluginEvent × PluginCaptureRuntime :=
  if !pressed then ([.hotkeyAnswered false], runtime)
  else
    let refreshed : PluginEvent :=
      .called address (.refreshReplayConfiguration readings.profile readings.rebuild)
    let runtime := (runtime.refreshReplayConfiguration readings.profile readings.rebuild).2
    if !runtime.replayAvailable ∨ runtime.replayState ≠ .running then
      ([refreshed, .hotkeyAnswered false], runtime)
    else
      let (result, runtime) := runtime.stopReplay readings.command.rebuild
      ([refreshed, .called address (.stopReplay readings.command.rebuild),
        .commanded "hotkey-replay-stop" result, .hotkeyAnswered true], runtime)

def onSaveReplayHotkey : List PluginEvent × PluginCaptureRuntime :=
  if !pressed then ([], runtime)
  else
    let refreshed : PluginEvent :=
      .called address (.refreshReplayConfiguration readings.profile readings.rebuild)
    let runtime := (runtime.refreshReplayConfiguration readings.profile readings.rebuild).2
    if !runtime.replayAvailable ∨ runtime.replayState ≠ .running then ([refreshed], runtime)
    else
      let (result, runtime) := runtime.saveReplay readings.command.profile
        readings.command.rebuild readings.command.output readings.command.library
      ([refreshed, .called address (.saveReplay readings.command.profile readings.command.rebuild
          readings.command.output readings.command.library),
        .commanded "hotkey-replay-save" result], runtime)

/-- The callback of a hotkey, or of one side of a pair. -/
def onHotkey (kind : HotkeyKind) (starts : Bool) : List PluginEvent × PluginCaptureRuntime :=
  match kind, starts with
  | .recording, true => onStartRecordingHotkey address runtime pressed readings
  | .recording, false => onStopRecordingHotkey address runtime pressed readings
  | .replay, true => onStartReplayHotkey address runtime pressed readings
  | .replay, false => onStopReplayHotkey address runtime pressed readings
  | .saveReplay, _ => onSaveReplayHotkey address runtime pressed readings

end Hotkeys

/-- A registration that OBS turns down gives an invalid id. -/
def registerHotkey (plugin : PluginMain) (registers : Bool) (kind : HotkeyKind) (data : Nat) :
    Option Nat × List PluginEvent × PluginMain :=
  if !registers then (none, [], plugin)
  else
    let hotkey : RegisteredHotkey := ⟨plugin.nextHotkey, kind, data⟩
    (some plugin.nextHotkey, [.posted (.acquired (.hotkey hotkey))],
      { plugin with
        hotkeys := plugin.hotkeys ++ [hotkey], nextHotkey := plugin.nextHotkey + 1 })

def registerPluginHotkeys (plugin : PluginMain) (registers : HotkeyKind → Bool) :
    List PluginEvent × PluginMain :=
  match plugin.captureRuntime with
  | none => ([], plugin)
  | some (address, _) =>
      let (recordingHotkeys, first, plugin) :=
        plugin.registerHotkey (registers .recording) .recording address
      let (replayHotkeys, second, plugin) :=
        plugin.registerHotkey (registers .replay) .replay address
      let (saveReplayHotkey, third, plugin) :=
        plugin.registerHotkey (registers .saveReplay) .saveReplay address
      (first ++ second ++ third,
        { plugin with
          recordingHotkeys := recordingHotkeys, replayHotkeys := replayHotkeys
          saveReplayHotkey := saveReplayHotkey })

/-- OBS drops the hotkey with this id. -/
def unregisterHotkey (plugin : PluginMain) (id : Option Nat) : List PluginEvent × PluginMain :=
  ((plugin.hotkeys.filter (fun hotkey => some hotkey.id = id)).map
      (fun hotkey => .posted (.released (.hotkey hotkey))),
    { plugin with hotkeys := plugin.hotkeys.filter (fun hotkey => some hotkey.id ≠ id) })

def unregisterPluginHotkeys (plugin : PluginMain) : List PluginEvent × PluginMain :=
  let (first, plugin) := plugin.unregisterHotkey plugin.recordingHotkeys
  let (second, plugin) :=
    { plugin with recordingHotkeys := none }.unregisterHotkey plugin.replayHotkeys
  let (third, plugin) :=
    { plugin with replayHotkeys := none }.unregisterHotkey plugin.saveReplayHotkey
  (first ++ second ++ third, { plugin with saveReplayHotkey := none })

/-- Drops what there is of the controls, and then of the adapter. -/
def dropControls (plugin : PluginMain) : List PluginEvent × PluginMain :=
  ((plugin.captureControls.map (fun controls => .posted (.released
      (.captureControls controls.runtime controls.controlsAdapter)))).toList ++
    (plugin.controlsAdapter.map (fun address => .posted (.released
      (.controlsAdapter address)))).toList,
    { plugin with captureControls := none, controlsAdapter := none })

/-- `Stop`, and the destructor, which stops the runtime once more. -/
def dropRuntime (plugin : PluginMain) : List PluginEvent × PluginMain :=
  match plugin.captureRuntime with
  | none => ([], plugin)
  | some (address, _) =>
      ([.called address .stop, .called address .stop,
        .posted (.released (.runtime address))], { plugin with captureRuntime := none })

def stopPluginOwnedRuntime (plugin : PluginMain) (boundary : String) :
    List PluginEvent × PluginMain :=
  if plugin.captureRuntime.isNone ∧ plugin.captureControls.isNone ∧
      plugin.controlsAdapter.isNone then ([], plugin)
  else if plugin.shutdownRequested then ([], plugin)
  else
    let plugin := { plugin with
      shutdownRequested := true
      captureControls := plugin.captureControls.map CaptureControls.disableControls }
    let (hotkeys, plugin) := plugin.unregisterPluginHotkeys
    let (controls, plugin) := plugin.dropControls
    let (runtime, plugin) := plugin.dropRuntime
    (hotkeys ++ controls ++ runtime ++ [.stopped boundary], plugin)

/-- What a start reads: the profile and the scenes of a new runtime, how the integration goes, and
which hotkeys OBS registers. -/
structure StartReadings where
  profile : ReplayConfiguration
  discovered : List DiscoveredScene
  rebuild : Rebuild
  integration : UiIntegration
  registers : HotkeyKind → Bool

/-- The adapter, and the controls of a runtime; what a failure leaves of them is dropped. -/
def integrateControls (plugin : PluginMain) (address : Nat) (integration : UiIntegration) :
    List PluginEvent × PluginMain :=
  let adapter := plugin.nextAddress
  let made : List PluginEvent := [.posted (.acquired (.controlsAdapter adapter))]
  let located := { plugin with controlsAdapter := some adapter, nextAddress := adapter + 1 }
  let controls : CaptureControls := { runtime := address, controlsAdapter := adapter }
  let built := made ++ [.posted (.acquired (.captureControls address adapter))]
  match integration with
  | .adapterThrows => ([.integrationFailed], plugin)
  | .locateThrows | .controlsThrow =>
      let (dropped, plugin) := located.dropControls
      (made ++ [.integrationFailed] ++ dropped, plugin)
  | .notLocated =>
      let (dropped, plugin) := located.dropControls
      (made ++ dropped, plugin)
  | .installThrows =>
      let (dropped, plugin) := { located with captureControls := some controls }.dropControls
      (built ++ [.integrationFailed] ++ dropped, plugin)
  | .notInstalled =>
      let (dropped, plugin) := { located with captureControls := some controls }.dropControls
      (built ++ dropped, plugin)
  | .installed => (built, { located with captureControls := some controls.install })

def startPluginOwnedRuntime (plugin : PluginMain) (readings : StartReadings) :
    List PluginEvent × PluginMain :=
  if plugin.shutdownRequested ∨ plugin.captureRuntime.isSome then ([], plugin)
  else
    let address := plugin.nextAddress
    let made : List PluginEvent :=
      [.posted (.acquired (.runtime address)),
        .called address (.initializeRuntime readings.discovered readings.rebuild)]
    let (initialized, runtime) :=
      { replayConfiguration := readings.profile : PluginCaptureRuntime }.initializeRuntime
        readings.discovered readings.rebuild
    if !initialized then
      (made ++ [.initializationFailed, .called address .stop,
          .posted (.released (.runtime address))],
        { plugin with nextAddress := address + 1 })
    else
      let (controls, plugin) := { plugin with
        captureRuntime := some (address, runtime), nextAddress := address + 1 }.integrateControls
          address readings.integration
      let (hotkeys, plugin) := plugin.registerPluginHotkeys readings.registers
      (made ++ controls ++ hotkeys ++
          [.controlsReady plugin.captureControls.isSome runtime.replayAvailable], plugin)

structure FrontendReadings where
  start : StartReadings
  profile : ReplayConfiguration
  discovered : List DiscoveredScene
  rebuild : Rebuild

def removeEventCallback (plugin : PluginMain) : List PluginEvent × PluginMain :=
  if plugin.frontendRegistered then
    ([.posted (.released .eventCallback)],
      { plugin with frontendRegistered := false, eventCallbackAdded := false })
  else ([], plugin)

def onFrontendEvent (plugin : PluginMain) (event : FrontendEvent) (readings : FrontendReadings) :
    List PluginEvent × PluginMain :=
  match event with
  | .exit =>
      let (stopped, plugin) := plugin.stopPluginOwnedRuntime "frontend-exit"
      let (removed, plugin) := plugin.removeEventCallback
      (stopped ++ removed, plugin)
  | .profileChanging =>
      let (stopped, plugin) := plugin.stopPluginOwnedRuntime "profile-changing"
      -- a profile is a boundary that the plugin starts again after
      (stopped, { plugin with shutdownRequested := false })
  | .sceneCollectionCleanup =>
      let (stopped, plugin) := plugin.stopPluginOwnedRuntime "scene-collection-cleanup"
      (stopped, { plugin with shutdownRequested := false })
  | .profileChanged =>
      match plugin.captureRuntime with
      | some (address, runtime) =>
          let (result, runtime) :=
            runtime.refreshReplayConfiguration readings.profile readings.rebuild
          ([.called address (.refreshReplayConfiguration readings.profile readings.rebuild),
            .commanded "profile-replay-config-refresh" result],
            { plugin with captureRuntime := some (address, runtime) })
      | none => plugin.startPluginOwnedRuntime readings.start
  | .sceneCollectionChanged =>
      match plugin.captureRuntime with
      | some (address, runtime) =>
          let (result, runtime) :=
            runtime.refreshSceneTopology readings.discovered readings.rebuild
          ([.called address (.refreshSceneTopology readings.discovered readings.rebuild),
            .commanded "scene-topology-refresh" result],
            { plugin with captureRuntime := some (address, runtime) })
      | none => plugin.startPluginOwnedRuntime readings.start
  | .finishedLoading => plugin.startPluginOwnedRuntime readings.start
  | .other => ([], plugin)

def moduleLoad (plugin : PluginMain) : List PluginEvent × PluginMain :=
  ([], { plugin with shutdownRequested := false, moduleStage := .loaded })

def modulePostLoad (plugin : PluginMain) : List PluginEvent × PluginMain :=
  ([.posted (.acquired .eventCallback)],
    { plugin with
      frontendRegistered := true, eventCallbackAdded := true, moduleStage := .postLoaded })

def moduleUnload (plugin : PluginMain) : List PluginEvent × PluginMain :=
  let (stopped, plugin) := plugin.stopPluginOwnedRuntime "module-unload"
  let (removed, plugin) := plugin.removeEventCallback
  (stopped ++ removed, { plugin with moduleStage := .unloaded })

/-- What a click or a tick reads. The topology is refreshed before the configuration, each with a
rebuild of its own. -/
structure ControlsReadings where
  command : PluginCaptureRuntime.CommandReadings
  discovered : List DiscoveredScene
  topologyRebuild : Rebuild
  presentation : CaptureControls.PresentationReadings

section Controls

variable (controls : CaptureControls) (runtime : PluginCaptureRuntime)
  (readings : ControlsReadings)

/-- The calls that a toggle comes down to. -/
def toggleRecordingCalls : List PluginCaptureRuntime.Call :=
  match runtime.recordingState with
  | .off => [.startRecording readings.command.output readings.command.starts]
  | .running => [.stopRecording readings.command.recorded readings.command.rebuild]
  | _ => []

def toggleReplayCalls : List PluginCaptureRuntime.Call :=
  match runtime.replayState with
  | .off => [.startReplay readings.command.profile readings.command.rebuild]
  | .running => [.stopReplay readings.command.rebuild]
  | _ => []

/-- `InvokeRecording`, `InvokeReplayToggle` and `InvokeReplaySave` up to the report: the calls,
the answer and the runtime. -/
def invoke (action : CaptureControls.ControlAction) :
    List PluginCaptureRuntime.Call × ControlCommandResult × PluginCaptureRuntime :=
  match action with
  | .recordingToggle =>
      (toggleRecordingCalls runtime readings, runtime.toggleRecording readings.command)
  | .replayToggle => (toggleReplayCalls runtime readings, runtime.toggleReplay readings.command)
  | .replaySave =>
      ([.saveReplay readings.command.profile readings.command.rebuild readings.command.output
          readings.command.library],
        runtime.saveReplay readings.command.profile readings.command.rebuild
          readings.command.output readings.command.library)

def onClicked (action : CaptureControls.ControlAction) :
    List PluginEvent × CaptureControls × PluginCaptureRuntime :=
  let (calls, result, runtime) := invoke runtime readings action
  (calls.map (.called controls.runtime) ++ [.reported controls.runtime action result],
    controls.report runtime readings.presentation action result, runtime)

/-- The calls that a tick of the timer makes. -/
def timeoutCalls : List PluginCaptureRuntime.Call :=
  [.refreshSceneTopology readings.discovered readings.topologyRebuild,
    .refreshReplayConfiguration readings.command.profile readings.command.rebuild,
    .pollReplaySave]

def onTimeout : List PluginEvent × CaptureControls × PluginCaptureRuntime :=
  let runtime := (runtime.refreshSceneTopology readings.discovered readings.topologyRebuild).2
  let runtime :=
    (runtime.refreshReplayConfiguration readings.command.profile readings.command.rebuild).2
  let runtime := runtime.pollReplaySave.2
  ((timeoutCalls readings).map (.called controls.runtime),
    controls.applyPresentationSafely runtime readings.presentation, runtime)

/-- The single shot of the constructor. -/
def onFirstRefresh : List PluginEvent × CaptureControls × PluginCaptureRuntime :=
  ([], { controls with firstRefreshDue := false }.applyPresentationSafely runtime
    readings.presentation, runtime)

end Controls

/-! ### The plugin as a machine -/

/-- The runtime at an address, while it is there. -/
def runtimeAt (plugin : PluginMain) (address : Nat) : Option PluginCaptureRuntime :=
  (plugin.captureRuntime.filter (fun owned => owned.1 = address)).map Prod.snd

/-- A callback into the runtime at an address. -/
def dispatch (plugin : PluginMain) (address : Nat)
    (callback : PluginCaptureRuntime → List PluginEvent × PluginCaptureRuntime) :
    List PluginEvent × PluginMain :=
  match plugin.runtimeAt address with
  | none => ([.dangled address], plugin)
  | some runtime =>
      let (events, runtime) := callback runtime
      (events, { plugin with captureRuntime := some (address, runtime) })

/-- A handler of the controls, which uses the runtime and, where it says so, the adapter. -/
def dispatchControls (plugin : PluginMain) (usesAdapter : Bool) (controls : CaptureControls)
    (handler : CaptureControls → PluginCaptureRuntime →
      List PluginEvent × CaptureControls × PluginCaptureRuntime) :
    List PluginEvent × PluginMain :=
  if usesAdapter ∧ plugin.controlsAdapter ≠ some controls.controlsAdapter then
    ([.dangled controls.controlsAdapter], plugin)
  else
    match plugin.runtimeAt controls.runtime with
    | none => ([.dangled controls.runtime], plugin)
    | some runtime =>
        let (events, controls, runtime) := handler controls runtime
        (events, { plugin with
          captureControls := some controls
          captureRuntime := some (controls.runtime, runtime) })

/-- What can happen: libobs loads and unloads the module, OBS sends an event or the press of a
hotkey, a button is clicked, a timer is due, and the runtime's own threads bring a packet or
finish a save. -/
inductive Input where
  | moduleLoad
  | modulePostLoad
  | moduleUnload
  | frontend (event : FrontendEvent) (readings : FrontendReadings)
  | hotkey (id : Nat) (starts pressed : Bool) (readings : HotkeyReadings)
  | clicked (action : CaptureControls.ControlAction) (readings : ControlsReadings)
  | timeout (readings : ControlsReadings)
  | firstRefresh (readings : ControlsReadings)
  | ingest (streamId : CaptureStreamId) (packet : EncodedPacket) (codecExtraData : List UInt8)
  | saveFinishes

/-- What is not registered, enabled or due is not delivered. -/
def step (plugin : PluginMain) : Input → List PluginEvent × PluginMain
  | .moduleLoad => if plugin.moduleStage = .found then plugin.moduleLoad else ([], plugin)
  | .modulePostLoad =>
      if plugin.moduleStage = .loaded then plugin.modulePostLoad else ([], plugin)
  | .moduleUnload =>
      if plugin.moduleStage = .loaded ∨ plugin.moduleStage = .postLoaded then plugin.moduleUnload
      else ([], plugin)
  | .frontend event readings =>
      if plugin.eventCallbackAdded then plugin.onFrontendEvent event readings else ([], plugin)
  | .hotkey id starts pressed readings =>
      match plugin.hotkeys.find? (fun hotkey => hotkey.id = id) with
      | none => ([], plugin)
      | some hotkey =>
          plugin.dispatch hotkey.data (fun runtime =>
            onHotkey hotkey.data runtime pressed readings hotkey.kind starts)
  | .clicked action readings =>
      match plugin.captureControls.filter (fun controls => (controls.button action).clickable) with
      | none => ([], plugin)
      | some controls =>
          plugin.dispatchControls false controls (fun controls runtime =>
            onClicked controls runtime readings action)
  | .timeout readings =>
      match plugin.captureControls.filter CaptureControls.timerActive with
      | none => ([], plugin)
      | some controls =>
          plugin.dispatchControls true controls (fun controls runtime =>
            onTimeout controls runtime readings)
  | .firstRefresh readings =>
      match plugin.captureControls.filter CaptureControls.firstRefreshDue with
      | none => ([], plugin)
      | some controls =>
          plugin.dispatchControls false controls (fun controls runtime =>
            onFirstRefresh controls runtime readings)
  | .ingest streamId packet codecExtraData =>
      match plugin.captureRuntime with
      | none => ([], plugin)
      | some (address, runtime) =>
          let runtime := (runtime.ingest streamId packet codecExtraData).2
          ([.called address (.ingest streamId packet codecExtraData)],
            { plugin with captureRuntime := some (address, runtime) })
  | .saveFinishes =>
      match plugin.captureRuntime with
      | none => ([], plugin)
      | some (address, runtime) =>
          ([.called address .saveFinishes],
            { plugin with captureRuntime := some (address, runtime.saveFinishes) })

abbrev Transition := Runs.Transition PluginMain Input (List PluginEvent)

end PluginMain

end ObsSyncReplay
