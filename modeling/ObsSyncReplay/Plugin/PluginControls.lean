import ObsSyncReplay.Plugin.PluginRuns

/-!
What the buttons come to over a whole run. A toggle that is answered with a failure, or that is
refused for the state of its consumer, is latched: presenting the buttons disables it, and only
another answer could lift that. What is offered otherwise follows the runtime.
-/

namespace ObsSyncReplay

/-- The answers for which `Report` takes a toggle to have failed. -/
def ControlCommandResult.latches (result : ControlCommandResult) : Bool :=
  decide (result.status = .failed ∨ result.status = .invalidState)

namespace PluginEvent

/-- The report of a click to the controls of the runtime at an address. -/
def reportOn (address : Nat) :
    PluginEvent → Option (CaptureControls.ControlAction × ControlCommandResult)
  | .reported other action result => if other = address then some (action, result) else none
  | _ => none

def isReport : PluginEvent → Bool
  | .reported _ _ _ => true
  | _ => false

end PluginEvent

namespace PluginMain

def reportsOn (address : Nat) (events : List PluginEvent) :
    List (CaptureControls.ControlAction × ControlCommandResult) :=
  events.filterMap (PluginEvent.reportOn address)

variable {plugin : PluginMain} {address : Nat} {runtime : PluginCaptureRuntime}

theorem reportsOn_append (events events' : List PluginEvent) :
    reportsOn address (events ++ events') =
      reportsOn address events ++ reportsOn address events' :=
  List.filterMap_append

theorem reportsOn_eq_nil {events : List PluginEvent}
    (h : ∀ event ∈ events, event.isReport = false) : reportsOn address events = [] := by
  apply List.filterMap_eq_nil_iff.mpr
  intro event hevent
  have hreport := h event hevent
  cases event <;> first | rfl | cases hreport

/-- Nothing is reported to the controls, which stay what they were, go, or are new. -/
structure Silent (plugin : PluginMain) (handled : List PluginEvent × PluginMain) : Prop where
  events : ∀ event ∈ handled.1, event.isReport = false
  controls : ∀ controls' ∈ handled.2.captureControls,
    (∃ controls ∈ plugin.captureControls, CaptureControls.SameBehind controls controls') ∨
      controls'.runtime = plugin.nextAddress ∧ controls'.recordingFailed = false ∧
        controls'.replayFailed = false

theorem silent_of_same {handled : List PluginEvent × PluginMain}
    (hevents : ∀ event ∈ handled.1, event.isReport = false)
    (hcontrols : handled.2.captureControls = plugin.captureControls) : plugin.Silent handled where
  events := hevents
  controls controls hsome := Or.inl ⟨controls, hcontrols ▸ hsome, rfl, rfl, rfl, rfl⟩

theorem silent_of_none {handled : List PluginEvent × PluginMain}
    (hevents : ∀ event ∈ handled.1, event.isReport = false)
    (hcontrols : handled.2.captureControls = none) : plugin.Silent handled where
  events := hevents
  controls controls hsome := by
    rw [hcontrols] at hsome
    cases hsome

theorem stop_silent (h : plugin.Sound) (boundary : String) :
    plugin.Silent (plugin.stopPluginOwnedRuntime boundary) := by
  rcases h.shape with hhalted | ⟨address, runtime, hoperating⟩
  · rw [stop_of_halted hhalted]
    exact silent_of_same (fun _ hevent => absurd hevent List.not_mem_nil) rfl
  · rw [stop_of_operating hoperating]
    apply silent_of_none _ rfl
    intro event hevent
    rcases List.mem_append.mp hevent with hposted | hlast
    · obtain ⟨entry, -, rfl⟩ := List.mem_map.mp hposted
      rfl
    · fin_cases hlast <;> rfl

theorem posted_silent (entries : List (Ledger.Entry PluginResource)) :
    ∀ event ∈ entries.map PluginEvent.posted, event.isReport = false := by
  intro event hevent
  obtain ⟨entry, -, rfl⟩ := List.mem_map.mp hevent
  rfl

/-- Controls that are new are those of the runtime at the address. -/
theorem integrateControls_silent (integration : UiIntegration) :
    (∀ event ∈ (plugin.integrateControls address integration).1, event.isReport = false) ∧
      ∀ controls ∈ (plugin.integrateControls address integration).2.captureControls,
        controls ∈ plugin.captureControls ∨ controls.runtime = address ∧
          controls.recordingFailed = false ∧ controls.replayFailed = false := by
  unfold integrateControls
  simp only [dropControls_eq]
  cases integration with
  | adapterThrows => exact ⟨by simp [PluginEvent.isReport], fun _ hcontrols => Or.inl hcontrols⟩
  | installed =>
      refine ⟨by simp [PluginEvent.isReport], ?_⟩
      intro controls hcontrols
      obtain rfl := Option.some.inj hcontrols
      exact Or.inr ⟨rfl, rfl, rfl⟩
  | locateThrows | controlsThrow | notLocated | installThrows | notInstalled =>
      refine ⟨?_, fun controls hcontrols => absurd hcontrols (Option.not_mem_none controls)⟩
      simp only [List.forall_mem_append]
      refine ⟨?_, posted_silent _⟩
      simp [PluginEvent.isReport]

theorem start_silent (h : plugin.Sound) (readings : StartReadings) :
    plugin.Silent (plugin.startPluginOwnedRuntime readings) := by
  unfold startPluginOwnedRuntime
  split_ifs with hidle
  · exact silent_of_same (fun _ hevent => absurd hevent List.not_mem_nil) rfl
  · rw [not_or, Bool.not_eq_true, Bool.not_eq_true, Option.isSome_eq_false_iff,
      Option.isNone_iff_eq_none] at hidle
    have hhalted := h.halted hidle.2
    dsimp only
    rcases PluginCaptureRuntime.initializeRuntime
      { replayConfiguration := readings.profile } readings.discovered readings.rebuild with
      ⟨_ | _, runtime⟩
    · exact silent_of_same (by simp [PluginEvent.isReport]) rfl
    · obtain ⟨hevents, hcontrols⟩ := @integrateControls_silent { plugin with
        captureRuntime := some (plugin.nextAddress, runtime)
        nextAddress := plugin.nextAddress + 1 } plugin.nextAddress readings.integration
      obtain ⟨controls, controlsAdapter, captureControls, nextAddress, hintegrated, -⟩ :=
        @integrateControls_integrates { plugin with
          captureRuntime := some (plugin.nextAddress, runtime)
          nextAddress := plugin.nextAddress + 1 } plugin.nextAddress hhalted.controlsAdapter
          hhalted.captureControls readings.integration
      obtain ⟨recordingHotkeys, replayHotkeys, saveReplayHotkey, nextHotkey, hregisters, -⟩ :=
        @registerPluginHotkeys_registers { plugin with
          captureRuntime := some (plugin.nextAddress, runtime), controlsAdapter := controlsAdapter
          captureControls := captureControls, nextAddress := nextAddress } plugin.nextAddress
          runtime rfl hhalted.hotkeys readings.registers
      rw [hintegrated] at hevents hcontrols
      rw [if_neg (by simp), hintegrated]
      dsimp only
      rw [hregisters]
      constructor
      · simp only [List.forall_mem_append, List.forall_mem_singleton]
        exact ⟨⟨⟨by simp [PluginEvent.isReport], hevents⟩, posted_silent _⟩, rfl⟩
      · intro controls' hsome
        rcases hcontrols controls' hsome with hold | hnew
        · exact Or.inl ⟨controls', hold, rfl, rfl, rfl, rfl⟩
        · exact Or.inr hnew

theorem dispatch_silent {callback : PluginCaptureRuntime → List PluginEvent × PluginCaptureRuntime}
    (hevents : ∀ runtime, ∀ event ∈ (callback runtime).1, event.isReport = false) :
    plugin.Silent (plugin.dispatch address callback) := by
  unfold dispatch
  split
  · exact silent_of_same (by simp [PluginEvent.isReport]) rfl
  · rename_i runtime _
    exact silent_of_same (hevents runtime) rfl

theorem onHotkey_silent (pressed starts : Bool) (readings : HotkeyReadings) (kind : HotkeyKind) :
    ∀ event ∈ (onHotkey address runtime pressed readings kind starts).1,
      event.isReport = false := by
  unfold onHotkey onStartRecordingHotkey onStopRecordingHotkey onStartReplayHotkey
    onStopReplayHotkey onSaveReplayHotkey
  dsimp only
  split <;> split_ifs <;> simp [PluginEvent.isReport]

theorem removeEventCallback_silent :
    (∀ event ∈ plugin.removeEventCallback.1, event.isReport = false) ∧
      plugin.removeEventCallback.2.captureControls = plugin.captureControls := by
  unfold removeEventCallback
  split_ifs
  · exact ⟨by simp [PluginEvent.isReport], rfl⟩
  · exact ⟨fun _ hevent => absurd hevent List.not_mem_nil, rfl⟩

/-- What follows on without a report and leaves the controls. -/
theorem Silent.andThen {handled : List PluginEvent × PluginMain} {events : List PluginEvent}
    {plugin' : PluginMain} (h : plugin.Silent handled)
    (hevents : ∀ event ∈ events, event.isReport = false)
    (hcontrols : plugin'.captureControls = handled.2.captureControls) :
    plugin.Silent (handled.1 ++ events, plugin') where
  events := List.forall_mem_append.mpr ⟨h.events, hevents⟩
  controls controls' hsome := h.controls controls' (hcontrols ▸ hsome)

theorem frontend_silent (h : plugin.Sound) (event : FrontendEvent) (readings : FrontendReadings) :
    plugin.Silent (plugin.onFrontendEvent event readings) := by
  cases event with
  | exit =>
      exact (stop_silent h "frontend-exit").andThen removeEventCallback_silent.1
        removeEventCallback_silent.2
  | profileChanging =>
      exact ⟨(stop_silent h "profile-changing").events, (stop_silent h "profile-changing").controls⟩
  | sceneCollectionCleanup =>
      exact ⟨(stop_silent h "scene-collection-cleanup").events,
        (stop_silent h "scene-collection-cleanup").controls⟩
  | profileChanged =>
      unfold onFrontendEvent
      dsimp only
      split
      · exact silent_of_same (by simp [PluginEvent.isReport]) rfl
      · exact start_silent h readings.start
  | sceneCollectionChanged =>
      unfold onFrontendEvent
      dsimp only
      split
      · exact silent_of_same (by simp [PluginEvent.isReport]) rfl
      · exact start_silent h readings.start
  | finishedLoading => exact start_silent h readings.start
  | other => exact silent_of_same (fun _ hevent => absurd hevent List.not_mem_nil) rfl

theorem controls_silent (h : plugin.Sound) {controls : CaptureControls}
    (hcontrols : plugin.captureControls = some controls) (usesAdapter : Bool)
    {handler : CaptureControls → PluginCaptureRuntime →
      List PluginEvent × CaptureControls × PluginCaptureRuntime}
    (hevents : ∀ runtime, ∀ event ∈ (handler controls runtime).1, event.isReport = false)
    (hbehind : ∀ runtime, CaptureControls.SameBehind controls (handler controls runtime).2.1) :
    plugin.Silent (plugin.dispatchControls usesAdapter controls handler) := by
  obtain ⟨runtime, hoperating, hadapter, -⟩ := h.controls_operating hcontrols
  rw [hoperating.dispatchControls_eq hadapter usesAdapter (hbehind runtime).runtime]
  refine ⟨hevents runtime, ?_⟩
  intro controls' hsome
  obtain rfl := Option.some.inj hsome
  exact Or.inl ⟨controls, hcontrols, hbehind runtime⟩

theorem step_silent (h : plugin.Sound) {input : Input}
    (hinput : ∀ action readings, input ≠ .clicked action readings) :
    plugin.Silent (plugin.step input) := by
  have hidle : plugin.Silent ([], plugin) :=
    silent_of_same (fun _ hevent => absurd hevent List.not_mem_nil) rfl
  cases input with
  | moduleLoad =>
      unfold step
      dsimp only
      split_ifs
      · exact silent_of_same (fun _ hevent => absurd hevent List.not_mem_nil) rfl
      · exact hidle
  | modulePostLoad =>
      unfold step
      dsimp only
      split_ifs
      · exact silent_of_same (by simp [modulePostLoad, PluginEvent.isReport]) rfl
      · exact hidle
  | moduleUnload =>
      unfold step
      dsimp only
      split_ifs
      · exact (stop_silent h "module-unload").andThen removeEventCallback_silent.1
          removeEventCallback_silent.2
      · exact hidle
  | frontend event readings =>
      unfold step
      dsimp only
      split_ifs
      · exact frontend_silent h event readings
      · exact hidle
  | hotkey id starts pressed readings =>
      unfold step
      dsimp only
      split
      · exact hidle
      · rename_i hotkey _
        exact dispatch_silent (fun _ => onHotkey_silent pressed starts readings hotkey.kind)
  | clicked action readings => exact absurd rfl (hinput action readings)
  | timeout readings =>
      unfold step
      dsimp only
      split
      · exact hidle
      · rename_i controls hfiltered
        obtain ⟨hcontrols, -⟩ := Option.filter_eq_some_iff.mp hfiltered
        exact controls_silent h hcontrols true
          (fun _ => by simp [onTimeout, timeoutCalls, PluginEvent.isReport])
          (fun _ => onTimeout_behind readings)
  | firstRefresh readings =>
      unfold step
      dsimp only
      split
      · exact hidle
      · rename_i controls hfiltered
        obtain ⟨hcontrols, -⟩ := Option.filter_eq_some_iff.mp hfiltered
        exact controls_silent h hcontrols false (fun _ => by simp [onFirstRefresh])
          (fun _ => onFirstRefresh_behind readings)
  | ingest streamId packet codecExtraData =>
      unfold step
      dsimp only
      split
      · exact hidle
      · exact silent_of_same (by simp [PluginEvent.isReport]) rfl
  | saveFinishes =>
      unfold step
      dsimp only
      split
      · exact hidle
      · exact silent_of_same (by simp [PluginEvent.isReport]) rfl

theorem latches_report {controls : CaptureControls}
    (readings : CaptureControls.PresentationReadings) (result : ControlCommandResult) :
    (controls.report runtime readings .recordingToggle result).recordingFailed = result.latches ∧
      (controls.report runtime readings .recordingToggle result).replayFailed =
        controls.replayFailed ∧
      (controls.report runtime readings .replayToggle result).replayFailed = result.latches ∧
      (controls.report runtime readings .replayToggle result).recordingFailed =
        controls.recordingFailed ∧
      CaptureControls.SameBehind controls
        (controls.report runtime readings .replaySave result) := by
  have hbehind (controls : CaptureControls) :=
    @CaptureControls.applyPresentationSafely_behind controls runtime readings
  exact ⟨(hbehind _).recordingFailed, (hbehind _).replayFailed, (hbehind _).replayFailed,
    (hbehind _).recordingFailed, hbehind _⟩

/-- A click that is delivered is reported once, to controls whose button has not been latched. -/
theorem clicked_cases (h : plugin.Sound) (action : CaptureControls.ControlAction)
    (readings : ControlsReadings) :
    plugin.step (.clicked action readings) = ([], plugin) ∨
      ∃ controls runtime, plugin.captureControls = some controls ∧
        plugin.Operating controls.runtime runtime ∧ controls.Latched ∧
        (controls.button action).clickable = true ∧
        plugin.step (.clicked action readings) =
          ((onClicked controls runtime readings action).1, { plugin with
            captureControls := some (onClicked controls runtime readings action).2.1
            captureRuntime := some (controls.runtime,
              (onClicked controls runtime readings action).2.2) }) := by
  unfold step
  dsimp only
  split
  · exact Or.inl rfl
  · rename_i controls hfiltered
    obtain ⟨hcontrols, hclickable⟩ := Option.filter_eq_some_iff.mp hfiltered
    obtain ⟨runtime, hoperating, hadapter, hlatched⟩ := h.controls_operating hcontrols
    exact Or.inr ⟨controls, runtime, hcontrols, hoperating, hlatched, hclickable,
      hoperating.dispatchControls_eq hadapter false (report_same _ action _).1⟩

theorem reportsOn_onClicked {controls : CaptureControls} (readings : ControlsReadings)
    (action : CaptureControls.ControlAction) (other : Nat) :
    reportsOn other (onClicked controls runtime readings action).1 =
      if other = controls.runtime then [(action, (invoke runtime readings action).2.1)]
      else [] := by
  have hcalls : reportsOn other ((invoke runtime readings action).1.map
      (.called controls.runtime)) = [] := by
    apply reportsOn_eq_nil
    intro event hevent
    obtain ⟨call, -, rfl⟩ := List.mem_map.mp hevent
    rfl
  unfold onClicked
  dsimp only
  rw [reportsOn_append, hcalls, List.nil_append]
  split_ifs with hother
  · subst hother
    simp [reportsOn, PluginEvent.reportOn]
  · simp [reportsOn, PluginEvent.reportOn, Ne.symm hother]

abbrev Report := CaptureControls.ControlAction × ControlCommandResult

/-- A report that latches its toggle leaves no click of it to come, and one that latches the
replay no save either. -/
def LeavesRoom (earlier later : Report) : Prop :=
  earlier.2.latches = true →
    (earlier.1 = .recordingToggle → later.1 ≠ .recordingToggle) ∧
      (earlier.1 = .replayToggle → later.1 = .recordingToggle)

def HasLatched (action : CaptureControls.ControlAction) (reports : List Report) : Prop :=
  ∃ report ∈ reports, report.1 = action ∧ report.2.latches = true

/-- The controls know which of their toggles have been latched. -/
structure Recalls (controls : CaptureControls) (reports : List Report) : Prop where
  recording : controls.recordingFailed = true ↔ HasLatched .recordingToggle reports
  replay : controls.replayFailed = true ↔ HasLatched .replayToggle reports

theorem hasLatched_append {action : CaptureControls.ControlAction} {reports : List Report}
    (report : Report) : HasLatched action (reports ++ [report]) ↔
      HasLatched action reports ∨ report.1 = action ∧ report.2.latches = true := by
  simp [HasLatched, or_and_right, exists_or]

theorem Recalls.behind {controls controls' : CaptureControls} {reports : List Report}
    (h : Recalls controls reports) (hbehind : CaptureControls.SameBehind controls controls') :
    Recalls controls' reports := by
  constructor
  · rw [hbehind.recordingFailed]
    exact h.recording
  · rw [hbehind.replayFailed]
    exact h.replay

/-- An enabled button has not been latched. -/
theorem Recalls.unlatched {controls : CaptureControls} {reports : List Report}
    (h : Recalls controls reports) (hlatched : controls.Latched)
    {action : CaptureControls.ControlAction}
    (hclickable : (controls.button action).clickable = true) :
    (action = .recordingToggle → ¬HasLatched .recordingToggle reports) ∧
      (action ≠ .recordingToggle → ¬HasLatched .replayToggle reports) := by
  rw [Button.clickable, Bool.and_eq_true] at hclickable
  constructor
  · rintro rfl hrecording
    have hdisabled := hlatched.recording (h.recording.mpr hrecording)
    exact absurd (hdisabled.symm.trans hclickable.2) Bool.false_ne_true
  · intro haction hreplay
    obtain ⟨hreplayButton, hsaveButton⟩ := hlatched.replay (h.replay.mpr hreplay)
    cases action with
    | recordingToggle => exact haction rfl
    | replayToggle => exact absurd (hreplayButton.symm.trans hclickable.2) Bool.false_ne_true
    | replaySave => exact absurd (hsaveButton.symm.trans hclickable.2) Bool.false_ne_true

theorem Recalls.leavesRoom {controls : CaptureControls} {reports : List Report}
    (h : Recalls controls reports) (hlatched : controls.Latched)
    {action : CaptureControls.ControlAction}
    (hclickable : (controls.button action).clickable = true) (result : ControlCommandResult) :
    ∀ earlier ∈ reports, LeavesRoom earlier (action, result) := by
  intro earlier hearlier hlatches
  obtain ⟨hrecording, hreplay⟩ := h.unlatched hlatched hclickable
  refine ⟨fun haction hagain => hrecording hagain ⟨earlier, hearlier, haction, hlatches⟩, ?_⟩
  intro haction
  by_contra hother
  exact hreplay hother ⟨earlier, hearlier, haction, hlatches⟩

theorem Recalls.report {controls : CaptureControls} {reports : List Report}
    (h : Recalls controls reports) (hlatched : controls.Latched)
    {action : CaptureControls.ControlAction}
    (hclickable : (controls.button action).clickable = true)
    (readings : CaptureControls.PresentationReadings) (result : ControlCommandResult) :
    Recalls (controls.report runtime readings action result) (reports ++ [(action, result)]) := by
  obtain ⟨hrecording, hreplay⟩ := h.unlatched hlatched hclickable
  obtain ⟨hlatches, hkept, hlatches', hkept', hbehind⟩ :=
    @latches_report runtime controls readings result
  constructor
  · rw [hasLatched_append]
    cases action with
    | recordingToggle => simp [hlatches, hrecording rfl]
    | replayToggle => simp [hkept', h.recording]
    | replaySave => simp [hbehind.recordingFailed, h.recording]
  · rw [hasLatched_append]
    cases action with
    | recordingToggle => simp [hkept, h.replay]
    | replayToggle => simp [hlatches', hreplay (by simp)]
    | replaySave => simp [hbehind.replayFailed, h.replay]

/-- What the reports of a whole run have come to. -/
structure Remembered (plugin : PluginMain) (events : List PluginEvent) : Prop where
  reports : ∀ address, (reportsOn address events).Pairwise LeavesRoom
  controls : ∀ controls ∈ plugin.captureControls,
    Recalls controls (reportsOn controls.runtime events)
  fresh : ∀ address, plugin.nextAddress ≤ address → reportsOn address events = []

variable {past : List Transition}

theorem Remembered.silent {events : List PluginEvent} (h : plugin.Remembered events)
    {handled : List PluginEvent × PluginMain} (hsilent : plugin.Silent handled)
    (haddresses : plugin.nextAddress ≤ handled.2.nextAddress) :
    handled.2.Remembered (events ++ handled.1) := by
  have hnone (address : Nat) :
      reportsOn address (events ++ handled.1) = reportsOn address events := by
    rw [reportsOn_append, reportsOn_eq_nil hsilent.events, List.append_nil]
  constructor
  · intro address
    rw [hnone]
    exact h.reports address
  · intro controls' hsome
    rw [hnone]
    rcases hsilent.controls controls' hsome with
      ⟨controls, hcontrols, hbehind⟩ | ⟨hruntime, hrecording, hreplay⟩
    · rw [hbehind.runtime]
      exact (h.controls controls hcontrols).behind hbehind
    · rw [hruntime, h.fresh plugin.nextAddress (Nat.le_refl _)]
      exact ⟨by simp [hrecording, HasLatched], by simp [hreplay, HasLatched]⟩
  · intro address hle
    rw [hnone]
    exact h.fresh address (haddresses.trans hle)

theorem Remembered.clicked {events : List PluginEvent} (h : plugin.Remembered events)
    {controls : CaptureControls} (hcontrols : plugin.captureControls = some controls)
    (hoperating : plugin.Operating controls.runtime runtime) (hlatched : controls.Latched)
    {action : CaptureControls.ControlAction}
    (hclickable : (controls.button action).clickable = true) (readings : ControlsReadings) :
    Remembered { plugin with
      captureControls := some (onClicked controls runtime readings action).2.1
      captureRuntime := some (controls.runtime, (onClicked controls runtime readings action).2.2) }
      (events ++ (onClicked controls runtime readings action).1) := by
  have hrecalls := h.controls controls hcontrols
  constructor
  · intro address
    rw [reportsOn_append, reportsOn_onClicked]
    split_ifs with haddress
    · rw [List.pairwise_append]
      refine ⟨h.reports address, List.pairwise_singleton _ _, ?_⟩
      subst haddress
      intro earlier hearlier later hlater
      obtain rfl := List.mem_singleton.mp hlater
      exact hrecalls.leavesRoom hlatched hclickable _ earlier hearlier
    · rw [List.append_nil]
      exact h.reports address
  · intro controls' hsome
    obtain rfl := Option.some.inj hsome
    have hsame : (onClicked controls runtime readings action).2.1.runtime = controls.runtime :=
      (report_same _ action _).1
    rw [hsame, reportsOn_append, reportsOn_onClicked, if_pos rfl]
    exact hrecalls.report hlatched hclickable _ _
  · intro address hle
    have hother : address ≠ controls.runtime := Nat.ne_of_gt (hoperating.fresh.trans_le hle)
    rw [reportsOn_append, reportsOn_onClicked, if_neg hother, List.append_nil]
    exact h.fresh address hle

theorem remembered_run (hrun : Runs.Run step {} past plugin) :
    plugin.Remembered (eventsOf past) := by
  apply hrun.invariant (P := fun past plugin => plugin.Remembered (eventsOf past))
  · exact ⟨fun _ => .nil, fun _ hnone => absurd hnone (Option.not_mem_none _), fun _ _ => rfl⟩
  · intro past plugin input hrun h
    have hsound := sound_run hrun
    have haddresses := (hsound.step_keeps input).addresses
    rw [eventsOf_next]
    by_cases hclick : ∃ action readings, input = .clicked action readings
    · obtain ⟨action, readings, rfl⟩ := hclick
      rcases clicked_cases hsound action readings with
        hidle | ⟨controls, runtime, hcontrols, hoperating, hlatched, hclickable, hclicked⟩
      · rw [hidle, List.append_nil]
        exact h
      · rw [hclicked]
        exact h.clicked hcontrols hoperating hlatched hclickable readings
    · push Not at hclick
      exact h.silent (step_silent hsound hclick) haddresses

/-- In every run the first failure or refusal of a toggle is the last answer to it that the
controls of its runtime ever get: the button is disabled from then on, whatever happens to the
runtime, and with the toggle of the replay the button of the save. -/
theorem latched_for_good (hrun : Runs.Run step {} past plugin) :
    (∀ address, (reportsOn address (eventsOf past)).Pairwise LeavesRoom) ∧
      ∀ controls ∈ plugin.captureControls,
        (HasLatched .recordingToggle (reportsOn controls.runtime (eventsOf past)) →
          (controls.button .recordingToggle).enabled = false) ∧
        (HasLatched .replayToggle (reportsOn controls.runtime (eventsOf past)) →
          (controls.button .replayToggle).enabled = false ∧
            (controls.button .replaySave).enabled = false) := by
  have hremembered := remembered_run hrun
  refine ⟨hremembered.reports, fun controls hcontrols => ?_⟩
  obtain ⟨runtime, -, -, hlatched⟩ := (sound_run hrun).controls_operating hcontrols
  have hrecalls := hremembered.controls controls hcontrols
  exact ⟨fun hrecording => hlatched.recording (hrecalls.recording.mpr hrecording),
    fun hreplay => hlatched.replay (hrecalls.replay.mpr hreplay)⟩

/-- The replay is saved by its hotkey, and its button, which still offers to stop it, is clicked
before the save is finished. -/
def clickedDuringSave : List Input :=
  session [.firstRefresh clickedDuringSave.readings, .hotkey 1 true true clickedDuringSave.hotkey,
    .timeout clickedDuringSave.readings, clickedDuringSave.deliver 0, clickedDuringSave.deliver 1,
    .hotkey 2 true true clickedDuringSave.hotkey, .clicked .replayToggle clickedDuringSave.readings,
    .saveFinishes, .timeout clickedDuringSave.readings]
where
  command : PluginCaptureRuntime.CommandReadings :=
    ⟨PluginCaptureRuntime.replayProfile, {}, ⟨some "output", 0⟩, true, none,
      fun _ => CaptureControlEngine.obligingLibrary⟩
  readings : ControlsReadings := ⟨command, [], {}, {}, none⟩
  hotkey : HotkeyReadings := ⟨PluginCaptureRuntime.replayProfile, {}, command⟩
  deliver (second : Fin 256) : Input :=
    .ingest 0 (CaptureControlEngine.keyframeAt second) [1]

/-- The replay goes on, and its buttons are dead. -/
theorem latched_for_good_sample :
    (reportsOn 0 (eventsOf (Runs.history step {} clickedDuringSave))).map
        (fun report => (report.1, report.2.status)) = [(.replayToggle, .invalidState)] ∧
      (Runs.exec step {} clickedDuringSave).captureRuntime.map
        (fun owned => owned.2.replayState) = some .running ∧
      ∀ controls ∈ (Runs.exec step {} clickedDuringSave).captureControls, controls.runtime = 0 →
        (controls.button .replayToggle).enabled = false := by
  have hlatched := latched_for_good (Runs.run_exec ({} : PluginMain) clickedDuringSave)
  have hstatuses : (reportsOn 0 (eventsOf (Runs.history step {} clickedDuringSave))).map
      (fun report => (report.1, report.2.status)) = [(.replayToggle, .invalidState)] := by decide
  refine ⟨hstatuses, by decide, ?_⟩
  intro controls hcontrols hruntime
  have hcontrolsLatched := (hlatched.2 controls hcontrols).2
  rw [hruntime] at hcontrolsLatched
  obtain ⟨report, hreport, hshown⟩ := List.mem_map.mp
    (hstatuses ▸ List.mem_singleton_self (CaptureControls.ControlAction.replayToggle,
      ControlCommandStatus.invalidState))
  obtain ⟨haction, hstatus⟩ := Prod.mk.inj hshown
  refine (hcontrolsLatched ⟨report, hreport, haction, ?_⟩).1
  simp [ControlCommandResult.latches, hstatus]

/-- What the three buttons show of a runtime. A consumer that is starting or stopping, or a capture
that has failed, is never shown. -/
structure Offers (controls : CaptureControls) (runtime : PluginCaptureRuntime)
    (labels : CaptureControlsLabels) : Prop where
  recording : (controls.button .recordingToggle).clickable = !controls.recordingFailed
  recordingText : (controls.button .recordingToggle).text =
    if controls.recordingFailed then labels.recordingUnavailable
    else if runtime.recordingState = .off then labels.startRecording else labels.stopRecording
  replay : (controls.button .replayToggle).clickable = true ↔
    runtime.replayAvailable = true ∧ controls.replayFailed = false ∧ runtime.replayState ≠ .saving
  replayText : (controls.button .replayToggle).text =
    if !runtime.replayAvailable ∨ controls.replayFailed then labels.replayBufferUnavailable
    else if runtime.replayState = .off then labels.startReplayBuffer else labels.stopReplayBuffer
  saveReplay : (controls.button .replaySave).clickable = true ↔
    runtime.replayAvailable = true ∧ controls.replayFailed = false ∧ runtime.replayState = .running

theorem recordingPresentation_of_serving (hserving : runtime.Serving) (failed : Bool)
    (labels : CaptureControlsLabels) :
    recordingPresentation runtime.captureState runtime.recordingState failed labels =
      if failed then { state := .failed, text := labels.recordingUnavailable, enabled := false }
      else if runtime.recordingState = .off then
        { state := .inactive, text := labels.startRecording, enabled := true }
      else { state := .active, text := labels.stopRecording, enabled := true } := by
  unfold recordingPresentation
  have hintact := hserving.intact
  rcases hserving.recording with hstate | hstate <;> cases failed <;> simp [hstate, hintact]

theorem replayPresentation_of_serving (hserving : runtime.Serving) (available failed : Bool)
    (labels : CaptureControlsLabels) :
    replayPresentation runtime.captureState runtime.replayState available failed labels =
      if !available then
        ({ state := .inactive, text := labels.replayBufferUnavailable, enabled := false
           visible := false }, false, false)
      else if failed then
        ({ state := .failed, text := labels.replayBufferUnavailable, enabled := false },
          false, false)
      else if runtime.replayState = .off then
        ({ state := .inactive, text := labels.startReplayBuffer, enabled := true }, false, false)
      else if runtime.replayState = .running then
        ({ state := .active, text := labels.stopReplayBuffer, enabled := true }, true, true)
      else
        ({ state := .saving, text := labels.stopReplayBuffer, enabled := false }, true, false) := by
  unfold replayPresentation
  have hintact := hserving.intact
  rcases hserving.replay with hstate | hstate | hstate <;> cases failed <;> simp [hstate, hintact]

theorem offers_of_serving {controls : CaptureControls} (hserving : runtime.Serving)
    (hdisabled : controls.disabled = false) (labels : CaptureControlsLabels) :
    Offers (controls.applyPresentationSafely runtime ⟨labels, none⟩) runtime labels := by
  obtain ⟨hshows, -⟩ :=
    @CaptureControls.applyPresentationSafely_shows controls runtime hdisabled labels
  have hbehind := @CaptureControls.applyPresentationSafely_behind controls runtime ⟨labels, none⟩
  generalize controls.applyPresentationSafely runtime ⟨labels, none⟩ = shown at hshows hbehind ⊢
  have hpresentation : controls.presentation runtime labels = shown.presentation runtime labels := by
    unfold CaptureControls.presentation
    rw [hbehind.recordingFailed, hbehind.replayFailed]
  rw [hpresentation] at hshows
  unfold CaptureControls.presentation makeCaptureControlsPresentation at hshows
  have hrecording := recordingPresentation_of_serving hserving shown.recordingFailed labels
  constructor
  · rw [CaptureControls.button, hshows.recording, hrecording]
    cases shown.recordingFailed
    · by_cases hoff : runtime.recordingState = .off <;>
        simp [CaptureControls.shown, Button.clickable, hoff]
    · simp [CaptureControls.shown, Button.clickable]
  · rw [CaptureControls.button, hshows.recording, hrecording]
    cases shown.recordingFailed
    · by_cases hoff : runtime.recordingState = .off <;> simp [CaptureControls.shown, hoff]
    · simp [CaptureControls.shown]
  all_goals
    have hreplay := replayPresentation_of_serving hserving runtime.replayAvailable
      shown.replayFailed labels
    rw [hreplay] at hshows
  · rw [CaptureControls.button, hshows.replay]
    cases runtime.replayAvailable <;> cases shown.replayFailed <;>
      rcases hserving.replay with hstate | hstate | hstate <;>
      simp [CaptureControls.shown, Button.clickable, hstate]
  · rw [CaptureControls.button, hshows.replay]
    cases runtime.replayAvailable <;> cases shown.replayFailed <;>
      rcases hserving.replay with hstate | hstate | hstate <;>
      simp [CaptureControls.shown, hstate]
  · rw [CaptureControls.button, hshows.saveReplay]
    cases runtime.replayAvailable <;> cases shown.replayFailed <;>
      rcases hserving.replay with hstate | hstate | hstate <;>
      simp [CaptureControls.shownSave, Button.clickable, hstate]

/-- The handler of an input at the controls, where the input is delivered. -/
def presented (controls : CaptureControls) : Input → Option ControlsReadings
  | .clicked action readings =>
      if (controls.button action).clickable then some readings else none
  | .timeout readings => if controls.timerActive then some readings else none
  | .firstRefresh readings => if controls.firstRefreshDue then some readings else none
  | _ => none

theorem report_presents {controls : CaptureControls}
    (readings : CaptureControls.PresentationReadings) (action : CaptureControls.ControlAction)
    (result : ControlCommandResult) :
    ∃ controls' : CaptureControls,
      controls.report runtime readings action result =
        controls'.applyPresentationSafely runtime readings ∧
      controls'.disabled = controls.disabled := by
  unfold CaptureControls.report
  cases action <;> exact ⟨_, rfl, rfl⟩

/-- The controls after a click, a tick or the first refresh show the runtime that it leaves. -/
theorem presented_cases (h : plugin.Sound) {controls : CaptureControls}
    (hcontrols : plugin.captureControls = some controls) (hdisabled : controls.disabled = false)
    {input : Input} {readings : ControlsReadings}
    (hpresented : presented controls input = some readings) :
    ∃ (controls' : CaptureControls) (runtime' : PluginCaptureRuntime),
      controls'.disabled = false ∧ (plugin.step input).2.captureControls =
        some (controls'.applyPresentationSafely runtime' readings.presentation) ∧
      (plugin.step input).2.captureRuntime = some (controls.runtime, runtime') := by
  obtain ⟨runtime, hoperating, hadapter, -⟩ := h.controls_operating hcontrols
  cases input with
  | clicked action readings' =>
      unfold presented at hpresented
      dsimp only at hpresented
      split_ifs at hpresented with hclickable
      obtain rfl := Option.some.inj hpresented
      have hfilter : plugin.captureControls.filter
          (fun controls => (controls.button action).clickable) = some controls :=
        Option.filter_eq_some_iff.mpr ⟨hcontrols, hclickable⟩
      unfold step
      dsimp only
      rw [hfilter]
      dsimp only
      rw [hoperating.dispatchControls_eq hadapter false (report_same _ action _).1]
      obtain ⟨controls', hreport, hdisabled'⟩ := @report_presents
        (invoke runtime readings' action).2.2 controls readings'.presentation action
        (invoke runtime readings' action).2.1
      exact ⟨controls', _, hdisabled'.trans hdisabled, congrArg some hreport, rfl⟩
  | timeout readings' =>
      unfold presented at hpresented
      dsimp only at hpresented
      split_ifs at hpresented with hactive
      obtain rfl := Option.some.inj hpresented
      unfold step
      dsimp only
      rw [hcontrols, Option.filter_some_pos hactive]
      dsimp only
      rw [hoperating.dispatchControls_eq hadapter true (onTimeout_behind readings').runtime]
      exact ⟨_, _, hdisabled, rfl, rfl⟩
  | firstRefresh readings' =>
      unfold presented at hpresented
      dsimp only at hpresented
      split_ifs at hpresented with hdue
      obtain rfl := Option.some.inj hpresented
      unfold step
      dsimp only
      rw [hcontrols, Option.filter_some_pos hdue]
      dsimp only
      rw [hoperating.dispatchControls_eq hadapter false (onFirstRefresh_behind readings').runtime]
      exact ⟨{ controls with firstRefreshDue := false }, _, hdisabled, rfl, rfl⟩
  | _ => cases hpresented

/-- In every run, whatever has happened behind the controls: once they have been presented, at a
click, a tick of the timer or the first time, they offer exactly what the runtime is ready for. -/
theorem buttons_offer (hrun : Runs.Run step {} past plugin) {controls : CaptureControls}
    (hcontrols : plugin.captureControls = some controls) (hdisabled : controls.disabled = false)
    {input : Input} {readings : ControlsReadings}
    (hpresented : presented controls input = some readings)
    (hthrows : readings.presentation.throwsAfter = none) :
    ∃ controls' runtime', (plugin.step input).2.captureControls = some controls' ∧
      (plugin.step input).2.captureRuntime = some (controls.runtime, runtime') ∧
      Offers controls' runtime' readings.presentation.labels := by
  have hsound := sound_run hrun
  obtain ⟨controls', runtime', hdisabled', hshown, hruntime⟩ :=
    presented_cases hsound hcontrols hdisabled hpresented
  have hserving := ((hsound.step_keeps input).sound.operating hruntime).serving
  have hoffers := offers_of_serving hserving hdisabled' readings.presentation.labels
  rw [← hthrows] at hoffers
  exact ⟨_, runtime', hshown, hruntime, hoffers⟩

/-- At the first refresh the toggle of the replay is offered, and no save. -/
theorem buttons_offer_sample :
    ∃ (controls' : CaptureControls) (runtime' : PluginCaptureRuntime),
      (Runs.exec step {} (session [.firstRefresh clickedDuringSave.readings])).captureControls =
        some controls' ∧ Offers controls' runtime' {} ∧ runtime'.replayState = .off := by
  have hruntime : (Runs.exec step {} (session [.firstRefresh
      clickedDuringSave.readings])).captureRuntime.map (fun owned => owned.2.replayState) =
        some .off := by decide
  obtain ⟨controls', runtime', hcontrols', hruntime', hoffers⟩ :=
    buttons_offer (Runs.run_exec ({} : PluginMain) (session []))
      (@rfl _ (some (CaptureControls.install { runtime := 0, controlsAdapter := 1 }))) rfl
      (@rfl _ (presented (CaptureControls.install { runtime := 0, controlsAdapter := 1 })
        (.firstRefresh clickedDuringSave.readings))) rfl
  refine ⟨controls', runtime', hcontrols', hoffers, ?_⟩
  have hstate := congrArg (Option.map (fun owned => owned.2.replayState)) hruntime'
  exact Option.some.inj (hstate.symm.trans hruntime)

end PluginMain

end ObsSyncReplay
