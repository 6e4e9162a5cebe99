import ObsSyncReplay.Plugin.PluginLifecycle

/-!
Whole runs of the plugin, in any order of what can happen: what OBS calls is there, what is taken
is given back in the order in which it is needed, and each runtime is used as a run of its own.
-/

namespace ObsSyncReplay

theorem PluginCaptureRuntime.Serving.exec {runtime : PluginCaptureRuntime} (h : runtime.Serving)
    {calls : List PluginCaptureRuntime.Call} (hcommands : ∀ call ∈ calls, call.isCommand = true) :
    (Runs.exec PluginCaptureRuntime.step runtime calls).Serving := by
  induction calls generalizing runtime with
  | nil => exact h
  | cons call calls ih =>
      rw [List.forall_mem_cons] at hcommands
      apply ih _ hcommands.2
      apply h.step
      rintro rfl
      cases hcommands.1

namespace PluginMain

variable {plugin : PluginMain} {address : Nat} {runtime : PluginCaptureRuntime}

/-- A callback into the runtime that there is. The controls may be others than before, for the
same runtime and adapter. -/
theorem Sound.handled_keeps (h : plugin.Sound) (hoperating : plugin.Operating address runtime)
    {handled : List PluginEvent × PluginCaptureRuntime} (hhandles : Handles address runtime handled)
    {captureControls : Option CaptureControls}
    (hintegrated : Integrated address plugin.controlsAdapter captureControls)
    (hsame : ownedControls plugin.controlsAdapter captureControls =
      ownedControls plugin.controlsAdapter plugin.captureControls) :
    plugin.Keeps (handled.1, { plugin with
      captureRuntime := some (address, handled.2), captureControls := captureControls }) := by
  have hafter : Operating { plugin with
      captureRuntime := some (address, handled.2), captureControls := captureControls }
      address handled.2 := by
    refine ⟨rfl, hoperating.fresh, hoperating.shutdownRequested, hoperating.frontendRegistered,
      hoperating.hotkeys, hoperating.distinct, hintegrated, ?_⟩
    rw [hhandles.exec]
    exact hoperating.serving.exec hhandles.commands
  constructor
  · exact hafter.sound h.callback h.stage
  · rw [hoperating.owned, hafter.owned, hhandles.posts, hsame]
    exact .nil _
  · exact hhandles.sound
  · intro other
    by_cases hother : other = address
    · subst hother
      rw [runtimeAt_of_some hoperating.captureRuntime, runtimeAt_of_some hafter.captureRuntime]
      have hworked := Life.worked runtime _ hhandles.commands
      rw [← hhandles.exec] at hworked
      exact hworked
    · rw [runtimeAt_of_ne hoperating.captureRuntime hother,
        runtimeAt_of_ne hafter.captureRuntime hother, hhandles.others other hother]
      exact .absent
  · exact Nat.le_refl _
  · intro other hnone hcalls
    by_cases hother : other = address
    · subst hother
      rw [runtimeAt_of_some hoperating.captureRuntime] at hnone
      cases hnone
    · exact absurd (hhandles.others other hother) hcalls
  · exact Nat.le_refl _
  · exact Or.inl

/-- The same where the controls are left alone. -/
theorem Sound.called_keeps (h : plugin.Sound) (hoperating : plugin.Operating address runtime)
    {handled : List PluginEvent × PluginCaptureRuntime}
    (hhandles : Handles address runtime handled) :
    plugin.Keeps (handled.1, { plugin with captureRuntime := some (address, handled.2) }) :=
  h.handled_keeps hoperating hhandles hoperating.integrated rfl

theorem Sound.operating (h : plugin.Sound) (hsome : plugin.captureRuntime = some (address, runtime)) :
    plugin.Operating address runtime := by
  rcases h.shape with hhalted | ⟨other, runtime', hoperating⟩
  · rw [hhalted.captureRuntime] at hsome
    cases hsome
  · obtain ⟨rfl, rfl⟩ : other = address ∧ runtime' = runtime := by
      rw [hoperating.captureRuntime] at hsome
      cases hsome
      exact ⟨rfl, rfl⟩
    exact hoperating

/-- A hotkey that OBS holds is for the runtime that there is. -/
theorem Sound.hotkey_keeps (h : plugin.Sound) {hotkey : RegisteredHotkey}
    (hhotkey : hotkey ∈ plugin.hotkeys) (starts pressed : Bool) (readings : HotkeyReadings) :
    plugin.Keeps (plugin.dispatch hotkey.data (fun runtime =>
      onHotkey hotkey.data runtime pressed readings hotkey.kind starts)) := by
  rcases h.shape with hhalted | ⟨address, runtime, hoperating⟩
  · rw [hhalted.hotkeys] at hhotkey
    cases hhotkey
  · rw [hoperating.hotkeys] at hhotkey
    rw [data_of_mem_hotkeysOf hhotkey]
    unfold dispatch
    rw [runtimeAt_of_some hoperating.captureRuntime]
    exact h.called_keeps hoperating (onHotkey_handles pressed starts readings hotkey.kind)

/-- The controls that there are refer to the runtime and the adapter that there are. -/
theorem Sound.controls_operating (h : plugin.Sound) {controls : CaptureControls}
    (hcontrols : plugin.captureControls = some controls) :
    ∃ runtime, plugin.Operating controls.runtime runtime ∧
      plugin.controlsAdapter = some controls.controlsAdapter ∧ controls.Latched := by
  rcases h.shape with hhalted | ⟨address, runtime, hoperating⟩
  · rw [hhalted.captureControls] at hcontrols
    cases hcontrols
  · have hintegrated := hoperating.integrated
    rw [hcontrols] at hintegrated
    generalize plugin.controlsAdapter = controlsAdapter at hintegrated ⊢
    cases hintegrated with
    | installed _ hruntime hlatched =>
        subst hruntime
        exact ⟨runtime, hoperating, rfl, hlatched⟩

/-- A handler of the controls gets the runtime that they refer to. -/
theorem Operating.dispatchControls_eq {controls : CaptureControls}
    (hoperating : plugin.Operating controls.runtime runtime)
    (hadapter : plugin.controlsAdapter = some controls.controlsAdapter) (usesAdapter : Bool)
    {handler : CaptureControls → PluginCaptureRuntime →
      List PluginEvent × CaptureControls × PluginCaptureRuntime}
    (hsame : (handler controls runtime).2.1.runtime = controls.runtime) :
    plugin.dispatchControls usesAdapter controls handler = ((handler controls runtime).1,
      { plugin with
        captureControls := some (handler controls runtime).2.1
        captureRuntime := some (controls.runtime, (handler controls runtime).2.2) }) := by
  unfold dispatchControls
  rw [if_neg (by simp [hadapter]), runtimeAt_of_some hoperating.captureRuntime]
  dsimp only
  rw [hsame]

theorem Sound.controls_keeps (h : plugin.Sound) {controls : CaptureControls}
    (hcontrols : plugin.captureControls = some controls) (usesAdapter : Bool)
    {handler : CaptureControls → PluginCaptureRuntime →
      List PluginEvent × CaptureControls × PluginCaptureRuntime}
    (hhandles : ∀ runtime, Handles controls.runtime runtime
      ((handler controls runtime).1, (handler controls runtime).2.2))
    (hsame : ∀ runtime, (handler controls runtime).2.1.runtime = controls.runtime ∧
      (handler controls runtime).2.1.controlsAdapter = controls.controlsAdapter)
    (hlatched : controls.Latched → ∀ runtime, (handler controls runtime).2.1.Latched) :
    plugin.Keeps (plugin.dispatchControls usesAdapter controls handler) := by
  obtain ⟨runtime, hoperating, hadapter, hbefore⟩ := h.controls_operating hcontrols
  obtain ⟨hruntime, hcontrolsAdapter⟩ := hsame runtime
  rw [hoperating.dispatchControls_eq hadapter usesAdapter hruntime]
  apply h.handled_keeps hoperating (hhandles runtime)
  · rw [hadapter, ← hcontrolsAdapter]
    exact .installed _ hruntime (hlatched hbefore runtime)
  · rw [hadapter, hcontrols, ownedControls, ownedControls]
    simp [hruntime, hcontrolsAdapter]

section Controls

variable {controls : CaptureControls}

/-- A button that is clicked is enabled, so the controls are not disabled. -/
theorem Latched.not_disabled (h : controls.Latched) {action : CaptureControls.ControlAction}
    (hclickable : (controls.button action).clickable = true) : controls.disabled = false := by
  rw [Button.clickable, Bool.and_eq_true] at hclickable
  rw [← Bool.not_eq_true]
  intro hdisabled
  rw [(h.disabled hdisabled).2 action] at hclickable
  cases hclickable.2

theorem report_same (readings : CaptureControls.PresentationReadings)
    (action : CaptureControls.ControlAction) (result : ControlCommandResult) :
    (controls.report runtime readings action result).runtime = controls.runtime ∧
      (controls.report runtime readings action result).controlsAdapter =
        controls.controlsAdapter := by
  unfold CaptureControls.report
  dsimp only
  cases action <;> constructor
  all_goals first
    | rw [(CaptureControls.applyPresentationSafely_behind readings).runtime]
    | rw [(CaptureControls.applyPresentationSafely_behind readings).controlsAdapter]

theorem latched_report (hdisabled : controls.disabled = false)
    (readings : CaptureControls.PresentationReadings) (action : CaptureControls.ControlAction)
    (result : ControlCommandResult) : (controls.report runtime readings action result).Latched := by
  apply CaptureControls.latched_applyPresentationSafely
  intro hclaim
  cases action <;> simp [hdisabled] at hclaim

theorem onTimeout_behind (readings : ControlsReadings) :
    CaptureControls.SameBehind controls (onTimeout controls runtime readings).2.1 := by
  unfold onTimeout
  exact CaptureControls.applyPresentationSafely_behind readings.presentation

theorem latched_onTimeout (h : controls.Latched) (readings : ControlsReadings) :
    (onTimeout controls runtime readings).2.1.Latched := by
  unfold onTimeout
  exact CaptureControls.latched_applyPresentationSafely (fun _ => h) readings.presentation

theorem onFirstRefresh_behind (readings : ControlsReadings) :
    CaptureControls.SameBehind controls (onFirstRefresh controls runtime readings).2.1 := by
  have hdone : CaptureControls.SameBehind controls { controls with firstRefreshDue := false } :=
    ⟨rfl, rfl, rfl, rfl⟩
  unfold onFirstRefresh
  exact hdone.trans (CaptureControls.applyPresentationSafely_behind readings.presentation)

theorem latched_onFirstRefresh (h : controls.Latched) (readings : ControlsReadings) :
    (onFirstRefresh controls runtime readings).2.1.Latched := by
  unfold onFirstRefresh
  apply CaptureControls.latched_applyPresentationSafely
  exact fun _ => ⟨h.disabled, h.recording, h.replay⟩

end Controls

theorem Sound.halted_of_unregistered (h : plugin.Sound)
    (hunregistered : plugin.frontendRegistered = false) : plugin.Halted := by
  rcases h.shape with hhalted | ⟨address, runtime, hoperating⟩
  · exact hhalted
  · rw [hoperating.frontendRegistered] at hunregistered
    cases hunregistered

/-- What an unload does once the runtime is stopped. -/
theorem Sound.unload_keeps (h : plugin.Sound) (hhalted : plugin.Halted)
    (hstage : plugin.moduleStage.rank ≤ ModuleStage.unloaded.rank) :
    plugin.Keeps (plugin.removeEventCallback.1,
      { plugin.removeEventCallback.2 with moduleStage := .unloaded }) := by
  unfold removeEventCallback
  split_ifs with hregistered
  · have hflags := hhalted.flags plugin.shutdownRequested false false .unloaded
    apply hhalted.keeps hflags (hflags.sound rfl nofun) ?_ ?_ (fun _ => rfl) rfl hstage nofun
    · unfold ownedCallback
      rw [h.callback.trans hregistered, if_pos rfl]
      exact .released _ (fun other hother => absurd hother (Multiset.notMem_zero _)) (.nil _)
    · simp [PluginEvent.isDangled]
  · have hflags := hhalted.flags plugin.shutdownRequested plugin.frontendRegistered
      plugin.eventCallbackAdded .unloaded
    exact hhalted.keeps hflags (hflags.sound h.callback (fun hclaim => absurd hclaim hregistered))
      (.nil _) (fun _ hevent => absurd hevent List.not_mem_nil) (fun _ => rfl) rfl hstage Or.inl

theorem removeEventCallback_unregistered :
    plugin.removeEventCallback.2.frontendRegistered = false := by
  unfold removeEventCallback
  split_ifs with hregistered
  · rfl
  · simpa using hregistered

theorem rank_le_unloaded (stage : ModuleStage) : stage.rank ≤ ModuleStage.unloaded.rank := by
  cases stage <;> decide

theorem Sound.frontend_keeps (h : plugin.Sound) (hadded : plugin.eventCallbackAdded = true)
    (event : FrontendEvent) (readings : FrontendReadings) :
    plugin.Keeps (plugin.onFrontendEvent event readings) := by
  have hregistered : plugin.frontendRegistered = true := h.callback.symm.trans hadded
  -- the guard of a stop is lifted again
  have hlifted (boundary : String) : plugin.Keeps
      ((plugin.stopPluginOwnedRuntime boundary).1,
        { (plugin.stopPluginOwnedRuntime boundary).2 with shutdownRequested := false }) := by
    obtain ⟨hstopped, hhalted⟩ := h.stop_keeps boundary
    have hflags := hhalted.flags false (plugin.stopPluginOwnedRuntime boundary).2.frontendRegistered
      (plugin.stopPluginOwnedRuntime boundary).2.eventCallbackAdded
      (plugin.stopPluginOwnedRuntime boundary).2.moduleStage
    have hboth := hstopped.andThen (hhalted.keeps hflags
      (hflags.sound hstopped.sound.callback hstopped.sound.stage) (.nil _)
      (fun _ hevent => absurd hevent List.not_mem_nil) (fun _ => rfl) rfl (Nat.le_refl _) Or.inl)
      (fun _ => rfl) (fun _ => Or.inl hregistered)
    rw [List.append_nil] at hboth
    exact hboth
  cases event with
  | exit =>
      obtain ⟨hstopped, hhalted⟩ := h.stop_keeps "frontend-exit"
      exact hstopped.andThen (hstopped.sound.removeEventCallback_keeps hhalted)
        callsOn_removeEventCallback (fun _ => Or.inl hregistered)
  | profileChanging => exact hlifted "profile-changing"
  | sceneCollectionCleanup => exact hlifted "scene-collection-cleanup"
  | profileChanged =>
      unfold onFrontendEvent
      dsimp only
      split
      · rename_i address runtime hruntime
        exact h.called_keeps (h.operating hruntime) (handles_of_calls
          [.refreshReplayConfiguration readings.profile readings.rebuild] [.commanded _ _]
          (by simp [PluginCaptureRuntime.Call.isCommand]) (by simp [PluginEvent.isLog]))
      · exact h.start_keeps hregistered readings.start
  | sceneCollectionChanged =>
      unfold onFrontendEvent
      dsimp only
      split
      · rename_i address runtime hruntime
        exact h.called_keeps (h.operating hruntime) (handles_of_calls
          [.refreshSceneTopology readings.discovered readings.rebuild] [.commanded _ _]
          (by simp [PluginCaptureRuntime.Call.isCommand]) (by simp [PluginEvent.isLog]))
      · exact h.start_keeps hregistered readings.start
  | finishedLoading => exact h.start_keeps hregistered readings.start
  | other => exact h.idle

/-- The frontend is registered only once the module is loaded. -/
theorem Sound.unregistered (h : plugin.Sound) (hstage : plugin.moduleStage ≠ .postLoaded) :
    plugin.frontendRegistered = false := by
  rw [← Bool.not_eq_true]
  exact fun hregistered => hstage (h.stage hregistered)

theorem Sound.moduleLoad_keeps (h : plugin.Sound) (hfound : plugin.moduleStage = .found) :
    plugin.Keeps plugin.moduleLoad := by
  have hunregistered : plugin.frontendRegistered = false := h.unregistered (by simp [hfound])
  have hhalted := h.halted_of_unregistered hunregistered
  have hflags := hhalted.flags false plugin.frontendRegistered plugin.eventCallbackAdded .loaded
  apply hhalted.keeps hflags (hflags.sound h.callback ?_) (.nil _)
    (fun _ hevent => absurd hevent List.not_mem_nil) (fun _ => rfl) rfl ?_ Or.inl
  · intro hregistered
    exact absurd (hunregistered.symm.trans hregistered) Bool.false_ne_true
  · rw [hfound]
    exact Nat.le_succ _

theorem Sound.modulePostLoad_keeps (h : plugin.Sound) (hloaded : plugin.moduleStage = .loaded) :
    plugin.Keeps plugin.modulePostLoad := by
  have hunregistered : plugin.frontendRegistered = false := h.unregistered (by simp [hloaded])
  have hhalted := h.halted_of_unregistered hunregistered
  have hflags := hhalted.flags plugin.shutdownRequested true true .postLoaded
  apply hhalted.keeps hflags (hflags.sound rfl (fun _ => rfl)) ?_ ?_ (fun _ => rfl) rfl ?_
    (fun _ => Or.inr hloaded)
  · unfold ownedCallback
    rw [h.callback.trans hunregistered, if_neg Bool.false_ne_true, if_pos rfl]
    exact .acquired _ (fun _ hneeds => hneeds.elim) (.nil _)
  · simp [PluginEvent.isDangled]
  · rw [hloaded]
    exact Nat.le_succ _

theorem Sound.moduleUnload_keeps (h : plugin.Sound) : plugin.Keeps plugin.moduleUnload := by
  obtain ⟨hstopped, hhalted⟩ := h.stop_keeps "module-unload"
  apply hstopped.andThen (hstopped.sound.unload_keeps hhalted (rank_le_unloaded _))
    callsOn_removeEventCallback
  intro hregistered
  exact absurd (removeEventCallback_unregistered.symm.trans hregistered) Bool.false_ne_true

theorem Sound.clicked_keeps (h : plugin.Sound) {controls : CaptureControls}
    {action : CaptureControls.ControlAction} (hcontrols : plugin.captureControls = some controls)
    (hclickable : (controls.button action).clickable = true) (readings : ControlsReadings) :
    plugin.Keeps (plugin.dispatchControls false controls (fun controls runtime =>
      onClicked controls runtime readings action)) :=
  h.controls_keeps hcontrols false (fun _ => onClicked_handles readings action)
    (fun _ => report_same _ action _)
    (fun hlatched _ => latched_report (Latched.not_disabled hlatched hclickable) _ action _)

theorem Sound.timeout_keeps (h : plugin.Sound) {controls : CaptureControls}
    (hcontrols : plugin.captureControls = some controls) (readings : ControlsReadings) :
    plugin.Keeps (plugin.dispatchControls true controls (fun controls runtime =>
      onTimeout controls runtime readings)) :=
  h.controls_keeps hcontrols true (fun _ => onTimeout_handles readings)
    (fun _ => ⟨(onTimeout_behind readings).runtime, (onTimeout_behind readings).controlsAdapter⟩)
    (fun hlatched _ => latched_onTimeout hlatched readings)

theorem Sound.firstRefresh_keeps (h : plugin.Sound) {controls : CaptureControls}
    (hcontrols : plugin.captureControls = some controls) (readings : ControlsReadings) :
    plugin.Keeps (plugin.dispatchControls false controls (fun controls runtime =>
      onFirstRefresh controls runtime readings)) :=
  h.controls_keeps hcontrols false (fun _ => onFirstRefresh_handles readings)
    (fun _ => ⟨(onFirstRefresh_behind readings).runtime,
      (onFirstRefresh_behind readings).controlsAdapter⟩)
    (fun hlatched _ => latched_onFirstRefresh hlatched readings)

theorem Sound.step_keeps (h : plugin.Sound) (input : Input) : plugin.Keeps (plugin.step input) := by
  cases input with
  | moduleLoad =>
      unfold step
      dsimp only
      split_ifs with hfound
      · exact h.moduleLoad_keeps hfound
      · exact h.idle
  | modulePostLoad =>
      unfold step
      dsimp only
      split_ifs with hloaded
      · exact h.modulePostLoad_keeps hloaded
      · exact h.idle
  | moduleUnload =>
      unfold step
      dsimp only
      split_ifs
      · exact h.moduleUnload_keeps
      · exact h.idle
  | frontend event readings =>
      unfold step
      dsimp only
      split_ifs with hadded
      · exact h.frontend_keeps hadded event readings
      · exact h.idle
  | hotkey id starts pressed readings =>
      unfold step
      dsimp only
      split
      · exact h.idle
      · rename_i hotkey hfound
        exact h.hotkey_keeps (List.mem_of_find?_eq_some hfound) starts pressed readings
  | clicked action readings =>
      unfold step
      dsimp only
      split
      · exact h.idle
      · rename_i controls hfiltered
        obtain ⟨hcontrols, hclickable⟩ := Option.filter_eq_some_iff.mp hfiltered
        exact h.clicked_keeps hcontrols hclickable readings
  | timeout readings =>
      unfold step
      dsimp only
      split
      · exact h.idle
      · rename_i controls hfiltered
        exact h.timeout_keeps (Option.filter_eq_some_iff.mp hfiltered).1 readings
  | firstRefresh readings =>
      unfold step
      dsimp only
      split
      · exact h.idle
      · rename_i controls hfiltered
        exact h.firstRefresh_keeps (Option.filter_eq_some_iff.mp hfiltered).1 readings
  | ingest streamId packet codecExtraData =>
      unfold step
      dsimp only
      split
      · exact h.idle
      · rename_i address runtime hruntime
        exact h.called_keeps (h.operating hruntime) (handles_of_calls
          [.ingest streamId packet codecExtraData] []
          (by simp [PluginCaptureRuntime.Call.isCommand]) (by simp))
  | saveFinishes =>
      unfold step
      dsimp only
      split
      · exact h.idle
      · rename_i address runtime hruntime
        exact h.called_keeps (h.operating hruntime) (handles_of_calls [.saveFinishes] []
          (by simp [PluginCaptureRuntime.Call.isCommand]) (by simp))

variable {past : List Transition}

def eventsOf (past : List Transition) : List PluginEvent :=
  past.flatMap Runs.Transition.output

theorem eventsOf_next (past : List Transition) (plugin : PluginMain) (input : Input) :
    eventsOf (past ++ [Runs.transition step plugin input]) =
      eventsOf past ++ (plugin.step input).1 := by
  simp [eventsOf, Runs.transition]

theorem posts_eventsOf (past : List Transition) :
    posts (eventsOf past) = past.flatMap (fun t => posts t.output) := by
  unfold posts eventsOf
  rw [List.filterMap_flatMap]

theorem sound_new : Sound {} :=
  Halted.sound ⟨rfl, rfl, rfl, rfl, rfl, rfl, rfl⟩ rfl nofun

theorem sound_run (hrun : Runs.Run step {} past plugin) : plugin.Sound :=
  hrun.stateInvariant sound_new (fun _ input h => (h.step_keeps input).sound)

/-- OBS has dropped the callback of the plugin. -/
def Over (plugin : PluginMain) : Prop :=
  plugin.frontendRegistered = false ∧ ModuleStage.postLoaded.rank ≤ plugin.moduleStage.rank

theorem Over.step (hover : plugin.Over) (h : plugin.Sound) (input : Input) :
    (plugin.step input).2.Over := by
  have hkeeps := h.step_keeps input
  refine ⟨?_, hover.2.trans hkeeps.stages⟩
  rw [← Bool.not_eq_true]
  intro hregistered
  rcases hkeeps.registers hregistered with hbefore | hloaded
  · exact absurd (hover.1.symm.trans hbefore) Bool.false_ne_true
  · have hrank := hover.2
    rw [hloaded] at hrank
    exact absurd hrank (by decide)

theorem over_run (hrun : Runs.Run step {} past plugin) :
    ∀ t ∈ past, t.before.eventCallbackAdded = true → t.after.eventCallbackAdded = false →
      plugin.Over := by
  apply hrun.invariant (P := fun past plugin => ∀ t ∈ past, t.before.eventCallbackAdded = true →
    t.after.eventCallbackAdded = false → plugin.Over)
  · intro t ht
    cases ht
  · intro past plugin input hrun ih t ht hbefore hafter
    have hsound := sound_run hrun
    rcases List.mem_append.mp ht with hold | hnew
    · exact (ih t hold hbefore hafter).step hsound input
    · obtain rfl := List.mem_singleton.mp hnew
      have hkeeps := hsound.step_keeps input
      refine ⟨hkeeps.sound.callback.symm.trans hafter, ?_⟩
      -- the callback is there from the post-load on
      rw [← hsound.stage (hsound.callback.symm.trans hbefore)]
      exact hkeeps.stages

theorem Sound.owned_of_unregistered (h : plugin.Sound)
    (hunregistered : plugin.frontendRegistered = false) : plugin.owned = 0 := by
  rw [(h.halted_of_unregistered hunregistered).owned, ownedCallback,
    h.callback.trans hunregistered, if_neg Bool.false_ne_true]

/-- In every run, whatever OBS and the user do and in whatever order, nothing is called that is
gone; what is taken is given back once, the controls before what they refer to and a hotkey before
its runtime; between two events what is held is what the plugin owns, and from the moment it drops
its event callback, at the exit or with its module, it owns nothing any more. -/
theorem plugin_gives_back (hrun : Runs.Run step {} past plugin) :
    (∀ event ∈ eventsOf past, event.isDangled = false) ∧
      Ledger.Orderly Needs 0 (posts (eventsOf past)) plugin.owned ∧
      (plugin.captureRuntime = none → plugin.owned = plugin.ownedCallback) ∧
      ((∃ t ∈ past, t.before.eventCallbackAdded = true ∧ t.after.eventCallbackAdded = false) ∨
        plugin.moduleStage = .unloaded → plugin.owned = 0) := by
  have hsound := sound_run hrun
  refine ⟨?_, ?_, fun hnone => (hsound.halted hnone).owned, ?_⟩
  · apply hrun.invariant (P := fun past _ => ∀ event ∈ eventsOf past, event.isDangled = false)
    · intro event hevent
      cases hevent
    · intro past plugin input hrun ih
      rw [eventsOf_next, List.forall_mem_append]
      exact ⟨ih, ((sound_run hrun).step_keeps input).undangled⟩
  · rw [posts_eventsOf]
    exact Ledger.orderly_run (fun t : Transition => posts t.output) owned hrun
      (fun past plugin input hrun => ((sound_run hrun).step_keeps input).orderly)
  · rintro (⟨t, ht, hbefore, hafter⟩ | hunloaded)
    · exact hsound.owned_of_unregistered (over_run hrun t ht hbefore hafter).1
    · apply hsound.owned_of_unregistered
      rw [← Bool.not_eq_true]
      intro hregistered
      rw [hsound.stage hregistered] at hunloaded
      cases hunloaded

/-- The plugin with a runtime, all of its controls and hotkeys, and what comes then. -/
def session (later : List Input) : List Input :=
  [.moduleLoad, .modulePostLoad, .frontend .finishedLoading readings] ++ later
where
  readings : FrontendReadings :=
    ⟨⟨PluginCaptureRuntime.replayProfile, [], {}, .installed, fun _ => true⟩,
      PluginCaptureRuntime.replayProfile, [], {}⟩

/-- After the exit a late event starts nothing. -/
theorem plugin_gives_back_sample :
    (Runs.exec step {} (session [])).hotkeys.length = 3 ∧
      (Runs.exec step {} (session [.frontend .exit session.readings,
        .frontend .finishedLoading session.readings])).owned = 0 := by
  have hgives := plugin_gives_back (Runs.run_exec ({} : PluginMain)
    (session [.frontend .exit session.readings, .frontend .finishedLoading session.readings]))
  exact ⟨by decide, hgives.2.2.2 (Or.inl (by decide))⟩

/-- `UsedAs runtime calls`: the calls are those on one runtime from its making on, and `runtime`
is what there is of it. -/
inductive UsedAs : Option PluginCaptureRuntime → List PluginCaptureRuntime.Call → Prop
  | never : UsedAs none []
  | live (profile : ReplayConfiguration) (discovered : List DiscoveredScene) (rebuild : Rebuild)
      (commands : List PluginCaptureRuntime.Call)
      (hcommands : ∀ call ∈ commands, call.isCommand = true) :
      UsedAs (some (Runs.exec PluginCaptureRuntime.step { replayConfiguration := profile }
        (.initializeRuntime discovered rebuild :: commands)))
        (.initializeRuntime discovered rebuild :: commands)
  | gone (discovered : List DiscoveredScene) (rebuild : Rebuild)
      (commands stops : List PluginCaptureRuntime.Call)
      (hcommands : ∀ call ∈ commands, call.isCommand = true) (hstops : ∀ call ∈ stops, call = .stop)
      (hstopped : stops ≠ []) :
      UsedAs none (.initializeRuntime discovered rebuild :: commands ++ stops)

theorem callsOn_eventsOf_next (past : List Transition) (plugin : PluginMain) (input : Input) :
    callsOn address (eventsOf (past ++ [Runs.transition step plugin input])) =
      callsOn address (eventsOf past) ++ callsOn address (plugin.step input).1 := by
  rw [eventsOf_next, callsOn_append]

theorem Sound.runtimeAt_fresh (h : plugin.Sound) (hfresh : plugin.nextAddress ≤ address) :
    plugin.runtimeAt address = none := by
  rcases h.shape with hhalted | ⟨other, runtime, hoperating⟩
  · exact runtimeAt_of_none hhalted.captureRuntime address
  · apply runtimeAt_of_ne hoperating.captureRuntime
    exact Nat.ne_of_gt (hoperating.fresh.trans_le hfresh)

/-- What one event does to a runtime goes on from what it was used as before. -/
theorem UsedAs.next {before after : Option PluginCaptureRuntime}
    {calls calls' : List PluginCaptureRuntime.Call} (h : UsedAs before calls)
    (hlife : Life before calls' after) (hborn : before = none → calls' ≠ [] → calls = []) :
    UsedAs after (calls ++ calls') := by
  cases hlife with
  | absent =>
      rw [List.append_nil]
      exact h
  | started profile discovered rebuild =>
      rw [hborn rfl (by simp)]
      exact .live profile discovered rebuild [] (fun call hcall => absurd hcall List.not_mem_nil)
  | rejected discovered rebuild =>
      rw [hborn rfl (by simp)]
      exact .gone discovered rebuild [] [.stop] (fun call hcall => absurd hcall List.not_mem_nil)
        (fun call hcall => List.mem_singleton.mp hcall) (by simp)
  | worked runtime calls' hcommands' =>
      cases h with
      | live profile discovered rebuild commands hcommands =>
          rw [← Runs.exec_append, List.cons_append]
          exact .live profile discovered rebuild (commands ++ calls')
            (List.forall_mem_append.mpr ⟨hcommands, hcommands'⟩)
  | stopped runtime =>
      cases h with
      | live profile discovered rebuild commands hcommands =>
          exact .gone discovered rebuild commands [.stop, .stop] hcommands
            (by simp) (by simp)

/-- In every run of the plugin the calls on each runtime are one initialization, commands, and in
the end stops, and nothing after; while the runtime is there, it is what these calls have made of
a new one. -/
theorem plugin_uses_runtimes (hrun : Runs.Run step {} past plugin) (address : Nat) :
    UsedAs (plugin.runtimeAt address) (callsOn address (eventsOf past)) := by
  suffices hboth : UsedAs (plugin.runtimeAt address) (callsOn address (eventsOf past)) ∧
      (plugin.nextAddress ≤ address → callsOn address (eventsOf past) = []) from hboth.1
  apply hrun.invariant (P := fun past plugin =>
    UsedAs (plugin.runtimeAt address) (callsOn address (eventsOf past)) ∧
      (plugin.nextAddress ≤ address → callsOn address (eventsOf past) = []))
  · exact ⟨.never, fun _ => rfl⟩
  · rintro past plugin input hrun ⟨hused, hfresh⟩
    have hkeeps := (sound_run hrun).step_keeps input
    rw [callsOn_eventsOf_next]
    refine ⟨hused.next (hkeeps.life address) ?_, ?_⟩
    · intro hnone hcalls
      exact hfresh (hkeeps.born address hnone hcalls).1
    · intro hle
      have hbefore := hkeeps.addresses.trans hle
      rw [hfresh hbefore, List.nil_append]
      by_contra hcalls
      obtain ⟨-, hlt⟩ := hkeeps.born address ((sound_run hrun).runtimeAt_fresh hbefore) hcalls
      exact absurd hlt (Nat.not_lt.mpr hle)

/-- A change of the profile ends the use of the first runtime. -/
theorem plugin_uses_runtimes_sample :
    callsOn 0 (eventsOf (Runs.history step {} (session [.frontend .profileChanging session.readings,
        .frontend .profileChanged session.readings]))) =
      [.initializeRuntime [] {}, .stop, .stop] ∧
    UsedAs none [.initializeRuntime [] {}, .stop, .stop] := by
  have hcalls : callsOn 0 (eventsOf (Runs.history step {} (session [
      .frontend .profileChanging session.readings,
      .frontend .profileChanged session.readings]))) =
        [.initializeRuntime [] {}, .stop, .stop] := by rfl
  have hused := plugin_uses_runtimes (Runs.run_exec ({} : PluginMain)
    (session [.frontend .profileChanging session.readings,
      .frontend .profileChanged session.readings])) 0
  rw [hcalls] at hused
  exact ⟨hcalls, hused⟩

end PluginMain

end ObsSyncReplay
