import ObsSyncReplay.Plugin.PluginHandlers

/-!
What there is of the plugin between two events: nothing but, perhaps, the event callback, or a
runtime with the hotkeys and the controls that refer to it. Every event leads from one to one of
the two; what is said of an event here (what it takes and gives back, the calls on each runtime)
is enough to follow whole runs.
-/

namespace ObsSyncReplay

/-- The stages of a module follow one another. -/
def ModuleStage.rank : ModuleStage → Nat
  | .found => 0
  | .loaded => 1
  | .postLoaded => 2
  | .unloaded => 3

namespace PluginMain

/-- The hotkeys that the ids stand for. -/
def hotkeysOf (recordingHotkeys replayHotkeys saveReplayHotkey : Option Nat) (data : Nat) :
    List RegisteredHotkey :=
  (recordingHotkeys.map (fun id => ⟨id, .recording, data⟩)).toList ++
    (replayHotkeys.map (fun id => ⟨id, .replay, data⟩)).toList ++
    (saveReplayHotkey.map (fun id => ⟨id, .saveReplay, data⟩)).toList

structure Halted (plugin : PluginMain) : Prop where
  captureRuntime : plugin.captureRuntime = none
  captureControls : plugin.captureControls = none
  controlsAdapter : plugin.controlsAdapter = none
  recordingHotkeys : plugin.recordingHotkeys = none
  replayHotkeys : plugin.replayHotkeys = none
  saveReplayHotkey : plugin.saveReplayHotkey = none
  hotkeys : plugin.hotkeys = []

/-- The adapter and the controls of the runtime at an address: both or none. -/
inductive Integrated (address : Nat) : Option Nat → Option CaptureControls → Prop
  | absent : Integrated address none none
  | installed (controls : CaptureControls) (hruntime : controls.runtime = address)
      (hlatched : controls.Latched) :
      Integrated address (some controls.controlsAdapter) (some controls)

structure Operating (plugin : PluginMain) (address : Nat) (runtime : PluginCaptureRuntime) :
    Prop where
  captureRuntime : plugin.captureRuntime = some (address, runtime)
  fresh : address < plugin.nextAddress
  shutdownRequested : plugin.shutdownRequested = false
  frontendRegistered : plugin.frontendRegistered = true
  hotkeys : plugin.hotkeys =
    hotkeysOf plugin.recordingHotkeys plugin.replayHotkeys plugin.saveReplayHotkey address
  distinct : (plugin.hotkeys.map RegisteredHotkey.id).Nodup
  integrated : Integrated address plugin.controlsAdapter plugin.captureControls
  serving : runtime.Serving

structure Sound (plugin : PluginMain) : Prop where
  callback : plugin.eventCallbackAdded = plugin.frontendRegistered
  stage : plugin.frontendRegistered = true → plugin.moduleStage = .postLoaded
  shape : plugin.Halted ∨ ∃ address runtime, plugin.Operating address runtime

/-- What has to be there for as long as a resource is. -/
def Needs : PluginResource → PluginResource → Prop
  | .captureControls runtime controlsAdapter, other =>
      other = .runtime runtime ∨ other = .controlsAdapter controlsAdapter
  | .hotkey hotkey, other => other = .runtime hotkey.data
  | _, _ => False

def ownedHotkeys (hotkeys : List RegisteredHotkey) : List PluginResource :=
  hotkeys.map .hotkey

def ownedControls (controlsAdapter : Option Nat) (captureControls : Option CaptureControls) :
    List PluginResource :=
  (captureControls.map (fun controls =>
      .captureControls controls.runtime controls.controlsAdapter)).toList ++
    (controlsAdapter.map .controlsAdapter).toList

def ownedCallback (plugin : PluginMain) : Multiset PluginResource :=
  if plugin.eventCallbackAdded then {.eventCallback} else 0

def owned (plugin : PluginMain) : Multiset PluginResource :=
  ownedHotkeys plugin.hotkeys +
    (ownedControls plugin.controlsAdapter plugin.captureControls +
      ((plugin.captureRuntime.map (fun runtime => PluginResource.runtime runtime.1)).toList +
        plugin.ownedCallback))

/-- What a runtime goes through in one event: the runtime before, the calls on it, the runtime
after. -/
inductive Life : Option PluginCaptureRuntime → List PluginCaptureRuntime.Call →
    Option PluginCaptureRuntime → Prop
  | absent : Life none [] none
  | started (profile : ReplayConfiguration) (discovered : List DiscoveredScene)
      (rebuild : Rebuild) :
      Life none [.initializeRuntime discovered rebuild]
        (some (Runs.exec PluginCaptureRuntime.step { replayConfiguration := profile }
          [.initializeRuntime discovered rebuild]))
  | rejected (discovered : List DiscoveredScene) (rebuild : Rebuild) :
      Life none [.initializeRuntime discovered rebuild, .stop] none
  | worked (runtime : PluginCaptureRuntime) (calls : List PluginCaptureRuntime.Call)
      (hcommands : ∀ call ∈ calls, call.isCommand = true) :
      Life (some runtime) calls (some (Runs.exec PluginCaptureRuntime.step runtime calls))
  | stopped (runtime : PluginCaptureRuntime) : Life (some runtime) [.stop, .stop] none

/-- `Keeps plugin handled`: an event has led from `plugin` to `handled`. -/
structure Keeps (plugin : PluginMain) (handled : List PluginEvent × PluginMain) : Prop where
  sound : handled.2.Sound
  orderly : Ledger.Orderly Needs plugin.owned (posts handled.1) handled.2.owned
  undangled : ∀ event ∈ handled.1, event.isDangled = false
  life : ∀ address, Life (plugin.runtimeAt address) (callsOn address handled.1)
    (handled.2.runtimeAt address)
  addresses : plugin.nextAddress ≤ handled.2.nextAddress
  born : ∀ address, plugin.runtimeAt address = none → callsOn address handled.1 ≠ [] →
    plugin.nextAddress ≤ address ∧ address < handled.2.nextAddress
  stages : plugin.moduleStage.rank ≤ handled.2.moduleStage.rank
  registers : handled.2.frontendRegistered = true →
    plugin.frontendRegistered = true ∨ plugin.moduleStage = .loaded

variable {plugin : PluginMain} {address : Nat} {runtime : PluginCaptureRuntime}

theorem runtimeAt_of_none (h : plugin.captureRuntime = none) (other : Nat) :
    plugin.runtimeAt other = none := by
  rw [runtimeAt, h]
  rfl

theorem runtimeAt_of_some (h : plugin.captureRuntime = some (address, runtime)) :
    plugin.runtimeAt address = some runtime := by
  simp [runtimeAt, h, Option.filter]

theorem runtimeAt_of_ne (h : plugin.captureRuntime = some (address, runtime)) {other : Nat}
    (hother : other ≠ address) : plugin.runtimeAt other = none := by
  simp [runtimeAt, h, Option.filter, Ne.symm hother]

theorem Life.quiet {before after : Option PluginCaptureRuntime} (h : Life before [] after) :
    after = before := by
  cases h <;> rfl

theorem Sound.halted (h : plugin.Sound) (hnone : plugin.captureRuntime = none) :
    plugin.Halted := by
  rcases h.shape with hhalted | ⟨address, runtime, hoperating⟩
  · exact hhalted
  · rw [hoperating.captureRuntime] at hnone
    cases hnone

/-- What a halted plugin has besides may change. -/
theorem Halted.flags (h : plugin.Halted)
    (shutdownRequested frontendRegistered eventCallbackAdded : Bool) (moduleStage : ModuleStage) :
    Halted { plugin with
      shutdownRequested := shutdownRequested, frontendRegistered := frontendRegistered
      moduleStage := moduleStage, eventCallbackAdded := eventCallbackAdded } :=
  ⟨h.captureRuntime, h.captureControls, h.controlsAdapter, h.recordingHotkeys, h.replayHotkeys,
    h.saveReplayHotkey, h.hotkeys⟩

theorem Halted.sound (h : plugin.Halted)
    (hcallback : plugin.eventCallbackAdded = plugin.frontendRegistered)
    (hstage : plugin.frontendRegistered = true → plugin.moduleStage = .postLoaded) :
    plugin.Sound :=
  ⟨hcallback, hstage, Or.inl h⟩

theorem Halted.owned (h : plugin.Halted) : plugin.owned = plugin.ownedCallback := by
  simp [PluginMain.owned, h.hotkeys, h.captureControls, h.controlsAdapter, h.captureRuntime,
    ownedHotkeys, ownedControls]

theorem Operating.owned (h : plugin.Operating address runtime) :
    plugin.owned = ownedHotkeys plugin.hotkeys +
      (ownedControls plugin.controlsAdapter plugin.captureControls +
        (.runtime address ::ₘ plugin.ownedCallback)) := by
  simp [PluginMain.owned, h.captureRuntime]

theorem Operating.sound (h : plugin.Operating address runtime)
    (hcallback : plugin.eventCallbackAdded = plugin.frontendRegistered)
    (hstage : plugin.frontendRegistered = true → plugin.moduleStage = .postLoaded) :
    plugin.Sound :=
  ⟨hcallback, hstage, Or.inr ⟨address, runtime, h⟩⟩

/-- Nothing happens. -/
theorem Sound.idle (h : plugin.Sound) : plugin.Keeps ([], plugin) where
  sound := h
  orderly := .nil _
  undangled _ hevent := absurd hevent List.not_mem_nil
  life address := by
    cases plugin.runtimeAt address with
    | none => exact .absent
    | some runtime => exact .worked runtime [] (fun call hcall => absurd hcall List.not_mem_nil)
  addresses := Nat.le_refl _
  born _ _ hcalls := absurd rfl hcalls
  stages := Nat.le_refl _
  registers := Or.inl

/-- An event goes on without any calls. -/
theorem Keeps.andThen {handled : List PluginEvent × PluginMain} {events : List PluginEvent}
    {plugin' : PluginMain} (h : plugin.Keeps handled) (h' : handled.2.Keeps (events, plugin'))
    (hcalls : ∀ address, callsOn address events = [])
    (hregisters : plugin'.frontendRegistered = true →
      plugin.frontendRegistered = true ∨ plugin.moduleStage = .loaded) :
    plugin.Keeps (handled.1 ++ events, plugin') where
  sound := h'.sound
  orderly := by
    rw [posts_append]
    exact h.orderly.trans h'.orderly
  undangled := List.forall_mem_append.mpr ⟨h.undangled, h'.undangled⟩
  life address := by
    have hquiet := h'.life address
    rw [hcalls] at hquiet
    rw [callsOn_append, hcalls, List.append_nil, hquiet.quiet]
    exact h.life address
  addresses := Nat.le_trans h.addresses h'.addresses
  born address hnone hsome := by
    rw [callsOn_append, hcalls, List.append_nil] at hsome
    obtain ⟨hle, hlt⟩ := h.born address hnone hsome
    exact ⟨hle, Nat.lt_of_lt_of_le hlt h'.addresses⟩
  stages := Nat.le_trans h.stages h'.stages
  registers hregistered := hregisters hregistered

theorem ownedCallback_mem {resource : PluginResource} (h : resource ∈ plugin.ownedCallback) :
    resource = .eventCallback := by
  unfold ownedCallback at h
  split_ifs at h
  · exact Multiset.mem_singleton.mp h
  · exact absurd h (Multiset.notMem_zero _)

theorem not_needs_ownedCallback {resource : PluginResource} :
    ∀ other ∈ plugin.ownedCallback, ¬Needs other resource := by
  intro other hother
  rw [ownedCallback_mem hother]
  exact id

/-- A halted plugin owns nothing but the callback, before and after. -/
theorem Halted.keeps (h : plugin.Halted) {events : List PluginEvent} {plugin' : PluginMain}
    (h' : plugin'.Halted) (hsound : plugin'.Sound)
    (horderly : Ledger.Orderly Needs plugin.ownedCallback (posts events) plugin'.ownedCallback)
    (hundangled : ∀ event ∈ events, event.isDangled = false)
    (hcalls : ∀ address, callsOn address events = [])
    (haddresses : plugin'.nextAddress = plugin.nextAddress)
    (hstages : plugin.moduleStage.rank ≤ plugin'.moduleStage.rank)
    (hregisters : plugin'.frontendRegistered = true →
      plugin.frontendRegistered = true ∨ plugin.moduleStage = .loaded) :
    plugin.Keeps (events, plugin') where
  sound := hsound
  orderly := by
    rw [h.owned, h'.owned]
    exact horderly
  undangled := hundangled
  life address := by
    rw [runtimeAt_of_none h.captureRuntime, runtimeAt_of_none h'.captureRuntime, hcalls]
    exact .absent
  addresses := Nat.le_of_eq haddresses.symm
  born address _ hsome := absurd (hcalls address) hsome
  stages := hstages
  registers := hregisters

theorem Sound.removeEventCallback_keeps (h : plugin.Sound) (hhalted : plugin.Halted) :
    plugin.Keeps plugin.removeEventCallback := by
  unfold removeEventCallback
  split_ifs with hregistered
  · have hadded : plugin.eventCallbackAdded = true := h.callback.trans hregistered
    have hafter := hhalted.flags plugin.shutdownRequested false false plugin.moduleStage
    apply hhalted.keeps hafter (hafter.sound rfl nofun)
    · unfold ownedCallback
      rw [hadded, if_pos rfl]
      exact .released _ (fun other hother => absurd hother (Multiset.notMem_zero _)) (.nil _)
    · simp [PluginEvent.isDangled]
    · exact fun _ => rfl
    · rfl
    · exact Nat.le_refl _
    · exact nofun
  · exact h.idle

theorem callsOn_removeEventCallback (address : Nat) :
    callsOn address plugin.removeEventCallback.1 = [] := by
  unfold removeEventCallback
  split_ifs <;> rfl

/-- Each hotkey that there is goes by its id. -/
theorem unregisterPluginHotkeys_eq (hhotkeys : plugin.hotkeys =
      hotkeysOf plugin.recordingHotkeys plugin.replayHotkeys plugin.saveReplayHotkey address)
    (hdistinct : (plugin.hotkeys.map RegisteredHotkey.id).Nodup) :
    plugin.unregisterPluginHotkeys =
      (((ownedHotkeys plugin.hotkeys).map .released).map .posted,
        { plugin with
          recordingHotkeys := none, replayHotkeys := none, saveReplayHotkey := none
          hotkeys := [] }) := by
  rw [hhotkeys] at hdistinct ⊢
  unfold unregisterPluginHotkeys unregisterHotkey
  dsimp only
  rw [hhotkeys]
  unfold hotkeysOf at hdistinct ⊢
  cases hrecording : plugin.recordingHotkeys <;> cases hreplay : plugin.replayHotkeys <;>
    cases hsave : plugin.saveReplayHotkey <;>
    simp_all [ownedHotkeys, eq_comm]

theorem dropControls_eq (plugin : PluginMain) :
    plugin.dropControls =
      (((ownedControls plugin.controlsAdapter plugin.captureControls).map .released).map .posted,
        { plugin with captureControls := none, controlsAdapter := none }) := by
  unfold dropControls ownedControls
  cases plugin.captureControls <;> cases plugin.controlsAdapter <;> rfl

theorem ownedControls_disabled (controlsAdapter : Option Nat)
    (captureControls : Option CaptureControls) :
    ownedControls controlsAdapter (captureControls.map CaptureControls.disableControls) =
      ownedControls controlsAdapter captureControls := by
  cases captureControls <;> rfl

theorem stop_of_halted (h : plugin.Halted) (boundary : String) :
    plugin.stopPluginOwnedRuntime boundary = ([], plugin) := by
  unfold stopPluginOwnedRuntime
  rw [if_pos (by simp [h.captureRuntime, h.captureControls, h.controlsAdapter])]

/-- The plugin after a stop. -/
def halt (plugin : PluginMain) : PluginMain :=
  { plugin with
    captureRuntime := none, controlsAdapter := none, captureControls := none
    shutdownRequested := true, recordingHotkeys := none, replayHotkeys := none
    saveReplayHotkey := none, hotkeys := [] }

/-- The hotkeys go first, then the controls and the adapter, and then the runtime is stopped. -/
def stopEvents (plugin : PluginMain) (address : Nat) (boundary : String) : List PluginEvent :=
  ((ownedHotkeys plugin.hotkeys ++
      ownedControls plugin.controlsAdapter plugin.captureControls).map .released).map .posted ++
    [.called address .stop, .called address .stop, .posted (.released (.runtime address)),
      .stopped boundary]

theorem stop_of_operating (h : plugin.Operating address runtime) (boundary : String) :
    plugin.stopPluginOwnedRuntime boundary = (plugin.stopEvents address boundary, plugin.halt) := by
  unfold stopPluginOwnedRuntime
  rw [if_neg (by simp [h.captureRuntime]), if_neg (by simp [h.shutdownRequested])]
  dsimp only
  rw [@unregisterPluginHotkeys_eq { plugin with
    shutdownRequested := true
    captureControls := plugin.captureControls.map CaptureControls.disableControls } address
      h.hotkeys h.distinct]
  dsimp only
  rw [dropControls_eq]
  unfold dropRuntime stopEvents halt
  dsimp only
  rw [h.captureRuntime, ownedControls_disabled]
  simp only [List.map_append, List.append_assoc, List.cons_append, List.nil_append]

theorem halted_halt (plugin : PluginMain) : plugin.halt.Halted :=
  ⟨rfl, rfl, rfl, rfl, rfl, rfl, rfl⟩

theorem posts_posted (entries : List (Ledger.Entry PluginResource)) :
    posts (entries.map .posted) = entries := by
  rw [posts, List.filterMap_map, List.filterMap_congr (g := some), List.filterMap_some]
  intro entry _
  rfl

theorem callsOn_posted (entries : List (Ledger.Entry PluginResource)) :
    callsOn address (entries.map .posted) = [] := by
  rw [callsOn, List.filterMap_map]
  apply List.filterMap_eq_nil_iff.mpr
  intro entry _
  rfl

theorem undangled_posted (entries : List (Ledger.Entry PluginResource)) :
    ∀ event ∈ entries.map PluginEvent.posted, event.isDangled = false := by
  intro event hevent
  obtain ⟨entry, -, rfl⟩ := List.mem_map.mp hevent
  rfl

theorem orderly_releaseHotkeys (hotkeys : List RegisteredHotkey) (held : Multiset PluginResource) :
    Ledger.Orderly Needs (ownedHotkeys hotkeys + held)
      ((ownedHotkeys hotkeys).map .released) held := by
  apply Ledger.orderly_releaseAll
  intro resource hresource other hneeds
  obtain ⟨hotkey, -, rfl⟩ := List.mem_map.mp hresource
  cases other <;> simp [Needs] at hneeds

theorem ownedControls_installed (controls : CaptureControls) (held : Multiset PluginResource) :
    ownedControls (some controls.controlsAdapter) (some controls) + held =
      .captureControls controls.runtime controls.controlsAdapter ::ₘ
        .controlsAdapter controls.controlsAdapter ::ₘ held := by
  unfold ownedControls
  simp only [Option.map_some, Option.toList_some, List.cons_append, List.nil_append]
  rw [← Multiset.cons_coe, ← Multiset.cons_coe, Multiset.coe_nil, Multiset.cons_add,
    Multiset.cons_add, zero_add]

/-- Nothing but the controls needs the adapter. -/
theorem orderly_releaseAdapter (controlsAdapter : Nat) (callback : PluginMain) :
    Ledger.Orderly Needs
      (.controlsAdapter controlsAdapter ::ₘ .runtime address ::ₘ callback.ownedCallback)
      [.released (.controlsAdapter controlsAdapter)]
      (.runtime address ::ₘ callback.ownedCallback) := by
  refine .released _ ?_ (.nil _)
  intro other hother
  rcases Multiset.mem_cons.mp hother with rfl | hother
  · exact id
  · exact not_needs_ownedCallback other hother

/-- The controls go before the adapter. -/
theorem Integrated.orderly_release {controlsAdapter : Option Nat}
    {captureControls : Option CaptureControls}
    (h : Integrated address controlsAdapter captureControls) (callback : PluginMain) :
    Ledger.Orderly Needs
      (ownedControls controlsAdapter captureControls + (.runtime address ::ₘ callback.ownedCallback))
      ((ownedControls controlsAdapter captureControls).map .released)
      (.runtime address ::ₘ callback.ownedCallback) := by
  cases h with
  | absent => simpa [ownedControls] using Ledger.Orderly.nil _
  | installed controls _ _ =>
      rw [ownedControls_installed]
      refine .released _ ?_ (orderly_releaseAdapter _ callback)
      intro other _ hneeds
      cases other <;> simp [Needs] at hneeds

theorem callsOn_stopEvents (boundary : String) (other : Nat) :
    callsOn other (plugin.stopEvents address boundary) =
      if other = address then [.stop, .stop] else [] := by
  unfold stopEvents
  rw [callsOn_append, callsOn_posted, List.nil_append]
  split_ifs with hother
  · subst hother
    simp [callsOn, PluginEvent.callOn]
  · simp [callsOn, PluginEvent.callOn, Ne.symm hother]

theorem Sound.stop_keeps (h : plugin.Sound) (boundary : String) :
    plugin.Keeps (plugin.stopPluginOwnedRuntime boundary) ∧
      (plugin.stopPluginOwnedRuntime boundary).2.Halted := by
  rcases h.shape with hhalted | ⟨address, runtime, hoperating⟩
  · rw [stop_of_halted hhalted]
    exact ⟨h.idle, hhalted⟩
  · rw [stop_of_operating hoperating]
    refine ⟨?_, halted_halt plugin⟩
    constructor
    · exact (halted_halt plugin).sound h.callback h.stage
    · rw [hoperating.owned, (halted_halt plugin).owned, stopEvents, posts_append, posts_posted,
        List.map_append, List.append_assoc]
      apply (orderly_releaseHotkeys _ _).trans
      apply (hoperating.integrated.orderly_release plugin).trans
      exact .released _ not_needs_ownedCallback (.nil _)
    · intro event hevent
      rcases List.mem_append.mp hevent with hposted | hlast
      · exact undangled_posted _ event hposted
      · fin_cases hlast <;> rfl
    · intro other
      rw [callsOn_stopEvents, runtimeAt_of_none (halted_halt plugin).captureRuntime]
      split_ifs with hother
      · subst hother
        rw [runtimeAt_of_some hoperating.captureRuntime]
        exact .stopped runtime
      · rw [runtimeAt_of_ne hoperating.captureRuntime hother]
        exact .absent
    · exact Nat.le_refl _
    · intro other hnone hcalls
      rw [callsOn_stopEvents] at hcalls
      split_ifs at hcalls with hother
      · subst hother
        rw [runtimeAt_of_some hoperating.captureRuntime] at hnone
        cases hnone
      · exact absurd rfl hcalls
    · exact Nat.le_refl _
    · exact Or.inl

/-- What the integration of the controls comes to, whether or not it succeeds. -/
structure Integrates (plugin : PluginMain) (address : Nat) (events : List PluginEvent)
    (controlsAdapter : Option Nat) (captureControls : Option CaptureControls)
    (nextAddress : Nat) : Prop where
  integrated : Integrated address controlsAdapter captureControls
  addresses : plugin.nextAddress ≤ nextAddress
  orderly : Ledger.Orderly Needs (.runtime address ::ₘ plugin.ownedCallback) (posts events)
    (ownedControls controlsAdapter captureControls + (.runtime address ::ₘ plugin.ownedCallback))
  undangled : ∀ event ∈ events, event.isDangled = false
  calls : ∀ other, callsOn other events = []

theorem latched_fresh (controlsAdapter : Nat) :
    CaptureControls.Latched { runtime := address, controlsAdapter := controlsAdapter } :=
  ⟨nofun, nofun, nofun⟩

theorem orderly_acquireAdapter (controlsAdapter : Nat) (held : Multiset PluginResource) :
    Ledger.Orderly Needs held [.acquired (.controlsAdapter controlsAdapter)]
      (.controlsAdapter controlsAdapter ::ₘ held) :=
  .acquired _ (fun _ hneeds => hneeds.elim) (.nil _)

theorem orderly_acquireControls (controls : CaptureControls) (held : Multiset PluginResource) :
    Ledger.Orderly Needs (.runtime controls.runtime ::ₘ held)
      [.acquired (.controlsAdapter controls.controlsAdapter),
        .acquired (.captureControls controls.runtime controls.controlsAdapter)]
      (ownedControls (some controls.controlsAdapter) (some controls) +
        (.runtime controls.runtime ::ₘ held)) := by
  rw [ownedControls_installed]
  apply (orderly_acquireAdapter _ _).trans
  refine .acquired _ ?_ (.nil _)
  rintro other (rfl | rfl)
  · exact Multiset.mem_cons_of_mem (Multiset.mem_cons_self _ _)
  · exact Multiset.mem_cons_self _ _

theorem integrateControls_integrates (hadapter : plugin.controlsAdapter = none)
    (hcontrols : plugin.captureControls = none) (integration : UiIntegration) :
    ∃ events controlsAdapter captureControls nextAddress,
      plugin.integrateControls address integration = (events, { plugin with
        controlsAdapter := controlsAdapter, captureControls := captureControls
        nextAddress := nextAddress }) ∧
      plugin.Integrates address events controlsAdapter captureControls nextAddress := by
  have hadapterOnly : Ledger.Orderly Needs (.runtime address ::ₘ plugin.ownedCallback)
      [.acquired (.controlsAdapter plugin.nextAddress),
        .released (.controlsAdapter plugin.nextAddress)]
      (.runtime address ::ₘ plugin.ownedCallback) :=
    (orderly_acquireAdapter _ _).trans (orderly_releaseAdapter _ plugin)
  have hboth : Ledger.Orderly Needs (.runtime address ::ₘ plugin.ownedCallback)
      [.acquired (.controlsAdapter plugin.nextAddress),
        .acquired (.captureControls address plugin.nextAddress),
        .released (.captureControls address plugin.nextAddress),
        .released (.controlsAdapter plugin.nextAddress)]
      (.runtime address ::ₘ plugin.ownedCallback) :=
    (orderly_acquireControls { runtime := address, controlsAdapter := plugin.nextAddress } _).trans
      ((Integrated.installed _ rfl (latched_fresh _)).orderly_release plugin)
  unfold integrateControls
  simp only [dropControls_eq]
  cases integration with
  | adapterThrows =>
      refine ⟨[.integrationFailed], none, none, plugin.nextAddress, ?_, .absent, Nat.le_refl _,
        ?_, by simp [PluginEvent.isDangled], fun _ => rfl⟩
      · rw [← hadapter, ← hcontrols]
      · simpa [ownedControls, posts, List.filterMap_cons, PluginEvent.entry]
          using Ledger.Orderly.nil _
  | locateThrows | controlsThrow | notLocated =>
      refine ⟨_, none, none, plugin.nextAddress + 1, rfl, .absent, Nat.le_succ _, ?_, ?_, ?_⟩
      · simpa [hcontrols, ownedControls, posts, List.filterMap_cons, PluginEvent.entry]
          using hadapterOnly
      · simp [hcontrols, ownedControls, PluginEvent.isDangled]
      · simp [hcontrols, ownedControls, callsOn, PluginEvent.callOn]
  | installThrows | notInstalled =>
      refine ⟨_, none, none, plugin.nextAddress + 1, rfl, .absent, Nat.le_succ _, ?_, ?_, ?_⟩
      · simpa [ownedControls, posts, List.filterMap_cons, PluginEvent.entry] using hboth
      · simp [ownedControls, PluginEvent.isDangled]
      · simp [ownedControls, callsOn, PluginEvent.callOn]
  | installed =>
      refine ⟨_, _, _, _, rfl, ?_, Nat.le_succ _, ?_, ?_, fun _ => rfl⟩
      · exact .installed _ rfl (CaptureControls.latched_install address plugin.nextAddress)
      · exact orderly_acquireControls (CaptureControls.install
          { runtime := address, controlsAdapter := plugin.nextAddress }) _
      · simp [PluginEvent.isDangled]

/-- What is registered are the hotkeys that OBS takes, for the runtime at the address. -/
theorem registerPluginHotkeys_registers (hruntime : plugin.captureRuntime = some (address, runtime))
    (hhotkeys : plugin.hotkeys = []) (registers : HotkeyKind → Bool) :
    ∃ recordingHotkeys replayHotkeys saveReplayHotkey nextHotkey,
      let hotkeys := hotkeysOf recordingHotkeys replayHotkeys saveReplayHotkey address
      plugin.registerPluginHotkeys registers =
        (((ownedHotkeys hotkeys).map .acquired).map .posted, { plugin with
          recordingHotkeys := recordingHotkeys, replayHotkeys := replayHotkeys
          saveReplayHotkey := saveReplayHotkey, hotkeys := hotkeys, nextHotkey := nextHotkey }) ∧
      (hotkeys.map RegisteredHotkey.id).Nodup := by
  let second := plugin.nextHotkey + (registers .recording).toNat
  let third := second + (registers .replay).toNat
  refine ⟨if registers .recording then some plugin.nextHotkey else none,
    if registers .replay then some second else none,
    if registers .saveReplay then some third else none,
    third + (registers .saveReplay).toNat, ?_⟩
  unfold registerPluginHotkeys registerHotkey
  cases hrecording : registers .recording <;> cases hreplay : registers .replay <;>
    cases hsave : registers .saveReplay <;>
    simp [hotkeysOf, ownedHotkeys, hhotkeys, hruntime, second, third, hrecording, hreplay,
      Nat.add_assoc]

theorem orderly_acquireHotkeys {hotkeys : List RegisteredHotkey} {held : Multiset PluginResource}
    (h : ∀ hotkey ∈ hotkeys, .runtime hotkey.data ∈ held) :
    Ledger.Orderly Needs held ((ownedHotkeys hotkeys).map .acquired)
      (ownedHotkeys hotkeys + held) := by
  apply Ledger.orderly_acquireAll
  intro resource hresource other hneeds
  obtain ⟨hotkey, hhotkey, rfl⟩ := List.mem_map.mp hresource
  obtain rfl : other = .runtime hotkey.data := hneeds
  exact h hotkey hhotkey

theorem data_of_mem_hotkeysOf {recordingHotkeys replayHotkeys saveReplayHotkey : Option Nat}
    {hotkey : RegisteredHotkey}
    (h : hotkey ∈ hotkeysOf recordingHotkeys replayHotkeys saveReplayHotkey address) :
    hotkey.data = address := by
  simp only [hotkeysOf, List.mem_append, Option.mem_toList, Option.map_eq_some_iff] at h
  rcases h with (⟨_, -, rfl⟩ | ⟨_, -, rfl⟩) | ⟨_, -, rfl⟩ <;> rfl

/-- A runtime that does not initialize is destroyed at once. -/
theorem Sound.start_rejected (h : plugin.Sound) (hnone : plugin.captureRuntime = none)
    (discovered : List DiscoveredScene) (rebuild : Rebuild) :
    plugin.Keeps ([.posted (.acquired (.runtime plugin.nextAddress)),
        .called plugin.nextAddress (.initializeRuntime discovered rebuild), .initializationFailed,
        .called plugin.nextAddress .stop, .posted (.released (.runtime plugin.nextAddress))],
      { plugin with nextAddress := plugin.nextAddress + 1 }) := by
  have hhalted := h.halted hnone
  have hafter : Halted { plugin with nextAddress := plugin.nextAddress + 1 } :=
    ⟨hhalted.captureRuntime, hhalted.captureControls, hhalted.controlsAdapter,
      hhalted.recordingHotkeys, hhalted.replayHotkeys, hhalted.saveReplayHotkey, hhalted.hotkeys⟩
  constructor
  · exact hafter.sound h.callback h.stage
  · rw [hhalted.owned, hafter.owned]
    exact .acquired _ (fun _ hneeds => hneeds.elim) (.released _ not_needs_ownedCallback (.nil _))
  · simp [PluginEvent.isDangled]
  · intro address
    rw [runtimeAt_of_none hnone, runtimeAt_of_none hafter.captureRuntime]
    by_cases hborn : plugin.nextAddress = address
    · simpa [callsOn, List.filterMap_cons, PluginEvent.callOn, hborn] using
        Life.rejected discovered rebuild
    · simpa [callsOn, List.filterMap_cons, PluginEvent.callOn, hborn] using Life.absent
  · exact Nat.le_succ _
  · intro address _ hcalls
    by_cases hborn : plugin.nextAddress = address
    · exact ⟨Nat.le_of_eq hborn, Nat.lt_succ_of_le (Nat.le_of_eq hborn.symm)⟩
    · simp [callsOn, List.filterMap_cons, PluginEvent.callOn, hborn] at hcalls
  · exact Nat.le_refl _
  · exact Or.inl

/-- A runtime that does initialize is there with its hotkeys, whether or not the controls are. -/
theorem Sound.start_operating (h : plugin.Sound) (hnone : plugin.captureRuntime = none)
    (hshutdown : plugin.shutdownRequested = false)
    (hregistered : plugin.frontendRegistered = true) {readings : StartReadings}
    {controls : List PluginEvent} {controlsAdapter : Option Nat}
    {captureControls : Option CaptureControls} {nextAddress : Nat}
    {recordingHotkeys replayHotkeys saveReplayHotkey : Option Nat} {nextHotkey : Nat}
    {hotkeys : List RegisteredHotkey} {answer : PluginEvent}
    (hruntime : PluginCaptureRuntime.initializeRuntime
      { replayConfiguration := readings.profile } readings.discovered readings.rebuild =
        (true, runtime))
    (hcontrols : Integrates { plugin with
      captureRuntime := some (plugin.nextAddress, runtime), nextAddress := plugin.nextAddress + 1 }
      plugin.nextAddress controls controlsAdapter captureControls nextAddress)
    (hhotkeys : hotkeys =
      hotkeysOf recordingHotkeys replayHotkeys saveReplayHotkey plugin.nextAddress)
    (hdistinct : (hotkeys.map RegisteredHotkey.id).Nodup) (hanswer : answer.isLog = true) :
    plugin.Keeps ([.posted (.acquired (.runtime plugin.nextAddress)),
        .called plugin.nextAddress
          (.initializeRuntime readings.discovered readings.rebuild)] ++ controls ++
        ((ownedHotkeys hotkeys).map .acquired).map .posted ++ [answer],
      { plugin with
        captureRuntime := some (plugin.nextAddress, runtime), controlsAdapter := controlsAdapter
        captureControls := captureControls, recordingHotkeys := recordingHotkeys
        replayHotkeys := replayHotkeys, saveReplayHotkey := saveReplayHotkey, hotkeys := hotkeys
        nextHotkey := nextHotkey, nextAddress := nextAddress }) := by
  have hhalted := h.halted hnone
  have hserving : runtime.Serving := by
    have hstep := (PluginCaptureRuntime.serving_new readings.profile).step
      (.initializeRuntime readings.discovered readings.rebuild) nofun
    simpa [PluginCaptureRuntime.step, hruntime] using hstep
  have hoperating : Operating { plugin with
      captureRuntime := some (plugin.nextAddress, runtime), controlsAdapter := controlsAdapter
      captureControls := captureControls, recordingHotkeys := recordingHotkeys
      replayHotkeys := replayHotkeys, saveReplayHotkey := saveReplayHotkey, hotkeys := hotkeys
      nextHotkey := nextHotkey, nextAddress := nextAddress } plugin.nextAddress runtime :=
    ⟨rfl, hcontrols.addresses, hshutdown, hregistered, hhotkeys, hdistinct, hcontrols.integrated,
      hserving⟩
  have hlog (other : Nat) : callsOn other [answer] = [] :=
    callsOn_logs (List.forall_mem_singleton.mpr hanswer)
  constructor
  · exact hoperating.sound h.callback h.stage
  · rw [hhalted.owned, hoperating.owned, posts_append, posts_append, posts_append,
      posts_logs (List.forall_mem_singleton.mpr hanswer), List.append_nil, posts_posted]
    refine Ledger.Orderly.trans ?_ (orderly_acquireHotkeys ?_)
    · exact .acquired _ (fun _ hneeds => hneeds.elim) hcontrols.orderly
    · intro hotkey hhotkey
      rw [hhotkeys] at hhotkey
      rw [data_of_mem_hotkeysOf hhotkey]
      simp
  · simp only [List.forall_mem_append, List.forall_mem_singleton]
    refine ⟨⟨⟨?_, hcontrols.undangled⟩, undangled_posted _⟩, ?_⟩
    · simp [PluginEvent.isDangled]
    · cases answer <;> first | rfl | cases hanswer
  · intro address
    rw [runtimeAt_of_none hnone, callsOn_append, callsOn_append, callsOn_append,
      hcontrols.calls, callsOn_posted, hlog]
    by_cases hborn : address = plugin.nextAddress
    · subst hborn
      rw [runtimeAt_of_some hoperating.captureRuntime]
      have hstarted := Life.started readings.profile readings.discovered readings.rebuild
      simpa [callsOn, List.filterMap_cons, PluginEvent.callOn, PluginCaptureRuntime.step,
        hruntime] using hstarted
    · rw [runtimeAt_of_ne hoperating.captureRuntime hborn]
      simpa [callsOn, List.filterMap_cons, PluginEvent.callOn, Ne.symm hborn] using Life.absent
  · exact (Nat.le_succ _).trans hcontrols.addresses
  · intro address _ hcalls
    by_cases hborn : address = plugin.nextAddress
    · subst hborn
      exact ⟨Nat.le_refl _, hcontrols.addresses⟩
    · rw [callsOn_append, callsOn_append, callsOn_append, hcontrols.calls, callsOn_posted,
        hlog] at hcalls
      simp [callsOn, List.filterMap_cons, PluginEvent.callOn, Ne.symm hborn] at hcalls
  · exact Nat.le_refl _
  · exact Or.inl

theorem Sound.start_keeps (h : plugin.Sound) (hregistered : plugin.frontendRegistered = true)
    (readings : StartReadings) : plugin.Keeps (plugin.startPluginOwnedRuntime readings) := by
  unfold startPluginOwnedRuntime
  split_ifs with hidle
  · exact h.idle
  · rw [not_or, Bool.not_eq_true, Bool.not_eq_true, Option.isSome_eq_false_iff,
      Option.isNone_iff_eq_none] at hidle
    obtain ⟨hshutdown, hnone⟩ := hidle
    have hhalted := h.halted hnone
    dsimp only
    rcases hinitialized : PluginCaptureRuntime.initializeRuntime
      { replayConfiguration := readings.profile } readings.discovered readings.rebuild with
      ⟨_ | _, runtime⟩
    · exact h.start_rejected hnone readings.discovered readings.rebuild
    · obtain ⟨controls, controlsAdapter, captureControls, nextAddress, hintegrated, hcontrols⟩ :=
        @integrateControls_integrates { plugin with
          captureRuntime := some (plugin.nextAddress, runtime)
          nextAddress := plugin.nextAddress + 1 } plugin.nextAddress hhalted.controlsAdapter
          hhalted.captureControls readings.integration
      obtain ⟨recordingHotkeys, replayHotkeys, saveReplayHotkey, nextHotkey, hregisters,
          hdistinct⟩ :=
        @registerPluginHotkeys_registers { plugin with
          captureRuntime := some (plugin.nextAddress, runtime), controlsAdapter := controlsAdapter
          captureControls := captureControls, nextAddress := nextAddress } plugin.nextAddress
          runtime rfl hhalted.hotkeys readings.registers
      rw [if_neg (by simp)]
      rw [hintegrated]
      dsimp only
      rw [hregisters]
      exact h.start_operating hnone hshutdown hregistered hinitialized hcontrols rfl hdistinct rfl

end PluginMain

end ObsSyncReplay
