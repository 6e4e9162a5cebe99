import ObsSyncReplay.Control.RuntimeCommands
import ObsSyncReplay.Lib.Ledger

/-!
What the runtime holds of the scenes: the references that a discovery takes, and of each scene
target its source, its view and the video of the view, which the engine reads. A reference that is
handed on is given up by the one that had it and taken by the next.
-/

namespace ObsSyncReplay

open Ledger

/-- `found` is the reference of a discovered scene and `source` that of a target. A video is
`captured` for as long as there is a control state that reads it. -/
inductive SceneHold where
  | found (uuid : String)
  | source (uuid : String)
  | view (uuid : String)
  | video (uuid : String)
  | captured (uuid : String)
deriving DecidableEq

/-- What has to be there for as long as something is. -/
def SceneHold.Needs : SceneHold → SceneHold → Prop
  | .found _, _ => False
  | .source _, _ => False
  | .view uuid, other => other = .source uuid
  | .video uuid, other => other = .view uuid
  | .captured uuid, other => other = .video uuid

namespace PluginCaptureRuntime

/-- `DiscoverObsScenes`. -/
def discoverEntries (discovered : List DiscoveredScene) : List (Entry SceneHold) :=
  discovered.map (fun scene => .acquired (.found scene.uuid))

/-- The destruction of discovered scenes. -/
def forgetEntries (discovered : List DiscoveredScene) : List (Entry SceneHold) :=
  discovered.map (fun scene => .released (.found scene.uuid))

/-- One round of `ResetSceneTargets`. -/
def resetTarget (target : SceneTopologyEntry) : List (Entry SceneHold) :=
  [.released (.video target.identity.key), .released (.view target.identity.key),
    .released (.source target.identity.key)]

def resetEntries (scenes : List SceneTopologyEntry) : List (Entry SceneHold) :=
  scenes.flatMap resetTarget

/-- A scene gets its target. -/
def takeTarget (uuid : String) : List (Entry SceneHold) :=
  [.released (.found uuid), .acquired (.source uuid), .acquired (.view uuid),
    .acquired (.video uuid)]

/-- A scene does not get its target: there is no view, or a view that gets no video. -/
def giveUpTarget (uuid : String) (viewMade : Bool) : List (Entry SceneHold) :=
  [.released (.found uuid), .acquired (.source uuid)] ++
    (if viewMade then [.acquired (.view uuid), .released (.view uuid)] else []) ++
    [.released (.source uuid)]

/-- The loop of `InstallSceneTargets`. -/
def installEntries (entries : List SceneTopologyEntry) (views : Nat → Bool) (viewMade : Bool) :
    List DiscoveredScene → List SceneTopologyEntry → List (Entry SceneHold)
  | [], _ => []
  | discovered :: rest, scenes =>
      match entries.find? (fun candidate =>
          candidate.identity.kind = .scene ∧ candidate.identity.key = discovered.uuid) with
      | none => installEntries entries views viewMade rest scenes
      | some entry =>
          if scenes.any (fun target => target.identity = entry.identity) then
            installEntries entries views viewMade rest scenes
          else if views scenes.length then
            takeTarget discovered.uuid ++
              installEntries entries views viewMade rest (scenes ++ [entry])
          else giveUpTarget discovered.uuid viewMade ++ resetEntries scenes

/-- The scenes of which the loop leaves the reference where it is. -/
def leftOver (entries : List SceneTopologyEntry) (views : Nat → Bool) :
    List DiscoveredScene → List SceneTopologyEntry → List DiscoveredScene
  | [], _ => []
  | discovered :: rest, scenes =>
      match entries.find? (fun candidate =>
          candidate.identity.kind = .scene ∧ candidate.identity.key = discovered.uuid) with
      | none => discovered :: leftOver entries views rest scenes
      | some entry =>
          if scenes.any (fun target => target.identity = entry.identity) then
            discovered :: leftOver entries views rest scenes
          else if views scenes.length then leftOver entries views rest (scenes ++ [entry])
          else rest

/-- `InstallSceneTargets`. The scenes that are left over go with its argument. -/
def installSceneEntries (runtime : PluginCaptureRuntime) (discovered : List DiscoveredScene)
    (rebuild : Rebuild) (viewMade : Bool) : List (Entry SceneHold) :=
  resetEntries runtime.scenes ++
    installEntries runtime.topologyModel.current.streams rebuild.views viewMade discovered [] ++
    forgetEntries (leftOver runtime.topologyModel.current.streams rebuild.views discovered [])

/-- The videos of scenes that a control state for these streams reads. -/
def capturedOf (streams : List ConfiguredStream) : List SceneHold :=
  (streams.filter (fun stream =>
    stream.mode ≠ .disabled ∧ stream.identity.kind = .scene)).map
      (fun stream => .captured stream.identity.key)

def captured (runtime : PluginCaptureRuntime) : List SceneHold :=
  (runtime.control.map (fun engine => capturedOf engine.configuration.streams)).getD []

/-- The end of a control state. -/
def dropEntries (runtime : PluginCaptureRuntime) : List (Entry SceneHold) :=
  runtime.captured.map .released

/-- `BuildControlState`. A control state that does not come up is dropped again. -/
def buildEntries (runtime : PluginCaptureRuntime) (rebuild : Rebuild) : List (Entry SceneHold) :=
  match runtime.topologyModel.current.streams.mapM (configuredStream runtime.scenes rebuild) with
  | none => []
  | some streams =>
      (capturedOf streams).map .acquired ++
        if (runtime.buildControlState rebuild).1 then [] else (capturedOf streams).map .released

def rebuildEntries (runtime : PluginCaptureRuntime) (discovered : List DiscoveredScene)
    (rebuild : Rebuild) (viewMade : Bool) : List (Entry SceneHold) :=
  runtime.dropEntries ++ runtime.installSceneEntries discovered rebuild viewMade ++
    match { runtime with control := none }.installSceneTargets discovered rebuild with
    | (false, _) => []
    | (true, runtime) => runtime.buildEntries rebuild

def finishEntries (runtime : PluginCaptureRuntime) (rebuild : Rebuild) (viewMade : Bool) :
    List (Entry SceneHold) :=
  match runtime.control with
  | none => []
  | some engine =>
      if engine.recordingState ≠ .off ∨ engine.replayState ≠ .off ∨
          !runtime.topologyModel.captureEpochActive then []
      else
        match runtime.topologyModel.endCaptureEpoch with
        | (none, _) => []
        | (some _, model) =>
            if !runtime.topologyModel.hasPending then []
            else
              { runtime with topologyModel := model, pendingScenes := [] }.rebuildEntries
                runtime.pendingScenes rebuild viewMade

def applyEntries (runtime : PluginCaptureRuntime) (configuration : ReplayConfiguration)
    (rebuild : Rebuild) (viewMade : Bool) : List (Entry SceneHold) :=
  if runtime.replayConfiguration = configuration then []
  else
    match runtime.control with
    | none => []
    | some engine =>
        { runtime with
          replayConfiguration := configuration
          control := some (engine.applyReplayConfiguration configuration).2 }.finishEntries rebuild
            viewMade

/-- `Stop`. -/
def stopEntries (runtime : PluginCaptureRuntime) : List (Entry SceneHold) :=
  runtime.dropEntries ++ resetEntries runtime.scenes ++ forgetEntries runtime.pendingScenes

def initializeEntries (runtime : PluginCaptureRuntime) (discovered : List DiscoveredScene)
    (rebuild : Rebuild) (viewMade : Bool) : List (Entry SceneHold) :=
  if runtime.control.isSome then []
  else
    let initial := { runtime with
      topologyModel := (runtime.topologyModel.applyDiscovery discovered false).2
      pendingScenes := [] }
    discoverEntries discovered ++ forgetEntries runtime.pendingScenes ++
      initial.installSceneEntries discovered rebuild viewMade ++
      match initial.installSceneTargets discovered rebuild with
      | (false, runtime) => runtime.stopEntries
      | (true, runtime) =>
          runtime.buildEntries rebuild ++
            match runtime.buildControlState rebuild with
            | (false, runtime) => runtime.stopEntries
            | (true, _) => []

def refreshEntries (runtime : PluginCaptureRuntime) (discovered : List DiscoveredScene)
    (rebuild : Rebuild) (viewMade : Bool) : List (Entry SceneHold) :=
  if runtime.control.isNone then []
  else
    discoverEntries discovered ++
      match runtime.topologyModel.applyDiscovery discovered
          runtime.topologyModel.captureEpochActive with
      | (.unchanged, _) => forgetEntries discovered
      | (_, model) =>
          if runtime.topologyModel.captureEpochActive then forgetEntries runtime.pendingScenes
          else
            { runtime with topologyModel := model }.rebuildEntries discovered rebuild viewMade

/-- A call, and of a target that cannot be had, whether its view was made. -/
structure TargetCall where
  call : Call
  viewMade : Bool := false

def stepTargets (runtime : PluginCaptureRuntime) (input : TargetCall) :
    Answer × PluginCaptureRuntime :=
  runtime.step input.call

abbrev TargetTransition := Runs.Transition PluginCaptureRuntime TargetCall Answer

/-- What a call takes and gives back, in order. -/
def entriesOf (runtime : PluginCaptureRuntime) (input : TargetCall) : List (Entry SceneHold) :=
  match input.call with
  | .initializeRuntime discovered rebuild =>
      runtime.initializeEntries discovered rebuild input.viewMade
  | .stopRecording recorded rebuild =>
      match runtime.control with
      | none => []
      | some engine =>
          { runtime with control := some (engine.stopRecording recorded).2 }.finishEntries rebuild
            input.viewMade
  | .stopReplay rebuild =>
      match runtime.control with
      | none => []
      | some engine =>
          { runtime with control := some engine.stopReplay.2 }.finishEntries rebuild input.viewMade
  | .startReplay profile rebuild => runtime.applyEntries profile rebuild input.viewMade
  | .saveReplay profile rebuild _ _ => runtime.applyEntries profile rebuild input.viewMade
  | .applyReplayConfiguration configuration rebuild =>
      runtime.applyEntries configuration rebuild input.viewMade
  | .refreshReplayConfiguration profile rebuild =>
      runtime.applyEntries profile rebuild input.viewMade
  | .refreshSceneTopology discovered rebuild =>
      runtime.refreshEntries discovered rebuild input.viewMade
  | .stop => runtime.stopEntries
  | .startRecording _ _ => []
  | .pollReplaySave => []
  | .ingest _ _ _ => []
  | .saveFinishes => []

/-- What it holds between two calls. -/
def targetKeys (scenes : List SceneTopologyEntry) : List SceneHold :=
  scenes.flatMap (fun target => [.video target.identity.key, .view target.identity.key,
    .source target.identity.key])

def foundKeys (discovered : List DiscoveredScene) : List SceneHold :=
  discovered.map (fun scene => .found scene.uuid)

def held (runtime : PluginCaptureRuntime) : Multiset SceneHold :=
  (runtime.captured : Multiset SceneHold) + (targetKeys runtime.scenes +
    foundKeys runtime.pendingScenes)

def keysOf (scenes : List SceneTopologyEntry) : List String :=
  scenes.map (fun target => target.identity.key)

/-- The targets are of scenes, each of another one. -/
structure Distinct (scenes : List SceneTopologyEntry) : Prop where
  nodup : (keysOf scenes).Nodup
  kind : ∀ target ∈ scenes, target.identity.kind = .scene

/-- Nothing but references that were found. -/
def OnlyFound (held : Multiset SceneHold) : Prop := ∀ hold ∈ held, ∃ uuid, hold = .found uuid

variable {runtime : PluginCaptureRuntime} {scenes : List SceneTopologyEntry}
  {held : Multiset SceneHold} {hold other : SceneHold} {uuid : String}

theorem distinct_nil : Distinct [] := ⟨List.nodup_nil, List.forall_mem_nil _⟩

theorem Distinct.notMem_keysOf (h : Distinct scenes) {entry : SceneTopologyEntry}
    (hkind : entry.identity.kind = .scene)
    (hnew : ¬scenes.any (fun target => target.identity = entry.identity) = true) :
    entry.identity.key ∉ keysOf scenes := by
  intro hkey
  obtain ⟨target, htarget, hsame⟩ := List.mem_map.mp hkey
  apply hnew
  rw [List.any_eq_true]
  refine ⟨target, htarget, decide_eq_true ?_⟩
  have hkinds := (h.kind target htarget).trans hkind.symm
  cases hidentity : target.identity
  cases hidentity' : entry.identity
  simp_all

theorem Distinct.concat (h : Distinct scenes) {entry : SceneTopologyEntry}
    (hkind : entry.identity.kind = .scene) (hnew : entry.identity.key ∉ keysOf scenes) :
    Distinct (scenes ++ [entry]) := by
  constructor
  · rw [keysOf, List.map_append, List.map_singleton, List.nodup_append]
    exact ⟨h.nodup, List.nodup_singleton _, by simpa [keysOf] using hnew⟩
  · rw [List.forall_mem_append, List.forall_mem_singleton]
    exact ⟨h.kind, hkind⟩

theorem onlyFound_zero : OnlyFound 0 := fun hold hhold => absurd hhold (Multiset.notMem_zero hold)

theorem OnlyFound.cons (h : OnlyFound held) (uuid : String) : OnlyFound (.found uuid ::ₘ held) := by
  intro hold hhold
  rcases Multiset.mem_cons.mp hhold with rfl | hhold
  · exact ⟨uuid, rfl⟩
  · exact h hold hhold

theorem OnlyFound.found (h : OnlyFound held) (discovered : List DiscoveredScene) :
    OnlyFound (foundKeys discovered + held) := by
  intro hold hhold
  rcases Multiset.mem_add.mp hhold with hfound | hhold
  · obtain ⟨scene, -, rfl⟩ := List.mem_map.mp (Multiset.mem_coe.mp hfound)
    exact ⟨scene.uuid, rfl⟩
  · exact h hold hhold

theorem onlyFound_foundKeys (discovered : List DiscoveredScene) :
    OnlyFound (foundKeys discovered) := by
  simpa using onlyFound_zero.found discovered

theorem mem_targetKeys : hold ∈ targetKeys scenes ↔ ∃ target ∈ scenes,
    hold = .video target.identity.key ∨ hold = .view target.identity.key ∨
      hold = .source target.identity.key := by
  simp [targetKeys]

theorem targetKeys_cons (target : SceneTopologyEntry) :
    (targetKeys (target :: scenes) + held : Multiset SceneHold) =
      .video target.identity.key ::ₘ .view target.identity.key ::ₘ
        .source target.identity.key ::ₘ ((targetKeys scenes : Multiset SceneHold) + held) := by
  simp [targetKeys, ← Multiset.cons_coe, Multiset.cons_add]

theorem targetKeys_concat (target : SceneTopologyEntry) :
    (targetKeys (scenes ++ [target]) + held : Multiset SceneHold) =
      .video target.identity.key ::ₘ .view target.identity.key ::ₘ
        .source target.identity.key ::ₘ ((targetKeys scenes : Multiset SceneHold) + held) := by
  have hkeys : targetKeys (scenes ++ [target]) = targetKeys scenes ++ targetKeys [target] :=
    List.flatMap_append
  rw [hkeys, ← Multiset.coe_add, add_comm (targetKeys scenes : Multiset SceneHold), add_assoc,
    targetKeys_cons]
  simp [targetKeys]

theorem foundKeys_cons (scene : DiscoveredScene) (discovered : List DiscoveredScene) :
    (foundKeys (scene :: discovered) + held : Multiset SceneHold) =
      (foundKeys discovered : Multiset SceneHold) + (.found scene.uuid ::ₘ held) := by
  simp [foundKeys, ← Multiset.cons_coe, Multiset.cons_add, Multiset.add_cons]

/-- Between targets and references only the sources and the views of the targets are needed. -/
theorem needs_of_mem (hfound : OnlyFound held)
    (hhold : hold ∈ (targetKeys scenes + held : Multiset SceneHold)) (hneeds : hold.Needs other) :
    ∃ uuid ∈ keysOf scenes, other = .source uuid ∨ other = .view uuid := by
  rw [Multiset.mem_add, Multiset.mem_coe, mem_targetKeys] at hhold
  rcases hhold with ⟨target, htarget, rfl | rfl | rfl⟩ | hheld
  · exact ⟨_, List.mem_map_of_mem htarget, Or.inr hneeds⟩
  · exact ⟨_, List.mem_map_of_mem htarget, Or.inl hneeds⟩
  · exact hneeds.elim
  · obtain ⟨uuid, rfl⟩ := hfound hold hheld
    exact hneeds.elim

theorem not_needs_of_new (hfound : OnlyFound held) (hnew : uuid ∉ keysOf scenes)
    (hhold : hold ∈ (targetKeys scenes + held : Multiset SceneHold)) :
    ¬hold.Needs (.view uuid) ∧ ¬hold.Needs (.source uuid) ∧ ¬hold.Needs (.video uuid) := by
  refine ⟨fun hneeds => ?_, fun hneeds => ?_, fun hneeds => ?_⟩ <;>
    obtain ⟨known, hknown, hsame | hsame⟩ := needs_of_mem hfound hhold hneeds <;>
    cases hsame <;> exact hnew hknown

theorem not_needs_found : ¬hold.Needs (.found uuid) := by
  cases hold <;> simp [SceneHold.Needs]

theorem not_needs_captured : ¬hold.Needs (.captured uuid) := by
  cases hold <;> simp [SceneHold.Needs]

theorem orderly_reset (hfound : OnlyFound held) (hnodup : (keysOf scenes).Nodup) :
    Orderly SceneHold.Needs (targetKeys scenes + held) (resetEntries scenes) held := by
  induction scenes with
  | nil => simpa [targetKeys, resetEntries] using Orderly.nil held
  | cons target rest ih =>
      rw [keysOf, List.map_cons, List.nodup_cons] at hnodup
      obtain ⟨hnew, hrest⟩ := hnodup
      rw [targetKeys_cons]
      have hvideo : ∀ hold ∈ (targetKeys rest + held : Multiset SceneHold),
          ¬hold.Needs (.video target.identity.key) :=
        fun hold hhold => (not_needs_of_new hfound hnew hhold).2.2
      have hview : ∀ hold ∈ (targetKeys rest + held : Multiset SceneHold),
          ¬hold.Needs (.view target.identity.key) :=
        fun hold hhold => (not_needs_of_new hfound hnew hhold).1
      have hsource : ∀ hold ∈ (targetKeys rest + held : Multiset SceneHold),
          ¬hold.Needs (.source target.identity.key) :=
        fun hold hhold => (not_needs_of_new hfound hnew hhold).2.1
      refine .released _ ?_ (.released _ ?_ (.released _ hsource (ih hrest)))
      · rw [Multiset.forall_mem_cons, Multiset.forall_mem_cons]
        refine ⟨?_, ?_, hvideo⟩
        · rintro ⟨⟩
        · rintro ⟨⟩
      · rw [Multiset.forall_mem_cons]
        refine ⟨?_, hview⟩
        rintro ⟨⟩

theorem orderly_takeTarget (uuid : String) (held : Multiset SceneHold) :
    Orderly SceneHold.Needs (.found uuid ::ₘ held) (takeTarget uuid)
      (.video uuid ::ₘ .view uuid ::ₘ .source uuid ::ₘ held) := by
  refine .released _ (fun _ _ => not_needs_found) (.acquired _ (fun _ hneeds => hneeds.elim)
    (.acquired _ ?_ (.acquired _ ?_ (.nil _))))
  · rintro other rfl
    exact Multiset.mem_cons_self _ _
  · rintro other rfl
    exact Multiset.mem_cons_self _ _

theorem orderly_giveUpTarget (hview : ∀ hold ∈ held, ¬hold.Needs (.view uuid))
    (hsource : ∀ hold ∈ held, ¬hold.Needs (.source uuid)) (viewMade : Bool) :
    Orderly SceneHold.Needs (.found uuid ::ₘ held) (giveUpTarget uuid viewMade) held := by
  refine .released _ (fun _ _ => not_needs_found) (.acquired _ (fun _ hneeds => hneeds.elim) ?_)
  cases viewMade with
  | false => exact .released _ hsource (.nil _)
  | true =>
      refine .acquired _ ?_ (.released _ ?_ (.released _ hsource (.nil _)))
      · rintro other rfl
        exact Multiset.mem_cons_self _ _
      · intro hold hhold
        rcases Multiset.mem_cons.mp hhold with rfl | hhold
        · exact fun hneeds => hneeds
        · exact hview hold hhold

theorem orderly_forget (discovered : List DiscoveredScene) (held : Multiset SceneHold) :
    Orderly SceneHold.Needs (foundKeys discovered + held) (forgetEntries discovered) held := by
  have hfree : ∀ hold ∈ foundKeys discovered, ∀ other, ¬SceneHold.Needs other hold := by
    intro hold hhold other
    obtain ⟨scene, -, rfl⟩ := List.mem_map.mp hhold
    exact not_needs_found
  have hreleased := orderly_releaseAll (foundKeys discovered) held hfree
  rwa [foundKeys, List.map_map] at hreleased

theorem orderly_discover (discovered : List DiscoveredScene) (held : Multiset SceneHold) :
    Orderly SceneHold.Needs held (discoverEntries discovered) (foundKeys discovered + held) := by
  have hneeds : ∀ hold ∈ foundKeys discovered, ∀ other, hold.Needs other → other ∈ held := by
    intro hold hhold other hneeds
    obtain ⟨scene, -, rfl⟩ := List.mem_map.mp hhold
    exact hneeds.elim
  have hacquired := orderly_acquireAll (foundKeys discovered) held hneeds
  rwa [foundKeys, List.map_map] at hacquired

section Install

variable {entries : List SceneTopologyEntry} {views : Nat → Bool}

/-- What the loop has installed, and what it leaves over. -/
theorem orderly_install (viewMade : Bool) (discovered : List DiscoveredScene)
    (hdistinct : Distinct scenes) (hfound : OnlyFound held) :
    Orderly SceneHold.Needs (targetKeys scenes + (foundKeys discovered + held))
        (installEntries entries views viewMade discovered scenes)
        (targetKeys ((installTargets entries views discovered scenes).getD []) +
          (foundKeys (leftOver entries views discovered scenes) + held)) ∧
      Distinct ((installTargets entries views discovered scenes).getD []) := by
  induction discovered generalizing scenes held with
  | nil => exact ⟨.nil _, hdistinct⟩
  | cons scene rest ih =>
      unfold installEntries installTargets leftOver
      simp only [Bool.decide_and]
      cases hfind : entries.find? (fun candidate =>
        decide (candidate.identity.kind = .scene) &&
          decide (candidate.identity.key = scene.uuid)) with
      | none =>
          dsimp only
          rw [foundKeys_cons, foundKeys_cons]
          exact ih hdistinct (hfound.cons scene.uuid)
      | some entry =>
          have hmatches := List.find?_some hfind
          rw [Bool.and_eq_true, decide_eq_true_eq, decide_eq_true_eq] at hmatches
          obtain ⟨hkind, hkey⟩ := hmatches
          dsimp only
          split_ifs with hknown hview
          · rw [foundKeys_cons, foundKeys_cons]
            exact ih hdistinct (hfound.cons scene.uuid)
          · have hnew := hdistinct.notMem_keysOf hkind hknown
            have hrest := ih (hdistinct.concat hkind hnew) hfound
            rw [targetKeys_concat, hkey] at hrest
            refine ⟨?_, hrest.2⟩
            rw [foundKeys_cons, Multiset.add_cons, Multiset.add_cons]
            exact (orderly_takeTarget scene.uuid _).trans hrest.1
          · have hnew := hdistinct.notMem_keysOf hkind hknown
            rw [hkey] at hnew
            -- what is there belongs to the scenes before, which have other keys
            have hrest := hfound.found rest
            refine ⟨?_, distinct_nil⟩
            rw [foundKeys_cons, Multiset.add_cons, Multiset.add_cons]
            refine (orderly_giveUpTarget (fun hold hhold => (not_needs_of_new hrest hnew hhold).1)
              (fun hold hhold => (not_needs_of_new hrest hnew hhold).2.1) viewMade).trans ?_
            simpa [targetKeys] using orderly_reset hrest hdistinct.nodup

end Install

theorem orderly_dropStreams (streams : List ConfiguredStream) (held : Multiset SceneHold) :
    Orderly SceneHold.Needs (capturedOf streams + held) ((capturedOf streams).map .released)
      held := by
  refine orderly_releaseAll _ held fun hold hhold other => ?_
  obtain ⟨stream, -, rfl⟩ := List.mem_map.mp hhold
  exact not_needs_captured

theorem orderly_drop (runtime : PluginCaptureRuntime) (held : Multiset SceneHold) :
    Orderly SceneHold.Needs (runtime.captured + held) runtime.dropEntries held := by
  unfold dropEntries captured
  cases runtime.control with
  | none => simpa using Orderly.nil held
  | some engine => exact orderly_dropStreams engine.configuration.streams held

theorem configuredStream_target {rebuild : Rebuild} {entry : SceneTopologyEntry}
    {stream : ConfiguredStream} (h : configuredStream scenes rebuild entry = some stream)
    (hkind : stream.identity.kind = .scene) :
    ∃ target ∈ scenes, target.identity = stream.identity := by
  unfold configuredStream at h
  dsimp only at h
  split_ifs at h with hmaster htarget
  · cases h
    rw [hmaster] at hkind
    cases hkind
  · cases h
    obtain ⟨target, htarget, hsame⟩ := List.any_eq_true.mp htarget
    exact ⟨target, htarget, of_decide_eq_true hsame⟩

theorem mapM_configuredStream_target {entries : List SceneTopologyEntry} {rebuild : Rebuild}
    {streams : List ConfiguredStream}
    (h : entries.mapM (configuredStream scenes rebuild) = some streams) :
    ∀ stream ∈ streams, stream.identity.kind = .scene →
      ∃ target ∈ scenes, target.identity = stream.identity := by
  induction entries generalizing streams with
  | nil =>
      obtain rfl : [] = streams := by simpa using h
      exact List.forall_mem_nil _
  | cons entry rest ih =>
      rw [List.mapM_cons] at h
      obtain ⟨stream, hstream, htail⟩ := Option.bind_eq_some_iff.mp h
      obtain ⟨later, hlater, hsome⟩ := Option.bind_eq_some_iff.mp htail
      obtain rfl := Option.some.inj hsome
      rw [List.forall_mem_cons]
      exact ⟨configuredStream_target hstream, ih hlater⟩

/-- What `BuildControlState` comes to where there is no control state yet. -/
theorem buildControlState_cases (hnone : runtime.control = none) (rebuild : Rebuild) :
    (runtime.topologyModel.current.streams.mapM (configuredStream runtime.scenes rebuild) = none ∧
      runtime.buildControlState rebuild = (false, runtime)) ∨
    ∃ streams, runtime.topologyModel.current.streams.mapM
        (configuredStream runtime.scenes rebuild) = some streams ∧
      (runtime.buildControlState rebuild = (false, runtime) ∨
        ∃ engine : CaptureControlEngine PluginEncoderController,
          engine.configuration.streams = streams ∧ runtime.buildControlState rebuild =
            (true, { runtime with control := some engine })) := by
  have hkept : { runtime with control := none } = runtime := by rw [← hnone]
  unfold buildControlState
  cases hstreams : runtime.topologyModel.current.streams.mapM
      (configuredStream runtime.scenes rebuild) with
  | none => exact Or.inl ⟨rfl, rfl⟩
  | some streams =>
      refine Or.inr ⟨streams, rfl, ?_⟩
      dsimp only
      split_ifs
      · exact Or.inl (by rw [hkept])
      · split
        · exact Or.inl (by rw [hkept])
        · rename_i engine hbuilt
          refine Or.inr ⟨engine, ?_, rfl⟩
          have hnew := congrArg Prod.snd hbuilt
          dsimp only at hnew
          rw [← hnew, (CaptureControlEngine.initializeEngine_sameConsumers _).configuration]
          rfl

theorem orderly_build (hnone : runtime.control = none) (rebuild : Rebuild)
    (held : Multiset SceneHold) :
    Orderly SceneHold.Needs (targetKeys runtime.scenes + held) (runtime.buildEntries rebuild)
      ((runtime.buildControlState rebuild).2.captured + (targetKeys runtime.scenes + held)) := by
  have hempty : runtime.captured = [] := by
    unfold captured
    rw [hnone]
    rfl
  unfold buildEntries
  rcases buildControlState_cases hnone rebuild with ⟨hstreams, hbuild⟩ |
    ⟨streams, hstreams, hbuild⟩
  · rw [hstreams, hbuild, hempty]
    simpa using Orderly.nil _
  · have htargets : ∀ hold ∈ capturedOf streams, ∀ other, hold.Needs other →
        other ∈ (targetKeys runtime.scenes + held : Multiset SceneHold) := by
      intro hold hhold other hneeds
      obtain ⟨stream, hstream, rfl⟩ := List.mem_map.mp hhold
      obtain ⟨hmem, hparticipates⟩ := List.mem_filter.mp hstream
      obtain ⟨target, htarget, hsame⟩ := mapM_configuredStream_target hstreams stream hmem
        (of_decide_eq_true hparticipates).2
      rw [hneeds, Multiset.mem_add, Multiset.mem_coe, mem_targetKeys]
      exact Or.inl ⟨target, htarget, Or.inl (by rw [hsame])⟩
    have hacquired := orderly_acquireAll (capturedOf streams) _ htargets
    rw [hstreams]
    dsimp only
    rcases hbuild with hbuild | ⟨engine, hengine, hbuild⟩
    · rw [hbuild, hempty, if_neg Bool.false_ne_true]
      simpa using hacquired.trans (orderly_dropStreams streams _)
    · have hcaptured : { runtime with control := some engine }.captured = capturedOf streams := by
        rw [← hengine]
        rfl
      rw [hbuild, if_pos rfl, List.append_nil]
      rwa [hcaptured]

/-- The call takes and gives back in order, and leaves the runtime with what it then holds. -/
structure Accounts (held : Multiset SceneHold) (entries : List (Entry SceneHold))
    (runtime : PluginCaptureRuntime) : Prop where
  orderly : Orderly SceneHold.Needs held entries runtime.held
  distinct : Distinct runtime.scenes

theorem orderly_installScene (hdistinct : Distinct runtime.scenes)
    (discovered : List DiscoveredScene) (rebuild : Rebuild) (viewMade : Bool)
    (hfound : OnlyFound held) :
    Orderly SceneHold.Needs (targetKeys runtime.scenes + (foundKeys discovered + held))
        (runtime.installSceneEntries discovered rebuild viewMade)
        (targetKeys (runtime.installSceneTargets discovered rebuild).2.scenes + held) ∧
      Distinct (runtime.installSceneTargets discovered rebuild).2.scenes := by
  obtain ⟨hinstall, hinstalled⟩ := @orderly_install [] held
    runtime.topologyModel.current.streams rebuild.views viewMade discovered distinct_nil hfound
  have hscenes : (runtime.installSceneTargets discovered rebuild).2.scenes = (installTargets
      runtime.topologyModel.current.streams rebuild.views discovered []).getD [] := by
    unfold installSceneTargets
    cases installTargets runtime.topologyModel.current.streams rebuild.views discovered [] with
    | none => rfl
    | some scenes => rfl
  rw [hscenes]
  refine ⟨?_, hinstalled⟩
  have hreset := orderly_reset (hfound.found discovered) hdistinct.nodup
  have hstarted : (targetKeys [] + (foundKeys discovered + held) : Multiset SceneHold) =
      foundKeys discovered + held := by simp [targetKeys]
  rw [hstarted] at hinstall
  refine (hreset.trans hinstall).trans ?_
  rw [add_left_comm]
  exact orderly_forget _ _

theorem installSceneTargets_kept (runtime : PluginCaptureRuntime)
    (discovered : List DiscoveredScene) (rebuild : Rebuild) :
    (runtime.installSceneTargets discovered rebuild).2.control = runtime.control ∧
      (runtime.installSceneTargets discovered rebuild).2.pendingScenes =
        runtime.pendingScenes := by
  unfold installSceneTargets
  split
  · exact ⟨rfl, rfl⟩
  · exact ⟨rfl, rfl⟩

theorem buildControlState_kept (hnone : runtime.control = none) (rebuild : Rebuild) :
    (runtime.buildControlState rebuild).2.scenes = runtime.scenes ∧
      (runtime.buildControlState rebuild).2.pendingScenes = runtime.pendingScenes := by
  rcases buildControlState_cases hnone rebuild with
    ⟨-, hbuild⟩ | ⟨_, -, hbuild | ⟨_, -, hbuild⟩⟩ <;> rw [hbuild] <;> exact ⟨rfl, rfl⟩

theorem held_of_none (hnone : runtime.control = none) :
    runtime.held = targetKeys runtime.scenes + foundKeys runtime.pendingScenes := by
  unfold PluginCaptureRuntime.held captured
  rw [hnone]
  simp

theorem accounts_build (hnone : runtime.control = none) (hdistinct : Distinct runtime.scenes)
    (rebuild : Rebuild) :
    Accounts runtime.held (runtime.buildEntries rebuild) (runtime.buildControlState rebuild).2 := by
  obtain ⟨hscenes, hpending⟩ := buildControlState_kept hnone rebuild
  have hbuilt := orderly_build hnone rebuild (foundKeys runtime.pendingScenes)
  refine ⟨?_, by rwa [hscenes]⟩
  rw [held_of_none hnone]
  rwa [PluginCaptureRuntime.held, hscenes, hpending]

theorem accounts_rebuild (hdistinct : Distinct runtime.scenes) (discovered : List DiscoveredScene)
    (rebuild : Rebuild) (viewMade : Bool) :
    Accounts (foundKeys discovered + runtime.held)
      (runtime.rebuildEntries discovered rebuild viewMade)
      (runtime.rebuildControl discovered rebuild).2 := by
  obtain ⟨hcontrol, hpending⟩ :=
    { runtime with control := none }.installSceneTargets_kept discovered rebuild
  obtain ⟨hinstall, hinstalled⟩ := @orderly_installScene { runtime with control := none }
    (foundKeys runtime.pendingScenes) hdistinct discovered rebuild viewMade
    (onlyFound_foundKeys runtime.pendingScenes)
  have hdropped : Orderly SceneHold.Needs (foundKeys discovered + runtime.held)
      (runtime.dropEntries ++ runtime.installSceneEntries discovered rebuild viewMade)
      ({ runtime with control := none }.installSceneTargets discovered rebuild).2.held := by
    rw [held_of_none hcontrol, hpending]
    have hreordered : (foundKeys discovered + runtime.held : Multiset SceneHold) =
        runtime.captured + (targetKeys runtime.scenes +
          (foundKeys discovered + foundKeys runtime.pendingScenes)) := by
      unfold PluginCaptureRuntime.held
      abel
    rw [hreordered]
    exact (orderly_drop runtime _).trans hinstall
  unfold rebuildEntries rebuildControl
  generalize { runtime with control := none }.installSceneTargets discovered rebuild = answer at *
  rcases answer with ⟨_ | _, installed⟩
  · dsimp only
    rw [List.append_nil]
    exact ⟨hdropped, hinstalled⟩
  · have hbuilt := accounts_build hcontrol hinstalled rebuild
    exact ⟨hdropped.trans hbuilt.orderly, hbuilt.distinct⟩

theorem accounts_stop (hdistinct : Distinct runtime.scenes) :
    Accounts runtime.held runtime.stopEntries runtime.stop := by
  refine ⟨?_, distinct_nil⟩
  have hforgotten := orderly_forget runtime.pendingScenes 0
  have hempty : runtime.stop.held = 0 := by
    rw [held_of_none rfl]
    rfl
  rw [add_zero] at hforgotten
  rw [hempty]
  exact ((orderly_drop runtime _).trans (orderly_reset
    (onlyFound_foundKeys runtime.pendingScenes) hdistinct.nodup)).trans hforgotten

/-- What is held depends on no more of an engine than its streams. -/
theorem held_of_streams {engine engine' : CaptureControlEngine PluginEncoderController}
    (hcontrol : runtime.control = some engine)
    (hstreams : engine'.configuration.streams = engine.configuration.streams) :
    { runtime with control := some engine' }.held = runtime.held := by
  unfold PluginCaptureRuntime.held captured
  rw [hcontrol, Option.map_some, Option.map_some, hstreams]

theorem accounts_finish (hdistinct : Distinct runtime.scenes) (rebuild : Rebuild)
    (viewMade : Bool) :
    Accounts runtime.held (runtime.finishEntries rebuild viewMade)
      (runtime.finishCaptureEpochIfIdle rebuild) := by
  unfold finishEntries finishCaptureEpochIfIdle
  cases hcontrol : runtime.control with
  | none => exact ⟨.nil _, hdistinct⟩
  | some engine =>
      have hsame := @held_of_streams runtime engine engine hcontrol rfl
      rcases runtime.topologyModel.endCaptureEpoch with ⟨_ | ended, model⟩
      · dsimp only
        split_ifs
        · exact ⟨.nil _, hdistinct⟩
        · rw [← hsame]
          exact ⟨.nil _, hdistinct⟩
      · dsimp only
        split_ifs
        · exact ⟨.nil _, hdistinct⟩
        · rw [← hsame]
          exact ⟨.nil _, hdistinct⟩
        · rw [← hsame]
          have hrebuilt := @accounts_rebuild { runtime with
            topologyModel := model, pendingScenes := [], control := some engine } hdistinct
            runtime.pendingScenes rebuild viewMade
          have hmoved : (foundKeys runtime.pendingScenes +
              { runtime with
                topologyModel := model, pendingScenes := [], control := some engine }.held :
                  Multiset SceneHold) = { runtime with control := some engine }.held := by
            unfold PluginCaptureRuntime.held
            rw [add_comm, add_assoc]
            simp [captured, foundKeys]
          rwa [hmoved] at hrebuilt

theorem accounts_apply (hdistinct : Distinct runtime.scenes) (configuration : ReplayConfiguration)
    (rebuild : Rebuild) (viewMade : Bool) :
    Accounts runtime.held (runtime.applyEntries configuration rebuild viewMade)
      (runtime.applyReplayConfiguration configuration rebuild).2 := by
  unfold applyEntries applyReplayConfiguration
  split_ifs
  · exact ⟨.nil _, hdistinct⟩
  · dsimp only
    cases hcontrol : runtime.control with
    | none =>
        refine ⟨?_, hdistinct⟩
        rw [held_of_none hcontrol, held_of_none rfl]
        exact .nil _
    | some engine =>
        have hfinished := @accounts_finish { runtime with
          replayConfiguration := configuration
          control := some (engine.applyReplayConfiguration configuration).2 } hdistinct rebuild
            viewMade
        have hsame := @held_of_streams runtime engine
          (engine.applyReplayConfiguration configuration).2 hcontrol
          (by rw [CaptureControlEngine.applyReplayConfiguration_configuration])
        rw [← hsame]
        exact hfinished

theorem accounts_initialize (hdistinct : Distinct runtime.scenes)
    (discovered : List DiscoveredScene) (rebuild : Rebuild) (viewMade : Bool) :
    Accounts runtime.held (runtime.initializeEntries discovered rebuild viewMade)
      (runtime.initializeRuntime discovered rebuild).2 := by
  unfold initializeEntries initializeRuntime
  split_ifs with hcontrol
  · exact ⟨.nil _, hdistinct⟩
  · have hnone : runtime.control = none := by simpa using hcontrol
    dsimp only
    generalize hinitial : ({ runtime with
      topologyModel := (runtime.topologyModel.applyDiscovery discovered false).2
      pendingScenes := [] } : PluginCaptureRuntime) = initial
    have hempty : initial.control = none ∧ initial.pendingScenes = [] ∧
        initial.scenes = runtime.scenes := by
      rw [← hinitial]
      exact ⟨hnone, rfl, rfl⟩
    obtain ⟨hcontrol, hpending⟩ := initial.installSceneTargets_kept discovered rebuild
    rw [hempty.1] at hcontrol
    rw [hempty.2.1] at hpending
    obtain ⟨hinstall, hinstalled⟩ := @orderly_installScene initial 0 (by rwa [hempty.2.2])
      discovered rebuild viewMade onlyFound_zero
    have hstarted : Orderly SceneHold.Needs runtime.held
        (discoverEntries discovered ++ forgetEntries runtime.pendingScenes ++
          initial.installSceneEntries discovered rebuild viewMade)
        (initial.installSceneTargets discovered rebuild).2.held := by
      have hforgotten := orderly_forget runtime.pendingScenes
        (targetKeys initial.scenes + (foundKeys discovered + 0))
      have hreordered : (foundKeys discovered + runtime.held : Multiset SceneHold) =
          foundKeys runtime.pendingScenes +
            (targetKeys initial.scenes + (foundKeys discovered + 0)) := by
        rw [held_of_none hnone, hempty.2.2]
        abel
      rw [← hreordered] at hforgotten
      rw [held_of_none hcontrol, hpending]
      exact ((orderly_discover discovered _).trans hforgotten).trans hinstall
    generalize initial.installSceneTargets discovered rebuild = answer at *
    rcases answer with ⟨_ | _, installed⟩
    · have hstopped := accounts_stop hinstalled
      exact ⟨hstarted.trans hstopped.orderly, hstopped.distinct⟩
    · dsimp only at hcontrol hinstalled hstarted ⊢
      have hbuilt := accounts_build hcontrol hinstalled rebuild
      generalize installed.buildControlState rebuild = answer at *
      rcases answer with ⟨_ | _, built⟩
      · have hstopped := accounts_stop hbuilt.distinct
        dsimp only at hstopped ⊢
        rw [← List.append_assoc]
        exact ⟨(hstarted.trans hbuilt.orderly).trans hstopped.orderly, hstopped.distinct⟩
      · dsimp only at hbuilt ⊢
        rw [List.append_nil]
        exact ⟨hstarted.trans hbuilt.orderly, hbuilt.distinct⟩

theorem accounts_refresh (hdistinct : Distinct runtime.scenes)
    (discovered : List DiscoveredScene) (rebuild : Rebuild) (viewMade : Bool) :
    Accounts runtime.held (runtime.refreshEntries discovered rebuild viewMade)
      (runtime.refreshSceneTopology discovered rebuild).2 := by
  have hdiscovered := orderly_discover discovered runtime.held
  have hunchanged := hdiscovered.trans (orderly_forget discovered runtime.held)
  have hstaged (model : SceneTopologyModel) : Accounts runtime.held
      (discoverEntries discovered ++ forgetEntries runtime.pendingScenes)
      { runtime with topologyModel := model, pendingScenes := discovered } := by
    refine ⟨hdiscovered.trans ?_, hdistinct⟩
    have hreordered : (foundKeys discovered + runtime.held : Multiset SceneHold) =
        foundKeys runtime.pendingScenes +
          { runtime with topologyModel := model, pendingScenes := discovered }.held := by
      unfold PluginCaptureRuntime.held captured
      abel
    rw [hreordered]
    exact orderly_forget _ _
  have hrebuilt (model : SceneTopologyModel) := @accounts_rebuild
    { runtime with topologyModel := model } hdistinct discovered rebuild viewMade
  unfold refreshEntries refreshSceneTopology
  by_cases hcontrol : runtime.control.isNone = true
  · rw [if_pos hcontrol, if_pos hcontrol]
    exact ⟨.nil _, hdistinct⟩
  · rw [if_neg hcontrol, if_neg hcontrol]
    dsimp only
    rcases runtime.topologyModel.applyDiscovery discovered
      runtime.topologyModel.captureEpochActive with ⟨update, model⟩
    have hchanged : Accounts runtime.held
        (discoverEntries discovered ++
          if runtime.topologyModel.captureEpochActive then forgetEntries runtime.pendingScenes
          else { runtime with topologyModel := model }.rebuildEntries discovered rebuild viewMade)
        (if runtime.topologyModel.captureEpochActive then
          (⟨.succeeded, "scene-topology-staged"⟩,
            { runtime with topologyModel := model, pendingScenes := discovered })
        else
          match { runtime with topologyModel := model }.rebuildControl discovered rebuild with
          | (false, runtime) => (failed "scene-topology-rebuild", runtime)
          | (true, runtime) =>
              ((⟨.succeeded, "scene-topology-applied"⟩ : ControlCommandResult), runtime)).2 := by
      have hmodel := hrebuilt model
      generalize { runtime with topologyModel := model }.rebuildControl discovered rebuild =
        answer at hmodel ⊢
      split_ifs
      · exact hstaged model
      · rcases answer with ⟨_ | _, rebuilt⟩ <;>
          exact ⟨hdiscovered.trans hmodel.orderly, hmodel.distinct⟩
    cases update with
    | unchanged => exact ⟨hunchanged, hdistinct⟩
    | applied => exact hchanged
    | staged => exact hchanged

/-- A call of the engine alone leaves what is held as it is. -/
theorem Settled.held_engine (h : runtime.Settled)
    {engine : CaptureControlEngine PluginEncoderController}
    (hcontrol : runtime.control = some engine) (call : ControlCall) :
    { runtime with control := some (engine.step call).2 }.held = runtime.held :=
  held_of_streams hcontrol ((h.suits engine hcontrol).coherent.step_streams call)

/-- The commands that refresh the configuration and go on with a call of the engine. -/
theorem Settled.accounts_refreshed (h : runtime.Settled) (hdistinct : Distinct runtime.scenes)
    (profile : ReplayConfiguration) (rebuild : Rebuild) (viewMade : Bool) (call : ControlCall)
    {refreshed : PluginCaptureRuntime}
    (hrefreshed : refreshed = (runtime.applyReplayConfiguration profile rebuild).2) :
    Accounts runtime.held (runtime.applyEntries profile rebuild viewMade) refreshed ∧
      ∀ engine, refreshed.control = some engine →
        Accounts runtime.held (runtime.applyEntries profile rebuild viewMade)
          { refreshed with control := some (engine.step call).2 } := by
  have happlied := accounts_apply hdistinct profile rebuild viewMade
  have hsettled := applyReplayConfiguration_settled h profile rebuild
  rw [← hrefreshed] at happlied hsettled
  refine ⟨happlied, fun engine hcontrol => ⟨?_, happlied.distinct⟩⟩
  rw [hsettled.held_engine hcontrol call]
  exact happlied.orderly

/-- The commands that call the engine and then end the epoch if it is idle. -/
theorem Settled.accounts_finished (h : runtime.Settled) (hdistinct : Distinct runtime.scenes)
    {engine : CaptureControlEngine PluginEncoderController}
    (hcontrol : runtime.control = some engine) (call : ControlCall) (rebuild : Rebuild)
    (viewMade : Bool) :
    Accounts runtime.held
      ({ runtime with control := some (engine.step call).2 }.finishEntries rebuild viewMade)
      ({ runtime with control := some (engine.step call).2 }.finishCaptureEpochIfIdle rebuild) := by
  rw [← h.held_engine hcontrol call]
  exact @accounts_finish { runtime with control := some (engine.step call).2 } hdistinct rebuild
    viewMade

/-- The commands that only call the engine. -/
theorem Settled.accounts_engine (h : runtime.Settled) (hdistinct : Distinct runtime.scenes)
    {engine : CaptureControlEngine PluginEncoderController}
    (hcontrol : runtime.control = some engine) (call : ControlCall) :
    Accounts runtime.held [] { runtime with control := some (engine.step call).2 } := by
  rw [← h.held_engine hcontrol call]
  exact ⟨.nil _, hdistinct⟩

theorem Settled.accounts_startRecording (h : runtime.Settled) (hdistinct : Distinct runtime.scenes)
    (output : OutputDirectory) (starts : Bool) :
    Accounts runtime.held [] (runtime.startRecording output starts).2 := by
  unfold PluginCaptureRuntime.startRecording
  split
  · exact ⟨.nil _, hdistinct⟩
  · rename_i engine hcontrol
    have hstarted (paths : List String) :=
      h.accounts_engine hdistinct hcontrol (.startRecording paths starts)
    exact ⟨(hstarted _).orderly, hdistinct⟩

theorem Settled.accounts_stopRecording (h : runtime.Settled) (hdistinct : Distinct runtime.scenes)
    (recorded : Option SynchronizedRecordingConsumerResult) (rebuild : Rebuild) (viewMade : Bool) :
    Accounts runtime.held (runtime.entriesOf ⟨.stopRecording recorded rebuild, viewMade⟩)
      (runtime.stopRecording recorded rebuild).2 := by
  unfold entriesOf PluginCaptureRuntime.stopRecording
  cases hcontrol : runtime.control with
  | none => exact ⟨.nil _, hdistinct⟩
  | some engine =>
      exact h.accounts_finished hdistinct hcontrol (.stopRecording recorded) rebuild viewMade

theorem Settled.accounts_stopReplay (h : runtime.Settled) (hdistinct : Distinct runtime.scenes)
    (rebuild : Rebuild) (viewMade : Bool) :
    Accounts runtime.held (runtime.entriesOf ⟨.stopReplay rebuild, viewMade⟩)
      (runtime.stopReplay rebuild).2 := by
  unfold entriesOf PluginCaptureRuntime.stopReplay
  cases hcontrol : runtime.control with
  | none => exact ⟨.nil _, hdistinct⟩
  | some engine => exact h.accounts_finished hdistinct hcontrol .stopReplay rebuild viewMade

theorem Settled.accounts_startReplay (h : runtime.Settled) (hdistinct : Distinct runtime.scenes)
    (profile : ReplayConfiguration) (rebuild : Rebuild) (viewMade : Bool) :
    Accounts runtime.held (runtime.applyEntries profile rebuild viewMade)
      (runtime.startReplay profile rebuild).2 := by
  obtain ⟨hrefreshed, hstarted⟩ := h.accounts_refreshed hdistinct profile rebuild viewMade
    .startReplay rfl
  unfold PluginCaptureRuntime.startReplay refreshReplayConfiguration
  dsimp only
  split
  · exact hrefreshed
  · rename_i engine hcontrol
    have hengine := hstarted engine hcontrol
    exact ⟨hengine.orderly, hengine.distinct⟩

theorem Settled.accounts_saveReplay (h : runtime.Settled) (hdistinct : Distinct runtime.scenes)
    (profile : ReplayConfiguration) (rebuild : Rebuild) (output : OutputDirectory)
    (library : Nat → MuxLibrary) (viewMade : Bool) :
    Accounts runtime.held (runtime.applyEntries profile rebuild viewMade)
      (runtime.saveReplay profile rebuild output library).2 := by
  have hrefreshed (paths : List String) := h.accounts_refreshed hdistinct profile rebuild viewMade
    (.saveReplay paths library) rfl
  unfold PluginCaptureRuntime.saveReplay refreshReplayConfiguration
  dsimp only
  split
  · exact (hrefreshed []).1
  · rename_i engine hcontrol
    have hsaved (paths : List String) := (hrefreshed paths).2 engine hcontrol
    exact ⟨(hsaved _).orderly, (hsaved []).distinct⟩

theorem Settled.accounts_pollReplaySave (h : runtime.Settled)
    (hdistinct : Distinct runtime.scenes) :
    Accounts runtime.held [] runtime.pollReplaySave.2 := by
  unfold PluginCaptureRuntime.pollReplaySave
  split
  · exact ⟨.nil _, hdistinct⟩
  · rename_i engine hcontrol
    have hpolled := h.accounts_engine hdistinct hcontrol .pollReplaySave
    dsimp only
    split
    · exact ⟨hpolled.orderly, hpolled.distinct⟩
    · split_ifs
      · exact ⟨hpolled.orderly, hpolled.distinct⟩
      · exact ⟨hpolled.orderly, hpolled.distinct⟩

theorem Settled.accounts_ingest (h : runtime.Settled) (hdistinct : Distinct runtime.scenes)
    (streamId : CaptureStreamId) (packet : EncodedPacket) (codecExtraData : List UInt8) :
    Accounts runtime.held [] (runtime.ingest streamId packet codecExtraData).2 := by
  unfold PluginCaptureRuntime.ingest
  split
  · exact ⟨.nil _, hdistinct⟩
  · rename_i engine hcontrol
    exact h.accounts_engine hdistinct hcontrol (.ingest streamId packet codecExtraData)

theorem Settled.accounts_saveFinishes (h : runtime.Settled) (hdistinct : Distinct runtime.scenes) :
    Accounts runtime.held [] runtime.saveFinishes := by
  unfold PluginCaptureRuntime.saveFinishes
  cases hcontrol : runtime.control with
  | none =>
      refine ⟨?_, hdistinct⟩
      rw [held_of_none hcontrol, held_of_none rfl]
      exact .nil _
  | some engine => exact h.accounts_engine hdistinct hcontrol .saveFinishes

/-- Every call takes and gives back in order. -/
theorem Settled.accounts (h : runtime.Settled) (hdistinct : Distinct runtime.scenes)
    (input : TargetCall) (hcall : input.call ≠ .stop) :
    Accounts runtime.held (runtime.entriesOf input) (runtime.stepTargets input).2 := by
  obtain ⟨call, viewMade⟩ := input
  cases call with
  | initializeRuntime discovered rebuild =>
      exact accounts_initialize hdistinct discovered rebuild viewMade
  | startRecording output starts => exact h.accounts_startRecording hdistinct output starts
  | stopRecording recorded rebuild =>
      exact h.accounts_stopRecording hdistinct recorded rebuild viewMade
  | startReplay profile rebuild => exact h.accounts_startReplay hdistinct profile rebuild viewMade
  | saveReplay profile rebuild output library =>
      exact h.accounts_saveReplay hdistinct profile rebuild output library viewMade
  | stopReplay rebuild => exact h.accounts_stopReplay hdistinct rebuild viewMade
  | applyReplayConfiguration configuration rebuild =>
      exact accounts_apply hdistinct configuration rebuild viewMade
  | refreshReplayConfiguration profile rebuild =>
      exact accounts_apply hdistinct profile rebuild viewMade
  | refreshSceneTopology discovered rebuild =>
      exact accounts_refresh hdistinct discovered rebuild viewMade
  | pollReplaySave => exact h.accounts_pollReplaySave hdistinct
  | stop => exact absurd rfl hcall
  | ingest streamId packet codecExtraData =>
      exact h.accounts_ingest hdistinct streamId packet codecExtraData
  | saveFinishes => exact h.accounts_saveFinishes hdistinct

theorem accounts_run {profile : ReplayConfiguration} {past : List TargetTransition}
    (hrun : Runs.Run stepTargets { replayConfiguration := profile } past runtime)
    (hcalls : ∀ t ∈ past, t.input.call ≠ .stop) :
    Accounts 0 (past.flatMap (fun t => t.before.entriesOf t.input)) runtime := by
  suffices hkept : (∀ t ∈ past, t.input.call ≠ .stop) → runtime.Settled ∧
      Accounts 0 (past.flatMap (fun t => t.before.entriesOf t.input)) runtime from (hkept hcalls).2
  apply hrun.invariant (P := fun past runtime => (∀ t ∈ past, t.input.call ≠ .stop) →
    runtime.Settled ∧ Accounts 0 (past.flatMap (fun t => t.before.entriesOf t.input)) runtime)
  · exact fun _ => ⟨settled_new profile, .nil _, distinct_nil⟩
  · intro past runtime input _ h hcalls
    rw [List.forall_mem_append, List.forall_mem_singleton] at hcalls
    obtain ⟨hsettled, hpast⟩ := h hcalls.1
    have hnext := hsettled.accounts hpast.distinct input hcalls.2
    refine ⟨hsettled.step hcalls.2, ?_, hnext.distinct⟩
    rw [List.flatMap_append, List.flatMap_singleton]
    exact hpast.orderly.trans hnext.orderly

/-- At every moment of a run, also within a call, each video that an engine reads is there, each
video has its view and each view its source. -/
theorem closed_within {profile : ReplayConfiguration} {past : List TargetTransition}
    (hrun : Runs.Run stepTargets { replayConfiguration := profile } past runtime)
    (hcalls : ∀ t ∈ past, t.input.call ≠ .stop) {before after : List (Entry SceneHold)}
    (hsplit : past.flatMap (fun t => t.before.entriesOf t.input) = before ++ after)
    (hbefore : Settles 0 before held) : Closed SceneHold.Needs held :=
  (accounts_run hrun hcalls).orderly.always_closed hsplit hbefore

/-- In every run of a runtime and the stop at its end, all that is taken of the scenes is given back
exactly once and in order: no video while an engine reads it, no view before its video and no
source before its view. -/
theorem scene_targets_given_back {profile : ReplayConfiguration} {past : List TargetTransition}
    (hrun : Runs.Run stepTargets { replayConfiguration := profile } past runtime)
    (hcalls : ∀ t ∈ past, t.input.call ≠ .stop) :
    Orderly SceneHold.Needs 0 (past.flatMap (fun t => t.before.entriesOf t.input)) runtime.held ∧
      Orderly SceneHold.Needs runtime.held (runtime.entriesOf ⟨.stop, false⟩) 0 := by
  have hpast := accounts_run hrun hcalls
  have hstopped := (accounts_stop hpast.distinct).orderly
  have hempty : runtime.stop.held = 0 := by
    rw [held_of_none rfl]
    rfl
  rw [hempty] at hstopped
  exact ⟨hpast.orderly, hstopped⟩

/-- A scene is discovered twice over; the next one gets a view, but no video. -/
def targetCalls : List TargetCall :=
  [⟨.initializeRuntime [⟨"a", "A"⟩, ⟨"a", "A"⟩] {}, false⟩,
    ⟨.refreshSceneTopology [⟨"a", "A"⟩, ⟨"b", "B"⟩] { views := fun place => place = 0 }, true⟩]

theorem scene_targets_given_back_sample :
    ((Runs.history stepTargets { replayConfiguration := {} } targetCalls).flatMap
        (fun t => t.before.entriesOf t.input)).count (.acquired (.view "b")) = 1 ∧
      Orderly SceneHold.Needs 0
        ((Runs.history stepTargets { replayConfiguration := {} } targetCalls).flatMap
          (fun t => t.before.entriesOf t.input))
        (Runs.exec stepTargets { replayConfiguration := {} } targetCalls).held ∧
      Orderly SceneHold.Needs (Runs.exec stepTargets { replayConfiguration := {} } targetCalls).held
        ((Runs.exec stepTargets { replayConfiguration := {} } targetCalls).entriesOf
          ⟨.stop, false⟩) 0 := by
  have hcalls : ∀ input ∈ targetCalls, input.call ≠ .stop := by simp [targetCalls]
  exact ⟨by decide, scene_targets_given_back (Runs.run_exec _ targetCalls)
    (Runs.forall_history_input.mpr hcalls)⟩

end PluginCaptureRuntime

end ObsSyncReplay
