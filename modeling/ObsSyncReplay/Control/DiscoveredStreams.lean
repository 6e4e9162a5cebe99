import ObsSyncReplay.Control.PluginCaptureRuntime
import ObsSyncReplay.Control.StreamRegistration
import ObsSyncReplay.Topology.CaptureEpoch

/-!
What a discovery leads to. Its scenes become entries of the topology, the entries configured
streams, and these are registered with the capture session. The topology knows a stream by its
identity and the session by its name, and Master has the name `master` there.
-/

namespace ObsSyncReplay

def masterEntry : SceneTopologyEntry := ⟨.master, "Master/Program", 0, true, true⟩

/-- The entry of a scene and of its place in the collection. -/
def sceneEntry (scene : DiscoveredScene × Nat) : SceneTopologyEntry :=
  ⟨.scene scene.1.uuid, scene.1.displayName, scene.2 + 1, true, true⟩

/-- The scenes can be told apart, both by their UUIDs and by their names. -/
structure UniqueScenes (scenes : List DiscoveredScene) : Prop where
  uuids : (scenes.map DiscoveredScene.uuid).Nodup
  names : (scenes.map DiscoveredScene.displayName).Nodup
  identified : ∀ scene ∈ scenes, scene.uuid ≠ ""
  named : ∀ scene ∈ scenes, scene.displayName ≠ ""

theorem discoveredStreams_unique {scenes : List DiscoveredScene}
    (huuids : (scenes.map DiscoveredScene.uuid).Nodup)
    (hidentified : ∀ scene ∈ scenes, scene.uuid ≠ "") :
    discoveredStreams scenes = masterEntry :: scenes.zipIdx.map sceneEntry := by
  induction scenes using List.reverseRecOn with
  | nil => rfl
  | append_singleton scenes scene ih =>
      rw [List.map_append, List.map_singleton, List.nodup_append] at huuids
      obtain ⟨huuids, -, hnew⟩ := huuids
      rw [List.forall_mem_append, List.forall_mem_singleton] at hidentified
      rw [discoveredStreams_concat, ih huuids hidentified.1]
      rcases @pushScene_cases masterEntry (scenes.zipIdx.map sceneEntry) rfl scene
        scenes.length with ⟨-, hknown⟩ | ⟨hpush, -, -⟩
      · obtain ⟨entry, hentry, hsame⟩ := hknown hidentified.2
        obtain ⟨earlier, hearlier, rfl⟩ := List.mem_map.mp hentry
        have huuid : earlier.1.uuid = scene.uuid := congrArg StreamIdentity.key hsame
        exact absurd huuid (hnew _ (List.mem_map_of_mem (List.fst_mem_of_mem_zipIdx hearlier))
          _ (List.mem_singleton_self _))
      · rw [hpush, List.zipIdx_append, List.map_append]
        simp [sceneEntry]

/-- Outside of an epoch the current topology is the discovered one, also if it was before. -/
theorem applyDiscovery_idle_current (model : SceneTopologyModel) (scenes : List DiscoveredScene) :
    (model.applyDiscovery scenes false).2.current.streams = discoveredStreams scenes := by
  by_cases hfinds : model.finds scenes = true
  · have hunchanged : (model.applyDiscovery scenes false).2 = model := by
      unfold SceneTopologyModel.finds at hfinds
      unfold SceneTopologyModel.applyDiscovery
      dsimp only at hfinds ⊢
      rw [if_pos hfinds]
    rw [hunchanged]
    exact SceneTopologyModel.finds_iff.mp hfinds
  · unfold SceneTopologyModel.finds at hfinds
    unfold SceneTopologyModel.applyDiscovery
    dsimp only at hfinds ⊢
    rw [if_neg hfinds, Bool.not_false, if_pos rfl]
    rfl

namespace PluginCaptureRuntime

/-- The entry has a target. -/
def HasTarget (targets : List SceneTopologyEntry) (identity : StreamIdentity) : Prop :=
  targets.any (fun target => target.identity = identity) = true

theorem hasTarget_append {targets added : List SceneTopologyEntry} {identity : StreamIdentity}
    (h : HasTarget targets identity) : HasTarget (targets ++ added) identity := by
  simp only [HasTarget, List.any_append, Bool.or_eq_true] at h ⊢
  exact Or.inl h

/-- Once every target has been created, each listed scene that is in the topology has one. -/
theorem installTargets_hasTarget {entries : List SceneTopologyEntry} {views : Nat → Bool}
    {discovered : List DiscoveredScene} {scenes targets : List SceneTopologyEntry}
    (h : installTargets entries views discovered scenes = some targets) :
    (∀ identity, HasTarget scenes identity → HasTarget targets identity) ∧
      ∀ scene ∈ discovered, .scene scene.uuid ∈ entries.map SceneTopologyEntry.identity →
        HasTarget targets (.scene scene.uuid) := by
  induction discovered generalizing scenes with
  | nil =>
      obtain rfl := Option.some.inj h
      simp
  | cons scene rest ih =>
      rw [List.forall_mem_cons]
      unfold installTargets at h
      split at h <;> rename_i hfind
      · obtain ⟨hkept, hrest⟩ := ih h
        refine ⟨hkept, fun hmem => ?_, hrest⟩
        obtain ⟨entry, hentry, hsame⟩ := List.mem_map.mp hmem
        have hmissing := List.find?_eq_none.mp hfind entry hentry
        simp [hsame, StreamIdentity.scene] at hmissing
      · rename_i entry
        have hidentity : entry.identity = .scene scene.uuid := by
          have hfound := List.find?_some hfind
          obtain ⟨hkind, hkey⟩ := of_decide_eq_true hfound
          rw [StreamIdentity.eq_scene hkind, hkey]
        rw [hidentity] at h
        split_ifs at h with hthere hview
        · obtain ⟨hkept, hrest⟩ := ih h
          exact ⟨hkept, fun _ => hkept _ hthere, hrest⟩
        · obtain ⟨hkept, hrest⟩ := ih h
          refine ⟨fun identity hhas => hkept identity (hasTarget_append hhas), fun _ => ?_, hrest⟩
          apply hkept
          simp [HasTarget, hidentity]

/-- The stream that is configured for an entry that can be captured. -/
def capturedStream (rebuild : Rebuild) (entry : SceneTopologyEntry) : ConfiguredStream where
  identity := entry.identity
  name := if entry.identity.kind = .master then "master" else entry.displayName
  mode := participationMode entry
  packetConfig := streamConfig (rebuild.size entry.identity)

theorem configuredStream_captured {targets : List SceneTopologyEntry} {rebuild : Rebuild}
    {entry : SceneTopologyEntry}
    (h : entry.identity.kind = .master ∨ HasTarget targets entry.identity) :
    configuredStream targets rebuild entry = some (capturedStream rebuild entry) := by
  unfold configuredStream capturedStream
  dsimp only
  by_cases hmaster : entry.identity.kind = .master
  · rw [if_pos hmaster, if_pos hmaster]
  · have htarget : targets.any (fun target => target.identity = entry.identity) = true :=
      h.resolve_left hmaster
    rw [if_neg hmaster, if_neg hmaster, if_pos htarget]

theorem mapM_configuredStream_captured {entries targets : List SceneTopologyEntry}
    {rebuild : Rebuild}
    (h : ∀ entry ∈ entries, entry.identity.kind = .master ∨ HasTarget targets entry.identity) :
    entries.mapM (configuredStream targets rebuild) =
      some (entries.map (capturedStream rebuild)) := by
  induction entries with
  | nil => rfl
  | cons entry rest ih =>
      obtain ⟨hentry, hrest⟩ := List.forall_mem_cons.mp h
      rw [List.mapM_cons, configuredStream_captured hentry, ih hrest]
      rfl

theorem streamConfig_sized (size : Nat × Nat) :
    (streamConfig size).width ≠ 0 ∧ (streamConfig size).height ≠ 0 := by
  unfold streamConfig fallbackWidth fallbackHeight
  dsimp only
  split_ifs <;> simp_all

theorem map_name_capturedStream (rebuild : Rebuild) (scenes : List DiscoveredScene) :
    ((masterEntry :: scenes.zipIdx.map sceneEntry).map (capturedStream rebuild)).map
        ConfiguredStream.name = "master" :: scenes.map DiscoveredScene.displayName := by
  rw [List.map_cons, List.map_cons, List.map_map, List.map_map]
  congr 1
  conv_rhs => rw [← List.zipIdx_map_fst 0 scenes, List.map_map]
  rfl

theorem enabledStreams_capturedStream (rebuild : Rebuild) (scenes : List DiscoveredScene) :
    enabledStreams ((masterEntry :: scenes.zipIdx.map sceneEntry).map (capturedStream rebuild)) =
      (masterEntry :: scenes.zipIdx.map sceneEntry).map (capturedStream rebuild) := by
  apply List.filter_eq_self.mpr
  intro stream hstream
  obtain ⟨entry, hentry, rfl⟩ := List.mem_map.mp hstream
  have hboth : entry.recordingEnabled = true ∧ entry.replayEnabled = true := by
    rcases List.mem_cons.mp hentry with rfl | hscene
    · exact ⟨rfl, rfl⟩
    · obtain ⟨scene, -, rfl⟩ := List.mem_map.mp hscene
      exact ⟨rfl, rfl⟩
  simp [capturedStream, participationMode, hboth]

/-- The streams of a discovery can be registered exactly if no scene has the name that Master
is registered under. -/
theorem registrable_capturedStream_iff {scenes : List DiscoveredScene}
    (hunique : UniqueScenes scenes) (hfits : scenes.length ≤ 254) (rebuild : Rebuild) :
    Registrable ((masterEntry :: scenes.zipIdx.map sceneEntry).map (capturedStream rebuild)) ↔
      "master" ∉ scenes.map DiscoveredScene.displayName := by
  constructor
  · intro h
    have hdistinct := h.distinct
    rw [enabledStreams_capturedStream, map_name_capturedStream, List.nodup_cons] at hdistinct
    exact hdistinct.1
  · intro hfree
    constructor
    · rw [enabledStreams_capturedStream]
      intro stream hstream
      have hname : stream.name ∈ "master" :: scenes.map DiscoveredScene.displayName := by
        rw [← map_name_capturedStream rebuild]
        exact List.mem_map_of_mem hstream
      refine ⟨?_, ?_⟩
      · rcases List.mem_cons.mp hname with hmaster | hscene
        · rw [hmaster]
          decide
        · obtain ⟨scene, hmem, hsame⟩ := List.mem_map.mp hscene
          rw [← hsame]
          exact hunique.named scene hmem
      · obtain ⟨entry, -, rfl⟩ := List.mem_map.mp hstream
        exact streamConfig_sized _
    · rw [enabledStreams_capturedStream, map_name_capturedStream]
      exact List.nodup_cons.mpr ⟨hfree, hunique.names⟩
    · rw [enabledStreams_capturedStream]
      exact List.cons_ne_nil _ _
    · rw [enabledStreams_capturedStream]
      simp only [List.length_map, List.length_cons, List.length_zipIdx]
      omega

/-- Every stream is registered, with its position as the capture id. -/
structure RegisteredInOrder (engine : CaptureControlEngine PluginEncoderController)
    (streams : List ConfiguredStream) : Prop where
  length : engine.capture.streams.length = streams.length
  ids : ∀ (position : Nat) (stream : ConfiguredStream), streams[position]? = some stream →
    ∃ captureId, engine.configuration.captureIdFor stream.identity = some captureId ∧
      captureId.toNat = position ∧
        engine.capture.streams[captureId.toNat]? = some stream.registered

theorem registeredInOrder_filled {configuration : CaptureConfiguration}
    (hregistrable : Registrable configuration.streams)
    (henabled : enabledStreams configuration.streams = configuration.streams)
    (hdistinct : (configuration.streams.map ConfiguredStream.identity).Nodup)
    (ringCapacityBytes : Nat) (controller : PluginEncoderController) :
    RegisteredInOrder (CaptureControlEngine.filledEngine configuration ringCapacityBytes
      controller) configuration.streams where
  length := by
    rw [CaptureControlEngine.filledEngine_streams, henabled, List.length_map]
  ids position stream hstream := by
    have hfits := hregistrable.fits
    rw [henabled] at hfits
    obtain ⟨hposition, -⟩ := List.getElem?_eq_some_iff.mp hstream
    have hid : (0 + UInt8.ofNat position).toNat = position := by
      rw [UInt8.zero_add, UInt8.toNat_ofNat']
      exact Nat.mod_eq_of_lt (by omega)
    have hfound : configuration.captureIdFor stream.identity = some (0 + UInt8.ofNat position) := by
      apply captureIdFrom_getElem
      · rwa [henabled]
      · rwa [henabled]
    refine ⟨_, hfound, hid, ?_⟩
    rw [hid, CaptureControlEngine.filledEngine_streams, henabled, List.getElem?_map, hstream]
    rfl

/-- The runtime that has taken over the discovered scenes, and has created their targets. -/
def discovering (runtime : PluginCaptureRuntime) (scenes : List DiscoveredScene)
    (rebuild : Rebuild) : Bool × PluginCaptureRuntime :=
  { runtime with
    topologyModel := (runtime.topologyModel.applyDiscovery scenes false).2
    }.installSceneTargets scenes rebuild

theorem identities_nodup {scenes : List DiscoveredScene}
    (huuids : (scenes.map DiscoveredScene.uuid).Nodup) :
    ((masterEntry :: scenes.zipIdx.map sceneEntry).map SceneTopologyEntry.identity).Nodup := by
  have hscenes : (scenes.zipIdx.map sceneEntry).map SceneTopologyEntry.identity =
      (scenes.map DiscoveredScene.uuid).map StreamIdentity.scene := by
    rw [List.map_map, List.map_map]
    conv_rhs => rw [← List.zipIdx_map_fst 0 scenes, List.map_map]
    rfl
  rw [List.map_cons, hscenes, List.nodup_cons]
  constructor
  · intro hmaster
    obtain ⟨uuid, -, hsame⟩ := List.mem_map.mp hmaster
    cases congrArg StreamIdentity.kind hsame
  · exact huuids.map (fun _ _ hsame => congrArg StreamIdentity.key hsame)

/-- Every entry can be captured once the targets have been created. -/
theorem discovering_captured {runtime discovered : PluginCaptureRuntime}
    {scenes : List DiscoveredScene} {rebuild : Rebuild} (hunique : UniqueScenes scenes)
    (htargets : runtime.discovering scenes rebuild = (true, discovered)) :
    discovered.topologyModel.current.streams = masterEntry :: scenes.zipIdx.map sceneEntry ∧
      ∀ entry ∈ discovered.topologyModel.current.streams,
        entry.identity.kind = .master ∨ HasTarget discovered.scenes entry.identity := by
  have hcurrent : (runtime.topologyModel.applyDiscovery scenes false).2.current.streams =
      masterEntry :: scenes.zipIdx.map sceneEntry := by
    rw [applyDiscovery_idle_current, discoveredStreams_unique hunique.uuids hunique.identified]
  unfold discovering installSceneTargets at htargets
  dsimp only at htargets
  split at htargets <;> rename_i hinstall
  · cases congrArg Prod.fst htargets
  obtain rfl := congrArg Prod.snd htargets
  refine ⟨hcurrent, fun entry hentry => ?_⟩
  dsimp only at hentry ⊢
  have hmem := List.mem_map_of_mem (f := SceneTopologyEntry.identity) hentry
  rw [hcurrent] at hentry
  rcases List.mem_cons.mp hentry with rfl | hscene
  · exact Or.inl rfl
  · obtain ⟨scene, hlisted, rfl⟩ := List.mem_map.mp hscene
    exact Or.inr ((installTargets_hasTarget hinstall).2 scene.1
      (List.fst_mem_of_mem_zipIdx hlisted) hmem)

/-- The streams of the discovered scenes are all registered, in order, exactly if no scene has
the name `master`. -/
theorem discovered_streams_registered_iff {runtime discovered : PluginCaptureRuntime}
    {scenes : List DiscoveredScene} {rebuild : Rebuild} (hunique : UniqueScenes scenes)
    (hfits : scenes.length ≤ 254)
    (htargets : runtime.discovering scenes rebuild = (true, discovered))
    (replay : ReplayConfiguration) (ringCapacityBytes : Nat)
    (controller : PluginEncoderController) :
    (∃ streams engine, discovered.topologyModel.current.streams.mapM
        (configuredStream discovered.scenes rebuild) = some streams ∧
      (CaptureControlEngine.create ⟨replay, streams⟩ (.create ringCapacityBytes)
        controller).initializeEngine = (true, engine) ∧
      RegisteredInOrder engine streams) ↔
    "master" ∉ scenes.map DiscoveredScene.displayName := by
  obtain ⟨hentries, hcaptured⟩ := discovering_captured hunique htargets
  have hderived : discovered.topologyModel.current.streams.mapM
      (configuredStream discovered.scenes rebuild) =
        some ((masterEntry :: scenes.zipIdx.map sceneEntry).map (capturedStream rebuild)) := by
    rw [hentries] at hcaptured ⊢
    exact mapM_configuredStream_captured hcaptured
  rw [← registrable_capturedStream_iff hunique hfits rebuild, hderived]
  constructor
  · rintro ⟨streams, engine, hstreams, hinitialized, -⟩
    obtain rfl := Option.some.inj hstreams
    exact (CaptureControlEngine.initializeEngine_create_iff.mp hinitialized).1
  · intro hregistrable
    refine ⟨_, _, rfl, CaptureControlEngine.initializeEngine_create_iff.mpr
      ⟨hregistrable, rfl⟩, ?_⟩
    apply registeredInOrder_filled hregistrable (enabledStreams_capturedStream rebuild scenes)
    rw [List.map_map]
    exact identities_nodup hunique.uuids

/-! ### A scene named like Master -/

/-- A runtime that has discovered one scene. -/
def soleScene (displayName : String) : PluginCaptureRuntime :=
  (discovering ⟨{}, {}, [], [], none, 0, 0, 0, 0⟩ [⟨"uuid-1", displayName⟩] {}).2

def soleSceneStreams (displayName : String) : List ConfiguredStream :=
  [⟨.master, "master", .both, streamConfig (0, 0)⟩,
    ⟨.scene "uuid-1", displayName, .both, streamConfig (0, 0)⟩]

theorem uniqueScenes_sole {displayName : String} (h : displayName ≠ "") :
    UniqueScenes [⟨"uuid-1", displayName⟩] := by
  constructor <;> simp [h]

/-- `Initialize` refuses the streams of a scene named `master`. -/
theorem scene_named_master_refused :
    UniqueScenes [⟨"uuid-1", "master"⟩] ∧
      discovering ⟨{}, {}, [], [], none, 0, 0, 0, 0⟩ [⟨"uuid-1", "master"⟩] {} =
        (true, soleScene "master") ∧
      (soleScene "master").topologyModel.current.streams.mapM
          (configuredStream (soleScene "master").scenes {}) = some (soleSceneStreams "master") ∧
      (CaptureControlEngine.create ⟨{}, soleSceneStreams "master"⟩ (.create (30 * 1024 * 1024))
        (PluginEncoderController.create 2 (fun _ => true))).initializeEngine.1 = false :=
  ⟨uniqueScenes_sole (by decide), Prod.ext (by decide) rfl, by decide, by decide⟩

theorem discovered_streams_registered_sample :
    ∃ streams engine, (soleScene "Alpha").topologyModel.current.streams.mapM
        (configuredStream (soleScene "Alpha").scenes {}) = some streams ∧
      (CaptureControlEngine.create ⟨{}, streams⟩ (.create (30 * 1024 * 1024))
        (PluginEncoderController.create 2 (fun _ => true))).initializeEngine = (true, engine) ∧
      RegisteredInOrder engine streams := by
  have htargets : discovering ⟨{}, {}, [], [], none, 0, 0, 0, 0⟩ [⟨"uuid-1", "Alpha"⟩] {} =
      (true, soleScene "Alpha") := Prod.ext (by decide) rfl
  exact (discovered_streams_registered_iff (uniqueScenes_sole (by decide)) (by decide) htargets
    {} _ _).mpr (by decide)

end PluginCaptureRuntime

end ObsSyncReplay
