import ObsSyncReplay.Capture.CaptureSources
import ObsSyncReplay.Control.OutputNames
import ObsSyncReplay.Recording.ConsumerSources
import ObsSyncReplay.Replay.SnapshotPresentation

/-!
The enumerations of the streams of a consumer. `SelectedCaptureIds`, `SelectedPacketConfigs`,
`SelectedStreamIndexes` and `OutputPaths` go over the configured streams each in its own way.
They all list the same streams in the same order, so each file gets the packets of its stream.
-/

namespace ObsSyncReplay

namespace CaptureConfiguration

def selectedStreamIndexes (configuration : CaptureConfiguration) (consumer : CaptureConsumer) :
    List Nat :=
  (configuration.streams.zipIdx.filter (fun entry =>
    streamParticipates entry.1.mode consumer)).map Prod.snd

/-- The streams of the consumer, each with its index in the configuration. -/
def selected (configuration : CaptureConfiguration) (consumer : CaptureConsumer) :
    List (ConfiguredStream × Nat) :=
  configuration.streams.zipIdx.filter (fun entry => streamParticipates entry.1.mode consumer)

end CaptureConfiguration

/-- The number of streams before the index that are registered. -/
def enabledBefore (streams : List ConfiguredStream) (index : Nat) : Nat :=
  (enabledStreams (streams.take index)).length

section Positions

variable {streams : List ConfiguredStream} {stream : ConfiguredStream} {index : Nat}

theorem enabled_of_participates {consumer : CaptureConsumer}
    (h : streamParticipates stream.mode consumer = true) : stream.mode ≠ .disabled := by
  intro hdisabled
  rw [hdisabled] at h
  cases h

theorem enabledStreams_append (first second : List ConfiguredStream) :
    enabledStreams (first ++ second) = enabledStreams first ++ enabledStreams second :=
  List.filter_append ..

/-- An enabled stream is registered after the enabled streams before it. -/
theorem enabledStreams_getElem? (h : streams[index]? = some stream)
    (henabled : stream.mode ≠ .disabled) :
    (enabledStreams streams)[enabledBefore streams index]? = some stream := by
  obtain ⟨hindex, hstream⟩ := List.getElem?_eq_some_iff.mp h
  have hsplit : enabledStreams streams = enabledStreams (streams.take index) ++
      stream :: enabledStreams (streams.drop (index + 1)) := by
    rw [← enabledStreams_cons henabled, ← enabledStreams_append, ← hstream,
      List.getElem_cons_drop, List.take_append_drop]
  rw [hsplit, enabledBefore, List.getElem?_append_right (Nat.le_refl _), Nat.sub_self]
  rfl

theorem enabledBefore_lt (h : streams[index]? = some stream) (henabled : stream.mode ≠ .disabled)
    {later : Nat} (hlater : index < later) :
    enabledBefore streams index < enabledBefore streams later := by
  have htaken : (streams.take later)[index]? = some stream := by
    rwa [List.getElem?_take_of_lt hlater]
  have hposition := enabledStreams_getElem? htaken henabled
  obtain ⟨hlt, -⟩ := List.getElem?_eq_some_iff.mp hposition
  unfold enabledBefore at hlt
  rwa [List.take_take, min_eq_left hlater.le] at hlt

/-- Ids are given out by position among the enabled streams. -/
theorem selectedIdsFrom_eq (consumer : CaptureConsumer) (before rest : List ConfiguredStream) :
    CaptureConfiguration.selectedIdsFrom consumer rest
        (UInt8.ofNat (enabledStreams before).length) =
      ((rest.zipIdx before.length).filter (fun entry =>
        streamParticipates entry.1.mode consumer)).map (fun entry =>
          UInt8.ofNat (enabledBefore (before ++ rest) entry.2)) := by
  induction rest generalizing before with
  | nil => rfl
  | cons stream rest ih =>
      have hih := ih (before ++ [stream])
      rw [List.append_assoc, List.singleton_append, List.length_append, List.length_singleton]
        at hih
      have hhere : enabledBefore (before ++ stream :: rest) before.length =
          (enabledStreams before).length := by
        rw [enabledBefore, List.take_left]
      rw [List.zipIdx_cons, CaptureConfiguration.selectedIdsFrom]
      by_cases hdisabled : stream.mode = .disabled
      · have hnot : streamParticipates stream.mode consumer = false := by
          rw [hdisabled]
          rfl
        have hsame : enabledStreams (before ++ [stream]) = enabledStreams before := by
          rw [enabledStreams_append, enabledStreams_cons_disabled hdisabled]
          exact List.append_nil _
        rw [if_pos hdisabled, List.filter_cons_of_neg (by simp [hnot]), ← hih, hsame]
      · have hnext : UInt8.ofNat (enabledStreams (before ++ [stream])).length =
            UInt8.ofNat (enabledStreams before).length + 1 := by
          rw [enabledStreams_append, enabledStreams_cons hdisabled, List.length_append,
            UInt8.ofNat_add]
          rfl
        rw [hnext] at hih
        rw [if_neg hdisabled]
        split_ifs with hparticipates
        · rw [List.filter_cons_of_pos (by simp [hparticipates]), List.map_cons, hih, hhere]
        · rw [List.filter_cons_of_neg (by simpa using hparticipates), hih]

end Positions

namespace CaptureConfiguration

variable {configuration : CaptureConfiguration} {consumer : CaptureConsumer}

theorem selectedStreamIndexes_eq :
    configuration.selectedStreamIndexes consumer =
      (configuration.selected consumer).map Prod.snd := rfl

theorem selectedCaptureIds_eq :
    configuration.selectedCaptureIds consumer = (configuration.selected consumer).map
      (fun entry => UInt8.ofNat (enabledBefore configuration.streams entry.2)) :=
  selectedIdsFrom_eq consumer [] configuration.streams

theorem map_fst_selected :
    (configuration.selected consumer).map Prod.fst =
      configuration.streams.filter (fun stream => streamParticipates stream.mode consumer) := by
  unfold selected
  conv_rhs => rw [← List.zipIdx_map_fst 0 configuration.streams, List.filter_map]
  rfl

theorem selectedPacketConfigs_eq :
    configuration.selectedPacketConfigs consumer =
      (configuration.selected consumer).map (fun entry => entry.1.packetConfig) := by
  unfold selectedPacketConfigs
  rw [← map_fst_selected, List.map_map]
  rfl

theorem participantNames_eq :
    participantNames configuration.streams consumer =
      (configuration.selected consumer).map (fun entry => entry.1.name) := by
  unfold participantNames
  rw [← map_fst_selected, List.map_map]
  rfl

theorem getElem?_of_mem_selected {entry : ConfiguredStream × Nat}
    (h : entry ∈ configuration.selected consumer) :
    configuration.streams[entry.2]? = some entry.1 ∧
      streamParticipates entry.1.mode consumer = true := by
  obtain ⟨hmem, hparticipates⟩ := List.mem_filter.mp h
  exact ⟨List.mem_zipIdx_iff_getElem?.mp hmem, hparticipates⟩

theorem selected_ascending :
    (configuration.selected consumer).Pairwise (fun earlier later => earlier.2 < later.2) := by
  apply List.Pairwise.filter
  rw [← List.pairwise_map (f := Prod.snd) (R := (· < ·)), List.zipIdx_map_snd]
  exact List.pairwise_lt_range'

end CaptureConfiguration

namespace PluginCaptureRuntime

/-- All enumerations of the streams of a consumer list the same streams in the same order, and
the ids are those that the streams are registered under. -/
structure Enumerated (engine : CaptureControlEngine PluginEncoderController)
    (consumer : CaptureConsumer) (paths : List String) (path : String → String) : Prop where
  configsLength : (engine.configuration.selectedPacketConfigs consumer).length =
    (engine.configuration.selectedCaptureIds consumer).length
  indexesLength : (engine.configuration.selectedStreamIndexes consumer).length =
    (engine.configuration.selectedCaptureIds consumer).length
  pathsLength : paths.length = (engine.configuration.selectedCaptureIds consumer).length
  ascending : (engine.configuration.selectedCaptureIds consumer).Pairwise (· < ·)
  entries : ∀ (i : Nat) (captureId : CaptureStreamId),
    (engine.configuration.selectedCaptureIds consumer)[i]? = some captureId →
      ∃ index stream,
        (engine.configuration.selectedStreamIndexes consumer)[i]? = some index ∧
        engine.configuration.streams[index]? = some stream ∧
        streamParticipates stream.mode consumer = true ∧
        (engine.configuration.selectedPacketConfigs consumer)[i]? = some stream.packetConfig ∧
        paths[i]? = some (path stream.name) ∧
        engine.configuration.captureIdFor stream.identity = some captureId ∧
        captureId.toNat = enabledBefore engine.configuration.streams index ∧
        engine.capture.streams[captureId.toNat]? = some stream.registered

section Enumerations

variable {configuration : CaptureConfiguration} {ringCapacityBytes : Nat}
  {controller : PluginEncoderController} {consumer : CaptureConsumer}

/-- An id does not wrap. -/
theorem toNat_enabledBefore (hregistrable : Registrable configuration.streams)
    {entry : ConfiguredStream × Nat} (h : entry ∈ configuration.selected consumer) :
    (UInt8.ofNat (enabledBefore configuration.streams entry.2)).toNat =
      enabledBefore configuration.streams entry.2 := by
  obtain ⟨hstream, hparticipates⟩ := CaptureConfiguration.getElem?_of_mem_selected h
  obtain ⟨hposition, -⟩ := List.getElem?_eq_some_iff.mp
    (enabledStreams_getElem? hstream (enabled_of_participates hparticipates))
  have hfits := hregistrable.fits
  rw [UInt8.toNat_ofNat']
  exact Nat.mod_eq_of_lt (by omega)

theorem selectedCaptureIds_ascending (hregistrable : Registrable configuration.streams) :
    (configuration.selectedCaptureIds consumer).Pairwise (· < ·) := by
  rw [CaptureConfiguration.selectedCaptureIds_eq, List.pairwise_map]
  apply CaptureConfiguration.selected_ascending.imp_of_mem
  intro earlier later hearlier hlater hlt
  obtain ⟨hstream, hparticipates⟩ := CaptureConfiguration.getElem?_of_mem_selected hearlier
  rw [UInt8.lt_iff_toNat_lt, toNat_enabledBefore hregistrable hearlier,
    toNat_enabledBefore hregistrable hlater]
  exact enabledBefore_lt hstream (enabled_of_participates hparticipates) hlt

theorem enumerated_filled (hregistrable : Registrable configuration.streams)
    (hdistinct : (configuration.streams.map ConfiguredStream.identity).Nodup)
    (path : String → String) :
    Enumerated (CaptureControlEngine.filledEngine configuration ringCapacityBytes controller)
      consumer ((participantNames configuration.streams consumer).map path) path where
  configsLength := by
    simp [CaptureConfiguration.selectedCaptureIds_eq, CaptureConfiguration.selectedPacketConfigs_eq]
  indexesLength := by
    simp [CaptureConfiguration.selectedCaptureIds_eq, CaptureConfiguration.selectedStreamIndexes_eq]
  pathsLength := by
    simp [CaptureConfiguration.selectedCaptureIds_eq, CaptureConfiguration.participantNames_eq]
  ascending := selectedCaptureIds_ascending hregistrable
  entries i captureId hid := by
    simp only [CaptureControlEngine.filledEngine_configuration,
      CaptureControlEngine.filledEngine_streams,
      CaptureConfiguration.selectedPacketConfigs_eq, CaptureConfiguration.selectedStreamIndexes_eq,
      CaptureConfiguration.participantNames_eq, List.getElem?_map] at hid ⊢
    rw [CaptureConfiguration.selectedCaptureIds_eq, List.getElem?_map] at hid
    obtain ⟨entry, hentry, rfl⟩ := Option.map_eq_some_iff.mp hid
    have hmem := List.mem_of_getElem? hentry
    obtain ⟨hstream, hparticipates⟩ := CaptureConfiguration.getElem?_of_mem_selected hmem
    have hposition := enabledStreams_getElem? hstream (enabled_of_participates hparticipates)
    have hfound : configuration.captureIdFor entry.1.identity =
        some (0 + UInt8.ofNat (enabledBefore configuration.streams entry.2)) := by
      apply captureIdFrom_getElem _ hposition
      exact hdistinct.sublist (List.filter_sublist.map _)
    rw [UInt8.zero_add] at hfound
    refine ⟨entry.2, entry.1, ?_, hstream, hparticipates, ?_, ?_, hfound,
      toNat_enabledBefore hregistrable hmem, ?_⟩
    · rw [hentry]
      rfl
    · rw [hentry]
      rfl
    · rw [hentry]
      rfl
    · rw [toNat_enabledBefore hregistrable hmem, hposition]
      rfl

end Enumerations

/-- In every run of the capture session with a recording of the selected streams, the writer of
each lane has the file and is given packets of the stream with the same position. -/
def RecordsApart (engine : CaptureControlEngine PluginEncoderController) (paths : List String) :
    Prop :=
  ∀ (library : Nat → MuxLibrary) (first recording : SynchronizedRecordingConsumer)
    (past : List SharedCapture.Transition) (shared : SharedCapture)
    (consumer : CapturePacketConsumer) (recorded : SynchronizedRecordingConsumer.History),
    SynchronizedRecordingConsumer.start (engine.configuration.selectedPacketConfigs .recording)
      paths (engine.configuration.selectedCaptureIds .recording) library = some first →
    Runs.Run SharedCapture.step ⟨engine.capture, []⟩ past shared →
    Runs.Run SynchronizedRecordingConsumer.step first recorded recording →
    SynchronizedRecordingConsumer.arrivals recorded ⊆
      past.filterMap (SharedCapture.deliveredTo consumer) →
    ∀ (i : Nat) (lane : RecordingLane), recording.lanes[i]? = some lane →
      paths[i]? = some lane.path ∧
      (∀ path config accepted, ⟨.open path config, accepted⟩ ∈ lane.calls → path = lane.path) ∧
      ∃ captureId, (engine.configuration.selectedCaptureIds .recording)[i]? = some captureId ∧
        ∀ packet ∈ lane.outputs, ∃ captured ∈ past.filterMap SharedCapture.ingestedBy,
          captured.streamId = captureId ∧ Carries captured packet

/-- In every run of the capture session, a save of the selected streams writes to each file
packets of the stream with the same position. -/
def SavesApart (engine : CaptureControlEngine PluginEncoderController) (paths : List String) :
    Prop :=
  ∀ (library : Nat → MuxLibrary) (replay replay' : SynchronizedReplayConsumer)
    (past : List SharedCapture.Transition) (shared : SharedCapture) (durationNs : Nat),
    Runs.Run SharedCapture.step ⟨engine.capture, []⟩ past shared →
    replay.requestSave shared.session library paths durationNs
      (engine.configuration.selectedCaptureIds .replay) = (true, replay') →
    ∃ save, replay'.writing = some save ∧
      ∀ (i : Nat) (job : StreamJob),
        (streamJobs save.library save.snapshot save.paths)[i]? = some job →
          paths[i]? = some job.path ∧
          ∃ captureId, (engine.configuration.selectedCaptureIds .replay)[i]? = some captureId ∧
            ∀ packet ∈ muxPackets job.library job.owned save.snapshot.range,
              ∃ captured ∈ past.filterMap SharedCapture.ingestedBy,
                captured.streamId = captureId ∧ Carries captured packet

theorem filledEngine_empty {configuration : CaptureConfiguration} {ringCapacityBytes : Nat}
    {controller : PluginEncoderController} :
    ∀ stream ∈ (CaptureControlEngine.filledEngine configuration ringCapacityBytes
      controller).capture.streams, stream.packets.entries = [] := by
  intro stream hstream
  rw [CaptureControlEngine.filledEngine_streams] at hstream
  obtain ⟨configured, -, rfl⟩ := List.mem_map.mp hstream
  rfl

/-- The lanes of a new recording, one for each stream in the arguments. -/
theorem start_lanes {configs : List PacketStreamConfig} {paths : List String}
    {streamIds : List CaptureStreamId} {library : Nat → MuxLibrary}
    {first : SynchronizedRecordingConsumer} (hlength : configs.length = streamIds.length)
    (h : SynchronizedRecordingConsumer.start configs paths streamIds library = some first)
    {i : Nat} {lane : RecordingLane} (hlane : first.lanes[i]? = some lane) :
    paths[i]? = some lane.path ∧ streamIds[i]? = some lane.streamId := by
  unfold SynchronizedRecordingConsumer.start at h
  dsimp only at h
  split_ifs at h with hrefused hempty
  · exfalso
    apply hrefused
    left
    rw [List.isEmpty_iff] at hempty ⊢
    rw [← List.length_eq_zero_iff, hlength, hempty]
    rfl
  · obtain rfl := Option.some.inj h
    rw [SynchronizedRecordingConsumer.makeLanes, List.getElem?_mapIdx] at hlane
    obtain ⟨entry, hentry, rfl⟩ := Option.map_eq_some_iff.mp hlane
    obtain ⟨hfirst, hid⟩ := List.getElem?_zip_eq_some.mp hentry
    exact ⟨(List.getElem?_zip_eq_some.mp hfirst).2, hid⟩

theorem muxPackets_carries {library : MuxLibrary} {owned : List CapturedEncodedPacket}
    {range : ReplayFrameRange} {packet : EncodedPacket}
    (h : packet ∈ muxPackets library owned range) :
    ∃ captured ∈ owned, Carries captured packet := by
  unfold muxPackets at h
  dsimp only at h
  split at h
  · obtain ⟨captured, hcaptured, rfl⟩ := mem_inDecodeOrder.mp h
    exact ⟨captured, hcaptured, rfl⟩
  · split_ifs at h
    · obtain ⟨captured, hcaptured, rfl⟩ := mem_inDecodeOrder.mp h
      exact ⟨captured, hcaptured, rfl⟩
    · obtain ⟨before, hbefore, rfl⟩ := List.mem_map.mp h
      obtain ⟨captured, hcaptured, rfl⟩ := mem_inDecodeOrder.mp hbefore
      exact ⟨captured, hcaptured, rfl⟩

variable {engine : CaptureControlEngine PluginEncoderController} {paths : List String}

theorem recordsApart_of_length
    (hlength : (engine.configuration.selectedPacketConfigs .recording).length =
      (engine.configuration.selectedCaptureIds .recording).length) :
    RecordsApart engine paths := by
  intro library first recording past shared consumer recorded hstart hshared hrecorded harrived
    i lane hlane
  have hsourced := SynchronizedRecordingConsumer.run_sourced
    (SynchronizedRecordingConsumer.start_fresh hstart) hrecorded
  obtain ⟨begun, hbegun, hpath, hstream, hlaneSourced⟩ :=
    forall₂_getElem?_right hsourced hlane
  obtain ⟨hbegunPath, hbegunId⟩ := start_lanes hlength hstart hbegun
  refine ⟨by rw [hpath, hbegunPath], hlaneSourced.files, lane.streamId, by rw [hstream, hbegunId],
    fun packet hpacket => ?_⟩
  obtain ⟨captured, hcaptured, hrest⟩ := hlaneSourced.outputs packet hpacket
  exact ⟨captured, (SharedCapture.delivered_ingested hshared).2 consumer captured
    (harrived hcaptured), hrest⟩

theorem savesApart_of_empty
    (hempty : ∀ stream ∈ engine.capture.streams, stream.packets.entries = []) :
    SavesApart engine paths := by
  intro library replay replay' past shared durationNs hshared hsaved
  obtain ⟨snapshot, hsnapshot, hwriting⟩ := SynchronizedReplayConsumer.requestSave_writing hsaved
  refine ⟨_, hwriting, fun i job hjob => ?_⟩
  obtain ⟨-, howned, hpath⟩ := streamJobs_getElem? hjob
  have hsources := SynchronizedCaptureSession.snapshot_sources
    (SharedCapture.homed_run hempty hshared) hsnapshot
  obtain ⟨captureId, hid, hcopied⟩ := forall₂_getElem?_right hsources howned
  refine ⟨hpath, captureId, hid, fun packet hpacket => ?_⟩
  obtain ⟨captured, hcaptured, hcarries⟩ := muxPackets_carries hpacket
  obtain ⟨hingested, hstream⟩ := hcopied captured hcaptured
  exact ⟨captured, hingested, hstream, hcarries⟩

/-- All streams of an engine that has been initialized are addressed alike, by everything that
enumerates them, and so every file is its own stream's. -/
theorem enumerations_agree {configuration : CaptureConfiguration} {ringCapacityBytes : Nat}
    {controller : PluginEncoderController}
    (hdistinct : (configuration.streams.map ConfiguredStream.identity).Nodup)
    (hinitialized : (CaptureControlEngine.create configuration (.create ringCapacityBytes)
      controller).initializeEngine = (true, engine))
    {output : OutputDirectory} {directory : String} (hdirectory : output.directory = some directory)
    (stem : String) :
    (∀ consumer, Enumerated engine consumer (outputPaths engine consumer output stem)
      (outputPath directory stem)) ∧
    RecordsApart engine (outputPaths engine .recording output stem) ∧
    SavesApart engine (outputPaths engine .replay output stem) := by
  obtain ⟨hregistrable, rfl⟩ :=
    CaptureControlEngine.initializeEngine_create_iff.mp hinitialized
  have henumerated (consumer : CaptureConsumer) :
      Enumerated (CaptureControlEngine.filledEngine configuration ringCapacityBytes controller)
        consumer (outputPaths (CaptureControlEngine.filledEngine configuration ringCapacityBytes
          controller) consumer output stem) (outputPath directory stem) := by
    rw [outputPaths_eq, hdirectory]
    exact enumerated_filled hregistrable hdistinct _
  exact ⟨henumerated, recordsApart_of_length (henumerated .recording).configsLength,
    savesApart_of_empty filledEngine_empty⟩

/-- Streams of all modes. -/
def mixedModes : CaptureConfiguration where
  streams := [
    ⟨.master, "master", .both, streamConfig (0, 0)⟩,
    ⟨.scene "uuid-1", "A", .disabled, streamConfig (0, 0)⟩,
    ⟨.scene "uuid-2", "B", .recording, streamConfig (0, 0)⟩,
    ⟨.scene "uuid-3", "C", .replay, streamConfig (0, 0)⟩,
    ⟨.scene "uuid-4", "D", .both, streamConfig (0, 0)⟩]

def mixedModesEngine : Bool × CaptureControlEngine PluginEncoderController :=
  (CaptureControlEngine.create mixedModes (.create (30 * 1024 * 1024))
    (.create 4 (fun _ => true))).initializeEngine

/-- There are no paths if the output directory cannot be created. -/
theorem output_paths_missing :
    (mixedModes.streams.map ConfiguredStream.identity).Nodup ∧ mixedModesEngine.1 = true ∧
      (mixedModesEngine.2.configuration.selectedCaptureIds .recording).length = 3 ∧
      (outputPaths mixedModesEngine.2 .recording ⟨none, 0⟩ "recording-1-0").length = 0 := by
  decide

theorem enumerations_agree_mixed :
    mixedModesEngine.2.configuration.selectedCaptureIds .replay = [0, 2, 3] ∧
      mixedModesEngine.2.configuration.selectedStreamIndexes .replay = [0, 3, 4] ∧
      Enumerated mixedModesEngine.2 .replay
        (outputPaths mixedModesEngine.2 .replay ⟨some "out", 0⟩ "replay-1-0")
        (outputPath "out" "replay-1-0") := by
  have hinitialized : (CaptureControlEngine.create mixedModes (.create (30 * 1024 * 1024))
      (PluginEncoderController.create 4 (fun _ => true))).initializeEngine =
        (true, mixedModesEngine.2) := Prod.ext (by decide) rfl
  exact ⟨by decide, by decide,
    (enumerations_agree (by decide) hinitialized rfl "replay-1-0").1 .replay⟩

end PluginCaptureRuntime

end ObsSyncReplay
