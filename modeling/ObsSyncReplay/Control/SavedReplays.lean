import ObsSyncReplay.Capture.MuxableStreams
import ObsSyncReplay.Control.RuntimeCommands
import ObsSyncReplay.Replay.SavedFiles

/-!
The replays that a runtime has saved. The engine reaches its capture session by the calls of the
session alone, so that what holds of every session holds of the one that a save takes its snapshot
from.
-/

namespace ObsSyncReplay

namespace CaptureControlEngine

variable {ε : Type} {engine : CaptureControlEngine ε} {Q : SynchronizedCaptureSession → Prop}

/-- A property that every call of a session keeps. -/
def SessionProperty (Q : SynchronizedCaptureSession → Prop) : Prop :=
  ∀ session call, Q session → Q (session.step call).2

/-- A property that every call of a session keeps, but for a change of the size of its ring. -/
def SizedProperty (Q : SynchronizedCaptureSession → Prop) : Prop :=
  ∀ session call, (∀ bytes, call ≠ .setRingCapacityBytes bytes) → Q session →
    Q (session.step call).2

theorem SessionProperty.sized (hQ : SessionProperty Q) : SizedProperty Q :=
  fun session call _ => hQ session call

theorem SizedProperty.registerStreams (hQ : SizedProperty Q) (streams : List ConfiguredStream)
    (captureId : CaptureStreamId) {capture : SynchronizedCaptureSession} (h : Q capture) :
    Q (ObsSyncReplay.registerStreams streams captureId capture).2 := by
  induction streams generalizing captureId capture with
  | nil => exact h
  | cons stream rest ih =>
      have hregistered : Q (capture.registerStream captureId stream.name stream.packetConfig).2 :=
        hQ capture (.registerStream captureId stream.name stream.packetConfig) (by simp) h
      unfold ObsSyncReplay.registerStreams
      split_ifs
      · exact ih captureId h
      · rcases hanswer : capture.registerStream captureId stream.name stream.packetConfig with
          ⟨_ | _, registered⟩ <;> rw [hanswer] at hregistered
        · exact hregistered
        · exact ih (captureId + 1) hregistered

theorem SizedProperty.captureActivated (hQ : SizedProperty Q) (h : Q engine.capture)
    (hstreams : engine.capture.streams.length ≠ 0) : Q engine.captureActivated.capture := by
  cases hrunning : engine.capture.running with
  | true =>
      have hsame : engine.captureActivated.capture = engine.capture := by
        unfold CaptureControlEngine.captureActivated
        rw [← hrunning]
      rwa [hsame]
  | false =>
      have hstarted : Q engine.capture.start.2 := hQ engine.capture .start (by simp) h
      rwa [SynchronizedCaptureSession.start_of_stopped hrunning hstreams] at hstarted

theorem SizedProperty.retention (hQ : SizedProperty Q) {capture : SynchronizedCaptureSession}
    (h : Q capture) (enabled : Bool) : Q (capture.setReplayRetentionEnabled enabled) :=
  hQ capture (.setReplayRetentionEnabled enabled) (by simp) h

theorem SizedProperty.detachRecording (hQ : SizedProperty Q) (h : Q engine.capture) :
    Q engine.detachRecording.capture :=
  hQ engine.capture (.unsubscribe _) (by simp) h

theorem waitForReplaySave_capture : engine.waitForReplaySave.capture = engine.capture := by
  unfold CaptureControlEngine.waitForReplaySave
  split
  · rfl
  · dsimp only
    split_ifs <;> rfl

theorem pollReplaySave_capture : engine.pollReplaySave.capture = engine.capture := by
  unfold CaptureControlEngine.pollReplaySave
  split
  · rfl
  · split_ifs <;> rfl

variable [EncoderController ε]

theorem SizedProperty.stopCaptureIfUnused (hQ : SizedProperty Q) (h : Q engine.capture) :
    Q engine.stopCaptureIfUnused.capture := by
  unfold CaptureControlEngine.stopCaptureIfUnused
  split_ifs
  · exact h
  · exact hQ.retention (hQ engine.capture .stop (by simp) h) false

theorem SizedProperty.startRecording (hQ : SizedProperty Q) (hcoherent : engine.Coherent)
    (h : Q engine.capture) (paths : List String) (starts : Bool) :
    Q (engine.startRecording paths starts).2.capture := by
  by_cases hbegins : engine.BeginsRecording paths starts
  · have hnew : engine.nextAddress ∉ engine.capture.consumers := by
      rw [hcoherent.subscribed, hcoherent.recordingConsumer_eq_none hbegins.2.1]
      simp
    have hsubscribed : Q (engine.capture.subscribe (some engine.nextAddress)).2 :=
      hQ engine.capture (.subscribe (some engine.nextAddress)) (by simp) h
    rw [SynchronizedCaptureSession.subscribe_of_new hnew] at hsubscribed
    have hattached : Q (engine.attachRecording paths).captureActivated.capture :=
      hQ.captureActivated (hQ.retention hsubscribed _)
        (by simpa [attachRecording] using hcoherent.registered hbegins.1)
    rw [hcoherent.startRecording_of_begins hbegins]
    rcases hreconcile : (engine.attachRecording paths).captureActivated.reconcileEncoderDemand with
      ⟨_ | _, engine'⟩ <;> have hkept := reconcileEncoderDemand_eq hreconcile
    · rw [hkept]
      exact hQ.stopCaptureIfUnused (hQ.detachRecording hattached)
    · rw [hkept]
      exact hattached
  · rcases hcoherent.startRecording_of_not_begins hbegins with hsame | ⟨-, hsame⟩ <;> rw [hsame] <;>
      exact h

theorem SizedProperty.startReplay (hQ : SizedProperty Q) (hcoherent : engine.Coherent)
    (h : Q engine.capture) : Q engine.startReplay.2.capture := by
  by_cases hbegins : engine.BeginsReplay
  · have hattached : Q engine.attachReplay.captureActivated.capture :=
      hQ.captureActivated (hQ.retention h true)
        (by simpa [attachReplay] using hcoherent.registered hbegins.1)
    rw [hcoherent.startReplay_of_begins hbegins]
    rcases hreconcile : engine.attachReplay.captureActivated.reconcileEncoderDemand with
      ⟨_ | _, engine'⟩ <;> have hkept := reconcileEncoderDemand_eq hreconcile
    · rw [hkept]
      exact hQ.stopCaptureIfUnused (hQ.retention hattached false)
    · rw [hkept]
      exact hattached
  · rwa [startReplay_of_not_begins hbegins]

theorem SizedProperty.stopReplay (hQ : SizedProperty Q) (h : Q engine.capture) :
    Q engine.stopReplay.2.capture := by
  unfold CaptureControlEngine.stopReplay
  split_ifs
  · exact h
  · have hwaited : Q ({ engine with replayState := .stopping }.waitForReplaySave).capture := by
      rw [waitForReplaySave_capture]
      exact h
    exact hQ.stopCaptureIfUnused (hQ.retention hwaited false)

theorem SizedProperty.stopRecording (hQ : SizedProperty Q) (h : Q engine.capture)
    (result : Option SynchronizedRecordingConsumerResult) :
    Q (engine.stopRecording result).2.capture := by
  unfold CaptureControlEngine.stopRecording
  split_ifs
  · exact h
  · exact h
  · exact hQ.stopCaptureIfUnused (hQ.detachRecording h)

/-- A change of the configuration changes the size of the ring, and nothing after that. -/
theorem SizedProperty.applyReplayConfiguration (hQ : SizedProperty Q) (h : Q engine.capture)
    (configuration : ReplayConfiguration) : ∃ capture, Q capture ∧
      (engine.applyReplayConfiguration configuration).2.capture =
        capture.setRingCapacityBytes configuration.memoryBudgetBytes := by
  rcases engine.applyReplayConfiguration_cases configuration with
    ⟨-, -, happlied⟩ | ⟨-, happlied⟩ <;> rw [happlied]
  · exact ⟨_, hQ.stopReplay h, rfl⟩
  · exact ⟨_, h, rfl⟩

/-- What the calls of a session keep, the calls of its engine keep, but for that one. -/
theorem SizedProperty.step (hQ : SizedProperty Q) (hcoherent : engine.Coherent)
    (h : Q engine.capture) {call : ControlCall}
    (hcall : ∀ configuration, call ≠ .applyReplayConfiguration configuration) :
    Q (engine.step call).2.capture := by
  cases call with
  | initializeEngine =>
      change Q engine.initializeEngine.2.capture
      unfold CaptureControlEngine.initializeEngine
      split_ifs
      · exact h
      · dsimp only
        split_ifs <;> exact hQ.registerStreams _ 0 h
  | startRecording paths starts => exact hQ.startRecording hcoherent h paths starts
  | stopRecording result => exact hQ.stopRecording h result
  | startReplay => exact hQ.startReplay hcoherent h
  | stopReplay => exact hQ.stopReplay h
  | saveReplay paths library =>
      change Q (engine.saveReplay paths library).2.capture
      rcases engine.saveReplay_eq paths library with ⟨_, -, hsave⟩ | ⟨-, _, _, -, -, hsave⟩ |
        ⟨-, _, -, hsave⟩ <;> rw [hsave] <;> exact h
  | applyReplayConfiguration configuration => exact absurd rfl (hcall configuration)
  | pollReplaySave =>
      change Q engine.pollReplaySave.capture
      rwa [pollReplaySave_capture]
  | waitForReplaySave =>
      change Q engine.waitForReplaySave.capture
      rwa [waitForReplaySave_capture]
  | shutdown result =>
      change Q (engine.shutdown result).capture
      unfold CaptureControlEngine.shutdown
      split_ifs
      · exact h
      · exact hQ.retention (hQ _ .stop (by simp) (hQ.stopRecording (hQ.stopReplay h) result)) false
  | ingest streamId packet codecExtraData =>
      exact hQ engine.capture (.ingest streamId packet codecExtraData) (by simp) h
  | saveFinishes => exact h

/-- The rule: what the calls of a session keep, the calls of its engine keep. -/
theorem SessionProperty.step (hQ : SessionProperty Q) (hcoherent : engine.Coherent)
    (h : Q engine.capture) (call : ControlCall) : Q (engine.step call).2.capture := by
  by_cases hcall : ∃ configuration, call = .applyReplayConfiguration configuration
  · obtain ⟨configuration, rfl⟩ := hcall
    obtain ⟨capture, hkept, happlied⟩ := hQ.sized.applyReplayConfiguration h configuration
    change Q (engine.applyReplayConfiguration configuration).2.capture
    rw [happlied]
    exact hQ capture (.setRingCapacityBytes configuration.memoryBudgetBytes) hkept
  · exact hQ.sized.step hcoherent h fun configuration hsame => hcall ⟨configuration, hsame⟩

end CaptureControlEngine

/-- The save was accepted for a snapshot of this session. -/
def ReplaySave.TakenFrom (save : ReplaySave) (session : SynchronizedCaptureSession) : Prop :=
  ∃ streamIds durationNs, (session.snapshotCommonRangeDetailed streamIds durationNs).snapshot =
    some save.snapshot ∧ save.snapshot.packets.length = save.paths.length

theorem SynchronizedReplayConsumer.requestSave_taken
    {consumer consumer' : SynchronizedReplayConsumer} {capture : SynchronizedCaptureSession}
    {library : Nat → MuxLibrary} {paths : List String} {durationNs : Nat}
    {streamIds : List CaptureStreamId}
    (h : consumer.requestSave capture library paths durationNs streamIds = (true, consumer')) :
    ∃ save, consumer'.writing = some save ∧ save.paths = paths ∧ save.TakenFrom capture := by
  unfold requestSave reject at h
  by_cases hpaths : paths.isEmpty = true
  · rw [if_pos hpaths] at h
    cases congrArg Prod.fst h
  rw [if_neg hpaths] at h
  dsimp only at h
  cases hsnapshot : (capture.snapshotCommonRangeDetailed streamIds durationNs).snapshot with
  | none =>
      rw [hsnapshot] at h
      cases congrArg Prod.fst h
  | some snapshot =>
      simp only [hsnapshot] at h
      split_ifs at h with hcount
      · cases congrArg Prod.fst h
      · cases congrArg Prod.fst h
      · obtain ⟨-, rfl⟩ := Prod.mk.inj h
        exact ⟨_, rfl, rfl, streamIds, durationNs, hsnapshot, not_not.mp hcount⟩

namespace CaptureControlEngine

variable {ε : Type} {engine : CaptureControlEngine ε}

theorem saveReplay_taken {paths : List String} {library : Nat → MuxLibrary}
    (h : (engine.saveReplay paths library).1.ok = true) :
    ∃ save, (engine.saveReplay paths library).2.replayConsumer.bind
        SynchronizedReplayConsumer.writing = some save ∧
      save.paths = paths ∧ save.TakenFrom engine.capture := by
  rcases engine.saveReplay_eq paths library with ⟨refusal, hrefused, hsave⟩ |
    ⟨-, refusal, consumer, -, hrefused, hsave⟩ | ⟨-, consumer, hrequest, hsave⟩ <;>
    rw [hsave] at h ⊢
  · rw [hrefused] at h
    cases h
  · rw [hrefused] at h
    cases h
  · obtain ⟨save, hwriting, hpaths, htaken⟩ :=
      SynchronizedReplayConsumer.requestSave_taken hrequest
    exact ⟨save, hwriting, hpaths, htaken⟩

end CaptureControlEngine

namespace SynchronizedCaptureSession

variable {session : SynchronizedCaptureSession} {streamIds : List CaptureStreamId}
  {durationNs start endCts : Nat}

theorem Muxable.stream (h : session.Muxable) {streamId : CaptureStreamId}
    (hid : streamId.toNat < session.streams.length) :
    (streamAt session.streams streamId).Muxable := by
  unfold streamAt
  rw [List.getD_eq_getElem?_getD, List.getElem?_eq_getElem hid]
  exact h _ (List.getElem_mem hid)

/-- Every stream of a snapshot reaches from its start to its end. -/
theorem ReplayStart.spans (h : ReplayStart session streamIds durationNs start)
    (hkeyed : session.Keyed) (hend : (leadingRun session streamIds start).getLast? = some endCts)
    {streamId : CaptureStreamId} (hid : streamId ∈ streamIds) :
    (ReplayFrameRange.mk start endCts).Spans
      (sourceCtsOf (copied session ⟨start, endCts⟩ streamId)) := by
  have hrun := (CommonRun.mem_run (retainedCts_ascending _)).mp (List.mem_of_getLast? hend)
  have hlast : CommonRun.Shared (selectedCts session.streams streamIds) endCts :=
    hrun.2.2 endCts hrun.1 hrun.2.1 le_rfl
  rw [sourceCtsOf, hkeyed.map_copied]
  constructor
  · exact mem_copiedCts.mpr ⟨shared_selectedCts.mp h.shared streamId hid, le_rfl, hrun.2.1⟩
  · exact mem_copiedCts.mpr ⟨shared_selectedCts.mp hlast streamId hid, hrun.2.1, le_rfl⟩
  · exact fun cts hcts => (mem_copiedCts.mp hcts).2

theorem ReplayStart.streamReady (h : ReplayStart session streamIds durationNs start)
    (hkeyed : session.Keyed) (hmuxable : session.Muxable)
    (hend : (leadingRun session streamIds start).getLast? = some endCts)
    {streamId : CaptureStreamId} (hid : streamId ∈ streamIds) :
    StreamReady ⟨start, endCts⟩ (streamAt session.streams streamId).config
      (copied session ⟨start, endCts⟩ streamId) := by
  have hstream := hmuxable.stream (h.registered streamId hid)
  have hspans := h.spans hkeyed hend hid
  have hentry {captured : CapturedEncodedPacket}
      (hcaptured : captured ∈ copied session ⟨start, endCts⟩ streamId) :
      ∃ e ∈ (streamAt session.streams streamId).packets.entries, e.2 = captured := by
    obtain ⟨e, he, rfl⟩ := List.mem_map.mp hcaptured
    exact ⟨e, List.mem_of_mem_filter he, rfl⟩
  refine ⟨hstream.width, hstream.height, hstream.timebase ?_, fun captured hcaptured => ?_, hspans⟩
  · obtain ⟨captured, hcaptured, -⟩ := List.mem_map.mp hspans.first
    obtain ⟨e, he, -⟩ := hentry hcaptured
    exact List.ne_nil_of_mem he
  · obtain ⟨e, he, rfl⟩ := hentry hcaptured
    exact hstream.payload e he

end SynchronizedCaptureSession

namespace ReplaySave

variable {save : ReplaySave} {session : SynchronizedCaptureSession}

/-- A save that was taken from a session lacks nothing that a session can give. -/
theorem TakenFrom.ready (h : save.TakenFrom session) (hreachable : session.Reachable) :
    save.Ready := by
  obtain ⟨streamIds, durationNs, hsnapshot, hcount⟩ := h
  obtain ⟨start, endCts, hstart, hend, htaken⟩ :=
    (SynchronizedCaptureSession.snapshot_eq_some_iff hreachable.keyed).mp hsnapshot
  refine ⟨⟨?_, hcount.symm⟩, fun place owned config howned hconfig => ?_⟩
  · rw [htaken]
    simp [SynchronizedCaptureSession.snapshotRange]
  · rw [htaken, SynchronizedCaptureSession.packets_snapshotRange, List.getElem?_map] at howned
    obtain ⟨streamId, hat, rfl⟩ := Option.map_eq_some_iff.mp howned
    rw [htaken] at hconfig ⊢
    simp only [SynchronizedCaptureSession.snapshotRange, List.getElem?_map, hat,
      Option.map_some, Option.some.injEq] at hconfig
    rw [← hconfig]
    exact hstart.streamReady hreachable.keyed hreachable.muxable hend (List.mem_of_getElem? hat)

end ReplaySave

namespace PluginCaptureRuntime

variable {runtime : PluginCaptureRuntime} {engine : CaptureControlEngine PluginEncoderController}

theorem sessionProperty_reachable :
    CaptureControlEngine.SessionProperty SynchronizedCaptureSession.Reachable := by
  rintro session call ⟨ringCapacityBytes, past, hrun⟩
  exact ⟨ringCapacityBytes, _, hrun.next call⟩

theorem engineProperty_reachable : EngineProperty (fun engine => engine.capture.Reachable) where
  step engine call hcoherent h := sessionProperty_reachable.step hcoherent h call
  built runtime rebuild engine htopology hnone hengine := by
    obtain ⟨streams, -, hinitialize⟩ := built_engine hnone hengine
    have hnew := congrArg Prod.snd hinitialize
    dsimp only at hnew
    rw [← hnew]
    exact sessionProperty_reachable.step (CaptureControlEngine.coherent_create _ _ _)
      ⟨runtime.replayConfiguration.memoryBudgetBytes, [], .start⟩ .initializeEngine

/-- A save was taken from a session that its calls have made, and has a path for each stream. -/
def WellTaken (save : ReplaySave) : Prop :=
  (∃ session : SynchronizedCaptureSession, session.Reachable ∧ save.TakenFrom session) ∧
    ∀ path ∈ save.paths, path ≠ ""

theorem outputPaths_ne {consumer : CaptureConsumer} {output : OutputDirectory} {stem path : String}
    (h : path ∈ outputPaths engine consumer output stem) : path ≠ "" := by
  unfold outputPaths at h
  split at h
  · cases h
  · rename_i directory _
    obtain ⟨stream, -, rfl⟩ := List.mem_map.mp h
    intro hempty
    have hslash := (String.append_eq_empty_iff.mp (String.append_eq_empty_iff.mp hempty).1).2
    exact absurd hslash (by decide)

/-- The save that a command has accepted. -/
theorem acceptedSave_taken (hserving : runtime.Serving)
    (hreachable : ∀ engine ∈ runtime.control, engine.capture.Reachable) {call : Call}
    {save : ReplaySave} (h : acceptedSave (Runs.transition step runtime call) = some save) :
    WellTaken save := by
  cases call with
  | saveReplay profile rebuild output library =>
      have hkept := engineProperty_reachable.applyReplayConfiguration hserving.toSettled hreachable
        profile rebuild
      simp only [acceptedSave, Runs.transition, step, Prod.map_fst, Prod.map_snd, id] at h
      split_ifs at h with hok
      unfold saveReplay refreshReplayConfiguration at h hok
      dsimp only at h hok
      split at h <;> rename_i hcontrol <;> rw [hcontrol] at hok
      · cases hok
      · rename_i engine
        obtain ⟨taken, hwriting, hpaths, htaken⟩ := CaptureControlEngine.saveReplay_taken hok
        rw [Option.bind_some, hwriting] at h
        obtain rfl := Option.some.inj h
        refine ⟨⟨engine.capture, hkept engine hcontrol, htaken⟩, fun path hpath => ?_⟩
        rw [hpaths] at hpath
        exact outputPaths_ne hpath
  | _ => cases h

theorem acceptedSaves_taken {profile : ReplayConfiguration} {past : List Transition}
    (hrun : Runs.Run step { replayConfiguration := profile } past runtime)
    (hcalls : ∀ t ∈ past, t.input ≠ .stop) : ∀ save ∈ acceptedSaves past, WellTaken save := by
  suffices hkept : (∀ t ∈ past, t.input ≠ .stop) → runtime.Serving ∧
      (∀ engine ∈ runtime.control, engine.capture.Reachable) ∧
        ∀ save ∈ acceptedSaves past, WellTaken save from (hkept hcalls).2.2
  apply hrun.invariant (P := fun past runtime => (∀ t ∈ past, t.input ≠ .stop) →
    runtime.Serving ∧ (∀ engine ∈ runtime.control, engine.capture.Reachable) ∧
      ∀ save ∈ acceptedSaves past, WellTaken save)
  · intro _
    exact ⟨serving_new profile, fun engine hengine => (by cases hengine), List.forall_mem_nil _⟩
  · intro past runtime call _ h hcalls
    rw [List.forall_mem_append, List.forall_mem_singleton] at hcalls
    obtain ⟨hserving, hreachable, hsaves⟩ := h hcalls.1
    refine ⟨hserving.step call hcalls.2,
      engineProperty_reachable.command hserving.toSettled hreachable call, ?_⟩
    rw [acceptedSaves_concat, List.forall_mem_append]
    refine ⟨hsaves, fun save hsave => ?_⟩
    exact acceptedSave_taken hserving hreachable (Option.mem_toList.mp hsave)

/-- Every save that a runtime accepts up to its end leaves only closed files. If it succeeds, every
stream of its snapshot is whole in its file; if it fails, every stream before the failing one. -/
theorem replays_saved_whole {profile : ReplayConfiguration} {past : List Transition}
    (hrun : Runs.Run step { replayConfiguration := profile } past runtime)
    (hcalls : ∀ t ∈ past, t.input ≠ .stop) : ∀ save ∈ acceptedSaves past, save.Outcome := by
  intro save hsave
  obtain ⟨⟨session, hreachable, htaken⟩, -⟩ := acceptedSaves_taken hrun hcalls save hsave
  exact (htaken.ready hreachable).toPaired.outcome

theorem firstSave_goes_on : ∀ t ∈ Runs.history step { replayConfiguration := replayProfile }
    firstSave, t.input ≠ .stop := by
  have hcalls : ∀ call ∈ firstSave, call ≠ .stop := by
    simp [firstSave, firstSave.deliver, firstSave.save]
  exact Runs.forall_history_input.mpr hcalls

theorem replays_saved_whole_sample :
    (acceptedSaves (Runs.history step { replayConfiguration := replayProfile } firstSave)).map
        (fun save => save.result.success) = [true] ∧
      ∀ save ∈ acceptedSaves (Runs.history step { replayConfiguration := replayProfile } firstSave),
        save.Holds 0 := by
  have hsuccess : ∀ save ∈ acceptedSaves
      (Runs.history step { replayConfiguration := replayProfile } firstSave),
      save.result.success = true ∧ 0 < save.snapshot.packets.length := by decide
  refine ⟨by decide, fun save hsave => ?_⟩
  have houtcome := replays_saved_whole (Runs.run_exec _ firstSave) firstSave_goes_on save hsave
  exact (houtcome.whole (hsuccess save hsave).1).2.2 0 (hsuccess save hsave).2

/-- A save of which the packets of each stream share a time base and lie within 2^63 ns of the start
succeeds exactly if every codec has told its header and the muxing libraries refuse nothing. -/
theorem replay_saved_iff {profile : ReplayConfiguration} {past : List Transition}
    {rescale : Int → AVRational → AVRational → Int}
    (hrun : Runs.Run step { replayConfiguration := profile } past runtime)
    (hcalls : ∀ t ∈ past, t.input ≠ .stop) (hrescale : MonotoneRescale rescale) {save : ReplaySave}
    (hsave : save ∈ acceptedSaves past)
    (hlibraries : ∀ place, (save.library place).rescale = rescale)
    (hpresentable : Presentable save.snapshot) :
    save.result.success = true ↔
      (∀ config ∈ save.snapshot.streamConfigs, config.extraData ≠ []) ∧ save.Granted := by
  obtain ⟨⟨session, hreachable, htaken⟩, hpaths⟩ := acceptedSaves_taken hrun hcalls save hsave
  rw [(htaken.ready hreachable).success_iff hrescale hlibraries hpresentable]
  exact and_congr_left' (and_iff_right hpaths)

theorem replay_saved_iff_sample :
    (acceptedSaves (Runs.history step { replayConfiguration := replayProfile } firstSave)).length =
        1 ∧
      ∀ save ∈ acceptedSaves (Runs.history step { replayConfiguration := replayProfile } firstSave),
        save.Granted := by
  have hsnapshot : ∀ save ∈ acceptedSaves
      (Runs.history step { replayConfiguration := replayProfile } firstSave),
      save.result.success = true ∧ ∀ owned ∈ save.snapshot.packets, ∀ captured ∈ owned,
        captured.packet.timebase = ⟨1, 60⟩ ∧
          FitsInt64 save.snapshot.range.startCts captured.packet.sourceCts := by decide
  have hlibrary : (acceptedSaves (Runs.history step { replayConfiguration := replayProfile }
      firstSave)).map ReplaySave.library = [fun _ => CaptureControlEngine.obligingLibrary] := rfl
  have hrescale : MonotoneRescale (fun value _ _ => value) := ⟨fun _ _ _ _ h => h, fun _ _ => rfl⟩
  refine ⟨by decide, fun save hsave => ?_⟩
  obtain ⟨hsuccess, hpackets⟩ := hsnapshot save hsave
  have hlibraries : save.library = fun _ => CaptureControlEngine.obligingLibrary := by
    have hmem := List.mem_map_of_mem (f := ReplaySave.library) hsave
    rwa [hlibrary, List.mem_singleton] at hmem
  refine ((replay_saved_iff (Runs.run_exec _ firstSave) firstSave_goes_on hrescale hsave ?_
    ⟨fun owned howned => ⟨⟨1, 60⟩, by decide, by decide, fun captured hcaptured => ?_⟩,
      fun owned howned captured hcaptured => ?_⟩).mp hsuccess).2
  · rw [hlibraries]
    exact fun _ => rfl
  · exact (hpackets owned howned captured hcaptured).1
  · exact (hpackets owned howned captured hcaptured).2

end PluginCaptureRuntime

end ObsSyncReplay
