import ObsSyncReplay.Control.ReplayProfiles

/-!
The end of a control state. The engine stops every output that runs, and then the encoders of all
streams are detached and released. OBS detaches a member only when no member of the group runs, and
may still refuse: then the stream keeps all that it owns.
-/

namespace ObsSyncReplay

/-- The loop of `~PluginEncoderController`. -/
def releaseAll : List StreamResources → ObsCalls → List StreamResources × ObsCalls
  | [], obs => ([], obs)
  | resource :: rest, obs =>
      let (resource, obs) := releaseStream resource obs
      let (rest, obs) := releaseAll rest obs
      (resource :: rest, obs)

/-- `~PluginEncoderController`. -/
def PluginEncoderController.destroyed (controller : PluginEncoderController) :
    PluginEncoderController :=
  let (resources, obs) := releaseAll controller.resources controller.obs
  { controller with resources := resources, obs := obs }

/-- `~ControlState`, up to its encoder group. The engine shuts down once more at its own end. -/
def CaptureControlEngine.stopped (engine : CaptureControlEngine PluginEncoderController)
    (recorded : Option SynchronizedRecordingConsumerResult) :
    CaptureControlEngine PluginEncoderController :=
  (engine.shutdown recorded).shutdown none

def CaptureControlEngine.dropped (engine : CaptureControlEngine PluginEncoderController)
    (recorded : Option SynchronizedRecordingConsumerResult) : PluginEncoderController :=
  (engine.stopped recorded).encoders.controller.destroyed

namespace StreamResources

variable {resource : StreamResources}

/-- The stream for which an output runs. -/
def running (resource : StreamResources) : Option CaptureStreamId :=
  if resource.started then some resource.captureId else none

/-- Everything that the stream owned is given back. -/
structure Gone (resource : StreamResources) : Prop where
  videoEncoder : resource.videoEncoder = false
  audioEncoder : resource.audioEncoder = false
  output : resource.output = false

theorem running_of_not_started (h : resource.started = false) : resource.running = none := by
  unfold running
  rw [h]
  rfl

theorem destroyed_gone (resource : StreamResources) : resource.destroyed.Gone := ⟨rfl, rfl, rfl⟩

end StreamResources

section Release

variable {resource : StreamResources} {resources : List StreamResources} {obs : ObsCalls}

/-- What `ReleaseStream` comes to: without a detach, refused, or detached first. -/
theorem releaseStream_cases (resource : StreamResources) (obs : ObsCalls) :
    releaseStream resource obs = (resource.destroyed, obs) ∨
    (resource.videoEncoder = true ∧ obs.outcomes obs.made = false ∧
      releaseStream resource obs = (resource, { obs with made := obs.made + 1 })) ∨
    (obs.outcomes obs.made = true ∧ releaseStream resource obs =
      ({ resource with grouped := false }.destroyed, { obs with made := obs.made + 1 })) := by
  unfold releaseStream ObsCalls.attempt
  split_ifs with hmember
  · rw [Bool.and_eq_true] at hmember
    cases houtcome : obs.outcomes obs.made with
    | false => exact Or.inr (Or.inl ⟨hmember.1, rfl, rfl⟩)
    | true => exact Or.inr (Or.inr ⟨rfl, rfl⟩)
  · exact Or.inl rfl

theorem releaseStream_running : (releaseStream resource obs).1.running = resource.running := by
  rcases releaseStream_cases resource obs with h | ⟨-, -, h⟩ | ⟨-, h⟩ <;> rw [h] <;> rfl

theorem releaseStream_outcomes : (releaseStream resource obs).2.outcomes = obs.outcomes := by
  rcases releaseStream_cases resource obs with h | ⟨-, -, h⟩ | ⟨-, h⟩ <;> rw [h]

theorem releaseStream_made : obs.made ≤ (releaseStream resource obs).2.made := by
  rcases releaseStream_cases resource obs with h | ⟨-, -, h⟩ | ⟨-, h⟩ <;> rw [h]
  · exact Nat.le_succ _
  · exact Nat.le_succ _

/-- A stream is given back unless its detach is refused. -/
theorem releaseStream_gone_iff :
    (releaseStream resource obs).1.Gone ↔
      ∀ n, obs.made ≤ n → n < (releaseStream resource obs).2.made → obs.outcomes n = true := by
  rcases releaseStream_cases resource obs with h | ⟨hthere, hrefused, h⟩ | ⟨hdetached, h⟩ <;> rw [h]
  · refine iff_of_true (StreamResources.destroyed_gone _) (fun n hfrom hto => ?_)
    exact absurd hto (not_lt.mpr hfrom)
  · refine iff_of_false (fun hgone => ?_) (fun hall => ?_)
    · exact absurd (hthere.symm.trans hgone.videoEncoder) (by decide)
    · simp [hall obs.made le_rfl (Nat.lt_succ_self _)] at hrefused
  · refine iff_of_true (StreamResources.destroyed_gone _) (fun n hfrom hto => ?_)
    obtain rfl : n = obs.made := le_antisymm (Nat.lt_succ_iff.mp hto) hfrom
    exact hdetached

theorem detachAll_running :
    (detachAll resources obs).1.map StreamResources.running =
      resources.map StreamResources.running := by
  induction resources generalizing obs with
  | nil => rfl
  | cons candidate rest ih =>
      unfold detachAll
      split_ifs
      · dsimp only
        rw [List.map_cons, List.map_cons, ih]
        split_ifs
        · rfl
        · rfl
      · dsimp only
        rw [List.map_cons, List.map_cons, ih]

theorem destroyPending_running :
    (destroyPending resources obs).1.map StreamResources.running =
      resources.map StreamResources.running := by
  induction resources generalizing obs with
  | nil => rfl
  | cons candidate rest ih =>
      unfold destroyPending
      split_ifs
      · dsimp only
        rw [List.map_cons, List.map_cons, ih, ← @releaseStream_running candidate obs]
        rfl
      · dsimp only
        rw [List.map_cons, List.map_cons, ih]

theorem releaseAll_made : obs.made ≤ (releaseAll resources obs).2.made := by
  induction resources generalizing obs with
  | nil => exact le_rfl
  | cons resource rest ih => exact releaseStream_made.trans ih

/-- All streams are given back unless a detach is refused. -/
theorem releaseAll_gone_iff :
    (∀ resource ∈ (releaseAll resources obs).1, resource.Gone) ↔
      ∀ n, obs.made ≤ n → n < (releaseAll resources obs).2.made → obs.outcomes n = true := by
  induction resources generalizing obs with
  | nil =>
      refine iff_of_true (List.forall_mem_nil _) (fun n hfrom hto => ?_)
      exact absurd hto (not_lt.mpr hfrom)
  | cons resource rest ih =>
      have hmade := @releaseStream_made resource obs
      have hlater := @releaseAll_made rest (releaseStream resource obs).2
      unfold releaseAll
      dsimp only
      rw [List.forall_mem_cons, releaseStream_gone_iff, ih, releaseStream_outcomes]
      constructor
      · rintro ⟨hfirst, hrest⟩ n hfrom hto
        rcases lt_or_ge n (releaseStream resource obs).2.made with hbefore | hafter
        · exact hfirst n hfrom hbefore
        · exact hrest n hafter hto
      · intro hall
        exact ⟨fun n hfrom hto => hall n hfrom (hto.trans_le hlater),
          fun n hfrom hto => hall n (hmade.trans hfrom) hto⟩

end Release

namespace PluginEncoderController

variable {controller : PluginEncoderController} {P Q : CaptureStreamId → Prop}
  {streamId : CaptureStreamId}

/-- Every output that runs is at the place of the stream it was started for, which is one of
these. -/
def RunsAmong (P : CaptureStreamId → Prop) (controller : PluginEncoderController) : Prop :=
  ∀ index captureId, (controller.resources.map StreamResources.running)[index]? =
    some (some captureId) → captureId.toNat = index ∧ P captureId

theorem RunsAmong.mono (h : controller.RunsAmong P)
    (himp : ∀ captureId, P captureId → Q captureId) : controller.RunsAmong Q :=
  fun index captureId hrunning =>
    ⟨(h index captureId hrunning).1, himp captureId (h index captureId hrunning).2⟩

theorem RunsAmong.congr {controller' : PluginEncoderController} (h : controller.RunsAmong P)
    (hsame : controller'.resources.map StreamResources.running =
      controller.resources.map StreamResources.running) : controller'.RunsAmong P := by
  unfold RunsAmong
  rw [hsame]
  exact h

theorem RunsAmong.not_started (h : controller.RunsAmong (fun _ => False)) :
    ∀ resource ∈ controller.resources, resource.started = false := by
  intro resource hresource
  by_contra hstarted
  obtain ⟨index, hindex⟩ := List.mem_iff_getElem?.mp hresource
  refine (h index resource.captureId ?_).2
  rw [List.getElem?_map, hindex, Option.map_some, StreamResources.running, if_pos]
  simpa using hstarted

theorem runsAmong_create (captureVideos : Nat) (outcomes : Nat → Bool) :
    (create captureVideos outcomes).RunsAmong P := by
  intro index captureId hrunning
  have hmem := List.mem_of_getElem? hrunning
  simp [create, StreamResources.running] at hmem

theorem RunsAmong.set (h : controller.RunsAmong P) {written : StreamResources × ObsCalls}
    (hwritten : ∀ captureId, written.1.running = some captureId → captureId = streamId ∧
      P captureId) : (controller.setResource streamId written).RunsAmong P := by
  intro index captureId hrunning
  unfold setResource at hrunning
  rw [List.map_set, List.getElem?_set] at hrunning
  split_ifs at hrunning with hsame
  · obtain ⟨rfl, hP⟩ := hwritten captureId (Option.some.inj hrunning)
    exact ⟨hsame, hP⟩
  · exact h index captureId hrunning

theorem isActive_of_running {index : Nat}
    (hrunning : (controller.resources.map StreamResources.running)[index]? = some (some streamId)) :
    controller.isActive streamId = true := by
  obtain ⟨resource, hresource, hstream⟩ := List.mem_map.mp (List.mem_of_getElem? hrunning)
  unfold StreamResources.running at hstream
  split_ifs at hstream with hstarted
  unfold isActive
  rw [List.any_eq_true]
  exact ⟨resource, hresource, decide_eq_true ⟨Option.some.inj hstream, hstarted⟩⟩

theorem running_of_resource? {resource : StreamResources}
    (h : controller.resource? streamId = some resource) :
    (controller.resources.map StreamResources.running)[streamId.toNat]? =
      some resource.running := by
  unfold resource? at h
  rw [List.getElem?_map, h, Option.map_some]

theorem RunsAmong.ensureCreated (hwellFormed : controller.WellFormed)
    (h : controller.RunsAmong P) (stream : ConfiguredStream) :
    (controller.ensureCreated streamId stream).2.RunsAmong P := by
  rcases ensureCreated_cases hwellFormed stream with hsame |
    ⟨earlier, written, hearlier, hcreated, hset⟩
  · rwa [hsame]
  · rw [hset]
    refine h.set fun captureId hrunning => ?_
    rcases hcreated with hsame | ⟨hmissing, hstarted, -, -⟩
    · rw [hsame] at hrunning
      have hearlier := running_of_resource? hearlier
      rw [hrunning] at hearlier
      obtain ⟨hplace, hP⟩ := h _ captureId hearlier
      exact ⟨UInt8.toNat_inj.mp hplace, hP⟩
    · -- an encoder that was missing did not run, and is not started by its creation
      have hoff : written.1.started = false := by
        have hsound := hwellFormed earlier (mem_of_resource? hearlier)
        rw [hstarted]
        by_contra hon
        rw [hsound.running (by simpa using hon)] at hmissing
        cases hmissing
      rw [StreamResources.running_of_not_started hoff] at hrunning
      cases hrunning

theorem RunsAmong.activate (h : controller.RunsAmong P) (hP : P streamId) :
    (controller.activate streamId).2.RunsAmong P := by
  have hactivated : controller.Activated streamId (controller.activate streamId) := activated
  generalize controller.activate streamId = outcome at hactivated ⊢
  cases hactivated with
  | unchanged => exact h
  | running _ _ => exact h
  | started hresource hoff houtput hid obs =>
      refine h.set fun captureId hrunning => ?_
      obtain rfl : _ = captureId := Option.some.inj hrunning
      exact ⟨hid, by rwa [hid]⟩
  | refused hresource hoff obs =>
      refine h.set fun captureId hrunning => ?_
      rw [releaseStream_running, StreamResources.running_of_not_started hoff] at hrunning
      cases hrunning

/-- A stream that was released does not run. -/
theorem RunsAmong.release (h : controller.RunsAmong P) :
    (controller.release streamId).RunsAmong
      (fun captureId => P captureId ∧ captureId ≠ streamId) := by
  unfold PluginEncoderController.release
  cases hresource : controller.resource? streamId with
  | none =>
      intro index captureId hrunning
      refine ⟨(h index captureId hrunning).1, (h index captureId hrunning).2, ?_⟩
      rintro rfl
      unfold resource? at hresource
      rw [← (h index captureId hrunning).1, List.getElem?_map, hresource] at hrunning
      cases hrunning
  | some resource =>
      dsimp only
      have hmarked : (controller.setResource streamId
          ({ resource with started := false, releasePending := true }, controller.obs)).RunsAmong
            (fun captureId => P captureId ∧ captureId ≠ streamId) := by
        intro index captureId hrunning
        unfold setResource at hrunning
        rw [List.map_set, List.getElem?_set] at hrunning
        split_ifs at hrunning with hsame
        · cases hrunning
        · obtain ⟨hplace, hP⟩ := h index captureId hrunning
          refine ⟨hplace, hP, ?_⟩
          rintro rfl
          exact hsame hplace
      split_ifs
      · exact hmarked
      · exact hmarked.congr (destroyPending_running.trans detachAll_running)

/-- The same of resources that are well formed. -/
structure Placed (P : CaptureStreamId → Prop) (controller : PluginEncoderController) : Prop where
  wellFormed : controller.WellFormed
  running : controller.RunsAmong P

theorem Placed.ensureCreated (h : controller.Placed P) (stream : ConfiguredStream) :
    (controller.ensureCreated streamId stream).2.Placed P :=
  ⟨ensureCreated_wellFormed h.wellFormed stream, h.running.ensureCreated h.wellFormed stream⟩

theorem Placed.activate (h : controller.Placed P) (hP : P streamId) :
    (controller.activate streamId).2.Placed P :=
  ⟨activate_wellFormed h.wellFormed, h.running.activate hP⟩

theorem Placed.release (h : controller.Placed P) : (controller.release streamId).Placed P :=
  ⟨release_wellFormed h.wellFormed, h.running.release.mono fun _ hkept => hkept.1⟩

end PluginEncoderController

namespace ObservedEncoders

variable {P : CaptureStreamId → Prop} {encoders : ObservedEncoders PluginEncoderController}
  {streams : List (CaptureStreamId × ConfiguredStream)}
  {demanded : StreamParticipationMode → Bool}

theorem createPass_placed (h : encoders.controller.Placed P) :
    (createPass streams encoders).2.controller.Placed P :=
  createPass_keeps (fun _ _ stream hkept => hkept.ensureCreated stream) h

/-- An activation pass starts outputs of its streams only. -/
theorem activatePass_placed (hstreams : ∀ entry ∈ streams, P entry.1)
    (h : encoders.controller.Placed P) :
    (activatePass demanded streams encoders).2.controller.Placed P := by
  induction streams generalizing encoders with
  | nil => exact h
  | cons entry rest ih =>
      obtain ⟨hentry, hrest⟩ := List.forall_mem_cons.mp hstreams
      unfold activatePass
      split_ifs
      · exact ih hrest h
      · have hkept : PluginEncoderController.Placed P
            (EncoderController.activate encoders.controller entry.1 entry.2).2 := h.activate hentry
        split <;> rename_i answer controller hanswer <;> rw [hanswer] at hkept
        · exact hkept
        · exact ih hrest hkept
      · exact ih hrest h

/-- The streams of a release pass do not run after it. -/
theorem releasePass_runsAmong (h : encoders.controller.RunsAmong P) :
    (releasePass (fun _ => false) streams encoders).controller.RunsAmong
      (fun captureId => P captureId ∧ captureId ∉ streams.map Prod.fst) := by
  induction streams generalizing encoders P with
  | nil => exact h.mono fun captureId hP => ⟨hP, List.not_mem_nil⟩
  | cons entry rest ih =>
      have hcombine {encoders' : ObservedEncoders PluginEncoderController}
          (hreleased : encoders'.controller.RunsAmong
            (fun captureId => P captureId ∧ captureId ≠ entry.1)) :
          (releasePass (fun _ => false) rest encoders').controller.RunsAmong
            (fun captureId => P captureId ∧ captureId ∉ (entry :: rest).map Prod.fst) := by
        refine (ih hreleased).mono fun captureId hkept => ⟨hkept.1.1, ?_⟩
        rw [List.map_cons, List.mem_cons, not_or]
        exact ⟨hkept.1.2, hkept.2⟩
      unfold releasePass
      split_ifs with hidle
      · apply hcombine
        intro index captureId hrunning
        refine ⟨(h index captureId hrunning).1, (h index captureId hrunning).2, ?_⟩
        rintro rfl
        have hactive := PluginEncoderController.isActive_of_running hrunning
        rw [Bool.false_or, Bool.not_eq_true'] at hidle
        exact absurd (hactive.symm.trans hidle) (by decide)
      · exact hcombine h.release

end ObservedEncoders

namespace CaptureControlEngine

variable {engine : CaptureControlEngine PluginEncoderController}

theorem addressed_congr {configuration configuration' : CaptureConfiguration}
    (h : configuration'.streams = configuration.streams) :
    configuration'.addressed = configuration.addressed := by
  unfold CaptureConfiguration.addressed CaptureConfiguration.captureIdFor
  rw [h]

/-- An engine of these streams runs no output but theirs, and none before it is initialized. -/
structure Operates (configuration : CaptureConfiguration)
    (engine : CaptureControlEngine PluginEncoderController) : Prop where
  coherent : engine.Coherent
  streams : engine.configuration.streams = configuration.streams
  placed : engine.encoders.controller.Placed (· ∈ configuration.addressed.map Prod.fst)
  idle : engine.initialized = false → engine.encoders.controller.Placed (fun _ => False)

theorem operates_create (configuration : CaptureConfiguration) (ringCapacityBytes : Nat)
    (captureVideos : Nat) (outcomes : Nat → Bool) :
    (create configuration (.create ringCapacityBytes)
      (.create captureVideos outcomes)).Operates configuration where
  coherent := coherent_create configuration ringCapacityBytes _
  streams := rfl
  placed := ⟨PluginEncoderController.create_wellFormed captureVideos outcomes,
    PluginEncoderController.runsAmong_create captureVideos outcomes⟩
  idle _ := ⟨PluginEncoderController.create_wellFormed captureVideos outcomes,
    PluginEncoderController.runsAmong_create captureVideos outcomes⟩

theorem joining_initialized {joined : CaptureControlEngine PluginEncoderController}
    {call : ControlCall} (h : engine.joining call = some joined) : engine.initialized = true := by
  cases call with
  | startRecording paths starts =>
      simp only [joining, Option.ite_none_right_eq_some] at h
      exact h.1.1
  | startReplay =>
      simp only [joining, Option.ite_none_right_eq_some] at h
      exact h.1.1
  | _ => cases h

theorem reconcileEncoderDemand_placed {P : CaptureStreamId → Prop}
    (hstreams : ∀ entry ∈ engine.configuration.addressed, P entry.1)
    (h : engine.encoders.controller.Placed P) :
    engine.reconcileEncoderDemand.2.encoders.controller.Placed P := by
  have hcreated : (ObservedEncoders.createPass engine.configuration.addressed
      engine.encoders).2.controller.Placed P := ObservedEncoders.createPass_placed h
  unfold reconcileEncoderDemand
  rcases hcreate : ObservedEncoders.createPass engine.configuration.addressed engine.encoders with
    ⟨_ | _, created⟩ <;> rw [hcreate] at hcreated
  · exact hcreated
  · exact ObservedEncoders.activatePass_placed hstreams hcreated

variable {configuration : CaptureConfiguration}

theorem Operates.step (h : engine.Operates configuration) (call : ControlCall) :
    (engine.step call).2.Operates configuration where
  coherent := h.coherent.step call
  streams := (h.coherent.step_streams call).trans h.streams
  placed := by
    cases hjoining : engine.joining call with
    | none =>
        exact h.coherent.step_keeps (fun _ _ _ hkept => hkept.release) hjoining h.placed
    | some joined =>
        obtain ⟨hencoders, hconfiguration⟩ := joining_encoders hjoining
        apply h.coherent.joining_keeps (fun _ _ _ hkept => hkept.release) hjoining
        apply reconcileEncoderDemand_placed
        · rw [hconfiguration, addressed_congr h.streams]
          exact fun entry hentry => List.mem_map_of_mem hentry
        · rw [hencoders]
          exact h.placed
  idle hidle := by
    have hbefore : engine.initialized = false := by
      by_contra hready
      rw [h.coherent.step_initialized (by simpa using hready)] at hidle
      cases hidle
    cases hjoining : engine.joining call with
    | none =>
        exact h.coherent.step_keeps (fun _ _ _ hkept => hkept.release) hjoining (h.idle hbefore)
    | some joined =>
        rw [joining_initialized hjoining] at hbefore
        cases hbefore

/-- After a shutdown no output runs. -/
theorem Operates.shutdown_idle (h : engine.Operates configuration)
    (recorded : Option SynchronizedRecordingConsumerResult) :
    (engine.shutdown recorded).encoders.controller.RunsAmong (fun _ => False) := by
  unfold shutdown
  split_ifs with hnew
  · exact (h.idle (by simpa using hnew.1)).running
  · dsimp only
    have hstopped : (engine.stopReplay.2.stopRecording recorded).2.encoders.controller.Placed
        (· ∈ configuration.addressed.map Prod.fst) :=
      stopRecording_keeps (fun _ _ _ hkept => hkept.release)
        (stopReplay_keeps (fun _ _ _ hkept => hkept.release) h.placed) recorded
    have hstreams : (engine.stopReplay.2.stopRecording recorded).2.configuration.addressed =
        configuration.addressed := by
      rw [stopRecording_configuration, stopReplay_configuration, addressed_congr h.streams]
    rw [hstreams]
    exact (ObservedEncoders.releasePass_runsAmong hstopped.running).mono
      fun captureId hkept => hkept.2 hkept.1

theorem Operates.run (h : engine.Operates configuration)
    {engine' : CaptureControlEngine PluginEncoderController}
    {past : List (Transition PluginEncoderController)}
    (hrun : Runs.Run CaptureControlEngine.step engine past engine') :
    engine'.Operates configuration :=
  hrun.stateInvariant h (fun _ call hkept => hkept.step call)

end CaptureControlEngine

namespace PluginCaptureRuntime

variable {runtime : PluginCaptureRuntime} {engine : CaptureControlEngine PluginEncoderController}

theorem engineProperty_operates :
    EngineProperty (fun engine => ∃ configuration, engine.Operates configuration) where
  step engine call _ h := by
    obtain ⟨configuration, hoperates⟩ := h
    exact ⟨configuration, hoperates.step call⟩
  built runtime rebuild engine _ hnone hengine := by
    obtain ⟨streams, -, hinitialize⟩ := built_engine hnone hengine
    have hnew := congrArg Prod.snd hinitialize
    dsimp only at hnew
    rw [← hnew]
    exact ⟨_, (CaptureControlEngine.operates_create _ _ _ _).step .initializeEngine⟩

/-- In every run of a runtime, and whatever a command still asks of its engine before it drops it:
no output runs any more when the encoders are released, and all that the streams own is given back
if and only if OBS refuses none of the detaches that are made there. -/
theorem encoders_given_back_iff {profile : ReplayConfiguration} {past : List Transition}
    (hrun : Runs.Run step { replayConfiguration := profile } past runtime)
    (hcalls : ∀ t ∈ past, t.input ≠ .stop) (hengine : runtime.control = some engine)
    {last : CaptureControlEngine PluginEncoderController}
    {later : List (CaptureControlEngine.Transition PluginEncoderController)}
    (hlater : Runs.Run CaptureControlEngine.step engine later last)
    (recorded : Option SynchronizedRecordingConsumerResult) :
    (∀ resource ∈ (last.stopped recorded).encoders.controller.resources,
        resource.started = false) ∧
      ((∀ resource ∈ (last.dropped recorded).resources, resource.Gone) ↔
        ∀ n, (last.stopped recorded).encoders.controller.obs.made ≤ n →
          n < (last.dropped recorded).obs.made →
            (last.stopped recorded).encoders.controller.obs.outcomes n = true) := by
  obtain ⟨configuration, hoperates⟩ := engineProperty_operates.run hrun hcalls engine hengine
  have hidle := ((hoperates.run hlater).step (.shutdown recorded)).shutdown_idle none
  exact ⟨hidle.not_started, releaseAll_gone_iff⟩

/-- One stream is captured for a replay. OBS refuses to detach its encoder, at the shutdown and
once more at the end. -/
def refusedDetaches : List Call :=
  [.initializeRuntime [] { outcomes := fun n => n < 5 }, .startReplay { enabled := true } {}]

theorem encoders_given_back_iff_sample :
    (Runs.exec step { replayConfiguration := { enabled := true } } refusedDetaches).replayState =
        .running ∧
      ∀ engine, (Runs.exec step { replayConfiguration := { enabled := true } }
        refusedDetaches).control = some engine →
        ¬∀ resource ∈ (engine.dropped none).resources, resource.Gone := by
  have hcalls : ∀ call ∈ refusedDetaches, call ≠ .stop := by simp [refusedDetaches]
  refine ⟨by decide, fun engine hengine hgone => ?_⟩
  have hmade : (Runs.exec step { replayConfiguration := { enabled := true } }
      refusedDetaches).control.map (fun engine =>
        ((engine.stopped none).encoders.controller.obs.made, (engine.dropped none).obs.made,
          (engine.stopped none).encoders.controller.obs.outcomes 6)) = some (6, 7, false) := by
    decide
  rw [hengine, Option.map_some, Option.some.injEq, Prod.mk.injEq, Prod.mk.injEq] at hmade
  obtain ⟨hfrom, hto, hrefused⟩ := hmade
  have hdetached := (encoders_given_back_iff (Runs.run_exec _ refusedDetaches)
    (Runs.forall_history_input.mpr hcalls) hengine .start none).2.mp hgone 6 hfrom.le
    (hto ▸ Nat.lt_succ_self 6)
  rw [hrefused] at hdetached
  cases hdetached

end PluginCaptureRuntime

end ObsSyncReplay
