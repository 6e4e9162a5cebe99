import ObsSyncReplay.Control.EncoderDemand
import ObsSyncReplay.Control.PluginEncoderController

/-!
The encoders of the plugin under the control engine: which of them are captured outside of
their encoder group. The property is about every moment, also within a command.
-/

namespace ObsSyncReplay

/-- The streams whose activation is accepted, when the missing ones are asked for in turn
until one is refused. -/
def acceptedEntries {ε : Type} [EncoderController ε] :
    List (CaptureStreamId × ConfiguredStream) → ε → List (CaptureStreamId × ConfiguredStream)
  | [], _ => []
  | (captureId, stream) :: rest, controller =>
      if EncoderController.isActive controller captureId then acceptedEntries rest controller
      else
        match EncoderController.activate controller captureId stream with
        | (false, _) => []
        | (true, controller) => (captureId, stream) :: acceptedEntries rest controller

namespace LoggedEncoders

variable {log log' : LoggedEncoders PluginEncoderController}

/-- The log of the plugin's encoders, in which every state is well formed. -/
abbrev Sound (log : LoggedEncoders PluginEncoderController) : Prop :=
  log.Always PluginEncoderController.WellFormed

abbrev InGroup (log : LoggedEncoders PluginEncoderController) : Prop :=
  log.Always PluginEncoderController.InGroup

theorem sound_ensureCreated (log : LoggedEncoders PluginEncoderController)
    (streamId : CaptureStreamId) (stream : ConfiguredStream)
    (h : log.Sound) : (EncoderController.ensureCreated log streamId stream).2.Sound :=
  (always_call _).mpr ⟨h, PluginEncoderController.ensureCreated_wellFormed h.2 stream⟩

theorem sound_activate (log : LoggedEncoders PluginEncoderController)
    (streamId : CaptureStreamId) (stream : ConfiguredStream)
    (h : log.Sound) : (EncoderController.activate log streamId stream).2.Sound :=
  (always_call _).mpr ⟨h, PluginEncoderController.activate_wellFormed h.2⟩

theorem sound_release (log : LoggedEncoders PluginEncoderController)
    (streamId : CaptureStreamId) (stream : ConfiguredStream)
    (h : log.Sound) : (EncoderController.release log streamId stream).Sound :=
  (always_call _).mpr ⟨h, PluginEncoderController.release_wellFormed h.2⟩

theorem inGroup_ensureCreated (streamId : CaptureStreamId) (stream : ConfiguredStream)
    (hsound : log.Sound) :
    (EncoderController.ensureCreated log streamId stream).2.InGroup ↔ log.InGroup := by
  apply (always_call _).trans
  constructor
  · exact fun h => h.1
  · exact fun h => ⟨h, PluginEncoderController.ensureCreated_inGroup hsound.2 h.2 stream⟩

theorem inGroup_activate (streamId : CaptureStreamId) (stream : ConfiguredStream)
    (hsound : log.Sound) :
    (EncoderController.activate log streamId stream).2.InGroup ↔
      log.InGroup ∧ ((EncoderController.activate log streamId stream).1 = true →
        log.controller.Member streamId) := by
  apply (always_call _).trans
  have hiff : (log.controller.activate streamId).2.InGroup ↔ _ :=
    PluginEncoderController.activate_inGroup_iff hsound.2
  constructor
  · rintro ⟨h, hafter⟩
    exact ⟨h, (hiff.mp hafter).2⟩
  · rintro ⟨h, hmember⟩
    exact ⟨h, hiff.mpr ⟨h.2, hmember⟩⟩

theorem inGroup_release (streamId : CaptureStreamId) (stream : ConfiguredStream) :
    (EncoderController.release log streamId stream).InGroup ↔ log.InGroup := by
  apply (always_call _).trans
  constructor
  · exact fun h => h.1
  · exact fun h => ⟨h, PluginEncoderController.release_inGroup h.2⟩

/-- The streams have been in the group exactly if `Wanted`. -/
def Follows (Wanted : Prop) (log : LoggedEncoders PluginEncoderController) : Prop :=
  log.Sound ∧ (log.InGroup ↔ Wanted)

theorem follows_ensureCreated {Wanted : Prop} (log : LoggedEncoders PluginEncoderController)
    (streamId : CaptureStreamId) (stream : ConfiguredStream) (h : log.Follows Wanted) :
    (EncoderController.ensureCreated log streamId stream).2.Follows Wanted :=
  ⟨sound_ensureCreated log streamId stream h.1, (inGroup_ensureCreated _ _ h.1).trans h.2⟩

theorem follows_release {Wanted : Prop} (log : LoggedEncoders PluginEncoderController)
    (streamId : CaptureStreamId) (stream : ConfiguredStream) (h : log.Follows Wanted) :
    (EncoderController.release log streamId stream).Follows Wanted :=
  ⟨sound_release log streamId stream h.1, (inGroup_release _ _).trans h.2⟩

def GrownFrom (start : PluginEncoderController) (log : LoggedEncoders PluginEncoderController) :
    Prop :=
  log.Sound ∧ start.Grown log.controller

theorem grownFrom_ensureCreated (start : PluginEncoderController)
    (log : LoggedEncoders PluginEncoderController) (streamId : CaptureStreamId)
    (stream : ConfiguredStream) (h : log.GrownFrom start) :
    (EncoderController.ensureCreated log streamId stream).2.GrownFrom start :=
  ⟨sound_ensureCreated log streamId stream h.1,
    h.2.trans (PluginEncoderController.ensureCreated_grown h.1.2 stream)⟩

end LoggedEncoders

namespace ObservedEncoders

variable {encoders : ObservedEncoders (LoggedEncoders PluginEncoderController)}
  {streams : List (CaptureStreamId × ConfiguredStream)}
  {demanded : StreamParticipationMode → Bool}

theorem createPass_inGroup (hsound : encoders.controller.Sound) :
    (createPass streams encoders).2.controller.InGroup ↔ encoders.controller.InGroup :=
  (createPass_keeps LoggedEncoders.follows_ensureCreated
    (⟨hsound, Iff.rfl⟩ : encoders.controller.Follows encoders.controller.InGroup)).2

theorem createPass_grown (hsound : encoders.controller.Sound) :
    encoders.controller.controller.Grown
      (createPass streams encoders).2.controller.controller :=
  (createPass_keeps (LoggedEncoders.grownFrom_ensureCreated encoders.controller.controller)
    (⟨hsound, .refl⟩ : encoders.controller.GrownFrom encoders.controller.controller)).2

theorem createPass_sound (hsound : encoders.controller.Sound) :
    (createPass streams encoders).2.controller.Sound :=
  createPass_keeps LoggedEncoders.sound_ensureCreated hsound

/-- An activation pass goes wrong at the accepted ones that are not in the group. -/
theorem activatePass_inGroup (hsound : encoders.controller.Sound) :
    (activatePass demanded streams encoders).2.controller.InGroup ↔
      encoders.controller.InGroup ∧
        ∀ entry ∈ acceptedEntries (streams.filter (fun entry => demanded entry.2.mode))
          encoders.controller, encoders.controller.controller.Member entry.1 := by
  induction streams generalizing encoders with
  | nil => simp [activatePass, acceptedEntries]
  | cons entry rest ih =>
      unfold activatePass
      cases hwanted : demanded entry.2.mode with
      | false =>
          simp only [Bool.not_false, if_true, List.filter_cons, hwanted, Bool.false_eq_true,
            if_false]
          exact ih hsound
      | true =>
          simp only [Bool.not_true, Bool.false_eq_true, if_false, List.filter_cons, hwanted,
            if_true]
          unfold acceptedEntries
          cases hactive : EncoderController.isActive encoders.controller entry.1 with
          | true =>
              simp only [Bool.not_true, Bool.false_eq_true, if_false, if_true]
              exact @ih (encoders.emit .retained entry.1) hsound
          | false =>
              simp only [Bool.not_false, if_true, Bool.false_eq_true, if_false]
              have hgroup := LoggedEncoders.inGroup_activate entry.1 entry.2 hsound
              have hnext := LoggedEncoders.sound_activate _ entry.1 entry.2 hsound
              rcases hactivate : EncoderController.activate encoders.controller entry.1 entry.2
                with ⟨_ | _, log⟩ <;> rw [hactivate] at hgroup hnext
              · simpa using hgroup
              · have hrest := @ih (ObservedEncoders.emit { encoders with controller := log }
                  .activated entry.1) hnext
                simp only [emit_controller] at hrest ⊢
                rw [hrest, hgroup, List.forall_mem_cons]
                simp only [forall_const, and_assoc]
                obtain ⟨haccepted, rfl⟩ := Prod.mk.inj hactivate
                have hsame := PluginEncoderController.member_activate haccepted
                apply and_congr_right
                intro _
                apply and_congr_right
                intro _
                exact forall₂_congr (fun other _ => hsame other.1)

end ObservedEncoders

/-- An accepted encoder is there. -/
theorem encoder_of_acceptedEntries {streams : List (CaptureStreamId × ConfiguredStream)}
    {log : LoggedEncoders PluginEncoderController} (hsound : log.Sound)
    {entry : CaptureStreamId × ConfiguredStream}
    (hentry : entry ∈ acceptedEntries streams log) :
    ∃ resource, log.controller.resource? entry.1 = some resource ∧
      resource.videoEncoder = true := by
  induction streams generalizing log with
  | nil => cases hentry
  | cons head rest ih =>
      unfold acceptedEntries at hentry
      split_ifs at hentry
      · exact ih hsound hentry
      · have hnext := LoggedEncoders.sound_activate log head.1 head.2 hsound
        rcases hactivate : EncoderController.activate log head.1 head.2 with ⟨_ | _, log'⟩ <;>
          rw [hactivate] at hentry hnext
        · cases hentry
        · obtain ⟨haccepted, rfl⟩ := Prod.mk.inj hactivate
          rcases List.mem_cons.mp hentry with rfl | hrest
          · exact PluginEncoderController.encoder_of_activate hsound.2 haccepted
          · exact PluginEncoderController.encoder_activate haccepted (ih hnext hrest)

namespace CaptureControlEngine

variable {engine : CaptureControlEngine (LoggedEncoders PluginEncoderController)}

/-- A start command gets no encoder started that is there already, and not in the group. -/
def StartsMembers (engine : CaptureControlEngine (LoggedEncoders PluginEncoderController))
    (call : ControlCall) : Prop :=
  ∀ joined ∈ engine.joining call,
    ∀ created ∈ allCreated engine.configuration.addressed engine.encoders.controller,
      ∀ entry ∈ acceptedEntries
          (engine.configuration.addressed.filter (fun entry => joined.demanded entry.2.mode))
          created,
        ∀ resource ∈ engine.encoders.controller.controller.resource? entry.1,
          ¬resource.LeftOver

theorem reconcileEncoderDemand_sound (hsound : engine.encoders.controller.Sound) :
    engine.reconcileEncoderDemand.2.encoders.controller.Sound := by
  have hcreated : (ObservedEncoders.createPass engine.configuration.addressed
      engine.encoders).2.controller.Sound := ObservedEncoders.createPass_sound hsound
  unfold reconcileEncoderDemand
  rcases hcreate : ObservedEncoders.createPass engine.configuration.addressed engine.encoders with
    ⟨_ | _, created⟩ <;> rw [hcreate] at hcreated
  · exact hcreated
  · exact ObservedEncoders.activatePass_keeps LoggedEncoders.sound_activate hcreated

theorem reconcileEncoderDemand_inGroup (hsound : engine.encoders.controller.Sound)
    (hgroup : engine.encoders.controller.InGroup) :
    engine.reconcileEncoderDemand.2.encoders.controller.InGroup ↔
      ∀ created ∈ allCreated engine.configuration.addressed engine.encoders.controller,
        ∀ entry ∈ acceptedEntries
            (engine.configuration.addressed.filter (fun entry => engine.demanded entry.2.mode))
            created,
          ∀ resource ∈ engine.encoders.controller.controller.resource? entry.1,
            ¬resource.LeftOver := by
  have hcreated : (ObservedEncoders.createPass engine.configuration.addressed
      engine.encoders).2.controller.InGroup :=
    (ObservedEncoders.createPass_inGroup hsound).mpr hgroup
  have hcreated' : (ObservedEncoders.createPass engine.configuration.addressed
      engine.encoders).2.controller.Sound := ObservedEncoders.createPass_sound hsound
  have hgrown : engine.encoders.controller.controller.Grown (ObservedEncoders.createPass
      engine.configuration.addressed engine.encoders).2.controller.controller :=
    ObservedEncoders.createPass_grown hsound
  rw [ObservedEncoders.createPass_controller]
  unfold reconcileEncoderDemand
  rcases hcreate : ObservedEncoders.createPass engine.configuration.addressed engine.encoders with
    ⟨_ | _, created⟩ <;> rw [hcreate] at hcreated hcreated' hgrown
  · exact iff_of_true hcreated (by simp)
  · simp only [if_true, Option.mem_some, forall_eq']
    rw [ObservedEncoders.activatePass_inGroup hcreated', and_iff_right hcreated]
    apply forall₂_congr
    intro entry hentry
    obtain ⟨resource, hresource, hthere⟩ := encoder_of_acceptedEntries hcreated' hentry
    obtain ⟨earlier, hearlier, hrelated⟩ := hgrown entry.1 resource hresource
    unfold PluginEncoderController.Member
    simp only [hresource, hearlier, Option.mem_some, forall_eq']
    exact hrelated.grouped_iff hthere

theorem Coherent.step_sound (h : engine.Coherent) (hsound : engine.encoders.controller.Sound)
    (call : ControlCall) : (engine.step call).2.encoders.controller.Sound := by
  cases hjoining : engine.joining call with
  | none => exact h.step_keeps LoggedEncoders.sound_release hjoining hsound
  | some joined =>
      apply h.joining_keeps LoggedEncoders.sound_release hjoining
      apply reconcileEncoderDemand_sound
      rwa [(joining_encoders hjoining).1]

theorem Coherent.step_inGroup_iff (h : engine.Coherent)
    (hsound : engine.encoders.controller.Sound) (hgroup : engine.encoders.controller.InGroup)
    (call : ControlCall) :
    (engine.step call).2.encoders.controller.InGroup ↔ engine.StartsMembers call := by
  unfold StartsMembers
  cases hjoining : engine.joining call with
  | none =>
      apply iff_of_true _ (by simp)
      exact (h.step_keeps LoggedEncoders.follows_release hjoining
        (⟨hsound, iff_true_intro hgroup⟩ : engine.encoders.controller.Follows True)).2.mpr trivial
  | some joined =>
      obtain ⟨hencoders, hconfiguration⟩ := joining_encoders hjoining
      rw [← hencoders] at hsound hgroup
      have hreconciled := reconcileEncoderDemand_sound hsound
      have hfollows := (h.joining_keeps LoggedEncoders.follows_release hjoining
        (⟨hreconciled, Iff.rfl⟩ : joined.reconcileEncoderDemand.2.encoders.controller.Follows
          joined.reconcileEncoderDemand.2.encoders.controller.InGroup)).2
      rw [hfollows, reconcileEncoderDemand_inGroup hsound hgroup, hencoders, hconfiguration]
      simp only [Option.mem_some, forall_eq']

/-- At every moment so far, each stream that was captured was captured by a member of the
encoder group. -/
def CapturedInGroup (engine : CaptureControlEngine (LoggedEncoders PluginEncoderController)) :
    Prop :=
  engine.encoders.controller.InGroup

/-- In every run of the engine over new encoders, no stream is ever captured outside of the
encoder group if and only if no start command gets an encoder started which is there
already and is not in the group. -/
theorem started_in_group_iff {configuration : CaptureConfiguration} {ringCapacityBytes : Nat}
    {captureVideos : Nat} {outcomes : Nat → Bool}
    {past : List (Transition (LoggedEncoders PluginEncoderController))}
    (hrun : Runs.Run step (create configuration (.create ringCapacityBytes)
      { controller := .create captureVideos outcomes }) past engine) :
    (∀ t ∈ past, t.after.CapturedInGroup) ↔
      ∀ t ∈ past, t.before.StartsMembers t.input := by
  apply hrun.always_iff
  · exact ⟨by simp [create], PluginEncoderController.create_inGroup captureVideos outcomes⟩
  · intro past engine call hrun hgroup
    have hsound : engine.Coherent ∧ engine.encoders.controller.Sound :=
      hrun.stateInvariant (P := fun engine =>
          engine.Coherent ∧ engine.encoders.controller.Sound)
        ⟨coherent_create configuration ringCapacityBytes _, by simp [create],
          PluginEncoderController.create_wellFormed captureVideos outcomes⟩
        (fun _ call h => ⟨h.1.step call, h.1.step_sound h.2 call⟩)
    exact hsound.1.step_inGroup_iff hsound.2 hgroup call

/-- A stream that is only recorded, and one that is only replayed. -/
def oneEach : CaptureConfiguration where
  replay := { enabled := true }
  streams :=
    [⟨.master, "Master", .recording, { width := 16, height := 9 }⟩,
      ⟨.scene "uuid-a", "Alpha", .replay, { width := 16, height := 9 }⟩]

/-- No call of OBS fails. -/
def newPlugin : CaptureControlEngine (LoggedEncoders PluginEncoderController) :=
  create oneEach (.create 0) { controller := .create 2 (fun _ => true) }

theorem started_in_group_iff_sample :
    EncoderController.isActive
        (Runs.exec step newPlugin [.initializeEngine, .startReplay]).encoders.controller 1 = true ∧
      ∀ t ∈ Runs.history step newPlugin [.initializeEngine, .startReplay, .stopReplay],
        t.after.CapturedInGroup := by
  refine ⟨by decide, (started_in_group_iff (Runs.run_exec _ _)).mpr ?_⟩
  unfold StartsMembers StreamResources.LeftOver
  decide

/-- One capture epoch of the recorded stream, then one of the replayed stream. -/
def alternatingEpochs : List ControlCall :=
  [.initializeEngine, .startRecording ["master.mkv"] true, .stopRecording none, .startReplay]

/-- The second stream at the end. -/
def startedAlone : StreamResources where
  identity := .scene "uuid-a"
  captureId := 1
  videoEncoder := true
  audioEncoder := true
  output := true
  started := true

/-- The encoder of the second stream was created for the first epoch, and detached at its
end without being destroyed. -/
theorem left_over_encoder_started :
    startedAlone.grouped = false ∧
      startedAlone ∈
        (Runs.exec step newPlugin alternatingEpochs).encoders.controller.controller.resources ∧
      ¬(Runs.exec step newPlugin alternatingEpochs).CapturedInGroup := by
  refine ⟨rfl, by decide, fun h => ?_⟩
  have hgrouped := h.2 startedAlone (by decide) rfl
  exact absurd hgrouped.2 (by decide)

end CaptureControlEngine

end ObsSyncReplay
