import ObsSyncReplay.Control.EncoderLog

/-!
`control/plugin-capture-runtime`: the encoders of the plugin. Each stream has a video
encoder, an audio encoder and an output of OBS, and the video encoders are members of one
encoder group. Calls of OBS that may fail are answered from outside.
-/

namespace ObsSyncReplay

/-- What a stream owns. `grouped` is what the last join or detach of the video encoder has
left. -/
structure StreamResources where
  identity : StreamIdentity := .master
  captureId : CaptureStreamId := 0
  videoEncoder : Bool := false
  audioEncoder : Bool := false
  output : Bool := false
  started : Bool := false
  grouped : Bool := false
  releasePending : Bool := false
deriving DecidableEq

/-- `outcomes n` is the outcome of the `n`-th call of OBS that may fail. -/
structure ObsCalls where
  outcomes : Nat → Bool
  made : Nat := 0

def ObsCalls.attempt (obs : ObsCalls) : Bool × ObsCalls :=
  (obs.outcomes obs.made, { obs with made := obs.made + 1 })

/-- The end of `ReleaseStream`. -/
def StreamResources.destroyed (stream : StreamResources) : StreamResources :=
  { stream with output := false, videoEncoder := false, audioEncoder := false }

def releaseStream (stream : StreamResources) (obs : ObsCalls) : StreamResources × ObsCalls :=
  if stream.videoEncoder && stream.grouped then
    match obs.attempt with
    | (false, obs) => (stream, obs)
    | (true, obs) => ({ stream with grouped := false }.destroyed, obs)
  else (stream.destroyed, obs)

/-- The first loop of the barrier in `Release`. -/
def detachAll : List StreamResources → ObsCalls → List StreamResources × ObsCalls
  | [], obs => ([], obs)
  | candidate :: rest, obs =>
      if candidate.videoEncoder && candidate.grouped then
        let (detached, obs) := obs.attempt
        let (rest, obs) := detachAll rest obs
        ((if detached then { candidate with grouped := false } else candidate) :: rest, obs)
      else
        let (rest, obs) := detachAll rest obs
        (candidate :: rest, obs)

/-- The second loop of the barrier. -/
def destroyPending : List StreamResources → ObsCalls → List StreamResources × ObsCalls
  | [], obs => ([], obs)
  | candidate :: rest, obs =>
      if candidate.releasePending && !candidate.grouped then
        let (candidate, obs) := releaseStream candidate obs
        let (rest, obs) := destroyPending rest obs
        ({ candidate with releasePending := false } :: rest, obs)
      else
        let (rest, obs) := destroyPending rest obs
        (candidate :: rest, obs)

/-- `captureVideos` is the number of videos that are captured. -/
structure PluginEncoderController where
  captureVideos : Nat
  resources : List StreamResources
  obs : ObsCalls

namespace PluginEncoderController

def create (captureVideos : Nat) (outcomes : Nat → Bool) : PluginEncoderController where
  captureVideos := captureVideos
  resources := List.replicate captureVideos {}
  obs := { outcomes := outcomes }

def resource? (controller : PluginEncoderController) (streamId : CaptureStreamId) :
    Option StreamResources :=
  controller.resources[streamId.toNat]?

def setResource (controller : PluginEncoderController) (streamId : CaptureStreamId)
    (written : StreamResources × ObsCalls) : PluginEncoderController :=
  { controller with
    resources := controller.resources.set streamId.toNat written.1
    obs := written.2 }

def createResource (controller : PluginEncoderController) (streamId : CaptureStreamId)
    (stream : ConfiguredStream) : Bool × PluginEncoderController :=
  match controller.resource? streamId with
  | none => (false, controller)
  | some resource =>
      if streamId.toNat ≥ controller.captureVideos then (false, controller)
      else
        let (videoEncoder, obs) := controller.obs.attempt
        let (audioEncoder, obs) := obs.attempt
        let (output, obs) := obs.attempt
        let resource := { resource with
          videoEncoder := videoEncoder, audioEncoder := audioEncoder, output := output }
        if !videoEncoder || !audioEncoder || !output then
          (false, controller.setResource streamId (releaseStream resource obs))
        else
          let (grouped, obs) := obs.attempt
          let resource := { resource with identity := stream.identity, grouped := grouped }
          if !grouped then
            (false, controller.setResource streamId (releaseStream resource obs))
          else
            (true, controller.setResource streamId ({ resource with captureId := streamId }, obs))

def ensureCreated (controller : PluginEncoderController) (streamId : CaptureStreamId)
    (stream : ConfiguredStream) : Bool × PluginEncoderController :=
  match controller.resource? streamId with
  | none => (false, controller)
  | some resource =>
      if resource.videoEncoder then (true, controller)
      else controller.createResource streamId stream

def activate (controller : PluginEncoderController) (streamId : CaptureStreamId) :
    Bool × PluginEncoderController :=
  match controller.resource? streamId with
  | none => (false, controller)
  | some resource =>
      if resource.started then (true, controller)
      else if !resource.output ∨ resource.captureId ≠ streamId then (false, controller)
      else
        match controller.obs.attempt with
        | (true, obs) =>
            (true, controller.setResource streamId ({ resource with started := true }, obs))
        | (false, obs) => (false, controller.setResource streamId (releaseStream resource obs))

/-- The encoders are destroyed only when no member of the group runs any more. -/
def release (controller : PluginEncoderController) (streamId : CaptureStreamId) :
    PluginEncoderController :=
  match controller.resource? streamId with
  | none => controller
  | some resource =>
      let controller := controller.setResource streamId
        ({ resource with started := false, releasePending := true }, controller.obs)
      if controller.resources.any StreamResources.started then controller
      else
        let (resources, obs) := detachAll controller.resources controller.obs
        let (resources, obs) := destroyPending resources obs
        { controller with resources := resources, obs := obs }

def isActive (controller : PluginEncoderController) (streamId : CaptureStreamId) : Bool :=
  controller.resources.any (fun resource => resource.captureId = streamId ∧ resource.started)

def activeCount (controller : PluginEncoderController) : Nat :=
  controller.resources.countP StreamResources.started

instance : EncoderController PluginEncoderController where
  ensureCreated := ensureCreated
  activate controller streamId _ := controller.activate streamId
  release controller streamId _ := controller.release streamId
  isActive := isActive
  activeCount := activeCount

end PluginEncoderController

namespace StreamResources

variable {resource before after : StreamResources}

/-- An encoder that is not there is in no group and does not run, and the output is there
with it. -/
structure WellFormed (resource : StreamResources) : Prop where
  member : resource.grouped = true → resource.videoEncoder = true
  running : resource.started = true → resource.videoEncoder = true
  whole : resource.output = resource.videoEncoder

/-- A stream that is captured is captured by a member of the group. -/
def InGroup (resource : StreamResources) : Prop :=
  resource.started = true → resource.videoEncoder = true ∧ resource.grouped = true

/-- The encoder is there, and it is not in the group. -/
def LeftOver (resource : StreamResources) : Prop :=
  resource.videoEncoder = true ∧ resource.grouped = false

/-- What `EnsureCreated` may do: nothing, or it creates an encoder that joins the group. -/
def Created (before after : StreamResources) : Prop :=
  after = before ∨ (before.videoEncoder = false ∧ after.started = before.started ∧
    after.WellFormed ∧ (after.videoEncoder = true → after.grouped = true))

theorem WellFormed.congr (h : before.WellFormed) (hgrouped : after.grouped = before.grouped)
    (hencoder : after.videoEncoder = before.videoEncoder)
    (hstarted : after.started = before.started) (houtput : after.output = before.output) :
    after.WellFormed where
  member := by
    rw [hgrouped, hencoder]
    exact h.member
  running := by
    rw [hstarted, hencoder]
    exact h.running
  whole := by
    rw [houtput, hencoder]
    exact h.whole

theorem inGroup_of_not_started (h : resource.started = false) : resource.InGroup := by
  intro hstarted
  simp [h] at hstarted

theorem destroyed_wellFormed (h : resource.grouped = false) (hoff : resource.started = false) :
    resource.destroyed.WellFormed where
  member hgrouped := by simp [destroyed, h] at hgrouped
  running hstarted := by simp [destroyed, hoff] at hstarted
  whole := rfl

theorem Created.wellFormed (h : Created before after) (hbefore : before.WellFormed) :
    after.WellFormed := by
  rcases h with rfl | ⟨-, -, hafter, -⟩
  · exact hbefore
  · exact hafter

theorem Created.inGroup (h : Created before after) (hbefore : before.InGroup) :
    after.InGroup := by
  rcases h with rfl | ⟨hmissing, hstarted, -, -⟩
  · exact hbefore
  · apply inGroup_of_not_started
    rw [hstarted]
    by_contra hrunning
    simp [(hbefore (by simpa using hrunning)).1] at hmissing

theorem Created.trans {first second third : StreamResources} (h : Created first second)
    (h' : Created second third) : Created first third := by
  rcases h' with rfl | ⟨hmissing, hstarted, hwellFormed, hgrouped⟩
  · exact h
  · rcases h with rfl | ⟨hmissing', hstarted', -, -⟩
    · exact Or.inr ⟨hmissing, hstarted, hwellFormed, hgrouped⟩
    · exact Or.inr ⟨hmissing', hstarted.trans hstarted', hwellFormed, hgrouped⟩

/-- An encoder that is there after all were created is in the group unless it was left
over. -/
theorem Created.grouped_iff (h : Created before after) (hthere : after.videoEncoder = true) :
    after.grouped = true ↔ ¬before.LeftOver := by
  unfold LeftOver
  rcases h with rfl | ⟨hmissing, -, -, hgrouped⟩
  · simp [hthere]
  · simp [hmissing, hgrouped hthere]

end StreamResources

section ReleaseStream

variable {stream : StreamResources} {obs : ObsCalls}

theorem releaseStream_started : (releaseStream stream obs).1.started = stream.started := by
  unfold releaseStream
  split_ifs
  · split <;> rfl
  · rfl

theorem releaseStream_of_not_grouped (h : stream.grouped = false) :
    (releaseStream stream obs).1 = stream.destroyed := by
  unfold releaseStream
  rw [if_neg (by simp [h])]

theorem releaseStream_wellFormed (h : stream.WellFormed) (hoff : stream.started = false) :
    (releaseStream stream obs).1.WellFormed := by
  cases hgrouped : stream.grouped with
  | false =>
      rw [releaseStream_of_not_grouped hgrouped]
      exact StreamResources.destroyed_wellFormed hgrouped hoff
  | true =>
      unfold releaseStream
      rw [if_pos (by simp [hgrouped, h.member hgrouped])]
      split
      · exact h
      · exact StreamResources.destroyed_wellFormed rfl hoff

/-- A creation that fails leaves nothing behind. -/
theorem created_of_releaseStream {before : StreamResources} (hmissing : before.videoEncoder = false)
    (hbefore : before.started = false) (hstarted : stream.started = false)
    (hfree : stream.grouped = false) : before.Created (releaseStream stream obs).1 := by
  refine Or.inr ⟨hmissing, releaseStream_started.trans (hstarted.trans hbefore.symm), ?_, ?_⟩
  · rw [releaseStream_of_not_grouped hfree]
    exact StreamResources.destroyed_wellFormed hfree hstarted
  · rw [releaseStream_of_not_grouped hfree]
    intro hclaim
    cases hclaim

end ReleaseStream

namespace PluginEncoderController

variable {controller : PluginEncoderController} {streamId : CaptureStreamId}

def WellFormed (controller : PluginEncoderController) : Prop :=
  ∀ resource ∈ controller.resources, resource.WellFormed

def InGroup (controller : PluginEncoderController) : Prop :=
  ∀ resource ∈ controller.resources, resource.InGroup

theorem create_wellFormed (captureVideos : Nat) (outcomes : Nat → Bool) :
    (create captureVideos outcomes).WellFormed := by
  intro resource hresource
  rw [List.eq_of_mem_replicate hresource]
  exact ⟨by simp, by simp, rfl⟩

theorem create_inGroup (captureVideos : Nat) (outcomes : Nat → Bool) :
    (create captureVideos outcomes).InGroup := by
  intro resource hresource
  rw [List.eq_of_mem_replicate hresource]
  exact StreamResources.inGroup_of_not_started rfl

/-- The resources of each stream are those of before, or were created since. -/
def Grown (before after : PluginEncoderController) : Prop :=
  ∀ streamId resource, after.resource? streamId = some resource →
    ∃ earlier, before.resource? streamId = some earlier ∧ earlier.Created resource

theorem Grown.refl : Grown controller controller :=
  fun _ resource h => ⟨resource, h, Or.inl rfl⟩

theorem Grown.trans {first second third : PluginEncoderController} (h : Grown first second)
    (h' : Grown second third) : Grown first third := by
  intro streamId resource hresource
  obtain ⟨middle, hmiddle, hcreated'⟩ := h' streamId resource hresource
  obtain ⟨earlier, hearlier, hcreated⟩ := h streamId middle hmiddle
  exact ⟨earlier, hearlier, hcreated.trans hcreated'⟩

theorem mem_of_resource? {resource : StreamResources}
    (h : controller.resource? streamId = some resource) : resource ∈ controller.resources :=
  List.mem_of_getElem? h

theorem resource?_setResource {other : CaptureStreamId} {written : StreamResources × ObsCalls} :
    (controller.setResource streamId written).resource? other =
      if other = streamId then (controller.resource? streamId).map (fun _ => written.1)
      else controller.resource? other := by
  unfold resource? setResource
  rw [List.getElem?_set]
  by_cases hsame : other = streamId
  · subst hsame
    rw [if_pos rfl, if_pos rfl]
    by_cases hlength : other.toNat < controller.resources.length
    · rw [if_pos hlength, List.getElem?_eq_getElem hlength]
      rfl
    · rw [if_neg hlength, List.getElem?_eq_none (by omega)]
      rfl
  · have hindex : streamId.toNat ≠ other.toNat := fun heq => hsame (UInt8.toNat_inj.mp heq.symm)
    rw [if_neg hindex, if_neg hsame]

theorem forall_setResource {P : StreamResources → Prop} {written : StreamResources × ObsCalls}
    (h : ∀ resource ∈ controller.resources, P resource) (hwritten : P written.1) :
    ∀ resource ∈ (controller.setResource streamId written).resources, P resource := by
  intro resource hresource
  rcases List.mem_or_eq_of_mem_set hresource with hold | rfl
  · exact h resource hold
  · exact hwritten

/-- Creating the resources of a stream touches no other stream. -/
theorem ensureCreated_cases (h : controller.WellFormed) (stream : ConfiguredStream) :
    (controller.ensureCreated streamId stream).2 = controller ∨
      ∃ earlier written, controller.resource? streamId = some earlier ∧
        earlier.Created written.1 ∧
          (controller.ensureCreated streamId stream).2 =
            controller.setResource streamId written := by
  unfold ensureCreated
  cases hresource : controller.resource? streamId with
  | none => exact Or.inl rfl
  | some resource =>
      dsimp only
      split_ifs with hthere
      · exact Or.inl rfl
      have hmissing : resource.videoEncoder = false := by simpa using hthere
      have hfree : resource.grouped = false := by
        by_contra hgrouped
        exact hthere ((h resource (mem_of_resource? hresource)).member (by simpa using hgrouped))
      have hoff : resource.started = false := by
        by_contra hrunning
        exact hthere ((h resource (mem_of_resource? hresource)).running (by simpa using hrunning))
      unfold createResource
      simp only [hresource]
      split_ifs with hvideos hpart hjoin
      · exact Or.inl rfl
      · refine Or.inr ⟨resource, _, rfl, ?_, rfl⟩
        apply created_of_releaseStream hmissing hoff
        · exact hoff
        · exact hfree
      · refine Or.inr ⟨resource, _, rfl, ?_, rfl⟩
        apply created_of_releaseStream hmissing hoff
        · exact hoff
        · simpa using hjoin
      · simp only [Bool.or_eq_true, Bool.not_eq_true', not_or, Bool.not_eq_false] at hpart hjoin
        refine Or.inr ⟨resource, _, rfl, Or.inr ⟨hmissing, rfl, ⟨?_, ?_, ?_⟩, ?_⟩, rfl⟩
        · exact fun _ => hpart.1.1
        · exact fun _ => hpart.1.1
        · exact hpart.2.trans hpart.1.1.symm
        · exact fun _ => hjoin

/-- The states that `Activate` may leave. -/
inductive Activated (controller : PluginEncoderController) (streamId : CaptureStreamId) :
    Bool × PluginEncoderController → Prop
  | unchanged : Activated controller streamId (false, controller)
  | running {resource : StreamResources} (hresource : controller.resource? streamId = some resource)
      (hstarted : resource.started = true) : Activated controller streamId (true, controller)
  | started {resource : StreamResources} (hresource : controller.resource? streamId = some resource)
      (hoff : resource.started = false) (houtput : resource.output = true)
      (hid : resource.captureId = streamId) (obs : ObsCalls) :
      Activated controller streamId
        (true, controller.setResource streamId ({ resource with started := true }, obs))
  | refused {resource : StreamResources} (hresource : controller.resource? streamId = some resource)
      (hoff : resource.started = false) (obs : ObsCalls) :
      Activated controller streamId
        (false, controller.setResource streamId (releaseStream resource obs))

theorem activated : controller.Activated streamId (controller.activate streamId) := by
  unfold activate
  cases hresource : controller.resource? streamId with
  | none => exact .unchanged
  | some resource =>
      dsimp only
      split_ifs with hstarted houtput
      · exact .running hresource hstarted
      · exact .unchanged
      · push Not at houtput
        have hoff : resource.started = false := by simpa using hstarted
        rcases controller.obs.attempt with ⟨_ | _, obs⟩
        · exact .refused hresource hoff obs
        · exact .started hresource hoff (by simpa using houtput.1) houtput.2 obs

theorem detachAll_forall {P : StreamResources → Prop} {resources : List StreamResources}
    {obs : ObsCalls} (hdetach : ∀ resource, P resource → P { resource with grouped := false })
    (h : ∀ resource ∈ resources, P resource) :
    ∀ resource ∈ (detachAll resources obs).1, P resource := by
  induction resources generalizing obs with
  | nil => exact h
  | cons candidate rest ih =>
      obtain ⟨hfirst, hrest⟩ := List.forall_mem_cons.mp h
      unfold detachAll
      split_ifs
      · dsimp only
        split_ifs
        · exact List.forall_mem_cons.mpr ⟨hdetach _ hfirst, ih hrest⟩
        · exact List.forall_mem_cons.mpr ⟨hfirst, ih hrest⟩
      · exact List.forall_mem_cons.mpr ⟨hfirst, ih hrest⟩

theorem destroyPending_forall {P : StreamResources → Prop} {resources : List StreamResources}
    {obs : ObsCalls} (hdestroy : ∀ resource obs, P resource →
      P { (releaseStream resource obs).1 with releasePending := false })
    (h : ∀ resource ∈ resources, P resource) :
    ∀ resource ∈ (destroyPending resources obs).1, P resource := by
  induction resources generalizing obs with
  | nil => exact h
  | cons candidate rest ih =>
      obtain ⟨hfirst, hrest⟩ := List.forall_mem_cons.mp h
      unfold destroyPending
      split_ifs
      · exact List.forall_mem_cons.mpr ⟨hdestroy _ _ hfirst, ih hrest⟩
      · exact List.forall_mem_cons.mpr ⟨hfirst, ih hrest⟩

/-- What the barrier keeps of every stream's resources. -/
theorem release_forall {P : StreamResources → Prop}
    (hstop : ∀ resource, P resource →
      P { resource with started := false, releasePending := true })
    (hdetach : ∀ resource, resource.started = false → P resource →
      P { resource with grouped := false })
    (hdestroy : ∀ resource obs, resource.started = false → P resource →
      P { (releaseStream resource obs).1 with releasePending := false })
    (h : ∀ resource ∈ controller.resources, P resource) :
    ∀ resource ∈ (controller.release streamId).resources, P resource := by
  unfold release
  cases hresource : controller.resource? streamId with
  | none => exact h
  | some stopped =>
      dsimp only
      let marked := controller.setResource streamId
        ({ stopped with started := false, releasePending := true }, controller.obs)
      have hmarked : ∀ resource ∈ marked.resources, P resource :=
        forall_setResource h (hstop stopped (h stopped (mem_of_resource? hresource)))
      split_ifs with hrunning
      · exact hmarked
      · have hidle : ∀ resource ∈ marked.resources, resource.started = false ∧ P resource := by
          intro resource hmem
          refine ⟨?_, hmarked resource hmem⟩
          by_contra hstarted
          exact hrunning (List.any_eq_true.mpr ⟨resource, hmem, by simpa using hstarted⟩)
        have hdetached : ∀ resource ∈ (detachAll marked.resources controller.obs).1,
            resource.started = false ∧ P resource :=
          detachAll_forall
            (fun resource hboth => ⟨hboth.1, hdetach resource hboth.1 hboth.2⟩) hidle
        have hdestroyed : ∀ resource ∈ (destroyPending
            (detachAll marked.resources controller.obs).1
            (detachAll marked.resources controller.obs).2).1,
            resource.started = false ∧ P resource :=
          destroyPending_forall (fun resource obs hboth =>
            ⟨releaseStream_started.trans hboth.1, hdestroy resource obs hboth.1 hboth.2⟩) hdetached
        exact fun resource hmem => (hdestroyed resource hmem).2

theorem release_inGroup (h : controller.InGroup) : (controller.release streamId).InGroup :=
  release_forall (fun _ _ => StreamResources.inGroup_of_not_started rfl)
    (fun _ hoff _ => StreamResources.inGroup_of_not_started hoff)
    (fun _ _ hoff _ =>
      StreamResources.inGroup_of_not_started (releaseStream_started.trans hoff)) h

theorem release_wellFormed (h : controller.WellFormed) :
    (controller.release streamId).WellFormed :=
  release_forall (fun _ hresource => ⟨hresource.member, by simp, hresource.whole⟩)
    (fun _ _ hresource => ⟨by simp, hresource.running, hresource.whole⟩)
    (fun _ _ hoff hresource => (releaseStream_wellFormed hresource hoff).congr rfl rfl rfl rfl) h

theorem ensureCreated_wellFormed (h : controller.WellFormed) (stream : ConfiguredStream) :
    (controller.ensureCreated streamId stream).2.WellFormed := by
  rcases ensureCreated_cases h stream with hsame | ⟨earlier, written, hearlier, hcreated, hset⟩
  · rwa [hsame]
  · rw [hset]
    exact forall_setResource h (hcreated.wellFormed (h earlier (mem_of_resource? hearlier)))

theorem ensureCreated_inGroup (h : controller.WellFormed) (hgroup : controller.InGroup)
    (stream : ConfiguredStream) : (controller.ensureCreated streamId stream).2.InGroup := by
  rcases ensureCreated_cases h stream with hsame | ⟨earlier, written, hearlier, hcreated, hset⟩
  · rwa [hsame]
  · rw [hset]
    exact forall_setResource hgroup
      (hcreated.inGroup (hgroup earlier (mem_of_resource? hearlier)))

theorem ensureCreated_grown (h : controller.WellFormed) (stream : ConfiguredStream) :
    controller.Grown (controller.ensureCreated streamId stream).2 := by
  rcases ensureCreated_cases h stream with hsame | ⟨earlier, written, hearlier, hcreated, hset⟩
  · rw [hsame]
    exact .refl
  · rw [hset]
    intro other resource hresource
    rw [resource?_setResource] at hresource
    split_ifs at hresource with hsame
    · subst hsame
      rw [hearlier] at hresource
      obtain rfl := Option.some.inj hresource
      exact ⟨earlier, hearlier, hcreated⟩
    · exact ⟨resource, hresource, Or.inl rfl⟩

theorem activate_wellFormed (h : controller.WellFormed) :
    (controller.activate streamId).2.WellFormed := by
  have hactivated : controller.Activated streamId (controller.activate streamId) := activated
  generalize controller.activate streamId = outcome at hactivated ⊢
  cases hactivated with
  | unchanged => exact h
  | running _ _ => exact h
  | started hresource _ houtput _ obs =>
      have hsound := h _ (mem_of_resource? hresource)
      exact forall_setResource h
        ⟨hsound.member, fun _ => hsound.whole.symm.trans houtput, hsound.whole⟩
  | refused hresource hoff obs =>
      exact forall_setResource h (releaseStream_wellFormed (h _ (mem_of_resource? hresource)) hoff)

theorem forall_setResource_iff {P : StreamResources → Prop}
    {written : StreamResources × ObsCalls} {resource : StreamResources}
    (hresource : controller.resource? streamId = some resource) (h : P resource) :
    (∀ other ∈ (controller.setResource streamId written).resources, P other) ↔
      (∀ other ∈ controller.resources, P other) ∧ P written.1 := by
  constructor
  · intro hall
    obtain ⟨hlength, hat⟩ := List.getElem?_eq_some_iff.mp hresource
    refine ⟨fun other hother => ?_, hall _ (List.mem_set hlength _)⟩
    obtain ⟨index, hindex, rfl⟩ := List.mem_iff_getElem.mp hother
    by_cases hsame : streamId.toNat = index
    · subst hsame
      rwa [hat]
    · apply hall
      apply List.mem_iff_getElem.mpr
      refine ⟨index, by simpa [setResource] using hindex, ?_⟩
      exact List.getElem_set_ne hsame _
  · rintro ⟨hall, hwritten⟩
    exact forall_setResource hall hwritten

/-- The video encoder of the stream is in the group. -/
def Member (controller : PluginEncoderController) (streamId : CaptureStreamId) : Prop :=
  ∀ resource ∈ controller.resource? streamId, resource.grouped = true

/-- An activation leaves the streams in the group unless it starts one that is not. -/
theorem activate_inGroup_iff (h : controller.WellFormed) :
    (controller.activate streamId).2.InGroup ↔
      controller.InGroup ∧ ((controller.activate streamId).1 = true →
        controller.Member streamId) := by
  have hactivated : controller.Activated streamId (controller.activate streamId) := activated
  generalize controller.activate streamId = outcome at hactivated ⊢
  unfold Member
  cases hactivated with
  | unchanged => simp
  | running hresource hstarted =>
      simp only [hresource, Option.mem_some, forall_eq', forall_const, iff_self_and]
      intro hgroup
      exact (hgroup _ (mem_of_resource? hresource) hstarted).2
  | started hresource hoff houtput _ obs =>
      have hencoder := (h _ (mem_of_resource? hresource)).whole.symm.trans houtput
      unfold InGroup
      rw [forall_setResource_iff hresource (StreamResources.inGroup_of_not_started hoff)]
      simp [hresource, StreamResources.InGroup, hencoder]
  | refused hresource hoff obs =>
      unfold InGroup
      rw [forall_setResource_iff hresource (StreamResources.inGroup_of_not_started hoff)]
      simp [StreamResources.inGroup_of_not_started (releaseStream_started.trans hoff)]

/-- An accepted activation changes no membership. -/
theorem member_activate (h : (controller.activate streamId).1 = true)
    (other : CaptureStreamId) :
    (controller.activate streamId).2.Member other ↔ controller.Member other := by
  have hactivated : controller.Activated streamId (controller.activate streamId) := activated
  generalize controller.activate streamId = outcome at hactivated h ⊢
  unfold Member
  cases hactivated with
  | unchanged => exact Iff.rfl
  | running _ _ => exact Iff.rfl
  | started hresource _ _ _ obs =>
      rw [resource?_setResource]
      split_ifs with hsame
      · subst hsame
        simp [hresource]
      · exact Iff.rfl
  | refused _ _ obs => cases h

theorem encoder_of_activate (h : controller.WellFormed)
    (haccepted : (controller.activate streamId).1 = true) :
    ∃ resource, controller.resource? streamId = some resource ∧ resource.videoEncoder = true := by
  have hactivated : controller.Activated streamId (controller.activate streamId) := activated
  generalize controller.activate streamId = outcome at hactivated haccepted
  cases hactivated with
  | unchanged => cases haccepted
  | running hresource hstarted =>
      exact ⟨_, hresource, (h _ (mem_of_resource? hresource)).running hstarted⟩
  | started hresource _ houtput _ obs =>
      exact ⟨_, hresource, (h _ (mem_of_resource? hresource)).whole.symm.trans houtput⟩
  | refused _ _ obs => cases haccepted

/-- Nor does it take an encoder away or bring one. -/
theorem encoder_activate
    (haccepted : (controller.activate streamId).1 = true) {other : CaptureStreamId} :
    (∃ resource, (controller.activate streamId).2.resource? other = some resource ∧
      resource.videoEncoder = true) →
    ∃ resource, controller.resource? other = some resource ∧ resource.videoEncoder = true := by
  have hactivated : controller.Activated streamId (controller.activate streamId) := activated
  generalize controller.activate streamId = outcome at hactivated haccepted ⊢
  rintro ⟨resource, hresource, hencoder⟩
  cases hactivated with
  | unchanged => exact ⟨resource, hresource, hencoder⟩
  | running _ _ => exact ⟨resource, hresource, hencoder⟩
  | started hold _ _ _ obs =>
      rw [resource?_setResource] at hresource
      split_ifs at hresource with hsame
      · subst hsame
        rw [hold] at hresource
        obtain rfl := Option.some.inj hresource
        exact ⟨_, hold, hencoder⟩
      · exact ⟨resource, hresource, hencoder⟩
  | refused _ _ obs => cases haccepted

end PluginEncoderController

end ObsSyncReplay
