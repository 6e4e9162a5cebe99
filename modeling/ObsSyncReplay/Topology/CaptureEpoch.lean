import ObsSyncReplay.Topology.TopologyRuns

/-!
What a capture epoch leaves as it is. The participants of an epoch are those that it began
with; of the discoveries made meanwhile only the names are seen. The names that are shown
are always those of the latest discovery.
-/

namespace ObsSyncReplay

/-- Master, then scenes with different UUIDs in the order of the collection. -/
structure Ordered (streams : List SceneTopologyEntry) : Prop where
  master : streams.head?.map SceneTopologyEntry.identity = some .master
  scenes : ∀ entry ∈ streams.tail, entry.identity.kind = .scene ∧ entry.identity.key ≠ ""
  uuids : (streams.tail.map (fun entry => entry.identity.key)).Nodup
  ascending : streams.Pairwise
    (fun earlier later => earlier.collectionOrder < later.collectionOrder)

/-- What an entry says of its stream besides the name. -/
def participant (entry : SceneTopologyEntry) : StreamIdentity × Nat × Bool × Bool :=
  (entry.identity, entry.collectionOrder, entry.recordingEnabled, entry.replayEnabled)

def participants (snapshot : SceneTopologySnapshot) : List (StreamIdentity × Nat × Bool × Bool) :=
  snapshot.streams.map participant

/-- The name that a discovery gives to a UUID, the first one if it is listed again. -/
def discoveredName (scenes : List DiscoveredScene) (uuid : String) : Option String :=
  (scenes.find? (fun scene => scene.uuid = uuid)).map DiscoveredScene.displayName

theorem discoveredStreams_concat (scenes : List DiscoveredScene) (scene : DiscoveredScene) :
    discoveredStreams (scenes ++ [scene]) =
      pushScene (discoveredStreams scenes) (scene, scenes.length) := by
  simp [discoveredStreams, buildSnapshot, List.zipIdx_append, List.foldl_append]

/-- The entries of a discovery are its scenes that have a UUID, under the first name that the
UUID is listed with. -/
structure Describes (scenes : List DiscoveredScene) (streams : List SceneTopologyEntry) :
    Prop where
  ordered : Ordered streams
  orders : ∀ entry ∈ streams, entry.collectionOrder ≤ scenes.length
  names : ∀ entry ∈ streams.tail,
    discoveredName scenes entry.identity.key = some entry.displayName
  listed : ∀ scene ∈ scenes, scene.uuid ≠ "" → StreamIdentity.scene scene.uuid ∈
    streams.tail.map SceneTopologyEntry.identity

theorem discoveredName_concat_of_some {scenes : List DiscoveredScene} {uuid name : String}
    (h : discoveredName scenes uuid = some name) (scene : DiscoveredScene) :
    discoveredName (scenes ++ [scene]) uuid = some name := by
  obtain ⟨found, hfound, rfl⟩ := Option.map_eq_some_iff.mp h
  unfold discoveredName
  rw [List.find?_append, hfound]
  rfl

theorem discoveredName_concat_of_new {scenes : List DiscoveredScene} {scene : DiscoveredScene}
    (h : ∀ earlier ∈ scenes, earlier.uuid ≠ scene.uuid) :
    discoveredName (scenes ++ [scene]) scene.uuid = some scene.displayName := by
  have hnone : scenes.find? (fun earlier => earlier.uuid = scene.uuid) = none := by
    simpa using h
  unfold discoveredName
  rw [List.find?_append, hnone]
  simp

/-- A round adds the scene exactly if no entry has its UUID. -/
theorem pushScene_cases {master : SceneTopologyEntry} (entries : List SceneTopologyEntry)
    (hmaster : master.identity = .master) (scene : DiscoveredScene) (index : Nat) :
    (pushScene (master :: entries) (scene, index) = master :: entries ∧
      (scene.uuid ≠ "" → ∃ entry ∈ entries, entry.identity = .scene scene.uuid)) ∨
    (pushScene (master :: entries) (scene, index) = master :: (entries ++
        [⟨.scene scene.uuid, scene.displayName, index + 1, true, true⟩]) ∧
      scene.uuid ≠ "" ∧ ∀ entry ∈ entries, entry.identity ≠ .scene scene.uuid) := by
  have hknown (entry : SceneTopologyEntry) : entry.identity = .scene scene.uuid ↔
      entry.identity.kind = .scene ∧ entry.identity.key = scene.uuid := by
    rcases entry.identity with ⟨kind, key⟩
    simp [StreamIdentity.scene]
  unfold pushScene
  dsimp only
  split_ifs with hskip
  · refine Or.inl ⟨rfl, fun hne => ?_⟩
    obtain ⟨entry, hentry, hsame⟩ : ∃ entry ∈ master :: entries,
        entry.identity.kind = .scene ∧ entry.identity.key = scene.uuid := by
      simpa [hne] using hskip
    rcases List.mem_cons.mp hentry with rfl | hentry
    · rw [hmaster] at hsame
      cases hsame.1
    · exact ⟨entry, hentry, (hknown entry).mpr hsame⟩
  · rw [not_or] at hskip
    refine Or.inr ⟨rfl, by simpa using hskip.1, fun entry hentry hsame => ?_⟩
    apply hskip.2
    rw [List.any_eq_true]
    exact ⟨entry, List.mem_cons_of_mem _ hentry, by simpa using (hknown entry).mp hsame⟩

theorem Describes.skip {scenes : List DiscoveredScene} {streams : List SceneTopologyEntry}
    {scene : DiscoveredScene} (h : Describes scenes streams)
    (hknown : scene.uuid ≠ "" → ∃ entry ∈ streams.tail, entry.identity = .scene scene.uuid) :
    Describes (scenes ++ [scene]) streams where
  ordered := h.ordered
  orders entry hentry := by
    have hle := h.orders entry hentry
    simp only [List.length_append, List.length_singleton]
    omega
  names entry hentry := discoveredName_concat_of_some (h.names entry hentry) scene
  listed listed hlisted hne := by
    rcases List.mem_append.mp hlisted with hold | hnew
    · exact h.listed listed hold hne
    · obtain rfl := List.mem_singleton.mp hnew
      obtain ⟨entry, hentry, hsame⟩ := hknown hne
      exact List.mem_map.mpr ⟨entry, hentry, hsame⟩

theorem Describes.push {scenes : List DiscoveredScene} {master : SceneTopologyEntry}
    {entries : List SceneTopologyEntry} {scene : DiscoveredScene}
    (h : Describes scenes (master :: entries)) (hne : scene.uuid ≠ "")
    (hnew : ∀ entry ∈ entries, entry.identity ≠ .scene scene.uuid) :
    Describes (scenes ++ [scene]) (master :: (entries ++
      [⟨.scene scene.uuid, scene.displayName, scenes.length + 1, true, true⟩])) := by
  have hkeys : ∀ entry ∈ entries, entry.identity.key ≠ scene.uuid := by
    intro entry hentry hsame
    apply hnew entry hentry
    have hkind := (h.ordered.scenes entry hentry).1
    rw [StreamIdentity.eq_scene hkind, hsame]
  constructor
  · constructor
    · exact h.ordered.master
    · intro entry hentry
      rcases List.mem_append.mp hentry with hold | hadded
      · exact h.ordered.scenes entry hold
      · obtain rfl := List.mem_singleton.mp hadded
        exact ⟨rfl, hne⟩
    · have hnodup := h.ordered.uuids
      simp only [List.tail_cons, List.map_append, List.map_cons, List.map_nil] at hnodup ⊢
      apply List.Nodup.append hnodup (List.nodup_singleton _)
      intro key hkey hsame
      obtain ⟨entry, hentry, rfl⟩ := List.mem_map.mp hkey
      exact hkeys entry hentry (List.mem_singleton.mp hsame)
    · rw [← List.cons_append, List.pairwise_append]
      refine ⟨h.ordered.ascending, List.pairwise_singleton _ _, fun entry hentry added hadded => ?_⟩
      obtain rfl := List.mem_singleton.mp hadded
      have hle := h.orders entry hentry
      exact Nat.lt_succ_of_le hle
  · rw [← List.cons_append, List.forall_mem_append, List.forall_mem_singleton]
    simp only [List.length_append, List.length_singleton]
    refine ⟨fun entry hentry => ?_, le_rfl⟩
    have hle := h.orders entry hentry
    omega
  · rw [List.tail_cons, List.forall_mem_append, List.forall_mem_singleton]
    refine ⟨fun entry hentry => ?_, ?_⟩
    · exact discoveredName_concat_of_some (h.names entry hentry) scene
    · apply discoveredName_concat_of_new
      intro earlier hearlier hsame
      have hlisted := h.listed earlier hearlier (by rwa [hsame])
      obtain ⟨entry, hentry, hidentity⟩ := List.mem_map.mp hlisted
      rw [hsame] at hidentity
      exact hnew entry hentry hidentity
  · intro listed hlisted hnonempty
    rw [List.tail_cons, List.map_append, List.mem_append]
    rcases List.mem_append.mp hlisted with hold | hadded
    · exact Or.inl (h.listed listed hold hnonempty)
    · obtain rfl := List.mem_singleton.mp hadded
      exact Or.inr (List.mem_singleton_self _)

theorem describes_discoveredStreams (scenes : List DiscoveredScene) :
    Describes scenes (discoveredStreams scenes) := by
  induction scenes using List.reverseRecOn with
  | nil =>
      have hmaster : discoveredStreams [] = [⟨.master, "Master/Program", 0, true, true⟩] := rfl
      rw [hmaster]
      constructor
      · constructor <;> simp
      · simp
      · simp
      · simp
  | append_singleton scenes scene ih =>
      rw [discoveredStreams_concat]
      cases hstreams : discoveredStreams scenes with
      | nil =>
          have hmaster := ih.ordered.master
          simp [hstreams] at hmaster
      | cons master entries =>
          rw [hstreams] at ih
          have hmaster : master.identity = .master := by
            simpa using ih.ordered.master
          rcases pushScene_cases entries hmaster scene scenes.length with
            ⟨hsame, hknown⟩ | ⟨hpushed, hne, hnew⟩
          · rw [hsame]
            exact ih.skip hknown
          · rw [hpushed]
            exact ih.push hne hnew

/-- Entries of one stream have one name. -/
def NamesAgree (left right : List SceneTopologyEntry) : Prop :=
  ∀ entry ∈ left, ∀ other ∈ right, entry.identity = other.identity →
    entry.displayName = other.displayName

section Streams

variable {streams streams' : List SceneTopologyEntry} {target discovered : SceneTopologySnapshot}

theorem Ordered.identities (h : Ordered streams) :
    (streams.map SceneTopologyEntry.identity).Nodup := by
  have hmaster := h.master
  have hscenes := h.scenes
  have huuids := h.uuids
  cases streams with
  | nil => simp at hmaster
  | cons master entries =>
      have hidentity : master.identity = .master := by
        simpa using hmaster
      rw [List.map_cons, List.nodup_cons]
      constructor
      · intro hmem
        obtain ⟨entry, hentry, hsame⟩ := List.mem_map.mp hmem
        have hkind := (hscenes entry hentry).1
        rw [hsame, hidentity] at hkind
        cases hkind
      · have hkeys : ((entries.map SceneTopologyEntry.identity).map
            StreamIdentity.key).Nodup := by
          rwa [List.map_map]
        exact hkeys.of_map

theorem Ordered.namesAgree (h : Ordered streams) : NamesAgree streams streams := by
  intro entry hentry other hother hsame
  rw [List.inj_on_of_nodup_map h.identities hentry hother hsame]

/-- The order is one of the participants. -/
theorem Ordered.of_participants (h : Ordered streams)
    (hsame : streams'.map participant = streams.map participant) : Ordered streams' := by
  have hidentities : streams'.map SceneTopologyEntry.identity =
      streams.map SceneTopologyEntry.identity := by
    have hmapped := congrArg (List.map Prod.fst) hsame
    rwa [List.map_map, List.map_map] at hmapped
  have horders : streams'.map SceneTopologyEntry.collectionOrder =
      streams.map SceneTopologyEntry.collectionOrder := by
    have hmapped := congrArg (List.map (fun entry => entry.2.1)) hsame
    rwa [List.map_map, List.map_map] at hmapped
  have htail : streams'.tail.map SceneTopologyEntry.identity =
      streams.tail.map SceneTopologyEntry.identity := by
    rw [List.map_tail, List.map_tail, hidentities]
  constructor
  · rw [← List.head?_map, hidentities, List.head?_map]
    exact h.master
  · intro entry hentry
    have hmem : entry.identity ∈ streams.tail.map SceneTopologyEntry.identity := by
      rw [← htail]
      exact List.mem_map_of_mem hentry
    obtain ⟨other, hother, hidentity⟩ := List.mem_map.mp hmem
    rw [← hidentity]
    exact h.scenes other hother
  · have hkeys := congrArg (List.map StreamIdentity.key) htail
    rw [List.map_map, List.map_map] at hkeys
    have huuids := h.uuids
    change (streams'.tail.map (StreamIdentity.key ∘ SceneTopologyEntry.identity)).Nodup
    rwa [hkeys]
  · have hascending := List.pairwise_map.mpr h.ascending
    rw [← horders] at hascending
    exact List.pairwise_map.mp hascending

theorem participants_updateDisplayNames :
    participants (updateDisplayNames target discovered) = participants target := by
  unfold participants updateDisplayNames
  rw [List.map_map]
  apply List.map_congr_left
  intro entry _
  simp only [Function.comp_apply]
  split <;> rfl

/-- An entry that is discovered again takes over the name. -/
theorem updateDisplayNames_namesAgree (h : NamesAgree discovered.streams discovered.streams) :
    NamesAgree (updateDisplayNames target discovered).streams discovered.streams := by
  intro updated hupdated other hother hsame
  obtain ⟨entry, hentry, rfl⟩ := List.mem_map.mp hupdated
  cases hfind : discovered.streams.find? (fun candidate => candidate.identity = entry.identity) with
  | none =>
      simp only [hfind] at hsame
      have hnone := List.find?_eq_none.mp hfind other hother
      simp [hsame] at hnone
  | some candidate =>
      simp only [hfind] at hsame ⊢
      have hidentity : candidate.identity = entry.identity := by
        simpa using List.find?_some hfind
      exact h candidate (List.mem_of_find?_eq_some hfind) other hother (hidentity.trans hsame)

end Streams

/-- The names of a discovery, read off its list. -/
theorem NamesAgree.shown {streams : List SceneTopologyEntry} {scenes : List DiscoveredScene}
    (h : NamesAgree streams (discoveredStreams scenes)) (hordered : Ordered streams)
    {entry : SceneTopologyEntry} (hentry : entry ∈ streams.tail) {name : String}
    (hname : discoveredName scenes entry.identity.key = some name) : entry.displayName = name := by
  have hdescribes := describes_discoveredStreams scenes
  obtain ⟨hkind, hkey⟩ := hordered.scenes entry hentry
  obtain ⟨scene, hscene, rfl⟩ := Option.map_eq_some_iff.mp hname
  have huuid : scene.uuid = entry.identity.key := by
    simpa using List.find?_some hscene
  have hlisted := hdescribes.listed scene (List.mem_of_find?_eq_some hscene) (by rwa [huuid])
  obtain ⟨other, hother, hidentity⟩ := List.mem_map.mp hlisted
  have hsame : entry.identity = other.identity := by
    rw [hidentity, huuid]
    exact StreamIdentity.eq_scene hkind
  have hfirst := hdescribes.names other hother
  rw [← hsame, hname] at hfirst
  rw [h entry (List.mem_of_mem_tail hentry) other (List.mem_of_mem_tail hother) hsame]
  exact (Option.some.inj hfirst).symm

namespace SceneTopologyModel

variable {model : SceneTopologyModel} {past : List Transition}

theorem lastDiscovery_concat (call : Call) :
    lastDiscovery (past ++ [Runs.transition step model call]) =
      match call with
      | .applyDiscovery scenes => some (model, scenes)
      | _ => lastDiscovery past := by
  cases call <;> simp [lastDiscovery, Runs.transition]

/-- Of each stream the names that are current, staged and discovered last agree. -/
structure ShowsLatest (past : List Transition) (model : SceneTopologyModel) : Prop where
  current : Ordered model.current.streams
  pending : ∀ staged ∈ model.pending, Ordered staged.streams ∧
    NamesAgree staged.streams model.current.streams
  latest : ∀ latest ∈ lastDiscovery past,
    NamesAgree model.current.streams (discoveredStreams latest.2) ∧
      ∀ staged ∈ model.pending, NamesAgree staged.streams (discoveredStreams latest.2)

theorem ordered_discoveredStreams (scenes : List DiscoveredScene) :
    Ordered (discoveredStreams scenes) := (describes_discoveredStreams scenes).ordered

theorem namesAgree_discoveredStreams (scenes : List DiscoveredScene) :
    NamesAgree (discoveredStreams scenes) (discoveredStreams scenes) :=
  (ordered_discoveredStreams scenes).namesAgree

theorem NamesAgree.symm {left right : List SceneTopologyEntry} (h : NamesAgree left right) :
    NamesAgree right left :=
  fun entry hentry other hother hsame => (h other hother entry hentry hsame.symm).symm

theorem ShowsLatest.applyDiscovery (h : ShowsLatest past model) (scenes : List DiscoveredScene) :
    ShowsLatest (past ++ [Runs.transition step model (.applyDiscovery scenes)])
      (model.step (.applyDiscovery scenes)).2 := by
  have hlast : lastDiscovery (past ++ [Runs.transition step model (.applyDiscovery scenes)]) =
      some (model, scenes) := lastDiscovery_concat _
  have hself := namesAgree_discoveredStreams scenes
  simp only [SceneTopologyModel.step, SceneTopologyModel.applyDiscovery]
  split_ifs with hfinds hidle
  · have hcurrent : model.current.streams = discoveredStreams scenes := finds_iff.mp hfinds
    refine ⟨h.current, h.pending, ?_⟩
    rw [hlast]
    rintro latest hlatest
    obtain rfl := Option.some.inj hlatest
    dsimp only
    rw [hcurrent]
    refine ⟨hself, fun staged hstaged => ?_⟩
    rw [← hcurrent]
    exact (h.pending staged hstaged).2
  · refine ⟨ordered_discoveredStreams scenes, by simp, ?_⟩
    rw [hlast]
    rintro latest hlatest
    obtain rfl := Option.some.inj hlatest
    exact ⟨hself, by simp⟩
  · have hnames : NamesAgree (updateDisplayNames model.current
        (buildSnapshot scenes (model.current.generation + 1))).streams
          (discoveredStreams scenes) := updateDisplayNames_namesAgree hself
    refine ⟨?_, ?_, ?_⟩
    · exact h.current.of_participants participants_updateDisplayNames
    · intro staged hstaged
      obtain rfl := Option.some.inj hstaged
      exact ⟨ordered_discoveredStreams scenes, NamesAgree.symm hnames⟩
    · rw [hlast]
      rintro latest hlatest
      obtain rfl := Option.some.inj hlatest
      refine ⟨hnames, fun staged hstaged => ?_⟩
      obtain rfl := Option.some.inj hstaged
      exact hself

theorem ShowsLatest.step (h : ShowsLatest past model) (call : Call) :
    ShowsLatest (past ++ [Runs.transition step model call]) (model.step call).2 := by
  cases call with
  | applyDiscovery scenes => exact h.applyDiscovery scenes
  | beginCaptureEpoch =>
      have hlast : lastDiscovery (past ++ [Runs.transition SceneTopologyModel.step model
          .beginCaptureEpoch]) = lastDiscovery past := lastDiscovery_concat _
      simp only [SceneTopologyModel.step, SceneTopologyModel.beginCaptureEpoch]
      split_ifs <;> refine ⟨h.current, h.pending, ?_⟩ <;> rw [hlast] <;> exact h.latest
  | endCaptureEpoch =>
      have hlast : lastDiscovery (past ++ [Runs.transition SceneTopologyModel.step model
          .endCaptureEpoch]) = lastDiscovery past := lastDiscovery_concat _
      simp only [SceneTopologyModel.step, SceneTopologyModel.endCaptureEpoch]
      split_ifs with hidle
      · refine ⟨h.current, h.pending, ?_⟩
        rw [hlast]
        exact h.latest
      · cases hpending : model.pending with
        | none =>
            refine ⟨h.current, by simp, ?_⟩
            rw [hlast]
            exact fun latest hlatest => ⟨(h.latest latest hlatest).1, by simp⟩
        | some staged =>
            refine ⟨(h.pending staged hpending).1, by simp, ?_⟩
            rw [hlast]
            exact fun latest hlatest => ⟨(h.latest latest hlatest).2 staged hpending, by simp⟩

/-- The active epoch was begun by a call after which it has not ended, and its snapshot is
the one that was current then. -/
def BegunAt (past : List Transition) (model : SceneTopologyModel) : Prop :=
  ∃ before t after, past = before ++ t :: after ∧ t.input = .beginCaptureEpoch ∧
    t.before.captureEpochActive = false ∧
    (∀ later ∈ after, later.after.captureEpochActive = true) ∧
    model.activeEpoch = t.before.current

theorem BegunAt.concat (h : BegunAt past model) {t : Transition}
    (hactive : t.after.captureEpochActive = true)
    (hsame : t.after.activeEpoch = model.activeEpoch) : BegunAt (past ++ [t]) t.after := by
  obtain ⟨before, begun, after, hpast, hinput, hidle, hlater, hepoch⟩ := h
  refine ⟨before, begun, after ++ [t], by simp [hpast], hinput, hidle, ?_, hsame.trans hepoch⟩
  rw [List.forall_mem_append, List.forall_mem_singleton]
  exact ⟨hlater, hactive⟩

/-- What holds throughout an epoch. -/
structure InEpoch (past : List Transition) (model : SceneTopologyModel) : Prop where
  begun : BegunAt past model
  participants : participants model.current = participants model.activeEpoch

/-- A discovery in an epoch may change names, but no participants. -/
theorem participants_applyDiscovery (hactive : model.captureEpochActive = true)
    (scenes : List DiscoveredScene) :
    ObsSyncReplay.participants
        (model.applyDiscovery scenes model.captureEpochActive).2.current =
      ObsSyncReplay.participants model.current := by
  unfold applyDiscovery
  dsimp only
  split_ifs with hfinds hidle
  · rfl
  · simp [hactive] at hidle
  · exact participants_updateDisplayNames

theorem applyDiscovery_activeEpoch {scenes : List DiscoveredScene} {captureEpochActive : Bool} :
    (model.applyDiscovery scenes captureEpochActive).2.activeEpoch = model.activeEpoch := by
  unfold applyDiscovery
  dsimp only
  split_ifs <;> rfl

theorem inEpoch_step (h : model.captureEpochActive = true → InEpoch past model) (call : Call)
    (hactive : (model.step call).2.captureEpochActive = true) :
    InEpoch (past ++ [Runs.transition step model call]) (model.step call).2 := by
  cases call with
  | applyDiscovery scenes =>
      have hbefore : model.captureEpochActive = true := by
        simpa [SceneTopologyModel.step] using hactive
      obtain ⟨hbegun, hparticipants⟩ := h hbefore
      have hepoch : (model.applyDiscovery scenes model.captureEpochActive).2.activeEpoch =
          model.activeEpoch := applyDiscovery_activeEpoch
      refine ⟨hbegun.concat hactive hepoch, ?_⟩
      apply (participants_applyDiscovery hbefore scenes).trans
      rw [hparticipants]
      exact congrArg ObsSyncReplay.participants hepoch.symm
  | beginCaptureEpoch =>
      cases hidle : model.captureEpochActive with
      | true =>
          obtain ⟨hbegun, hparticipants⟩ := h hidle
          have hsame : (model.step .beginCaptureEpoch).2 = model := by
            simp [SceneTopologyModel.step, beginCaptureEpoch, hidle]
          refine ⟨hbegun.concat hactive (congrArg activeEpoch hsame), ?_⟩
          rw [hsame]
          exact hparticipants
      | false =>
          have hstarted : (model.step .beginCaptureEpoch).2 =
              { model with activeEpoch := model.current, captureEpochActive := true } := by
            simp [SceneTopologyModel.step, beginCaptureEpoch, hidle]
          rw [hstarted]
          refine ⟨⟨past, _, [], rfl, rfl, hidle, by simp, rfl⟩, rfl⟩
  | endCaptureEpoch =>
      simp only [SceneTopologyModel.step, endCaptureEpoch] at hactive
      split_ifs at hactive with hidle
      · rw [Bool.not_eq_true'] at hidle
        exact absurd (hidle.symm.trans hactive) Bool.false_ne_true
      · split at hactive <;> cases hactive

/-- In every run, an epoch keeps the snapshot and the participants that it began with, the
names shown are those discovered last, and the streams are in order. -/
theorem epoch_immutable (hrun : Runs.Run step {} past model) :
    (model.captureEpochActive = true → InEpoch past model) ∧
    (∀ latest ∈ lastDiscovery past,
      NamesAgree model.current.streams (discoveredStreams latest.2) ∧
        ∀ entry ∈ model.current.streams.tail, ∀ name,
          discoveredName latest.2 entry.identity.key = some name → entry.displayName = name) ∧
    Ordered model.current.streams ∧ ∀ staged ∈ model.pending, Ordered staged.streams := by
  have hkept : (model.captureEpochActive = true → InEpoch past model) ∧
      ShowsLatest past model := by
    apply hrun.invariant (P := fun past model =>
      (model.captureEpochActive = true → InEpoch past model) ∧ ShowsLatest past model)
    · refine ⟨fun hactive => (by cases hactive), ?_, by simp, by simp [lastDiscovery]⟩
      exact ordered_discoveredStreams []
    · exact fun past model call _ h => ⟨inEpoch_step h.1 call, h.2.step call⟩
  obtain ⟨hepoch, hshows⟩ := hkept
  refine ⟨hepoch, fun latest hlatest => ?_, hshows.current,
    fun staged hstaged => (hshows.pending staged hstaged).1⟩
  have hnames := (hshows.latest latest hlatest).1
  exact ⟨hnames, fun entry hentry name hname => hnames.shown hshows.current hentry hname⟩

/-- A scene is renamed and another one added during the epoch. -/
def renamedCalls : List Call :=
  [.applyDiscovery [⟨"uuid-a", "Alpha"⟩], .beginCaptureEpoch,
    .applyDiscovery [⟨"uuid-b", "Beta"⟩, ⟨"uuid-a", "Renamed"⟩, ⟨"uuid-a", "Again"⟩]]

theorem epoch_immutable_sample :
    (Runs.exec step {} renamedCalls).current.streams.map SceneTopologyEntry.displayName =
        ["Master/Program", "Renamed"] ∧
      InEpoch (Runs.history step {} renamedCalls) (Runs.exec step {} renamedCalls) :=
  ⟨by decide, (epoch_immutable (Runs.run_exec _ renamedCalls)).1 (by decide)⟩

end SceneTopologyModel

end ObsSyncReplay
