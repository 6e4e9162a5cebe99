import ObsSyncReplay.Lib.Traces
import ObsSyncReplay.Topology.SceneTopology

/-!
Which topology is in force once a capture epoch has ended. It is the staged one if there
is one, else the current one, and the latest discovery decides whether that is also the
latest topology: a discovery that finds the current topology again leaves what was staged
before it.
-/

namespace ObsSyncReplay

/-- The streams of the topology that a discovery describes. -/
def discoveredStreams (scenes : List DiscoveredScene) : List SceneTopologyEntry :=
  (buildSnapshot scenes 0).streams

@[simp] theorem streams_buildSnapshot (scenes : List DiscoveredScene) (generation : Nat) :
    (buildSnapshot scenes generation).streams = discoveredStreams scenes := rfl

theorem eq_of_mem_zip_self {α : Type} {a b : α} {l : List α} (h : (a, b) ∈ l.zip l) : a = b := by
  induction l with
  | nil => simp at h
  | cons head tail ih =>
      rcases List.mem_cons.mp h with hhead | htail
      · exact (congrArg Prod.fst hhead).trans (congrArg Prod.snd hhead).symm
      · exact ih htail

theorem sameTopology_of_streams_eq {left right : SceneTopologySnapshot}
    (h : left.streams = right.streams) : sameTopology left right = true := by
  simp only [sameTopology, h, true_and, List.all_eq_true, decide_eq_true_eq]
  rintro ⟨a, b⟩ hmem
  obtain rfl := eq_of_mem_zip_self hmem
  exact ⟨rfl, rfl, rfl, rfl⟩

/-- Entries agree if the comparison of `SameTopology` and the one of the names hold. -/
theorem streams_eq_of_same {left right : SceneTopologySnapshot}
    (htopology : sameTopology left right = true)
    (hnames : (left.streams.zip right.streams).all (fun (a, b) =>
      a.displayName = b.displayName) = true) : left.streams = right.streams := by
  simp only [sameTopology, decide_eq_true_eq, List.all_eq_true] at htopology hnames
  obtain ⟨hlength, hentries⟩ := htopology
  apply List.ext_getElem hlength
  intro index hleft hright
  have hzip : index < (left.streams.zip right.streams).length := by
    simp [List.length_zip, hleft, hright]
  have hmem := List.getElem_mem hzip
  have hfields := hentries _ hmem
  have hname := hnames _ hmem
  simp only [List.getElem_zip] at hfields hname
  obtain ⟨hidentity, horder, hrecording, hreplay⟩ := hfields
  rcases hl : left.streams[index] with ⟨⟩
  rcases hr : right.streams[index] with ⟨⟩
  simp_all

namespace SceneTopologyModel

variable {model : SceneTopologyModel} {past : List Transition}

/-- The comparison that `ApplyDiscovery` makes. -/
def finds (model : SceneTopologyModel) (scenes : List DiscoveredScene) : Bool :=
  let discovered := buildSnapshot scenes (model.current.generation + 1)
  sameTopology model.current discovered &&
    (model.current.streams.zip discovered.streams).all (fun (left, right) =>
      left.displayName = right.displayName)

theorem finds_iff {scenes : List DiscoveredScene} :
    model.finds scenes = true ↔ model.current.streams = discoveredStreams scenes := by
  simp only [finds, Bool.and_eq_true]
  constructor
  · rintro ⟨htopology, hnames⟩
    exact streams_eq_of_same htopology hnames
  · intro h
    refine ⟨sameTopology_of_streams_eq h, ?_⟩
    simp only [streams_buildSnapshot, h, List.all_eq_true, decide_eq_true_eq]
    rintro ⟨a, b⟩ hmem
    rw [eq_of_mem_zip_self hmem]

/-- The topology in force as soon as no epoch is active. -/
def upcoming (model : SceneTopologyModel) : List SceneTopologyEntry :=
  (model.pending.getD model.current).streams

/-- Nothing is staged outside of an epoch. -/
def StagesInEpoch (model : SceneTopologyModel) : Prop :=
  model.captureEpochActive = false → model.pending = none

/-- The latest discovery before the end of `past`. -/
def lastDiscovery (past : List Transition) : Option (SceneTopologyModel × List DiscoveredScene) :=
  (past.filterMap (fun transition =>
    match transition.input with
    | .applyDiscovery scenes => some (transition.before, scenes)
    | _ => none)).getLast?

/-- A discovery in an epoch that finds the current topology while another one is staged. -/
def Reverts (model : SceneTopologyModel) (scenes : List DiscoveredScene) : Prop :=
  model.captureEpochActive = true ∧ model.current.streams = discoveredStreams scenes ∧
    ∃ staged ∈ model.pending, staged.streams ≠ discoveredStreams scenes

/-- A discovery leaves its own topology to come, unless it reverts a staged one. -/
theorem upcoming_applyDiscovery (hstages : model.StagesInEpoch) (scenes : List DiscoveredScene) :
    (model.applyDiscovery scenes model.captureEpochActive).2.upcoming =
      discoveredStreams scenes ↔ ¬model.Reverts scenes := by
  have hupdate : (model.applyDiscovery scenes model.captureEpochActive).2 =
      if model.finds scenes then model
      else if !model.captureEpochActive then
        { model with
          current := buildSnapshot scenes (model.current.generation + 1), pending := none }
      else
        let discovered := buildSnapshot scenes (model.current.generation + 1)
        { model with
          current := updateDisplayNames model.current discovered, pending := some discovered } := by
    unfold applyDiscovery finds
    dsimp only
    split_ifs <;> rfl
  rw [hupdate]
  split_ifs with hfinds hidle
  · have hcurrent := finds_iff.mp hfinds
    cases hpending : model.pending with
    | none => simp [upcoming, Reverts, hpending, hcurrent]
    | some staged =>
        have hactive : model.captureEpochActive = true := by
          by_contra hinactive
          rw [hstages (Bool.not_eq_true _ ▸ hinactive)] at hpending
          cases hpending
        simp [upcoming, Reverts, hpending, hcurrent, hactive]
  · have hnot : ¬model.Reverts scenes := fun h => hfinds (finds_iff.mpr h.2.1)
    exact iff_of_true rfl hnot
  · have hnot : ¬model.Reverts scenes := fun h => hfinds (finds_iff.mpr h.2.1)
    exact iff_of_true rfl hnot

@[simp] theorem upcoming_beginCaptureEpoch : model.beginCaptureEpoch.upcoming = model.upcoming := by
  unfold beginCaptureEpoch
  split_ifs <;> rfl

@[simp] theorem upcoming_endCaptureEpoch : model.endCaptureEpoch.2.upcoming = model.upcoming := by
  unfold endCaptureEpoch
  split_ifs
  · rfl
  · cases hpending : model.pending <;> simp [upcoming, hpending]

theorem StagesInEpoch.step (h : model.StagesInEpoch) (call : Call) :
    (model.step call).2.StagesInEpoch := by
  cases call with
  | applyDiscovery scenes =>
      simp only [SceneTopologyModel.step, applyDiscovery]
      split_ifs with hfinds hidle
      · exact h
      · exact fun _ => rfl
      · intro hinactive
        have hsame : model.captureEpochActive = false := hinactive
        simp [hsame] at hidle
  | beginCaptureEpoch =>
      simp only [SceneTopologyModel.step, beginCaptureEpoch]
      split_ifs with hidle
      · intro hinactive
        cases hinactive
      · exact h
  | endCaptureEpoch =>
      simp only [SceneTopologyModel.step, endCaptureEpoch]
      split_ifs with hidle
      · exact h
      · intro _
        split <;> rename_i hpending
        · exact hpending
        · rfl

/-- The topology to come is the one that was discovered last, unless that discovery was
a revert. -/
def FollowsLatest (past : List Transition) (model : SceneTopologyModel) : Prop :=
  ∀ latest ∈ lastDiscovery past,
    (model.upcoming = discoveredStreams latest.2 ↔ ¬latest.1.Reverts latest.2)

theorem followsLatest_run (hrun : Runs.Run step {} past model) :
    model.StagesInEpoch ∧ FollowsLatest past model := by
  apply hrun.invariant (P := fun past model => model.StagesInEpoch ∧ FollowsLatest past model)
  · exact ⟨fun _ => rfl, by simp [FollowsLatest, lastDiscovery]⟩
  intro past model call hrun ⟨hstages, hfollows⟩
  refine ⟨hstages.step call, ?_⟩
  intro latest hlatest
  cases call with
  | applyDiscovery scenes =>
      obtain rfl : (model, scenes) = latest := by
        simpa [lastDiscovery, Runs.transition] using hlatest
      exact upcoming_applyDiscovery hstages scenes
  | beginCaptureEpoch =>
      have hold : latest ∈ lastDiscovery past := by
        simpa [lastDiscovery, Runs.transition] using hlatest
      simpa [SceneTopologyModel.step] using hfollows latest hold
  | endCaptureEpoch =>
      have hold : latest ∈ lastDiscovery past := by
        simpa [lastDiscovery, Runs.transition] using hlatest
      simpa [SceneTopologyModel.step] using hfollows latest hold

/-- Whenever no epoch is active the current topology is the one discovered last. -/
def TracksLatest (before : List Transition) (transition : Transition) : Prop :=
  transition.after.captureEpochActive = false →
    ∀ latest ∈ lastDiscovery (before ++ [transition]),
      transition.after.current.streams = discoveredStreams latest.2

/-- The latest discovery before the end of an epoch is not a revert. -/
def EndsOnLatest (before : List Transition) (transition : Transition) : Prop :=
  transition.input = .endCaptureEpoch →
    ∀ latest ∈ lastDiscovery before, ¬latest.1.Reverts latest.2

theorem StagesInEpoch.upcoming_eq (h : model.StagesInEpoch)
    (hidle : model.captureEpochActive = false) : model.upcoming = model.current.streams := by
  unfold upcoming
  rw [h hidle]
  rfl

@[simp] theorem applyDiscovery_captureEpochActive (scenes : List DiscoveredScene)
    (captureEpochActive : Bool) :
    (model.applyDiscovery scenes captureEpochActive).2.captureEpochActive =
      model.captureEpochActive := by
  unfold applyDiscovery
  dsimp only
  split_ifs <;> rfl

theorem beginCaptureEpoch_captureEpochActive :
    model.beginCaptureEpoch.captureEpochActive = true := by
  unfold beginCaptureEpoch
  split_ifs with h
  · rfl
  · simpa using h

theorem tracksLatest_iff (hrun : Runs.Run step {} past model) (call : Call) :
    TracksLatest past (Runs.transition step model call) ↔
      EndsOnLatest past (Runs.transition step model call) := by
  obtain ⟨hstages, hfollows⟩ := followsLatest_run (hrun.next call)
  have htracks (latest : SceneTopologyModel × List DiscoveredScene)
      (hlatest : latest ∈ lastDiscovery (past ++ [Runs.transition step model call]))
      (hidle : (model.step call).2.captureEpochActive = false) :
      (model.step call).2.current.streams = discoveredStreams latest.2 ↔
        ¬latest.1.Reverts latest.2 := by
    rw [← hstages.upcoming_eq hidle]
    exact hfollows latest hlatest
  cases call with
  | applyDiscovery scenes =>
      apply iff_of_true _ (fun hend => by cases hend)
      intro hidle latest hlatest
      apply (htracks latest hlatest hidle).mpr
      obtain rfl : (model, scenes) = latest := by
        simpa [lastDiscovery, Runs.transition] using hlatest
      intro hreverts
      -- an idle discovery reverts nothing
      have hinactive : model.captureEpochActive = false := by
        simpa [Runs.transition, SceneTopologyModel.step] using hidle
      exact absurd hreverts.1 (by simp [hinactive])
  | beginCaptureEpoch =>
      apply iff_of_true _ (fun hend => by cases hend)
      intro hidle
      exact absurd hidle (by
        simp [Runs.transition, SceneTopologyModel.step, beginCaptureEpoch_captureEpochActive])
  | endCaptureEpoch =>
      have hidle : (model.step .endCaptureEpoch).2.captureEpochActive = false := by
        simp only [SceneTopologyModel.step, endCaptureEpoch]
        split_ifs with hactive
        · simpa using hactive
        · split <;> rfl
      have hold (latest : SceneTopologyModel × List DiscoveredScene) :
          latest ∈ lastDiscovery (past ++ [Runs.transition step model .endCaptureEpoch]) ↔
            latest ∈ lastDiscovery past := by
        simp [lastDiscovery, Runs.transition]
      constructor
      · intro h _ latest hlatest
        exact (htracks latest ((hold latest).mpr hlatest) hidle).mp
          (h hidle latest ((hold latest).mpr hlatest))
      · intro h _ latest hlatest
        exact (htracks latest hlatest hidle).mpr (h rfl latest ((hold latest).mp hlatest))

/-- In every run the topology between epochs is the one discovered last if and only if no
epoch ends on a discovery that reverts what was staged. -/
theorem idle_topology_latest_iff (hrun : Runs.Run step {} past model) :
    Traces.Obeys TracksLatest past ↔ Traces.Obeys EndsOnLatest past := by
  apply hrun.invariant (P := fun past _ =>
    (Traces.Obeys TracksLatest past ↔ Traces.Obeys EndsOnLatest past))
  · exact iff_of_true Traces.obeys_nil Traces.obeys_nil
  · intro past model call hrun hiff
    rw [Traces.obeys_concat_iff, Traces.obeys_concat_iff, hiff, tracksLatest_iff hrun call]

/-- A scene is added during the epoch. -/
def stagedCalls : List Call :=
  [.applyDiscovery [⟨"uuid-a", "Alpha"⟩], .beginCaptureEpoch,
    .applyDiscovery [⟨"uuid-a", "Alpha"⟩, ⟨"uuid-b", "Beta"⟩], .endCaptureEpoch]

theorem idle_topology_latest_iff_sample :
    (Runs.exec step {} stagedCalls).current.streams.map SceneTopologyEntry.displayName =
        ["Master/Program", "Alpha", "Beta"] ∧
      Traces.Obeys TracksLatest (Runs.history step {} stagedCalls) := by
  refine ⟨by decide, (idle_topology_latest_iff (Runs.run_exec _ stagedCalls)).mpr ?_⟩
  rw [Traces.obeys_iff_get]
  intro index
  fin_cases index
  · rintro ⟨⟩
  · rintro ⟨⟩
  · rintro ⟨⟩
  · -- the discovery of the added scene found nothing staged
    rintro - latest ⟨⟩ ⟨-, -, staged, hstaged, -⟩
    cases hstaged

/-- The added scene is removed again before the epoch ends. -/
def revertedCalls : List Call :=
  [.applyDiscovery [⟨"uuid-a", "Alpha"⟩], .beginCaptureEpoch,
    .applyDiscovery [⟨"uuid-a", "Alpha"⟩, ⟨"uuid-b", "Beta"⟩],
    .applyDiscovery [⟨"uuid-a", "Alpha"⟩], .endCaptureEpoch]

/-- After the epoch the removed scene takes part in the capture. -/
theorem removed_scene_applied :
    (Runs.exec step {} revertedCalls).captureEpochActive = false ∧
      (Runs.exec step {} revertedCalls).current.streams ≠
        (buildSnapshot [⟨"uuid-a", "Alpha"⟩] 0).streams ∧
      StreamIdentity.scene "uuid-b" ∈
        (Runs.exec step {} revertedCalls).current.streams.map (·.identity) ∧
      ¬Traces.Obeys TracksLatest (Runs.history step {} revertedCalls) := by
  refine ⟨by decide, by decide, by decide, fun h => ?_⟩
  have htracks := h (Runs.history step {} (revertedCalls.take 4))
    (Runs.transition step (Runs.exec step {} (revertedCalls.take 4)) .endCaptureEpoch) [] rfl rfl
    _ rfl
  exact absurd htracks (by decide)

end SceneTopologyModel

end ObsSyncReplay
