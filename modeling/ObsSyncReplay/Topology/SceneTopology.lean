import ObsSyncReplay.Lib.Runs

/-!
`topology/scene-topology`: the scenes that take part in a capture. While a capture epoch
is active the participants stay as they are, and a discovery that differs is staged until
the epoch ends.
-/

namespace ObsSyncReplay

inductive StreamKind where
  | master
  | scene
deriving DecidableEq, Repr

structure StreamIdentity where
  kind : StreamKind := .master
  key : String := "master"
deriving DecidableEq, Repr

def StreamIdentity.master : StreamIdentity := ⟨.master, "master"⟩

def StreamIdentity.scene (uuid : String) : StreamIdentity := ⟨.scene, uuid⟩

theorem StreamIdentity.eq_scene {identity : StreamIdentity} (h : identity.kind = .scene) :
    identity = .scene identity.key := by
  obtain ⟨kind, key⟩ := identity
  obtain rfl : kind = .scene := h
  rfl

structure DiscoveredScene where
  uuid : String
  displayName : String
deriving DecidableEq

structure SceneTopologyEntry where
  identity : StreamIdentity
  displayName : String
  collectionOrder : Nat := 0
  recordingEnabled : Bool := true
  replayEnabled : Bool := true
deriving DecidableEq

structure SceneTopologySnapshot where
  streams : List SceneTopologyEntry := []
  generation : Nat := 0
deriving DecidableEq

inductive TopologyUpdateResult where
  | unchanged
  | applied
  | staged
deriving DecidableEq, Repr

/-- One round of the loop of `BuildSnapshot`: a scene without a UUID, or with one that has
its entry already, is skipped, but counts for the order of the later ones. -/
def pushScene (streams : List SceneTopologyEntry) (scene : DiscoveredScene × Nat) :
    List SceneTopologyEntry :=
  if scene.1.uuid.isEmpty ∨ streams.any (fun entry =>
      entry.identity.kind = .scene ∧ entry.identity.key = scene.1.uuid) then streams
  else
    streams ++ [⟨.scene scene.1.uuid, scene.1.displayName, scene.2 + 1, true, true⟩]

def buildSnapshot (scenes : List DiscoveredScene) (generation : Nat) : SceneTopologySnapshot where
  generation := generation
  streams := scenes.zipIdx.foldl pushScene [⟨.master, "Master/Program", 0, true, true⟩]

def sameTopology (left right : SceneTopologySnapshot) : Bool :=
  left.streams.length = right.streams.length ∧
    (left.streams.zip right.streams).all (fun (a, b) =>
      a.identity = b.identity ∧ a.collectionOrder = b.collectionOrder ∧
        a.recordingEnabled = b.recordingEnabled ∧ a.replayEnabled = b.replayEnabled)

def updateDisplayNames (target discovered : SceneTopologySnapshot) : SceneTopologySnapshot :=
  { target with
    streams := target.streams.map (fun entry =>
      match discovered.streams.find? (fun candidate => candidate.identity = entry.identity) with
      | some candidate => { entry with displayName := candidate.displayName }
      | none => entry) }

structure SceneTopologyModel where
  current : SceneTopologySnapshot := buildSnapshot [] 0
  activeEpoch : SceneTopologySnapshot := buildSnapshot [] 0
  pending : Option SceneTopologySnapshot := none
  captureEpochActive : Bool := false

namespace SceneTopologyModel

def applyDiscovery (model : SceneTopologyModel) (scenes : List DiscoveredScene)
    (captureEpochActive : Bool) : TopologyUpdateResult × SceneTopologyModel :=
  let discovered := buildSnapshot scenes (model.current.generation + 1)
  let same := sameTopology model.current discovered &&
    (model.current.streams.zip discovered.streams).all (fun (left, right) =>
      left.displayName = right.displayName)
  if same then (.unchanged, model)
  else if !captureEpochActive then
    (.applied, { model with current := discovered, pending := none })
  else
    (.staged, { model with
      current := updateDisplayNames model.current discovered, pending := some discovered })

def beginCaptureEpoch (model : SceneTopologyModel) : SceneTopologyModel :=
  if !model.captureEpochActive then
    { model with activeEpoch := model.current, captureEpochActive := true }
  else model

def endCaptureEpoch (model : SceneTopologyModel) :
    Option SceneTopologySnapshot × SceneTopologyModel :=
  if !model.captureEpochActive then (none, model)
  else
    let model := { model with captureEpochActive := false }
    match model.pending with
    | none => (none, model)
    | some pending =>
        (some pending, { model with current := pending, pending := none, activeEpoch := pending })

def hasPending (model : SceneTopologyModel) : Bool := model.pending.isSome

/-- `ApplyDiscovery` is given the flag of the model itself. -/
inductive Call where
  | applyDiscovery (scenes : List DiscoveredScene)
  | beginCaptureEpoch
  | endCaptureEpoch
deriving DecidableEq

inductive Answer where
  | update (result : TopologyUpdateResult)
  | begun
  | ended (applied : Option SceneTopologySnapshot)
deriving DecidableEq

def step (model : SceneTopologyModel) : Call → Answer × SceneTopologyModel
  | .applyDiscovery scenes =>
      let (result, model) := model.applyDiscovery scenes model.captureEpochActive
      (.update result, model)
  | .beginCaptureEpoch => (.begun, model.beginCaptureEpoch)
  | .endCaptureEpoch =>
      let (applied, model) := model.endCaptureEpoch
      (.ended applied, model)

abbrev Transition := Runs.Transition SceneTopologyModel Call Answer

end SceneTopologyModel

end ObsSyncReplay
