import ObsSyncReplay.Recording.PacketSink
import ObsSyncReplay.Topology.SceneTopology

/-!
`control/capture-configuration`: which consumer a stream takes part in, and when it needs
an encoder.
-/

namespace ObsSyncReplay

inductive StreamParticipationMode where
  | disabled
  | recording
  | replay
  | both
deriving DecidableEq, Repr

inductive CaptureConsumer where
  | recording
  | replay
deriving DecidableEq, Repr

structure ReplayConfiguration where
  enabled : Bool := false
  targetDurationNs : Nat := 20 * 1000000000
  memoryBudgetBytes : Nat := 30 * 1024 * 1024
  memoryLimitConfigured : Bool := false
deriving DecidableEq

structure ConfiguredStream where
  identity : StreamIdentity := .master
  name : String := ""
  mode : StreamParticipationMode := .both
  packetConfig : PacketStreamConfig := {}
deriving DecidableEq

structure CaptureConfiguration where
  replay : ReplayConfiguration := {}
  streams : List ConfiguredStream := []
deriving DecidableEq

def streamParticipates : StreamParticipationMode → CaptureConsumer → Bool
  | .disabled, _ => false
  | .recording, consumer => consumer = .recording
  | .replay, consumer => consumer = .replay
  | .both, _ => true

def streamNeedsEncoder (mode : StreamParticipationMode) (recordingActive replayActive : Bool) :
    Bool :=
  (recordingActive && streamParticipates mode .recording) ||
    (replayActive && streamParticipates mode .replay)

end ObsSyncReplay
