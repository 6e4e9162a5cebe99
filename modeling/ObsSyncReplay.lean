import ObsSyncReplay.Capture.CaptureSources
import ObsSyncReplay.Capture.DuplicatePackets
import ObsSyncReplay.Capture.RetentionAccounts
import ObsSyncReplay.Capture.SnapshotAllStreams
import ObsSyncReplay.Capture.SnapshotStart
import ObsSyncReplay.Recording.SessionCapacity
import ObsSyncReplay.Recording.ConsumerStop
import ObsSyncReplay.Recording.SessionCadence
import ObsSyncReplay.Recording.SessionMismatch
import ObsSyncReplay.Recording.SessionReorder
import ObsSyncReplay.Recording.SessionStartTimeout
import ObsSyncReplay.Recording.SessionStop
import ObsSyncReplay.Recording.SinkProtocol
import ObsSyncReplay.Recording.SynchronizedRecordingDriver
import ObsSyncReplay.Control.ConsumerHandoff
import ObsSyncReplay.Control.DiscoveredStreams
import ObsSyncReplay.Control.EncoderGroup
import ObsSyncReplay.Control.ReplayReports
import ObsSyncReplay.Control.StreamEnumerations
import ObsSyncReplay.Control.RuntimeEpochs
import ObsSyncReplay.Plugin.PluginControls
import ObsSyncReplay.Muxing.DtsWindow
import ObsSyncReplay.Pipeline.SynchronizedFramePipeline
import ObsSyncReplay.Replay.SnapshotPresentation
import ObsSyncReplay.Sync.PacketRangeValidation
import ObsSyncReplay.Timeline.MasterFrameCoordinator
import ObsSyncReplay.Rendering.GraphicsLedger
import ObsSyncReplay.Control.ReplayProfiles
import ObsSyncReplay.Control.SceneTargets
import ObsSyncReplay.Control.EncoderTeardown
