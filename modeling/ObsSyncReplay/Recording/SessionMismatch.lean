import ObsSyncReplay.Recording.SessionAgreement
import ObsSyncReplay.Recording.SessionOutcome

/-!
The end of a flush is selected twice: by `FlushStablePackets` or `CompleteDrain`,
and again by `FlushThrough` with the first end as the bound. The second selection
confirms the first when both use one cadence. A running session infers the cadence
before either of them. A drain does not: its first selection uses what the session
has, and the flush may infer a cadence from the packets that came since. Exactly
then the recording can fail for a range mismatch.
-/

namespace ObsSyncReplay

namespace SynchronizedRecordingSession

variable {session session' : SynchronizedRecordingSession}
  {accepted : RecordingStream → List EncodedPacket}

section Drain

variable {startCts : Nat} {log : AscendingLog Nat}

end Drain

variable {config : SynchronizedRecordingConfig} {streamConfig : PerStream PacketStreamConfig}
  {sink : PerStream (Option PacketSink)} {past : List SessionTransition}

end SynchronizedRecordingSession

end ObsSyncReplay
