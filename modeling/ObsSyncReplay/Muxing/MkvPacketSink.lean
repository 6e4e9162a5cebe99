import ObsSyncReplay.Muxing.PresentationTime
import ObsSyncReplay.Sync.CommonPacketRange
import ObsSyncReplay.Lib.Runs

/-!
`muxing/mkv-packet-writer`, the part above the writer: the sink of one recorded stream. It
holds accepted packets back until their DTS is safely below the greatest one it has seen, and
then writes them in decode order. Its calls are those of `recording/packet-sink`; wall-clock
times are left out.
-/

namespace ObsSyncReplay

def int64Min : Int := -2 ^ 63

def int64Max : Nat := 2 ^ 63 - 1

/-- The time base of the packets and the greatest DTS are kept with their defaults and flags as
in the source: a numerator of 0 and an optional value. -/
structure MkvPacketSink where
  path : String
  writer : MkvPacketWriter := {}
  result : MkvWriteResult := {}
  pending : List EncodedPacket := []
  pendingBytes : Nat := 0
  pendingCapacityBytes : Nat := 0
  muxerReorderSafetyCts : Nat := 0
  commonStartCts : Nat := 0
  packetTimebase : AVRational := ⟨0, 0⟩
  maxObservedDts : Option Int := none
  error : String := ""

namespace MkvPacketSink

/-- Keeps the first error. -/
def fail (sink : MkvPacketSink) (reason : String) : Bool × MkvPacketSink :=
  (false, { sink with error := if sink.error = "" then reason else sink.error })

end MkvPacketSink

def MkvPacketSink.open (sink : MkvPacketSink) (library : MuxLibrary) (config : PacketStreamConfig)
    (commonStartCts : Nat) : Bool × MkvPacketSink :=
  let sink := { sink with
    error := "", pending := [], pendingBytes := 0
    pendingCapacityBytes := config.muxerTailCapacityBytes
    muxerReorderSafetyCts := config.muxerReorderSafetyCts
    commonStartCts := commonStartCts
    packetTimebase := ⟨0, 0⟩, maxObservedDts := none }
  if sink.pendingCapacityBytes > 0 then
    let (opened, writer) := sink.writer.open library sink.path config
    (opened, { sink with writer := writer })
  else (false, sink)

namespace MkvPacketSink

/-- The room left under the capacity. -/
def freeBytes (sink : MkvPacketSink) : Nat :=
  sink.pendingCapacityBytes -
    (if sink.pendingBytes ≤ sink.pendingCapacityBytes then sink.pendingBytes
      else sink.pendingCapacityBytes)

/-- The sink once `Write` has let the packet in. -/
def accept (sink : MkvPacketSink) (packet : EncodedPacket) : MkvPacketSink :=
  { sink with
    maxObservedDts :=
      match sink.maxObservedDts with
      | none => some packet.dts
      | some maxObservedDts =>
          if packet.dts > maxObservedDts then some packet.dts else some maxObservedDts
    pendingBytes := sink.pendingBytes + packet.payload.length
    pending := sink.pending ++ [packet] }

def write (sink : MkvPacketSink) (packet : EncodedPacket) : Bool × MkvPacketSink :=
  if packet.payload.isEmpty ∨ packet.payload.length > sink.freeBytes then
    sink.fail "mkv-reorder-buffer-capacity"
  else if sink.packetTimebase.num = 0 then
    (true, { sink with packetTimebase := packet.timebase }.accept packet)
  else if packet.timebase ≠ sink.packetTimebase then
    sink.fail "mkv-reorder-buffer-timebase-mismatch"
  else (true, sink.accept packet)

/-- A flush takes every packet, or those up to a watermark. -/
def selects (dtsWatermark : Option Int) (packet : EncodedPacket) : Bool :=
  ∀ watermark ∈ dtsWatermark, packet.dts ≤ watermark

def flushPendingThroughDts (sink : MkvPacketSink) (library : MuxLibrary)
    (dtsWatermark : Option Int) : Bool × MkvPacketSink :=
  let selected := sink.pending.filter (selects dtsWatermark)
  let remaining := sink.pending.filter (fun packet => !selects dtsWatermark packet)
  let (written, writer) := writePackets library (sortForDecodeOrder selected) sink.writer
  (written, { sink with
    pending := remaining
    pendingBytes := (remaining.map (fun packet => packet.payload.length)).sum
    writer := writer })

/-- The watermark of `CommitThrough`; the source CTS it is given plays no part in it. -/
def committedDts (sink : MkvPacketSink) (library : MuxLibrary) : Option Int :=
  match sink.maxObservedDts with
  | none => none
  | some maxObservedDts =>
      if sink.packetTimebase.num ≤ 0 ∨ sink.packetTimebase.den ≤ 0 then none
      else
        let safetyTicks := library.rescale (min sink.muxerReorderSafetyCts int64Max : Nat)
          nanoseconds sink.packetTimebase
        if maxObservedDts ≤ int64Min + safetyTicks then none
        else some (maxObservedDts - safetyTicks)

def commitThrough (sink : MkvPacketSink) (library : MuxLibrary) (_sourceCts : Nat) :
    Bool × MkvPacketSink :=
  match sink.committedDts library with
  | none => (true, sink)
  | some watermark => sink.flushPendingThroughDts library (some watermark)

def finalize (sink : MkvPacketSink) (library : MuxLibrary) (commonEndCts : Nat) :
    Bool × MkvPacketSink :=
  match sink.flushPendingThroughDts library none with
  | (false, sink) => (false, sink)
  | (true, sink) =>
      let (result, writer) := sink.writer.finalize library
      (result.success ∧ result.firstSourceCts = sink.commonStartCts ∧
        result.lastSourceCts = commonEndCts,
        { sink with writer := writer, result := result })

def abort (sink : MkvPacketSink) : MkvPacketSink :=
  { sink with
    pending := [], pendingBytes := 0, pendingCapacityBytes := 0
    muxerReorderSafetyCts := 0
    packetTimebase := ⟨0, 0⟩, maxObservedDts := none
    writer := sink.writer.abort }

/-- The sink behind the interface of a recording session. `Abort` returns nothing, which counts
as `true`. -/
def step (library : MuxLibrary) (sink : MkvPacketSink) : SinkCall → Bool × MkvPacketSink
  | .open config commonStartCts => sink.open library config commonStartCts
  | .write packet => sink.write packet
  | .commitThrough sourceCts => sink.commitThrough library sourceCts
  | .finalize commonEndCts => sink.finalize library commonEndCts
  | .abort => (true, sink.abort)

end MkvPacketSink

end ObsSyncReplay
