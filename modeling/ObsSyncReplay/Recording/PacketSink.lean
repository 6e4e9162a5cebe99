import ObsSyncReplay.Recording.EncodedPacketBuffer

/-!
`recording/packet-sink`: the interface behind which a stream is written to its
file. A sink is known here only by its answers, and these may depend on
everything that was asked of either sink before, so every pattern of successes
and failures is the behaviour of some sink.
-/

namespace ObsSyncReplay

structure PacketStreamConfig where
  width : Nat := 0
  height : Nat := 0
  timebaseNum : Int := 0
  timebaseDen : Int := 0
  extraData : List UInt8 := []
  muxerTailCapacityBytes : Nat := 1 * 1024 * 1024
  muxerReorderSafetyCts : Nat := 2000000000
deriving DecidableEq

inductive RecordingStream where
  | A
  | B
deriving DecidableEq, Repr

inductive SinkCall where
  | open (config : PacketStreamConfig) (commonStartCts : Nat)
  | write (packet : EncodedPacket)
  | commitThrough (sourceCts : Nat)
  | finalize (commonEndCts : Nat)
  | abort
deriving DecidableEq

/-- One call that a sink received, with the answer it gave. `abort` has none
and is recorded as accepted. -/
structure SinkEvent where
  stream : RecordingStream
  call : SinkCall
  accepted : Bool
deriving DecidableEq

structure PacketSink where
  respond : List SinkEvent → SinkCall → Bool

/-- A pair of values, one for each recorded stream. -/
structure PerStream (α : Type) where
  a : α
  b : α
deriving DecidableEq

namespace PerStream

variable {α : Type}

def get (pair : PerStream α) : RecordingStream → α
  | .A => pair.a
  | .B => pair.b

def set (pair : PerStream α) (stream : RecordingStream) (value : α) : PerStream α :=
  match stream with
  | .A => { pair with a := value }
  | .B => { pair with b := value }

def both (value : α) : PerStream α := ⟨value, value⟩

def map {β : Type} (f : α → β) (pair : PerStream α) : PerStream β := ⟨f pair.a, f pair.b⟩

@[simp] theorem get_set_self (pair : PerStream α) (stream : RecordingStream) (value : α) :
    (pair.set stream value).get stream = value := by
  cases stream <;> rfl

theorem get_set_of_ne (pair : PerStream α) {stream other : RecordingStream} (value : α)
    (h : other ≠ stream) : (pair.set stream value).get other = pair.get other := by
  cases stream <;> cases other <;> first | rfl | exact absurd rfl h

@[simp] theorem set_set_self (pair : PerStream α) (stream : RecordingStream) (first second : α) :
    (pair.set stream first).set stream second = pair.set stream second := by
  cases stream <;> rfl

@[simp] theorem get_both (value : α) (stream : RecordingStream) :
    (both value).get stream = value := by
  cases stream <;> rfl

@[simp] theorem get_map {β : Type} (f : α → β) (pair : PerStream α) (stream : RecordingStream) :
    (pair.map f).get stream = f (pair.get stream) := by
  cases stream <;> rfl

end PerStream

/-- The packets handed to one sink, in the order of the calls. -/
def writtenPackets (calls : List SinkEvent) (stream : RecordingStream) : List EncodedPacket :=
  calls.filterMap (fun event =>
    match event.call with
    | .write packet => if event.stream = stream then some packet else none
    | _ => none)

@[simp] theorem writtenPackets_nil (stream : RecordingStream) :
    writtenPackets [] stream = [] := rfl

@[simp] theorem writtenPackets_append (first second : List SinkEvent)
    (stream : RecordingStream) :
    writtenPackets (first ++ second) stream =
      writtenPackets first stream ++ writtenPackets second stream :=
  List.filterMap_append

/-- The events of an unbroken sequence of writes to one sink. -/
def writeEvents (stream : RecordingStream) (packets : List EncodedPacket) : List SinkEvent :=
  packets.map (fun packet => ⟨stream, .write packet, true⟩)

theorem writtenPackets_writeEvents (stream other : RecordingStream)
    (packets : List EncodedPacket) :
    writtenPackets (writeEvents stream packets) other =
      if stream = other then packets else [] := by
  induction packets with
  | nil => simp [writeEvents]
  | cons packet packets ih =>
      simp only [writeEvents, writtenPackets] at ih
      simp only [writeEvents, writtenPackets, List.map_cons, List.filterMap_cons]
      by_cases h : stream = other
      · simp only [if_pos h] at ih ⊢
        rw [ih]
      · simp only [if_neg h] at ih ⊢
        exact ih

end ObsSyncReplay
