import ObsSyncReplay.Lib.OrderedMap

/-!
`recording/encoded-packet-buffer`: the compressed packets of one stream, kept
by source CTS under a byte capacity. A source CTS is an unsigned 64-bit
nanosecond value; the bound is a field of the packet, so that no packet of the
model lies outside the range the code can hold.
-/

namespace ObsSyncReplay

/-- One more than the greatest value of a `uint64_t`. -/
def uint64Size : Nat := 2 ^ 64

/-- `value + 1` on a `uint64_t`, which wraps at the top. -/
def uint64Succ (value : Nat) : Nat := (value + 1) % uint64Size

theorem zero_lt_uint64Size : 0 < uint64Size := by decide

structure EncodedPacket where
  sourceCts : Nat := 0
  pts : Int := 0
  dts : Int := 0
  timebaseNum : Int := 0
  timebaseDen : Int := 0
  keyframe : Bool := false
  payload : List UInt8 := []
  sourceCts_lt : sourceCts < uint64Size := by exact zero_lt_uint64Size
deriving DecidableEq

/-! Samples take their source CTS from the values of a byte. -/

instance neZeroByte : NeZero 256 := ⟨by decide⟩

theorem byte_lt_uint64Size (cts : Fin 256) : cts.val < uint64Size :=
  cts.isLt.trans (by decide)

inductive EncodedPacketBufferResult where
  | retained
  | missingTiming
  | duplicateSourceCts
  | capacity
deriving DecidableEq, Repr

structure EncodedPacketBuffer where
  capacityBytes : Nat
  bytes : Nat := 0
  peakBytes : Nat := 0
  packets : OrderedMap Nat EncodedPacket := .empty
deriving DecidableEq

namespace EncodedPacketBuffer

/-- The room left under the capacity. -/
def freeBytes (buffer : EncodedPacketBuffer) : Nat :=
  buffer.capacityBytes -
    (if buffer.bytes ≤ buffer.capacityBytes then buffer.bytes else buffer.capacityBytes)

/-- The buffer once `push` has let the packet in. -/
def retain (buffer : EncodedPacketBuffer) (packet : EncodedPacket) : EncodedPacketBuffer :=
  let bytes := buffer.bytes + packet.payload.length
  { buffer with
    bytes := bytes
    peakBytes := if bytes > buffer.peakBytes then bytes else buffer.peakBytes
    packets := buffer.packets.emplace packet.sourceCts packet }

def push (buffer : EncodedPacketBuffer) (packet : EncodedPacket) :
    EncodedPacketBufferResult × EncodedPacketBuffer :=
  if packet.timebaseNum ≤ 0 ∨ packet.timebaseDen ≤ 0 then (.missingTiming, buffer)
  else if buffer.packets.contains packet.sourceCts then (.duplicateSourceCts, buffer)
  else if packet.payload.length > buffer.freeBytes then (.capacity, buffer)
  else (.retained, buffer.retain packet)

def clear (buffer : EncodedPacketBuffer) : EncodedPacketBuffer :=
  { buffer with packets := .empty, bytes := 0 }

/-- Erases from the front while the key is below `sourceCts`, returning the
bytes of each erased packet. -/
def discardBefore (buffer : EncodedPacketBuffer) (sourceCts : Nat) : EncodedPacketBuffer :=
  let erased := buffer.packets.entries.takeWhile (fun e => e.1 < sourceCts)
  { buffer with
    bytes := erased.foldl (fun bytes e => bytes - e.2.payload.length) buffer.bytes
    packets := buffer.packets.eraseBefore sourceCts }

def contains (buffer : EncodedPacketBuffer) (sourceCts : Nat) : Bool :=
  buffer.packets.contains sourceCts

def find (buffer : EncodedPacketBuffer) (sourceCts : Nat) : Option EncodedPacket :=
  buffer.packets.find? sourceCts

def snapshot (buffer : EncodedPacketBuffer) : List EncodedPacket :=
  buffer.packets.values

def snapshotThrough (buffer : EncodedPacketBuffer) (sourceCts : Nat) : List EncodedPacket :=
  (buffer.packets.entriesThrough sourceCts).map Prod.snd

def size (buffer : EncodedPacketBuffer) : Nat := buffer.packets.size

def setCapacityBytes (buffer : EncodedPacketBuffer) (capacityBytes : Nat) :
    Bool × EncodedPacketBuffer :=
  if capacityBytes < buffer.bytes then (false, buffer)
  else (true, { buffer with capacityBytes := capacityBytes })

/-- Every packet is stored under its own source CTS. -/
def Keyed (buffer : EncodedPacketBuffer) : Prop :=
  ∀ e ∈ buffer.packets.entries, e.1 = e.2.sourceCts

theorem keyed_empty (capacityBytes : Nat) : Keyed { capacityBytes := capacityBytes } := by
  simp [Keyed]

theorem push_eq_retained {buffer buffer' : EncodedPacketBuffer} {packet : EncodedPacket}
    (h : buffer.push packet = (.retained, buffer')) :
    packet.sourceCts ∉ buffer.packets.keys ∧
      buffer'.packets = buffer.packets.emplace packet.sourceCts packet := by
  unfold push at h
  split_ifs at h with htiming hduplicate hcapacity <;>
    simp only [Prod.mk.injEq, reduceCtorEq, false_and, true_and] at h
  refine ⟨fun hmem => hduplicate (OrderedMap.contains_iff.mpr hmem), ?_⟩
  rw [← h, retain]

theorem push_of_ne_retained {buffer : EncodedPacketBuffer} {packet : EncodedPacket}
    (h : (buffer.push packet).1 ≠ .retained) : (buffer.push packet).2 = buffer := by
  unfold push at h ⊢
  split_ifs at h ⊢ with htiming hduplicate hcapacity
  · rfl
  · rfl
  · rfl
  · exact absurd rfl h

@[simp] theorem packets_discardBefore (buffer : EncodedPacketBuffer) (sourceCts : Nat) :
    (buffer.discardBefore sourceCts).packets = buffer.packets.eraseBefore sourceCts := rfl

@[simp] theorem packets_clear (buffer : EncodedPacketBuffer) :
    buffer.clear.packets = .empty := rfl

theorem setCapacityBytes_true {buffer buffer' : EncodedPacketBuffer} {capacityBytes : Nat}
    (h : buffer.setCapacityBytes capacityBytes = (true, buffer')) :
    buffer' = { buffer with capacityBytes := capacityBytes } := by
  unfold setCapacityBytes at h
  split_ifs at h
  · cases h
  · exact (Prod.mk.inj h).2.symm

theorem Keyed.of_packets {buffer buffer' : EncodedPacketBuffer} (h : buffer.Keyed)
    (hpackets : ∀ e ∈ buffer'.packets.entries, e ∈ buffer.packets.entries) :
    buffer'.Keyed :=
  fun e he => h e (hpackets e he)

theorem Keyed.discardBefore {buffer : EncodedPacketBuffer} (h : buffer.Keyed)
    (sourceCts : Nat) : (buffer.discardBefore sourceCts).Keyed :=
  h.of_packets (fun e he => by
    simp only [packets_discardBefore, OrderedMap.entries_eraseBefore, List.mem_filter] at he
    exact he.1)

theorem Keyed.push {buffer buffer' : EncodedPacketBuffer} {packet : EncodedPacket}
    (h : buffer.Keyed) (hpush : buffer.push packet = (.retained, buffer')) :
    buffer'.Keyed := by
  obtain ⟨hfresh, hpackets⟩ := push_eq_retained hpush
  intro e he
  rw [hpackets, OrderedMap.mem_emplace hfresh] at he
  rcases he with rfl | hold
  · rfl
  · exact h e hold

theorem snapshot_push {buffer buffer' : EncodedPacketBuffer} {packet : EncodedPacket}
    (hpush : buffer.push packet = (.retained, buffer')) :
    buffer'.snapshot.Perm (packet :: buffer.snapshot) := by
  obtain ⟨hfresh, hpackets⟩ := push_eq_retained hpush
  have hperm := (OrderedMap.emplace_perm packet hfresh).map Prod.snd
  simpa only [snapshot, OrderedMap.values, hpackets, List.map_cons] using hperm

/-- In a keyed buffer the source CTS of the packets, in snapshot order, are
the keys. -/
theorem Keyed.map_snapshot {buffer : EncodedPacketBuffer} (h : buffer.Keyed) :
    buffer.snapshot.map EncodedPacket.sourceCts = buffer.packets.keys := by
  simp only [snapshot, OrderedMap.values, OrderedMap.keys, List.map_map]
  exact List.map_congr_left (fun e he => (h e he).symm)

theorem Keyed.snapshot_ascending {buffer : EncodedPacketBuffer} (h : buffer.Keyed) :
    (buffer.snapshot.map EncodedPacket.sourceCts).Pairwise (· < ·) := by
  rw [h.map_snapshot]
  exact buffer.packets.keys_ascending

theorem Keyed.snapshot_filter {buffer : EncodedPacketBuffer} (h : buffer.Keyed)
    (p : Nat → Bool) :
    (buffer.packets.entries.filter (fun e => p e.1)).map Prod.snd =
      buffer.snapshot.filter (fun packet => p packet.sourceCts) := by
  simp only [snapshot, OrderedMap.values, List.filter_map]
  congr 1
  exact List.filter_congr (fun e he => by simp [h e he])

theorem Keyed.snapshot_discardBefore {buffer : EncodedPacketBuffer} (h : buffer.Keyed)
    (sourceCts : Nat) :
    (buffer.discardBefore sourceCts).snapshot =
      buffer.snapshot.filter (fun packet => sourceCts ≤ packet.sourceCts) := by
  have hfilter := h.snapshot_filter (fun key => sourceCts ≤ key)
  simpa only [snapshot, OrderedMap.values, packets_discardBefore,
    OrderedMap.entries_eraseBefore] using hfilter

theorem Keyed.snapshotThrough_eq {buffer : EncodedPacketBuffer} (h : buffer.Keyed)
    (sourceCts : Nat) :
    buffer.snapshotThrough sourceCts =
      buffer.snapshot.filter (fun packet => packet.sourceCts ≤ sourceCts) := by
  rw [snapshotThrough, OrderedMap.entriesThrough_eq_filter]
  exact h.snapshot_filter (fun key => key ≤ sourceCts)

theorem Keyed.contains_iff {buffer : EncodedPacketBuffer} (h : buffer.Keyed)
    {sourceCts : Nat} :
    buffer.contains sourceCts = true ↔
      ∃ packet ∈ buffer.snapshot, packet.sourceCts = sourceCts := by
  rw [contains, OrderedMap.contains_iff, ← h.map_snapshot, List.mem_map]

theorem Keyed.find_eq_some {buffer : EncodedPacketBuffer} (h : buffer.Keyed)
    {sourceCts : Nat} {packet : EncodedPacket} :
    buffer.find sourceCts = some packet ↔
      packet ∈ buffer.snapshot ∧ packet.sourceCts = sourceCts := by
  rw [find, OrderedMap.find?_eq_some]
  constructor
  · intro hmem
    exact ⟨List.mem_map_of_mem (f := Prod.snd) hmem, (h _ hmem).symm⟩
  · rintro ⟨hmem, rfl⟩
    obtain ⟨e, he, rfl⟩ := List.mem_map.mp hmem
    rw [← h e he]
    exact he

end EncodedPacketBuffer

end ObsSyncReplay
