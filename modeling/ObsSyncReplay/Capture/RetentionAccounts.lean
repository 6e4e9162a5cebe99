import ObsSyncReplay.Capture.DuplicatePackets
import ObsSyncReplay.Capture.EvictionCut

/-!
The books of a capture session. The counters of the bytes are those of the packets that are
retained, nothing is subtracted that they do not have, and of the packets that have ever
been inserted none is lost: each is retained, has been evicted and counted, or was cleared
with the retention.
-/

namespace ObsSyncReplay

/-- The packets that the streams retain. -/
def retainedPackets (streams : List StreamState) : List CapturedEncodedPacket :=
  streams.flatMap (fun stream => stream.packets.values)

def payloadBytes (packets : List CapturedEncodedPacket) : Nat := (packets.map packetBytes).sum

@[simp] theorem payloadBytes_nil : payloadBytes [] = 0 := rfl

@[simp] theorem payloadBytes_append (first second : List CapturedEncodedPacket) :
    payloadBytes (first ++ second) = payloadBytes first + payloadBytes second := by
  simp [payloadBytes]

theorem payloadBytes_perm {packets packets' : List CapturedEncodedPacket}
    (h : packets.Perm packets') : payloadBytes packets = payloadBytes packets' :=
  (h.map packetBytes).sum_eq

theorem entriesBytes_eq (entries : List (Nat × CapturedEncodedPacket)) :
    entriesBytes entries = payloadBytes (entries.map Prod.snd) := by
  simp [entriesBytes, payloadBytes, Function.comp_def]

theorem totalBytes_eq (streams : List StreamState) :
    totalBytes streams = payloadBytes (retainedPackets streams) := by
  induction streams with
  | nil => rfl
  | cons stream rest ih =>
      have hhead : totalBytes (stream :: rest) =
          entriesBytes stream.packets.entries + totalBytes rest := by simp [totalBytes]
      rw [hhead, ih, entriesBytes_eq]
      simp [retainedPackets, OrderedMap.values]

/-- As `EraseFront` takes these packets off the front, the counter has the bytes of each. -/
def StreamState.ErasesExactly (stream : StreamState)
    (p : Nat × CapturedEncodedPacket → Bool) : Prop :=
  ∀ front e rest, stream.packets.entries.takeWhile p = front ++ e :: rest →
    packetBytes e.2 ≤ front.foldl (fun bytes e => bytes - packetBytes e.2) stream.retainedBytes

/-- So it does in every round of the first loop of `EvictToCapacity`. -/
def RoundsExact (capacityBytes : Nat) : Nat → List StreamState → Prop
  | 0, _ => True
  | fuel + 1, streams =>
      retainedBytes streams ≤ capacityBytes ∨ ∀ oldest ∈ oldestCts streams,
        (∀ stream ∈ streams, stream.ErasesExactly (fun e => e.1 ≤ oldest)) ∧
          RoundsExact capacityBytes fuel (eraseFronts (fun e => e.1 ≤ oldest) streams 0).1

/-- No subtraction of `EvictToCapacity` falls below zero. -/
def EvictsExactly (streams : List StreamState) (capacityBytes : Nat) : Prop :=
  RoundsExact capacityBytes (packetCount streams) streams ∧
    ∀ stream ∈ (evictOldest capacityBytes (packetCount streams) streams 0).1,
      stream.ErasesExactly (fun e => !e.2.packet.keyframe)

theorem StreamState.Counted.erasesExactly {stream : StreamState} (h : stream.Counted)
    (p : Nat × CapturedEncodedPacket → Bool) : stream.ErasesExactly p := by
  intro front e rest hfront
  have hcounted : stream.retainedBytes = entriesBytes stream.packets.entries := h
  have hsplit := congrArg entriesBytes
    (List.takeWhile_append_dropWhile (p := p) (l := stream.packets.entries))
  rw [hfront, entriesBytes_append, entriesBytes_append, entriesBytes_cons] at hsplit
  rw [foldl_sub_packetBytes]
  omega

theorem roundsExact_of_counted {streams : List StreamState} {capacityBytes fuel : Nat}
    (h : ∀ stream ∈ streams, stream.Counted) : RoundsExact capacityBytes fuel streams := by
  induction fuel generalizing streams with
  | zero => trivial
  | succ fuel ih =>
      refine Or.inr (fun oldest _ => ⟨fun stream hstream => ?_, ?_⟩)
      · exact (h stream hstream).erasesExactly _
      · exact ih (counted_eraseFronts h 0)

theorem counted_evictOldest {streams : List StreamState} {capacityBytes fuel evicted : Nat}
    (h : ∀ stream ∈ streams, stream.Counted) :
    ∀ stream ∈ (evictOldest capacityBytes fuel streams evicted).1, stream.Counted :=
  evictOldest_forall (fun _ p hcounted => hcounted.eraseFrontWhile p) h

theorem evictsExactly_of_counted {streams : List StreamState}
    (h : ∀ stream ∈ streams, stream.Counted) (capacityBytes : Nat) :
    EvictsExactly streams capacityBytes :=
  ⟨roundsExact_of_counted h, fun stream hstream =>
    (counted_evictOldest h stream hstream).erasesExactly _⟩

section Eviction

variable {streams : List StreamState} {p : Nat × CapturedEncodedPacket → Bool}

/-- The packets at the front of the streams. -/
def frontPackets (p : Nat × CapturedEncodedPacket → Bool) (streams : List StreamState) :
    List CapturedEncodedPacket :=
  streams.flatMap (fun stream => (stream.packets.entries.takeWhile p).map Prod.snd)

theorem retainedPackets_eraseFronts (streams : List StreamState) (evicted : Nat) :
    (retainedPackets (eraseFronts p streams evicted).1 ++ frontPackets p streams).Perm
      (retainedPackets streams) := by
  unfold retainedPackets frontPackets eraseFronts
  dsimp only
  rw [List.flatMap_map]
  apply (List.flatMap_append_perm _ _ _).trans
  apply List.Perm.flatMap_left
  intro stream _
  have hsplit := congrArg (List.map Prod.snd)
    (List.takeWhile_append_dropWhile (p := p) (l := stream.packets.entries))
  rw [List.map_append] at hsplit
  exact List.perm_append_comm.trans (.of_eq hsplit)

theorem eraseFronts_count (streams : List StreamState) (evicted : Nat) :
    (eraseFronts p streams evicted).2 = evicted + (frontPackets p streams).length := by
  unfold eraseFronts frontPackets
  simp [List.length_flatMap]

theorem keyframe_of_eraseFronts (streams : List StreamState) (evicted : Nat) :
    ∀ stream ∈ (eraseFronts (fun e => !e.2.packet.keyframe) streams evicted).1,
      ∀ e ∈ stream.packets.first?, e.2.packet.keyframe = true := by
  intro stream hstream e he
  obtain ⟨before, -, rfl⟩ := List.mem_map.mp hstream
  have hhead := List.head?_dropWhile_not
    (fun e : Nat × CapturedEncodedPacket => !e.2.packet.keyframe) before.packets.entries
  rw [show (before.packets.entries.dropWhile _).head? = some e from he] at hhead
  simpa using hhead

/-- What an eviction leaves has right counters, fits, and begins with keyframes; the rest is
counted. -/
structure EvictionBooks (streams : List StreamState) (capacityBytes evicted : Nat)
    (result : List StreamState × Nat) : Prop where
  counted : ∀ stream ∈ result.1, stream.Counted
  fits : retainedBytes result.1 ≤ capacityBytes
  keyframes : ∀ stream ∈ result.1, ∀ e ∈ stream.packets.first?, e.2.packet.keyframe = true
  conserved : ∃ gone : List CapturedEncodedPacket, result.2 = evicted + gone.length ∧
    (retainedPackets result.1 ++ gone).Perm (retainedPackets streams)

theorem evictToCapacity_books (h : ∀ stream ∈ streams, stream.Counted)
    (capacityBytes evicted : Nat) :
    EvictionBooks streams capacityBytes evicted
      (evictToCapacity streams capacityBytes evicted) := by
  obtain ⟨cut, hcut, hloop⟩ := evictOldest_eq_cut capacityBytes evicted h le_rfl
  have hresult := evictToCapacity_eq streams capacityBytes evicted
  rw [hloop] at hresult
  have hfits := totalBytes_eraseFronts_upTo hcut evicted
  have hcut_counted := counted_eraseFronts (p := upTo cut) h evicted
  rw [hresult]
  generalize hleft : eraseFronts (upTo cut) streams evicted = left at *
  have hcapacity := retainedPackets_eraseFronts (p := upTo cut) streams evicted
  have hcount := eraseFronts_count (p := upTo cut) streams evicted
  rw [hleft] at hcapacity hcount
  have htrim := retainedPackets_eraseFronts (p := fun e => !e.2.packet.keyframe) left.1 left.2
  constructor
  · exact counted_eraseFronts hcut_counted left.2
  · rw [retainedBytes_of_counted (counted_eraseFronts hcut_counted left.2), totalBytes_eq]
    have hbytes := payloadBytes_perm htrim
    rw [payloadBytes_append, ← totalBytes_eq left.1] at hbytes
    omega
  · exact keyframe_of_eraseFronts left.1 left.2
  · refine ⟨frontPackets (fun e => !e.2.packet.keyframe) left.1 ++ frontPackets (upTo cut) streams,
      ?_, ?_⟩
    · rw [eraseFronts_count, hcount, List.length_append]
      omega
    · rw [← List.append_assoc]
      exact (htrim.append_right _).trans hcapacity

end Eviction

section Modify

variable {streams : List StreamState} {f : StreamState → StreamState} {index : Nat}

theorem retainedPackets_modify_same (hf : ∀ stream, (f stream).packets = stream.packets) :
    retainedPackets (streams.modify index f) = retainedPackets streams := by
  unfold retainedPackets
  induction streams generalizing index with
  | nil => simp
  | cons stream rest ih =>
      cases index with
      | zero => simp [hf]
      | succ index => simp [ih]

theorem retainedPackets_modify_add {stream : StreamState} {captured : CapturedEncodedPacket}
    (hstream : streams[index]? = some stream)
    (hf : (f stream).packets.values.Perm (captured :: stream.packets.values)) :
    (retainedPackets (streams.modify index f)).Perm (captured :: retainedPackets streams) := by
  unfold retainedPackets
  induction streams generalizing index with
  | nil => simp at hstream
  | cons first rest ih =>
      cases index with
      | zero =>
          obtain rfl : first = stream := by simpa using hstream
          simpa using hf.append_right _
      | succ index =>
          have hrest := ih (by simpa using hstream)
          rw [List.modify_succ_cons, List.flatMap_cons, List.flatMap_cons]
          exact (hrest.append_left _).trans List.perm_middle

end Modify

theorem StreamState.Counted.configure {stream : StreamState} (h : stream.Counted)
    (packet : EncodedPacket) (codecExtraData : List UInt8) :
    (stream.configure packet codecExtraData).Counted := h

section Retain

variable {stream : StreamState} {captured : CapturedEncodedPacket}
  (hnew : captured.packet.sourceCts ∉ stream.packets.keys)
include hnew

theorem StreamState.values_retain :
    (stream.retain captured).packets.values.Perm (captured :: stream.packets.values) :=
  (OrderedMap.emplace_perm captured hnew).map Prod.snd

theorem StreamState.Counted.retain (h : stream.Counted) : (stream.retain captured).Counted := by
  have hcounted : stream.retainedBytes = entriesBytes stream.packets.entries := h
  have hbytes := payloadBytes_perm (values_retain hnew)
  unfold Counted
  rw [entriesBytes_eq]
  apply Eq.trans _ hbytes.symm
  rw [← List.singleton_append, payloadBytes_append, show payloadBytes stream.packets.values =
    stream.retainedBytes from (entriesBytes_eq _).symm.trans hcounted.symm]
  simp [StreamState.retain, payloadBytes, Nat.add_comm]

end Retain

namespace SynchronizedCaptureSession

variable {session : SynchronizedCaptureSession} {past : List Transition}

/-- The streams once one of them has taken over the configuration of a packet. -/
def configured (session : SynchronizedCaptureSession) (captured : CapturedEncodedPacket) :
    List StreamState :=
  session.streams.modify captured.streamId.toNat
    (fun stream => stream.configure captured.packet captured.codecExtraData)

/-- The session with a packet inserted into its ring, before the eviction. -/
def insert (session : SynchronizedCaptureSession) (captured : CapturedEncodedPacket) :
    SynchronizedCaptureSession :=
  let retainedBytes := session.retainedBytes + packetBytes captured
  { session with
    streams := (session.configured captured).modify captured.streamId.toNat
      (fun stream => stream.retain captured)
    retainedBytes := retainedBytes
    peakRetainedBytes := max session.peakRetainedBytes retainedBytes }

/-- The session as an operation finds it when it calls `EvictToCapacity`. -/
def evicting (session : SynchronizedCaptureSession) : Call → Option SynchronizedCaptureSession
  | .ingest streamId packet codecExtraData =>
      if (session.ingest streamId packet codecExtraData).1.isSome ∧
          session.replayRetentionEnabled then
        some (session.insert ⟨streamId, packet, codecExtraData⟩)
      else none
  | .setRingCapacityBytes capacityBytes =>
      if session.replayRetentionEnabled then
        some { session with ringCapacityBytes := capacityBytes }
      else none
  | _ => none

theorem accept_of_retention (h : session.replayRetentionEnabled = true)
    (captured : CapturedEncodedPacket) :
    session.accept captured = (session.insert captured).evict := by
  unfold accept
  rw [if_pos h]
  rfl

theorem accept_of_no_retention (h : session.replayRetentionEnabled = false)
    (captured : CapturedEncodedPacket) :
    session.accept captured = { session with streams := session.configured captured } := by
  unfold accept
  rw [if_neg (by simp [h])]
  rfl

/-- A packet is refused, which only counts, or it is accepted as a new one of its stream. -/
theorem ingest_cases (session : SynchronizedCaptureSession) (streamId : CaptureStreamId)
    (packet : EncodedPacket) (codecExtraData : List UInt8) :
    (∃ rejected duplicates, session.ingest streamId packet codecExtraData =
      (none, { session with
        rejectedPacketCount := rejected, duplicatePacketCount := duplicates })) ∨
    (session.streams[streamId.toNat]? = some (streamAt session.streams streamId) ∧
      packet.sourceCts ∉ (streamAt session.streams streamId).packets.keys ∧
      session.ingest streamId packet codecExtraData =
        (some ⟨session.consumers, ⟨streamId, packet, codecExtraData⟩⟩,
          session.accept ⟨streamId, packet, codecExtraData⟩)) := by
  unfold ingest
  split_ifs with hrefused hheld
  · exact Or.inl ⟨_, _, rfl⟩
  · exact Or.inl ⟨_, _, rfl⟩
  · push Not at hrefused
    refine Or.inr ⟨?_, ?_, rfl⟩
    · have hlt : streamId.toNat < session.streams.length := hrefused.2.1
      simp [streamAt, List.getD_eq_getElem?_getD, hlt]
    · rwa [OrderedMap.contains_iff] at hheld

/-- The packet that a step inserts into the ring. -/
def insertedPackets (t : Transition) : List CapturedEncodedPacket :=
  match t.output.fanOut with
  | some fanOut => if t.before.replayRetentionEnabled then [fanOut.captured] else []
  | none => []

/-- The packets that a step clears as it switches the retention off. -/
def clearedPackets (t : Transition) : List CapturedEncodedPacket :=
  match t.input with
  | .setReplayRetentionEnabled false => retainedPackets t.before.streams
  | _ => []

/-- The counters of the session are right, and every ring begins with a keyframe. -/
structure Balanced (session : SynchronizedCaptureSession) : Prop where
  counted : ∀ stream ∈ session.streams, stream.Counted
  total : session.retainedBytes = ObsSyncReplay.retainedBytes session.streams
  bounded : session.retainedBytes ≤ session.ringCapacityBytes
  keyframes : ∀ stream ∈ session.streams, ∀ e ∈ stream.packets.first?, e.2.packet.keyframe = true
  disabled : session.replayRetentionEnabled = false → session.retainedBytes = 0

/-- The greatest values that the counters have had. -/
def PeaksWithin (session : SynchronizedCaptureSession) (bytes : Nat) : Prop :=
  session.peakRetainedBytes ≤ bytes ∧
    ∀ stream ∈ session.streams, stream.peakRetainedBytes ≤ bytes

/-- What a step leaves of the packets, and of those that it has inserted. -/
structure Books (session : SynchronizedCaptureSession)
    (inserted cleared : List CapturedEncodedPacket) (session' : SynchronizedCaptureSession) :
    Prop where
  balanced : session'.Balanced
  conserved : ∃ gone : List CapturedEncodedPacket,
    session'.evictedPacketCount = session.evictedPacketCount + gone.length ∧
      (retainedPackets session'.streams ++ gone ++ cleared).Perm
        (retainedPackets session.streams ++ inserted)
  peaks : ∀ bytes, session.PeaksWithin bytes →
    payloadBytes (retainedPackets session.streams ++ inserted) ≤ bytes →
      session'.PeaksWithin bytes

theorem Balanced.payloadBytes_eq (h : session.Balanced) :
    payloadBytes (retainedPackets session.streams) = session.retainedBytes := by
  rw [h.total, retainedBytes_of_counted h.counted, totalBytes_eq]

/-- A step that leaves the rings alone. -/
theorem Balanced.books_of_same {session' : SynchronizedCaptureSession} (h : session.Balanced)
    (hstreams : session'.streams = session.streams)
    (hbytes : session'.retainedBytes = session.retainedBytes)
    (hcapacity : session'.ringCapacityBytes = session.ringCapacityBytes)
    (hretention : session'.replayRetentionEnabled = false → session.replayRetentionEnabled = false)
    (hevicted : session'.evictedPacketCount = session.evictedPacketCount)
    (hpeak : session'.peakRetainedBytes = session.peakRetainedBytes) :
    Books session [] [] session' := by
  constructor
  · constructor
    · rw [hstreams]
      exact h.counted
    · rw [hbytes, hstreams]
      exact h.total
    · rw [hbytes, hcapacity]
      exact h.bounded
    · rw [hstreams]
      exact h.keyframes
    · intro hoff
      rw [hbytes]
      exact h.disabled (hretention hoff)
  · refine ⟨[], hevicted, ?_⟩
    rw [hstreams, List.append_nil]
  · intro bytes hwithin _
    unfold PeaksWithin
    rw [hpeak, hstreams]
    exact hwithin

theorem peak_evictToCapacity {streams : List StreamState} {bytes : Nat}
    (h : ∀ stream ∈ streams, stream.peakRetainedBytes ≤ bytes) (capacityBytes evicted : Nat) :
    ∀ stream ∈ (evictToCapacity streams capacityBytes evicted).1,
      stream.peakRetainedBytes ≤ bytes :=
  evictToCapacity_forall (fun _ _ hpeak => hpeak) h

theorem evict_books (hcounted : ∀ stream ∈ session.streams, stream.Counted)
    (hretention : session.replayRetentionEnabled = true) : Books session [] [] session.evict := by
  have hbooks := evictToCapacity_books hcounted session.ringCapacityBytes
    session.evictedPacketCount
  constructor
  · constructor
    · exact hbooks.counted
    · rfl
    · exact hbooks.fits
    · exact hbooks.keyframes
    · intro hoff
      exact absurd (hoff.symm.trans hretention) Bool.false_ne_true
  · obtain ⟨gone, hcount, hconserved⟩ := hbooks.conserved
    refine ⟨gone, hcount, ?_⟩
    rw [List.append_nil, List.append_nil]
    exact hconserved
  · exact fun bytes hwithin _ => ⟨hwithin.1, peak_evictToCapacity hwithin.2 _ _⟩

section Insert

variable {captured : CapturedEncodedPacket} {stream : StreamState}
  (hstream : session.streams[captured.streamId.toNat]? = some stream)
  (hnew : captured.packet.sourceCts ∉ stream.packets.keys)
include hstream

theorem getElem?_configured :
    (session.configured captured)[captured.streamId.toNat]? =
      some (stream.configure captured.packet captured.codecExtraData) := by
  unfold configured
  rw [List.getElem?_modify, hstream]
  simp

include hnew

theorem counted_insert (h : ∀ stream ∈ session.streams, stream.Counted) :
    ∀ stream ∈ (session.insert captured).streams, stream.Counted := by
  have hconfigured : ∀ stream ∈ session.configured captured, stream.Counted :=
    forall_modify (fun _ hcounted => hcounted.configure _ _) h
  apply forall_modify_at hconfigured
  intro configured hmem
  rw [getElem?_configured hstream] at hmem
  obtain rfl := Option.some.inj hmem
  apply StreamState.Counted.retain hnew
  exact h stream (List.mem_of_getElem? hstream)

theorem retainedPackets_insert :
    (retainedPackets (session.insert captured).streams).Perm
      (captured :: retainedPackets session.streams) := by
  have hsame : retainedPackets (session.configured captured) = retainedPackets session.streams :=
    retainedPackets_modify_same (fun _ => rfl)
  rw [← hsame]
  apply retainedPackets_modify_add (getElem?_configured hstream)
  exact StreamState.values_retain hnew

omit hnew in
theorem Balanced.peaks_insert (h : session.Balanced) {bytes : Nat}
    (hwithin : session.PeaksWithin bytes)
    (hfits : payloadBytes (retainedPackets session.streams ++ [captured]) ≤ bytes) :
    (session.insert captured).PeaksWithin bytes := by
  have hbytes : session.retainedBytes + packetBytes captured ≤ bytes := by
    rw [payloadBytes_append, h.payloadBytes_eq] at hfits
    simpa [payloadBytes] using hfits
  refine ⟨max_le hwithin.1 hbytes, ?_⟩
  have hconfigured : ∀ stream ∈ session.configured captured, stream.peakRetainedBytes ≤ bytes :=
    forall_modify (fun _ hpeak => hpeak) hwithin.2
  apply forall_modify_at hconfigured
  intro configured hmem
  rw [getElem?_configured hstream] at hmem
  obtain rfl := Option.some.inj hmem
  have hlisted := List.mem_of_getElem? hstream
  have hstream_le : stream.retainedBytes ≤ session.retainedBytes := by
    rw [h.total]
    exact List.single_le_sum (by simp) _ (List.mem_map_of_mem hlisted)
  exact max_le (hwithin.2 stream hlisted) ((Nat.add_le_add_right hstream_le _).trans hbytes)

theorem Balanced.books_insert (h : session.Balanced)
    (hretention : session.replayRetentionEnabled = true) :
    Books session [captured] [] (session.insert captured).evict := by
  have hcounted := counted_insert hstream hnew h.counted
  have hinserted := retainedPackets_insert hstream hnew
  have hevicted := evict_books hcounted hretention
  constructor
  · exact hevicted.balanced
  · obtain ⟨gone, hcount, hconserved⟩ := hevicted.conserved
    refine ⟨gone, hcount, ?_⟩
    rw [List.append_nil] at hconserved ⊢
    rw [List.append_nil] at hconserved
    exact (hconserved.trans hinserted).trans (List.perm_append_singleton _ _).symm
  · intro bytes hwithin hfits
    apply hevicted.peaks bytes (h.peaks_insert hstream hwithin hfits)
    rw [List.append_nil, payloadBytes_perm hinserted,
      payloadBytes_perm (List.perm_append_singleton _ _).symm]
    exact hfits

end Insert

theorem Balanced.books_registerStream (h : session.Balanced) (streamId : CaptureStreamId)
    (name : String) (config : PacketStreamConfig) :
    Books session [] [] (session.registerStream streamId name config).2 := by
  unfold registerStream
  split_ifs
  · exact h.books_of_same rfl rfl rfl id rfl rfl
  · exact h.books_of_same rfl rfl rfl id rfl rfl
  · exact h.books_of_same rfl rfl rfl id rfl rfl
  · constructor
    · constructor
      · rw [List.forall_mem_append, List.forall_mem_singleton]
        exact ⟨h.counted, rfl⟩
      · rw [h.total]
        simp [ObsSyncReplay.retainedBytes]
      · exact h.bounded
      · rw [List.forall_mem_append, List.forall_mem_singleton]
        exact ⟨h.keyframes, by simp [OrderedMap.first?]⟩
      · exact h.disabled
    · exact ⟨[], rfl, by simp [retainedPackets]⟩
    · intro bytes hwithin _
      refine ⟨hwithin.1, ?_⟩
      rw [List.forall_mem_append, List.forall_mem_singleton]
      exact ⟨hwithin.2, Nat.zero_le _⟩

theorem Balanced.books_setRingCapacityBytes (h : session.Balanced) (capacityBytes : Nat) :
    Books session [] [] (session.setRingCapacityBytes capacityBytes) := by
  unfold setRingCapacityBytes
  dsimp only
  split_ifs with hretention
  · have hevicted : Books { session with ringCapacityBytes := capacityBytes } [] []
        (evict { session with ringCapacityBytes := capacityBytes }) :=
      evict_books h.counted hretention
    exact ⟨hevicted.balanced, hevicted.conserved, hevicted.peaks⟩
  · have hempty := h.disabled (by simpa using hretention)
    constructor
    · exact ⟨h.counted, h.total, hempty.trans_le (Nat.zero_le _), h.keyframes, h.disabled⟩
    · exact ⟨[], rfl, by simp⟩
    · exact fun bytes hwithin _ => hwithin

theorem Balanced.books_setReplayRetentionEnabled (h : session.Balanced) (enabled : Bool) :
    Books session [] (if enabled then [] else retainedPackets session.streams)
      (session.setReplayRetentionEnabled enabled) := by
  cases enabled with
  | true => exact h.books_of_same rfl rfl rfl (fun hoff => by cases hoff) rfl rfl
  | false =>
      have hcleared : ∀ stream ∈ session.streams.map StreamState.clear,
          stream.packets = .empty ∧ stream.retainedBytes = 0 := by
        intro stream hstream
        obtain ⟨before, -, rfl⟩ := List.mem_map.mp hstream
        exact ⟨rfl, rfl⟩
      constructor
      · constructor
        · intro stream hstream
          obtain ⟨hpackets, hbytes⟩ := hcleared stream hstream
          rw [StreamState.Counted, hpackets, hbytes]
          rfl
        · symm
          apply List.sum_eq_zero
          intro bytes hbytes
          obtain ⟨stream, hstream, rfl⟩ := List.mem_map.mp hbytes
          exact (hcleared stream hstream).2
        · exact Nat.zero_le _
        · intro stream hstream e he
          rw [(hcleared stream hstream).1] at he
          cases he
        · exact fun _ => rfl
      · refine ⟨[], rfl, ?_⟩
        have hempty : retainedPackets (session.setReplayRetentionEnabled false).streams = [] := by
          apply List.flatMap_eq_nil_iff.mpr
          intro stream hstream
          rw [(hcleared stream hstream).1]
          rfl
        rw [hempty]
        simp
      · intro bytes hwithin _
        refine ⟨hwithin.1, fun stream hstream => ?_⟩
        obtain ⟨before, hbefore, rfl⟩ := List.mem_map.mp hstream
        exact hwithin.2 before hbefore

/-- Without retention a packet only configures its stream. -/
theorem Balanced.books_configured (h : session.Balanced) (captured : CapturedEncodedPacket) :
    Books session [] [] { session with streams := session.configured captured } := by
  have hsame : retainedPackets (session.configured captured) = retainedPackets session.streams :=
    retainedPackets_modify_same (fun _ => rfl)
  have hcounted : ∀ stream ∈ session.configured captured, stream.Counted :=
    forall_modify (fun _ hcounted => hcounted.configure _ _) h.counted
  constructor
  · constructor
    · exact hcounted
    · rw [retainedBytes_of_counted hcounted, totalBytes_eq, hsame, h.payloadBytes_eq]
    · exact h.bounded
    · exact forall_modify (fun _ hkeyframe => hkeyframe) h.keyframes
    · exact h.disabled
  · exact ⟨[], rfl, by rw [hsame, List.append_nil]⟩
  · exact fun bytes hwithin _ => ⟨hwithin.1, forall_modify (fun _ hpeak => hpeak) hwithin.2⟩

theorem Balanced.books_ingest (h : session.Balanced) (streamId : CaptureStreamId)
    (packet : EncodedPacket) (codecExtraData : List UInt8) :
    Books session
      (insertedPackets (Runs.transition step session (.ingest streamId packet codecExtraData))) []
      (session.ingest streamId packet codecExtraData).2 := by
  rcases session.ingest_cases streamId packet codecExtraData with
    ⟨rejected, duplicates, hrefused⟩ | ⟨hstream, hnew, haccepted⟩
  · have hinserted : insertedPackets (Runs.transition step session
        (.ingest streamId packet codecExtraData)) = [] := by
      simp [insertedPackets, Runs.transition, step, hrefused]
    rw [hinserted, hrefused]
    exact h.books_of_same rfl rfl rfl id rfl rfl
  · have hinserted : insertedPackets (Runs.transition step session
        (.ingest streamId packet codecExtraData)) =
          if session.replayRetentionEnabled then [⟨streamId, packet, codecExtraData⟩] else [] := by
      simp [insertedPackets, Runs.transition, step, haccepted]
    rw [hinserted, haccepted]
    dsimp only
    split_ifs with hretention
    · rw [accept_of_retention hretention]
      exact h.books_insert hstream hnew hretention
    · rw [accept_of_no_retention (by simpa using hretention)]
      exact h.books_configured _

theorem Balanced.books_step (h : session.Balanced) (call : Call) :
    Books session (insertedPackets (Runs.transition step session call))
      (clearedPackets (Runs.transition step session call)) (session.step call).2 := by
  cases call with
  | registerStream streamId name config => exact h.books_registerStream streamId name config
  | subscribe consumer =>
      obtain ⟨consumers, hconsumers⟩ := subscribe_consumers session consumer
      rw [show (session.step (.subscribe consumer)).2 = _ from hconsumers]
      exact h.books_of_same rfl rfl rfl id rfl rfl
  | unsubscribe consumer =>
      obtain ⟨consumers, hconsumers⟩ := unsubscribe_consumers session consumer
      rw [show (session.step (.unsubscribe consumer)).2 = _ from hconsumers]
      exact h.books_of_same rfl rfl rfl id rfl rfl
  | start =>
      simp only [SynchronizedCaptureSession.step, start]
      split_ifs
      · exact h.books_of_same rfl rfl rfl id rfl rfl
      · exact h.books_of_same rfl rfl rfl id rfl rfl
  | ingest streamId packet codecExtraData => exact h.books_ingest streamId packet codecExtraData
  | setRingCapacityBytes capacityBytes => exact h.books_setRingCapacityBytes capacityBytes
  | setReplayRetentionEnabled enabled =>
      have hbooks := h.books_setReplayRetentionEnabled enabled
      cases enabled with
      | true => exact hbooks
      | false => exact hbooks
  | stop => exact h.books_of_same rfl rfl rfl id rfl rfl

/-- What an operation evicts from has right counters. -/
theorem Balanced.evicting (h : session.Balanced) {call : Call} {before : SynchronizedCaptureSession}
    (hbefore : before ∈ session.evicting call) :
    (session.step call).2 = before.evict ∧
      EvictsExactly before.streams before.ringCapacityBytes := by
  unfold SynchronizedCaptureSession.evicting at hbefore
  split at hbefore
  · rename_i streamId packet codecExtraData
    split_ifs at hbefore with hinserts
    · obtain rfl := Option.some.inj hbefore
      rcases session.ingest_cases streamId packet codecExtraData with
        ⟨rejected, duplicates, hrefused⟩ | ⟨hstream, hnew, haccepted⟩
      · simp [hrefused] at hinserts
      · refine ⟨?_, evictsExactly_of_counted (counted_insert hstream hnew h.counted) _⟩
        rw [← accept_of_retention hinserts.2]
        exact congrArg Prod.snd haccepted
    · cases hbefore
  · split_ifs at hbefore with hretention
    · obtain rfl := Option.some.inj hbefore
      refine ⟨?_, evictsExactly_of_counted h.counted _⟩
      simp only [step, setRingCapacityBytes]
      exact if_pos hretention
    · cases hbefore
  · cases hbefore

/-- What holds of the books after a run. The evicted packets are as many as are counted. -/
structure Accounted (past : List Transition) (session : SynchronizedCaptureSession) : Prop where
  counted : ∀ stream ∈ session.streams,
    stream.retainedBytes = payloadBytes stream.packets.values
  total : session.retainedBytes = (session.streams.map StreamState.retainedBytes).sum
  bounded : session.retainedBytes ≤ session.ringCapacityBytes
  keyframes : ∀ stream ∈ session.streams, ∀ e ∈ stream.packets.first?, e.2.packet.keyframe = true
  exact : ∀ t ∈ past, ∀ before ∈ t.before.evicting t.input,
    t.after = before.evict ∧ EvictsExactly before.streams before.ringCapacityBytes
  peaks : session.PeaksWithin (payloadBytes (past.flatMap insertedPackets))
  conserved : ∃ evicted : List CapturedEncodedPacket,
    evicted.length = session.evictedPacketCount ∧
      (retainedPackets session.streams ++ evicted ++ past.flatMap clearedPackets).Perm
        (past.flatMap insertedPackets)

theorem balanced_create (ringCapacityBytes : Nat) : (create ringCapacityBytes).Balanced where
  counted stream hstream := by cases hstream
  total := rfl
  bounded := Nat.zero_le _
  keyframes stream hstream := by cases hstream
  disabled _ := rfl

theorem balanced_run {ringCapacityBytes : Nat}
    (hrun : Runs.Run step (create ringCapacityBytes) past session) : session.Balanced :=
  hrun.stateInvariant (balanced_create ringCapacityBytes)
    (fun _ call h => (h.books_step call).balanced)

theorem Accounted.step (h : Accounted past session) (hbalanced : session.Balanced) (call : Call) :
    Accounted (past ++ [Runs.transition SynchronizedCaptureSession.step session call])
      (session.step call).2 := by
  have hbooks := hbalanced.books_step call
  obtain ⟨evicted, hlength, hconserved⟩ := h.conserved
  obtain ⟨gone, hcount, hkept⟩ := hbooks.conserved
  constructor
  · intro stream hstream
    rw [hbooks.balanced.counted stream hstream, entriesBytes_eq]
    rfl
  · exact hbooks.balanced.total
  · exact hbooks.balanced.bounded
  · exact hbooks.balanced.keyframes
  · rw [List.forall_mem_append, List.forall_mem_singleton]
    exact ⟨h.exact, fun before hbefore => hbalanced.evicting hbefore⟩
  · rw [List.flatMap_append, List.flatMap_singleton]
    apply hbooks.peaks
    · have hpeaks := h.peaks
      exact ⟨hpeaks.1.trans (by simp), fun stream hstream =>
        (hpeaks.2 stream hstream).trans (by simp)⟩
    · have hbytes := payloadBytes_perm hconserved
      simp only [payloadBytes_append] at hbytes ⊢
      omega
  · refine ⟨evicted ++ gone, ?_, ?_⟩
    · rw [List.length_append, hlength, hcount]
    · rw [List.flatMap_append, List.flatMap_singleton, List.flatMap_append, List.flatMap_singleton]
      apply List.perm_iff_count.mpr
      intro captured
      have hbefore := hconserved.count_eq captured
      have hstep := hkept.count_eq captured
      simp only [List.count_append] at hbefore hstep ⊢
      omega

/-- After every run the byte counters are those of the packets that are retained, the ring
fits its capacity and begins with keyframes, no subtraction has been short of bytes, and
every packet ever inserted is retained, evicted and counted, or cleared. -/
theorem retention_accounts {ringCapacityBytes : Nat}
    (hrun : Runs.Run step (create ringCapacityBytes) past session) : Accounted past session := by
  apply hrun.invariant
  · constructor
    · intro stream hstream
      cases hstream
    · rfl
    · exact Nat.zero_le _
    · intro stream hstream
      cases hstream
    · simp
    · exact ⟨le_rfl, fun stream hstream => by cases hstream⟩
    · exact ⟨[], rfl, by simp [retainedPackets, create]⟩
  · exact fun past session call hprior h => h.step (balanced_run hprior) call

/-- One stream in a ring of two bytes: its third packet evicts the first, and with it the
second, and then the retention is switched off. -/
def smallRing : List Call :=
  [.registerStream 0 "master" { width := 16, height := 9 }, .start, packet 0 true, packet 10 false,
    packet 20 true, .setReplayRetentionEnabled false]
where
  packet (cts : Fin 256) (keyframe : Bool) : Call :=
    .ingest 0 { sourceCts := cts, sourceCts_lt := byte_lt_uint64Size cts
                timebaseNum := 1, timebaseDen := 60, keyframe := keyframe, payload := [0] } []

theorem retention_accounts_sample :
    (Runs.exec step (create 2) smallRing).evictedPacketCount = 2 ∧
      ((Runs.history step (create 2) smallRing).flatMap clearedPackets).map
        (fun captured => captured.packet.sourceCts) = [20] ∧
      Accounted (Runs.history step (create 2) smallRing) (Runs.exec step (create 2) smallRing) :=
  ⟨by decide, by decide, retention_accounts (Runs.run_exec _ smallRing)⟩

end SynchronizedCaptureSession

end ObsSyncReplay
