import ObsSyncReplay.Sync.CommonPrefix
import ObsSyncReplay.Lib.Runs

/-!
The byte counters of `EncodedPacketBuffer`. What is retained never passes the capacity, and what
is subtracted was added before, so the counters of the source do not wrap.
-/

namespace ObsSyncReplay

namespace EncodedPacketBuffer

inductive Call where
  | push (packet : EncodedPacket)
  | discardBefore (sourceCts : Nat)
  | clear
  | setCapacityBytes (capacityBytes : Nat)
deriving DecidableEq

inductive Answer where
  | pushed (result : EncodedPacketBufferResult)
  | capacitySet (accepted : Bool)
  | done
deriving DecidableEq

def step (buffer : EncodedPacketBuffer) : Call → Answer × EncodedPacketBuffer
  | .push packet =>
      let (result, buffer) := buffer.push packet
      (.pushed result, buffer)
  | .discardBefore sourceCts => (.done, buffer.discardBefore sourceCts)
  | .clear => (.done, buffer.clear)
  | .setCapacityBytes capacityBytes =>
      let (accepted, buffer) := buffer.setCapacityBytes capacityBytes
      (.capacitySet accepted, buffer)

abbrev Transition := Runs.Transition EncodedPacketBuffer Call Answer

def payloadBytes (packets : List EncodedPacket) : Nat :=
  (packets.map (fun packet => packet.payload.length)).sum

/-- The counter is what is retained, within the capacity, each packet under its own source CTS. -/
structure Accounted (buffer : EncodedPacketBuffer) : Prop where
  bytes : buffer.bytes = payloadBytes buffer.snapshot
  within : buffer.bytes ≤ buffer.capacityBytes
  keyed : buffer.Keyed

/-- A refused `Push` or `SetCapacityBytes` changes nothing. -/
structure Undisturbed (t : Transition) : Prop where
  push : ∀ packet result, t.input = .push packet → t.output = .pushed result →
    result ≠ .retained → t.after = t.before
  setCapacityBytes : ∀ capacityBytes, t.input = .setCapacityBytes capacityBytes →
    t.output = .capacitySet false → t.after = t.before

variable {buffer buffer' : EncodedPacketBuffer} {past : List Transition}

theorem payloadBytes_perm {packets packets' : List EncodedPacket} (h : packets.Perm packets') :
    payloadBytes packets = payloadBytes packets' :=
  (h.map _).sum_eq

theorem push_retained_eq {packet : EncodedPacket}
    (h : buffer.push packet = (.retained, buffer')) :
    packet.payload.length ≤ buffer.freeBytes ∧ buffer' = buffer.retain packet := by
  unfold push at h
  split_ifs at h with htiming hduplicate hcapacity <;>
    simp only [Prod.mk.injEq, reduceCtorEq, false_and, true_and] at h
  exact ⟨not_lt.mp hcapacity, h.symm⟩

/-- Erasing subtracts the payloads one by one. -/
theorem foldl_payload (erased : List (Nat × EncodedPacket)) (bytes : Nat) :
    erased.foldl (fun bytes e => bytes - e.2.payload.length) bytes =
      bytes - payloadBytes (erased.map Prod.snd) := by
  induction erased generalizing bytes with
  | nil => rfl
  | cons e rest ih =>
      rw [List.foldl_cons, ih, Nat.sub_sub]
      rfl

/-- The erased packets and the ones that stay are what was retained. -/
theorem payloadBytes_discard (buffer : EncodedPacketBuffer) (sourceCts : Nat) :
    payloadBytes buffer.snapshot =
      payloadBytes ((buffer.packets.entries.takeWhile (fun e => e.1 < sourceCts)).map Prod.snd) +
        payloadBytes (buffer.discardBefore sourceCts).snapshot := by
  have hsplit : buffer.snapshot =
      (buffer.packets.entries.takeWhile (fun e => e.1 < sourceCts)).map Prod.snd ++
        (buffer.discardBefore sourceCts).snapshot := by
    unfold snapshot OrderedMap.values
    rw [← List.map_append]
    exact congrArg (List.map Prod.snd) List.takeWhile_append_dropWhile.symm
  conv_lhs => rw [hsplit]
  unfold payloadBytes
  rw [List.map_append, List.sum_append]

theorem Accounted.push (h : buffer.Accounted) (packet : EncodedPacket) :
    (buffer.push packet).2.Accounted := by
  by_cases hretained : (buffer.push packet).1 = .retained
  · have hpush : buffer.push packet = (.retained, (buffer.push packet).2) :=
      Prod.ext hretained rfl
    obtain ⟨hfits, hbuffer⟩ := push_retained_eq hpush
    have hbytes : (buffer.push packet).2.bytes = buffer.bytes + packet.payload.length := by
      rw [hbuffer, retain]
    constructor
    · rw [hbytes, h.bytes, payloadBytes_perm (snapshot_push hpush), Nat.add_comm]
      rfl
    · have hcapacity : (buffer.push packet).2.capacityBytes = buffer.capacityBytes := by
        rw [hbuffer, retain]
      have hwithin := h.within
      rw [freeBytes, if_pos hwithin] at hfits
      rw [hbytes, hcapacity]
      omega
    · exact h.keyed.push hpush
  · rwa [push_of_ne_retained hretained]

theorem Accounted.discardBefore (h : buffer.Accounted) (sourceCts : Nat) :
    (buffer.discardBefore sourceCts).Accounted := by
  have hbytes : (buffer.discardBefore sourceCts).bytes =
      payloadBytes (buffer.discardBefore sourceCts).snapshot := by
    have hsplit := payloadBytes_discard buffer sourceCts
    rw [← h.bytes] at hsplit
    have hfold := foldl_payload
      (buffer.packets.entries.takeWhile (fun e => e.1 < sourceCts)) buffer.bytes
    change List.foldl _ _ _ = _
    omega
  refine ⟨hbytes, ?_, h.keyed.discardBefore sourceCts⟩
  have hsplit := payloadBytes_discard buffer sourceCts
  rw [← h.bytes, ← hbytes] at hsplit
  exact (Nat.le_of_add_left_le hsplit.ge).trans h.within

theorem accounted_clear (buffer : EncodedPacketBuffer) : buffer.clear.Accounted :=
  ⟨rfl, Nat.zero_le _, by simp [Keyed]⟩

theorem setCapacityBytes_refused {capacityBytes : Nat}
    (h : (buffer.setCapacityBytes capacityBytes).1 = false) :
    (buffer.setCapacityBytes capacityBytes).2 = buffer := by
  unfold EncodedPacketBuffer.setCapacityBytes at h ⊢
  split_ifs at h ⊢
  rfl

theorem Accounted.setCapacityBytes (h : buffer.Accounted) (capacityBytes : Nat) :
    (buffer.setCapacityBytes capacityBytes).2.Accounted := by
  unfold EncodedPacketBuffer.setCapacityBytes
  split_ifs with hsmall
  · exact h
  · exact ⟨h.bytes, not_lt.mp hsmall, h.keyed⟩

theorem Reachable.accounted (h : buffer.Reachable) : buffer.Accounted := by
  induction h with
  | create capacityBytes => exact ⟨rfl, Nat.zero_le _, keyed_empty capacityBytes⟩
  | push packet _ ih => exact ih.push packet
  | @clear buffer _ _ => exact accounted_clear buffer
  | discardBefore sourceCts _ ih => exact ih.discardBefore sourceCts
  | setCapacityBytes capacityBytes _ ih => exact ih.setCapacityBytes capacityBytes

theorem Reachable.step (h : buffer.Reachable) (call : Call) : (buffer.step call).2.Reachable := by
  cases call with
  | push packet => exact h.push packet
  | discardBefore sourceCts => exact h.discardBefore sourceCts
  | clear => exact h.clear
  | setCapacityBytes capacityBytes => exact h.setCapacityBytes capacityBytes

theorem undisturbed_step (buffer : EncodedPacketBuffer) (call : Call) :
    Undisturbed (Runs.transition step buffer call) := by
  constructor
  · intro packet result hinput houtput hrefused
    obtain rfl : call = .push packet := hinput
    obtain rfl : (buffer.push packet).1 = result := Answer.pushed.inj houtput
    exact push_of_ne_retained hrefused
  · intro capacityBytes hinput houtput
    obtain rfl : call = .setCapacityBytes capacityBytes := hinput
    exact setCapacityBytes_refused (Answer.capacitySet.inj houtput)

/-- A step keeps the peak, unless it goes above it. -/
theorem step_peak (h : buffer.Accounted) (hpeak : buffer.bytes ≤ buffer.peakBytes) (call : Call) :
    (buffer.step call).2.peakBytes = max buffer.peakBytes (buffer.step call).2.bytes := by
  cases call with
  | push packet =>
      by_cases hretained : (buffer.push packet).1 = .retained
      · have hpush : buffer.push packet = (.retained, (buffer.push packet).2) :=
          Prod.ext hretained rfl
        change (buffer.push packet).2.peakBytes = max buffer.peakBytes (buffer.push packet).2.bytes
        rw [(push_retained_eq hpush).2]
        simp only [retain]
        split_ifs <;> omega
      · change (buffer.push packet).2.peakBytes = max buffer.peakBytes (buffer.push packet).2.bytes
        rw [push_of_ne_retained hretained, max_eq_left hpeak]
  | discardBefore sourceCts =>
      have hsplit := payloadBytes_discard buffer sourceCts
      rw [← h.bytes, ← (h.discardBefore sourceCts).bytes] at hsplit
      exact (max_eq_left ((Nat.le_of_add_left_le hsplit.ge).trans hpeak)).symm
  | clear => exact (max_eq_left (Nat.zero_le _)).symm
  | setCapacityBytes capacityBytes =>
      change (buffer.setCapacityBytes capacityBytes).2.peakBytes =
        max buffer.peakBytes (buffer.setCapacityBytes capacityBytes).2.bytes
      unfold EncodedPacketBuffer.setCapacityBytes
      split_ifs <;> exact (max_eq_left hpeak).symm

/-- The counter's values so far, from the empty buffer on. -/
def countedBytes (past : List Transition) : Set Nat :=
  {bytes | bytes = 0 ∨ ∃ t ∈ past, t.after.bytes = bytes}

/-- What a run of the buffer leaves behind. -/
structure RunAccounted (past : List Transition) (buffer : EncodedPacketBuffer) : Prop where
  accounted : buffer.Accounted
  peak : IsGreatest (countedBytes past) buffer.peakBytes
  undisturbed : ∀ t ∈ past, Undisturbed t

theorem mem_countedBytes_concat {t : Transition} {bytes : Nat} :
    bytes ∈ countedBytes (past ++ [t]) ↔ bytes ∈ countedBytes past ∨ t.after.bytes = bytes := by
  constructor
  · rintro (hzero | ⟨t', hmem, hbytes⟩)
    · exact Or.inl (Or.inl hzero)
    · rcases List.mem_append.mp hmem with hold | hnew
      · exact Or.inl (Or.inr ⟨t', hold, hbytes⟩)
      · rw [List.mem_singleton.mp hnew] at hbytes
        exact Or.inr hbytes
  · rintro ((hzero | ⟨t', hmem, hbytes⟩) | hbytes)
    · exact Or.inl hzero
    · exact Or.inr ⟨t', List.mem_append_left _ hmem, hbytes⟩
    · exact Or.inr ⟨t, List.mem_append_right _ List.mem_cons_self, hbytes⟩

theorem runAccounted {capacityBytes : Nat}
    (hrun : Runs.Run step { capacityBytes := capacityBytes } past buffer) :
    RunAccounted past buffer := by
  suffices h : buffer.Reachable ∧ buffer.bytes ∈ countedBytes past ∧ RunAccounted past buffer from
    h.2.2
  apply hrun.invariant (P := fun past buffer =>
    buffer.Reachable ∧ buffer.bytes ∈ countedBytes past ∧ RunAccounted past buffer)
  · refine ⟨.create capacityBytes, Or.inl rfl, (Reachable.create capacityBytes).accounted, ?_,
      List.forall_mem_nil _⟩
    refine ⟨Or.inl rfl, ?_⟩
    rintro bytes (rfl | ⟨t, ht, -⟩)
    · exact le_rfl
    · cases ht
  · rintro past buffer call - ⟨hreachable, hcounted, hrun⟩
    have hafter : (buffer.step call).2.bytes ∈
        countedBytes (past ++ [Runs.transition step buffer call]) :=
      mem_countedBytes_concat.mpr (Or.inr rfl)
    refine ⟨hreachable.step call, hafter, (hreachable.step call).accounted, ?_, ?_⟩
    · rw [step_peak hrun.accounted (hrun.peak.2 hcounted) call]
      constructor
      · rcases max_choice buffer.peakBytes (buffer.step call).2.bytes with hmax | hmax <;> rw [hmax]
        · exact mem_countedBytes_concat.mpr (Or.inl hrun.peak.1)
        · exact hafter
      · intro bytes hbytes
        rcases mem_countedBytes_concat.mp hbytes with hbefore | rfl
        · exact (hrun.peak.2 hbefore).trans (le_max_left _ _)
        · exact le_max_right _ _
    · rw [List.forall_mem_append, List.forall_mem_singleton]
      exact ⟨hrun.undisturbed, undisturbed_step buffer call⟩

end EncodedPacketBuffer

end ObsSyncReplay
