import ObsSyncReplay.Recording.ConsumerConfluence

/-!
Stopping a recording while some streams are ahead of the others. The streams share one
sequence of source CTS and each has delivered a beginning of it. What all of them
have is the shortest beginning; the recording keeps it exactly when there is nothing
beyond it, and is lost otherwise.
-/

namespace ObsSyncReplay

namespace SynchronizedRecordingConsumer

open AscendingList

/-- The recording succeeds with what all streams have: the first `least` elements of the
sequence they share. -/
def KeepsCommonPrefix (consumer : SynchronizedRecordingConsumer) (sequence : List Nat)
    (least : Nat) : Prop :=
  ∃ first last, sequence[0]? = some first ∧ sequence[least - 1]? = some last ∧
    Ends consumer
      { success := true, range := ⟨first, last⟩, packetCount := least
        written := sequence.take least }

theorem Ends.success_unique {consumer : SynchronizedRecordingConsumer}
    {outcome outcome' : Streams.Outcome} (h : Ends consumer outcome)
    (h' : Ends consumer outcome') : outcome.success = outcome'.success := by
  obtain ⟨result, hresult, hsuccess, -⟩ := h
  obtain ⟨result', hresult', hsuccess', -⟩ := h'
  obtain rfl := Option.some.inj (hresult.symm.trans hresult')
  exact hsuccess.symm.trans hsuccess'

section Tails

variable {streams : Streams} {sequence : List Nat} {tails : Nat → Nat} {count least : Nat}

/-- The streams begin with the same keyframe, so that is the start. -/
theorem commonStart_of_tails (hascending : streams.Ascending) (hcount : 0 < count) {first : Nat}
    (hfirst : sequence.head? = some first) (hsequence : sequence.Pairwise (· < ·))
    (hslots : ∀ position < count, streams.slots position = sequence.take (tails position))
    (htails : ∀ position < count, 1 ≤ tails position)
    (hkeyframe : ∀ position < count, ∃ captured ∈ (streams position).head?,
      captured.packet.keyframe = true) :
    streams.commonStart count = some first := by
  apply (Streams.commonStart_eq_some_iff hascending hcount).mpr
  constructor
  · intro position hposition
    have hlt := List.mem_range.mp hposition
    obtain ⟨captured, hhead, hkey⟩ := hkeyframe position hlt
    have hslot : (streams.slots position).head? = some captured.packet.sourceCts := by
      rw [Streams.slots, List.head?_map, hhead]
      rfl
    rw [hslots position hlt, List.head?_take, if_neg (by have := htails position hlt; omega),
      hfirst] at hslot
    exact ⟨captured, List.mem_of_head? hhead, (Option.some.inj hslot).symm, hkey⟩
  · intro cts hcommon
    have hmem := hcommon.mem_slots hcount
    rw [hslots 0 hcount] at hmem
    exact head?_le hsequence (List.mem_of_mem_take hmem) hfirst

/-- What the streams have in common is the shortest of them. -/
theorem commonSlots_of_tails (hascending : streams.Ascending) (hcount : 0 < count) {first : Nat}
    (hfirst : sequence.head? = some first) (hsequence : sequence.Pairwise (· < ·))
    (hslots : ∀ position < count, streams.slots position = sequence.take (tails position))
    (hleast : IsLeast {length | ∃ position < count, tails position = length} least) :
    streams.commonSlots count first = sequence.take least := by
  obtain ⟨⟨shortest, hshortest, rfl⟩, hlower⟩ := hleast
  have hle : ∀ position < count, tails shortest ≤ tails position :=
    fun position hposition => hlower ⟨position, hposition, rfl⟩
  apply eq_of_mem_iff (Streams.commonSlots_ascending hascending)
    (hsequence.sublist (List.take_sublist _ _))
  intro cts
  rw [Streams.mem_commonSlots hascending]
  constructor
  · rintro ⟨hmem, hfrom, hall⟩
    have hshared := hall cts hmem hfrom le_rfl shortest hshortest
    rwa [hslots shortest hshortest] at hshared
  · intro hmem
    have hin : ∀ position < count, ∀ other ∈ sequence.take (tails shortest),
        other ∈ streams.slots position := by
      intro position hposition other hother
      rw [hslots position hposition]
      exact List.take_subset_take_left sequence (hle position hposition) hother
    refine ⟨hin 0 hcount cts hmem, head?_le hsequence (List.mem_of_mem_take hmem) hfirst,
      fun other hother _ hle' position hposition => ?_⟩
    apply hin position hposition
    rw [hslots 0 hcount] at hother
    exact mem_take_of_le hsequence hmem (List.mem_of_mem_take hother) hle'

theorem resolved_of_tails_iff (hascending : streams.Ascending) (hcount : 0 < count) {first : Nat}
    (hfirst : sequence.head? = some first) (hsequence : sequence.Pairwise (· < ·))
    (hslots : ∀ position < count, streams.slots position = sequence.take (tails position))
    (htails : ∀ position < count, tails position ≤ sequence.length)
    (hleast : IsLeast {length | ∃ position < count, tails position = length} least) :
    streams.Resolved count first ↔ ∀ position < count, tails position = least := by
  unfold Streams.Resolved
  rw [commonSlots_of_tails hascending hcount hfirst hsequence hslots hleast]
  constructor
  · intro hresolved position hposition
    apply le_antisymm
    · apply le_of_take_subset hsequence (htails position hposition)
      intro cts hcts
      apply hresolved position (List.mem_range.mpr hposition) cts
      · rwa [hslots position hposition]
      · exact head?_le hsequence (List.mem_of_mem_take hcts) hfirst
    · exact hleast.2 ⟨position, hposition, rfl⟩
  · intro hequal position hposition cts hcts _
    have hlt := List.mem_range.mp hposition
    rwa [hslots position hlt, hequal position hlt] at hcts

end Tails

/-- The streams share one ascending sequence that begins with a keyframe, and each has
delivered a beginning of it when the recording ends, undisturbed. The recording keeps
the common prefix if and only if the beginnings are all of one length. -/
theorem stop_keeps_common_prefix_iff {streamConfigs : List PacketStreamConfig}
    {paths : List String} {streamIds : List CaptureStreamId} {library : Nat → MuxLibrary}
    {first consumer : SynchronizedRecordingConsumer} {past : History}
    {sequence : List Nat} {tails : Nat → Nat} {least : Nat}
    (hstart : start streamConfigs paths streamIds library = some first)
    (hrun : Runs.Run step first past consumer) (hundisturbed : ∀ t ∈ past, Undisturbed t)
    (hdone : consumer.worker = .done) (hsequence : sequence.Pairwise (· < ·))
    (hslots : ∀ position < first.lanes.length,
      (delivered first past).slots position = sequence.take (tails position))
    (htails : ∀ position < first.lanes.length,
      1 ≤ tails position ∧ tails position ≤ sequence.length)
    (hkeyframe : ∀ position < first.lanes.length,
      ∃ captured ∈ (delivered first past position).head?, captured.packet.keyframe = true)
    (hleast : IsLeast {length | ∃ position < first.lanes.length, tails position = length}
      least) :
    KeepsCommonPrefix consumer sequence least ↔
      ∀ position < first.lanes.length, tails position = least := by
  have hcount : 0 < first.lanes.length := List.length_pos_iff.mpr (start_fresh hstart).lanes
  have hascending : (delivered first past).Ascending := by
    intro position
    by_cases hposition : position < first.lanes.length
    · rw [hslots position hposition]
      exact hsequence.sublist (List.take_sublist _ _)
    · rw [Streams.slots, delivered_eq_nil (by omega)]
      exact .nil
  obtain ⟨hpositive, hbound⟩ : 1 ≤ least ∧ least ≤ sequence.length := by
    obtain ⟨⟨shortest, hshortest, rfl⟩, -⟩ := hleast
    exact htails shortest hshortest
  obtain ⟨start, hfirst⟩ : ∃ start, sequence.head? = some start := by
    rw [List.head?_eq_getElem?]
    exact ⟨_, List.getElem?_eq_getElem (by omega)⟩
  have hcommon := commonStart_of_tails hascending hcount hfirst hsequence hslots
    (fun position hposition => (htails position hposition).1) hkeyframe
  have hslots' := commonSlots_of_tails hascending hcount hfirst hsequence hslots hleast
  have hresolved := resolved_of_tails_iff hascending hcount hfirst hsequence hslots
    (fun position hposition => (htails position hposition).2) hleast
  have hends := run_ends (start_fresh hstart) hrun hundisturbed hascending hdone
  rw [← hresolved]
  simp only [Streams.merge, hcommon] at hends
  constructor
  · rintro ⟨first', last, -, -, hkept⟩
    by_contra hnot
    rw [if_neg hnot] at hends
    have hsuccess := hkept.success_unique hends
    cases hsuccess
  · intro hall
    rw [if_pos hall, hslots', List.length_take, Nat.min_eq_left hbound] at hends
    have hlast : sequence[least - 1]? = some sequence[least - 1] :=
      List.getElem?_eq_getElem (by omega)
    refine ⟨start, sequence[least - 1], ?_, hlast, ?_⟩
    · rwa [← List.head?_eq_getElem?]
    · rwa [List.getLast?_take, if_neg (by omega), hlast, Option.some_or, Option.getD_some] at hends

theorem stop_keeps_common_prefix_two_streams :
    ∃ consumer past, Runs.Run step (startedConsumer 2) past consumer ∧
      past.map (·.input) = firstStreamAhead ∧ KeepsCommonPrefix consumer [100, 110] 2 := by
  have hstart : start (List.replicate 2 recordingConfig) (List.replicate 2 "video") []
      (fun _ => acceptingLibrary) = some (startedConsumer 2) := rfl
  have hrun := run_of_events 2 firstStreamAhead
  have hlength : (startedConsumer 2).lanes.length = 2 := rfl
  have hleast : IsLeast {length | ∃ position < (startedConsumer 2).lanes.length,
      (fun _ => 2) position = length} 2 :=
    ⟨⟨0, by decide, rfl⟩, fun _ ⟨_, _, hequal⟩ => hequal.le⟩
  have hsequence : [100, 110].Pairwise (· < ·) := by decide
  have hiff := stop_keeps_common_prefix_iff hstart hrun (by decide) (by decide) hsequence
    (by rw [hlength]; decide) (by rw [hlength]; decide)
    (by
      rw [hlength]
      intro position hposition
      interval_cases position
      · exact ⟨recordingPacket 0 100 true, rfl, rfl⟩
      · exact ⟨recordingPacket 1 100 true, rfl, rfl⟩) hleast
  exact ⟨_, _, hrun, rfl, hiff.mpr (fun _ _ => rfl)⟩

/-- The first stream is one packet ahead when the recording is stopped. -/
def stoppedAheadEvents : List Event :=
  recordingEvents [recordingPacket 0 100 true, recordingPacket 1 100 true,
    recordingPacket 0 110 false]

/-- Nothing goes wrong on the way, and the recording is lost. -/
theorem recording_lost_to_one_packet :
    start (List.replicate 2 recordingConfig) (List.replicate 2 "video") []
        (fun _ => acceptingLibrary) = some (startedConsumer 2) ∧
      ∃ consumer past, Runs.Run step (startedConsumer 2) past consumer ∧
        past.map (·.input) = stoppedAheadEvents ∧ (∀ t ∈ past, Undisturbed t) ∧
        (delivered (startedConsumer 2) past).slots 0 = [100, 110] ∧
        (delivered (startedConsumer 2) past).slots 1 = [100] ∧ consumer.worker = .done ∧
        consumer.result.map (fun result => (result.success, result.error)) =
          some (false, "recording-unresolved-common-prefix") ∧
        ¬ KeepsCommonPrefix consumer [100, 110] 1 := by
  have hrun := run_of_events 2 stoppedAheadEvents
  have hresult : (Runs.exec step (startedConsumer 2) stoppedAheadEvents).result.map
      (fun result => (result.success, result.error)) =
        some (false, "recording-unresolved-common-prefix") := by decide
  refine ⟨rfl, _, _, hrun, rfl, by decide, by decide, by decide, by decide, hresult, ?_⟩
  rintro ⟨first, last, -, -, result, hsome, hsuccess, -⟩
  rw [hsome] at hresult
  obtain ⟨hfalse, -⟩ := Prod.mk.inj (Option.some.inj hresult)
  rw [hsuccess] at hfalse
  cases hfalse

end SynchronizedRecordingConsumer

end ObsSyncReplay
