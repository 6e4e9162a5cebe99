import ObsSyncReplay.Recording.SessionRuns

/-!
What the two files of a recording session agree on, over every run and every
pattern of answers of the sinks.
-/

namespace ObsSyncReplay

/-- A sink that accepts every call. -/
def PacketSink.accepting : PacketSink := ⟨fun _ _ => true⟩

/-- A one-byte packet whose PTS and DTS follow its source CTS. -/
def samplePacket (sourceCts : Fin 256) (keyframe : Bool := false) : EncodedPacket where
  sourceCts := sourceCts
  pts := sourceCts
  dts := sourceCts
  timebaseNum := 1
  timebaseDen := 1000000000
  keyframe := keyframe
  payload := [0]
  sourceCts_lt := byte_lt_uint64Size sourceCts

namespace SynchronizedRecordingSession

variable {session : SynchronizedRecordingSession} {past : List SessionTransition}

/-- A session over accepting sinks. -/
def sampleSession (reorderSafetyCts expectedSourceCtsStep : Nat) :
    SynchronizedRecordingSession :=
  create { reorderSafetyCts := reorderSafetyCts, expectedSourceCtsStep := expectedSourceCtsStep }
    (.both {}) (.both (some .accepting))

/-- The two files of a session with the common start `startCts` agree: they
hold the same source CTS, each once, and between the start and the last
flushed CTS they hold every accepted packet. -/
structure FilesAgree (past : List SessionTransition) (session : SynchronizedRecordingSession)
    (startCts : Nat) : Prop where
  range : ∃ endCts, session.selectedRange = some ⟨startCts, endCts⟩
  requested : session.requestedStartCts ≤ startCts
  keyframe : ∀ stream, ∃ packet ∈ acceptedPackets past stream,
    packet.sourceCts = startCts ∧ packet.keyframe = true
  nodup : ∀ stream, (session.writtenCts stream).Nodup
  same : ∀ cts, cts ∈ session.writtenCts .A ↔ cts ∈ session.writtenCts .B
  between : ∀ stream, ∀ cts ∈ session.writtenCts stream,
    startCts ≤ cts ∧ ∃ last ∈ session.lastFlushedCts, cts ≤ last
  complete : ∀ stream, ∀ packet ∈ acceptedPackets past stream, startCts ≤ packet.sourceCts →
    (∃ last ∈ session.lastFlushedCts, packet.sourceCts ≤ last) →
    (writtenPackets session.calls stream).count packet = 1
  accepts : ∀ event ∈ session.calls, event.accepted = true

/-- Both sinks of a stopped session were finalized at `endCts`, and the range
is the least and the greatest source CTS of each file. -/
structure FilesFinalized (session : SynchronizedRecordingSession) (startCts endCts : Nat) :
    Prop where
  range : session.selectedRange = some ⟨startCts, endCts⟩
  finalized : ∀ stream, ⟨stream, .finalize endCts, true⟩ ∈ session.calls
  sameEnd : ∀ event ∈ session.calls, ∀ cts, event.call = .finalize cts → cts = endCts
  least : ∀ stream, startCts ∈ session.writtenCts stream ∧
    ∀ cts ∈ session.writtenCts stream, startCts ≤ cts
  greatest : ∀ stream, endCts ∈ session.writtenCts stream ∧
    ∀ cts ∈ session.writtenCts stream, cts ≤ endCts

theorem acceptedPackets_subset (stream : RecordingStream) :
    acceptedPackets past stream ⊆ submittedPackets past stream := by
  intro packet hmem
  obtain ⟨transition, hpast, hsome⟩ := List.mem_filterMap.mp hmem
  refine List.mem_filterMap.mpr ⟨transition, hpast, ?_⟩
  cases hinput : transition.input with
  | submitPacket other submitted =>
      simp only [hinput] at hsome ⊢
      split_ifs at hsome with h
      rw [if_pos h.1, hsome]
  | start _ => simp [hinput] at hsome
  | setStreamExtraData _ _ => simp [hinput] at hsome
  | pollStart _ => simp [hinput] at hsome
  | requestStop _ => simp [hinput] at hsome
  | completeDrain => simp [hinput] at hsome
  | abort => simp [hinput] at hsome

section Recorded

variable {rest : RecordingStream → List EncodedPacket} {startCts : Nat}
  {log : AscendingLog Nat}

theorem Recorded.start_le {accepted : RecordingStream → List EncodedPacket}
    (hrecorded : Recorded accepted rest session startCts log) {cts : Nat}
    (hmem : cts ∈ log.entries) : startCts ≤ cts := by
  obtain ⟨first, hfirst⟩ : ∃ first, log.first? = some first :=
    Option.ne_none_iff_exists'.mp (fun hnone => by
      rw [List.head?_eq_none_iff.mp hnone] at hmem
      cases hmem)
  rw [← hrecorded.first first hfirst]
  exact AscendingLog.first_le hmem hfirst

theorem Recorded.filesAgree (hrecorded : Recorded (acceptedPackets past) rest session startCts log)
    (hrange : ∃ endCts, session.selectedRange = some ⟨startCts, endCts⟩) :
    FilesAgree past session startCts where
  range := hrange
  requested := hrecorded.requested
  keyframe := hrecorded.keyframe
  nodup stream := (hrecorded.written stream).nodup_iff.mpr log.nodup
  same cts := by rw [(hrecorded.written .A).mem_iff, (hrecorded.written .B).mem_iff]
  between stream cts hmem := by
    have hlog := (hrecorded.written stream).mem_iff.mp hmem
    rw [hrecorded.lastFlushed]
    exact ⟨hrecorded.start_le hlog, AscendingLog.exists_last hlog⟩
  complete stream packet hmem hstart hupper := by
    obtain ⟨last, hlast, hle⟩ := hupper
    rw [hrecorded.lastFlushed] at hlast
    have hkept : packet ∈ (acceptedPackets past stream).filter
        (fun packet => startCts ≤ packet.sourceCts) :=
      List.mem_filter.mpr ⟨hmem, decide_eq_true hstart⟩
    rw [(hrecorded.conserved stream).mem_iff, List.mem_append] at hkept
    have hwritten : packet ∈ writtenPackets session.calls stream :=
      hkept.resolve_right (fun hrest =>
        absurd hle (not_le.mpr (hrecorded.pending stream packet hrest last hlast)))
    have hnodup : (writtenPackets session.calls stream).Nodup :=
      List.Nodup.of_map _ ((hrecorded.written stream).nodup_iff.mpr log.nodup)
    exact List.count_eq_one_of_mem hnodup hwritten
  accepts := hrecorded.accepts

theorem Finished.filesFinalized {accepted : RecordingStream → List EncodedPacket} {endCts : Nat}
    (hfinished : Finished accepted session startCts endCts log)
    (hbound : ∀ stream, ∀ packet ∈ accepted stream, packet.sourceCts + 1 < uint64Size) :
    FilesFinalized session startCts endCts := by
  obtain ⟨rest, hrecorded⟩ := hfinished.recorded
  have hlast := hfinished.ends hbound
  have hend := AscendingLog.last?_mem hlast
  obtain ⟨first, hfirst⟩ : ∃ first, log.first? = some first :=
    Option.ne_none_iff_exists'.mp (fun hnone => by
      rw [List.head?_eq_none_iff.mp hnone] at hend
      cases hend)
  obtain rfl := hrecorded.first first hfirst
  refine ⟨hfinished.range, hfinished.finalized, hfinished.sameEnd, fun stream => ?_,
    fun stream => ?_⟩
  · have hwritten := hrecorded.written stream
    exact ⟨hwritten.mem_iff.mpr (AscendingLog.first?_mem hfirst),
      fun cts hmem => hrecorded.start_le (hwritten.mem_iff.mp hmem)⟩
  · have hwritten := hrecorded.written stream
    exact ⟨hwritten.mem_iff.mpr hend,
      fun cts hmem => AscendingLog.le_last (hwritten.mem_iff.mp hmem) hlast⟩

end Recorded

variable {config : SynchronizedRecordingConfig} {streamConfig : PerStream PacketStreamConfig}
  {sink : PerStream (Option PacketSink)}

/-- In every run, a session that runs, drains or has stopped has a common
start at which its two files agree, and a stopped one has finalized both at
the greatest CTS they hold. -/
theorem recording_files_agree
    (hrun : Runs.Run step (create config streamConfig sink) past session)
    (hcts : ∀ stream, ∀ packet ∈ submittedPackets past stream,
      packet.sourceCts < uint64Size - 1)
    (hstate : session.state = .running ∨ session.state = .draining ∨ session.state = .stopped) :
    ∃ startCts, FilesAgree past session startCts ∧
      (session.state = .stopped → ∃ endCts, FilesFinalized session startCts endCts) := by
  have hbound : ∀ stream, ∀ packet ∈ acceptedPackets past stream,
      packet.sourceCts + 1 < uint64Size := by
    intro stream packet hmem
    have hlt := hcts stream packet (acceptedPackets_subset stream hmem)
    omega
  cases run_consistent hrun with
  | waiting hearly hwaiting => rcases hearly with h | h <;> simp [h] at hstate
  | @live startCts log hlate hlive =>
      refine ⟨startCts, hlive.toRecorded.filesAgree ⟨startCts, hlive.range⟩, ?_⟩
      intro hstopped
      rcases hlate with h | h <;> simp [h] at hstopped
  | @finished startCts endCts log hstopped hfinished =>
      obtain ⟨rest, hrecorded⟩ := hfinished.recorded
      exact ⟨startCts, hrecorded.filesAgree ⟨endCts, hfinished.range⟩,
        fun _ => ⟨endCts, hfinished.filesFinalized hbound⟩⟩
  | failed hfailed => simp [hfailed] at hstate

/-- Four packets a stream, out of step with each other, and a stop below the
last of them. -/
def sampleCalls : List SessionCall :=
  [.start 90, .submitPacket .A (samplePacket 100 true), .submitPacket .A (samplePacket 110),
    .submitPacket .B (samplePacket 100 true), .submitPacket .A (samplePacket 120),
    .submitPacket .B (samplePacket 110), .submitPacket .B (samplePacket 120),
    .submitPacket .A (samplePacket 130), .requestStop 125, .submitPacket .B (samplePacket 130),
    .completeDrain]

theorem recording_files_agree_sample :
    ∃ startCts endCts, FilesAgree (Runs.history step (sampleSession 10 0) sampleCalls)
        (Runs.exec step (sampleSession 10 0) sampleCalls) startCts ∧
      FilesFinalized (Runs.exec step (sampleSession 10 0) sampleCalls) startCts endCts := by
  obtain ⟨startCts, hagree, hstopped⟩ := recording_files_agree
    (Runs.run_exec (sampleSession 10 0) sampleCalls)
    (by intro stream; cases stream <;> decide) (by decide)
  obtain ⟨endCts, hfinalized⟩ := hstopped (by decide)
  exact ⟨startCts, endCts, hagree, hfinalized⟩

example : (Runs.exec step (sampleSession 10 0) sampleCalls).state = .stopped ∧
    (Runs.exec step (sampleSession 10 0) sampleCalls).writtenCts .B = [100, 110, 120] := by
  decide

end SynchronizedRecordingSession

end ObsSyncReplay
