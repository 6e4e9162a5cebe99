import ObsSyncReplay.Lib.AscendingLog
import ObsSyncReplay.Recording.SessionSteps

/-!
What a recording session is for: both files receive one common log of source
CTS. The log is ascending, starts at the selected start, and each packet that
was accepted from the start on is either written or still waits above the end
of the log. `Live` ties the two buffers, the last flushed CTS and the calls on
both sinks to that log; every public call keeps the tie or fails the session.
-/

namespace ObsSyncReplay

abbrev SessionTransition := Runs.Transition SynchronizedRecordingSession SessionCall Bool

/-- The packets of one stream that `SubmitPacket` was called with. -/
def submittedPackets (past : List SessionTransition) (stream : RecordingStream) :
    List EncodedPacket :=
  past.filterMap (fun transition =>
    match transition.input with
    | .submitPacket other packet => if other = stream then some packet else none
    | _ => none)

/-- Those of them for which it returned `true`. -/
def acceptedPackets (past : List SessionTransition) (stream : RecordingStream) :
    List EncodedPacket :=
  past.filterMap (fun transition =>
    match transition.input with
    | .submitPacket other packet =>
        if other = stream ∧ transition.output = true then some packet else none
    | _ => none)

/-- One packet more on one stream. -/
def accept (accepted : RecordingStream → List EncodedPacket) (stream : RecordingStream)
    (packet : EncodedPacket) : RecordingStream → List EncodedPacket :=
  Function.update accepted stream (accepted stream ++ [packet])

/-- What a call that was answered with `ok` adds to the accepted packets. -/
def acceptCall (accepted : RecordingStream → List EncodedPacket) :
    SessionCall → Bool → RecordingStream → List EncodedPacket
  | .submitPacket stream packet, true => accept accepted stream packet
  | _, _ => accepted

@[simp] theorem accept_self (accepted : RecordingStream → List EncodedPacket)
    (stream : RecordingStream) (packet : EncodedPacket) :
    accept accepted stream packet stream = accepted stream ++ [packet] :=
  Function.update_self ..

theorem accept_of_ne (accepted : RecordingStream → List EncodedPacket)
    {stream other : RecordingStream} (packet : EncodedPacket) (h : other ≠ stream) :
    accept accepted stream packet other = accepted other :=
  Function.update_of_ne h ..

theorem mem_accept {accepted : RecordingStream → List EncodedPacket}
    {stream other : RecordingStream} {packet old : EncodedPacket} (h : old ∈ accepted other) :
    old ∈ accept accepted stream packet other := by
  by_cases hsame : other = stream
  · subst hsame
    rw [accept_self]
    exact List.mem_append_left _ h
  · rwa [accept_of_ne _ _ hsame]

theorem acceptedPackets_append (past : List SessionTransition)
    (transition : SessionTransition) :
    acceptedPackets (past ++ [transition]) =
      acceptCall (acceptedPackets past) transition.input transition.output := by
  obtain ⟨before, input, output, after⟩ := transition
  funext stream
  rw [acceptedPackets, List.filterMap_append, ← acceptedPackets]
  cases input with
  | submitPacket other packet =>
      cases output with
      | false => simp [acceptCall]
      | true =>
          by_cases h : stream = other
          · subst h
            simp [acceptCall]
          · simp [acceptCall, accept_of_ne _ _ h, Ne.symm h]
  | start _ => simp [acceptCall]
  | setStreamExtraData _ _ => simp [acceptCall]
  | pollStart _ => simp [acceptCall]
  | requestStop _ => simp [acceptCall]
  | completeDrain => simp [acceptCall]
  | abort => simp [acceptCall]

namespace SynchronizedRecordingSession

variable {session session' : SynchronizedRecordingSession}
  {accepted : RecordingStream → List EncodedPacket}

/-- The source CTS handed to one sink, in the order of the calls. -/
def writtenCts (session : SynchronizedRecordingSession) (stream : RecordingStream) : List Nat :=
  (writtenPackets session.calls stream).map EncodedPacket.sourceCts

/-- The packets of one stream that no flush has written yet. -/
def unflushed (session : SynchronizedRecordingSession) (stream : RecordingStream) :
    List EncodedPacket :=
  (session.buffer.get stream).snapshot.filter
    (fun packet => ∀ last ∈ session.lastFlushedCts, last < packet.sourceCts)

/-- Before a common start is found nothing is dropped and no sink is called. -/
structure Waiting (accepted : RecordingStream → List EncodedPacket)
    (session : SynchronizedRecordingSession) : Prop where
  range : session.selectedRange = none
  lastFlushed : session.lastFlushedCts = none
  calls : session.calls = []
  keyed : ∀ stream, (session.buffer.get stream).Keyed
  conserved : ∀ stream, (accepted stream).Perm (session.buffer.get stream).snapshot

/-- Both files hold the log `log` from `startCts` on, and of the accepted
packets from the start on exactly `rest` is not written. -/
structure Recorded (accepted rest : RecordingStream → List EncodedPacket)
    (session : SynchronizedRecordingSession) (startCts : Nat) (log : AscendingLog Nat) :
    Prop where
  written : ∀ stream, (session.writtenCts stream).Perm log.entries
  lastFlushed : session.lastFlushedCts = log.last?
  conserved : ∀ stream, ((accepted stream).filter (fun packet => startCts ≤ packet.sourceCts)).Perm
    (writtenPackets session.calls stream ++ rest stream)
  pending : ∀ stream, ∀ packet ∈ rest stream, ∀ last ∈ log.last?, last < packet.sourceCts
  first : ∀ cts ∈ log.first?, cts = startCts
  keyframe : ∀ stream, ∃ packet ∈ accepted stream,
    packet.sourceCts = startCts ∧ packet.keyframe = true
  requested : session.requestedStartCts ≤ startCts
  accepts : ∀ event ∈ session.calls, event.accepted = true

/-- A session between its common start and its end: the rest is what the
buffers hold above the last flushed CTS. -/
structure Live (accepted : RecordingStream → List EncodedPacket)
    (session : SynchronizedRecordingSession) (startCts : Nat) (log : AscendingLog Nat) : Prop
    extends Recorded accepted session.unflushed session startCts log where
  range : session.selectedRange = some ⟨startCts, startCts⟩
  keyed : ∀ stream, (session.buffer.get stream).Keyed
  fromStart : ∀ stream, ∀ packet ∈ (session.buffer.get stream).snapshot,
    startCts ≤ packet.sourceCts
  discarded : ∀ stream, ∀ packet ∈ (session.buffer.get stream).snapshot,
    ∀ last ∈ session.lastFlushedCts, uint64Succ last ≤ packet.sourceCts
  opening : session.lastFlushedCts = none →
    ∀ stream, ∃ packet ∈ (session.buffer.get stream).snapshot, packet.sourceCts = startCts
  unfinalized : ∀ event ∈ session.calls, ∀ endCts, event.call ≠ .finalize endCts

/-- The batch that `flushing` can commit up to `cts`: both buffers hold it and
begin with it, it ends at `cts`, and neighbours are on cadence. -/
structure CommonBatch (flushing : SynchronizedRecordingSession) (startCts cts : Nat)
    (batch : List Nat) : Prop where
  held : ∀ stream, ((flushing.buffer.get stream).ctsFrom startCts).filter (· ≤ cts) = batch
  starts : ∀ stream, ((flushing.buffer.get stream).ctsFrom startCts).head? = batch.head?
  ends : batch.getLast? = some cts
  onCadence : batch.IsChain
    (fun x y => breaksCadence flushing.inferredStep (some x) y = false)

/-- From the start on, both buffers begin with `next`. -/
def CommonHead (flushing : SynchronizedRecordingSession) (startCts next : Nat) : Prop :=
  ∀ stream, ((flushing.buffer.get stream).ctsFrom startCts).head? = some next

/-- What one call does to the common log, when it flushes out of `flushing`
and may not pass `bound`: nothing, if the buffers do not begin with one and
the same CTS above the log and within the bound; or it appends one common
batch. -/
inductive Appends (flushing : SynchronizedRecordingSession) (startCts : Nat)
    (bound : Option Nat) (log : AscendingLog Nat) : AscendingLog Nat → Prop
  | nothing :
      (∀ upper ∈ bound, ∀ next ≤ upper, (∀ last ∈ log.last?, last < next) →
        ¬ CommonHead flushing startCts next) →
      Appends flushing startCts bound log log
  | batch {cts upper : Nat} {batch : List Nat} {log' : AscendingLog Nat} :
      CommonBatch flushing startCts cts batch → upper ∈ bound → cts ≤ upper →
      log'.entries = log.entries ++ batch → Appends flushing startCts bound log log'

theorem Appends.unbounded (flushing : SynchronizedRecordingSession) (startCts : Nat)
    (log : AscendingLog Nat) : Appends flushing startCts none log log :=
  .nothing (by simp)

theorem CommonHead.exists_end {startCts next upper : Nat}
    (hhead : CommonHead session startCts next)
    (hkeyed : ∀ stream, (session.buffer.get stream).Keyed) (hle : next ≤ upper)
    (expectedCtsStep : Nat) :
    ∃ cts, selectCommonPrefixEnd session.buffer.a session.buffer.b startCts upper
      expectedCtsStep = some cts ∧ next ≤ cts :=
  selectCommonPrefixEnd_of_head (hkeyed .A) (hkeyed .B) (hhead .A) (hhead .B) hle

theorem writtenPackets_flushEvents (startCts sourceCts : Nat) (stream : RecordingStream) :
    writtenPackets (session.flushEvents startCts sourceCts) stream =
      session.flushBatch startCts sourceCts stream := by
  have hcommit : writtenPackets
      [⟨.A, .commitThrough sourceCts, true⟩, ⟨.B, .commitThrough sourceCts, true⟩] stream = [] :=
    rfl
  rw [flushEvents, writtenPackets_append, writtenPackets_append, writtenPackets_writeEvents,
    writtenPackets_writeEvents, hcommit]
  cases stream <;> simp

theorem mem_flushEvents {startCts sourceCts : Nat} {event : SinkEvent}
    (h : event ∈ session.flushEvents startCts sourceCts) :
    event.accepted = true ∧ ∀ endCts, event.call ≠ .finalize endCts := by
  simp only [flushEvents, writeEvents, List.mem_append, List.mem_map, List.mem_cons,
    List.not_mem_nil, or_false] at h
  rcases h with (⟨packet, _, rfl⟩ | ⟨packet, _, rfl⟩) | rfl | rfl <;> simp

section Flush

variable {startCts cts : Nat} {log : AscendingLog Nat}

/-- While some representable CTS lies above the last flushed one, everything
that the buffers hold lies above it too. -/
theorem Live.above_last (hlive : Live accepted session startCts log)
    (hlast : ∀ last ∈ session.lastFlushedCts, last < cts) (hcts : cts < uint64Size)
    {stream : RecordingStream} {packet : EncodedPacket}
    (hmem : packet ∈ (session.buffer.get stream).snapshot) :
    ∀ last ∈ session.lastFlushedCts, last < packet.sourceCts := by
  intro last hflushed
  have hkept := hlive.discarded stream packet hmem last hflushed
  have hroom := hlast last hflushed
  have hsucc : uint64Succ last = last + 1 := Nat.mod_eq_of_lt (by omega)
  omega

theorem Live.unflushed_eq (hlive : Live accepted session startCts log)
    (hlast : ∀ last ∈ session.lastFlushedCts, last < cts) (hcts : cts < uint64Size)
    (stream : RecordingStream) :
    session.unflushed stream = (session.buffer.get stream).snapshot :=
  List.filter_eq_self.mpr (fun packet hmem => by
    simpa using hlive.above_last hlast hcts hmem)

theorem Live.flushBatch_perm (hlive : Live accepted session startCts log)
    (hlast : ∀ last ∈ session.lastFlushedCts, last < cts) (hcts : cts < uint64Size)
    (stream : RecordingStream) :
    (session.flushBatch startCts cts stream).Perm
      ((session.buffer.get stream).snapshot.filter (fun packet => packet.sourceCts ≤ cts)) := by
  refine (List.perm_insertionSort _ _).trans (List.Perm.of_eq ?_)
  rw [(hlive.keyed stream).snapshotThrough_eq, List.filter_filter]
  refine List.filter_congr (fun packet hmem => ?_)
  have hstart := hlive.fromStart stream packet hmem
  have habove := hlive.above_last hlast hcts hmem
  rw [Bool.eq_iff_iff]
  simp only [inFlushRange, Bool.and_eq_true, decide_eq_true_eq]
  exact ⟨fun h => h.2, fun hle => ⟨⟨hstart, habove, hle⟩, hle⟩⟩

theorem Live.ctsFrom_eq (hlive : Live accepted session startCts log) (stream : RecordingStream) :
    (session.buffer.get stream).ctsFrom startCts =
      (session.buffer.get stream).snapshot.map EncodedPacket.sourceCts :=
  List.filter_eq_self.mpr (fun x hx => by
    obtain ⟨packet, hmem, rfl⟩ := List.mem_map.mp hx
    simpa using hlive.fromStart stream packet hmem)

theorem Live.unflushed_flushed (hlive : Live accepted session startCts log)
    (stream : RecordingStream) :
    (session.flushed startCts cts).unflushed stream =
      (session.buffer.get stream).snapshot.filter (fun packet => ¬ packet.sourceCts ≤ cts) := by
  rw [unflushed, flushed_buffer, (hlive.keyed stream).snapshot_discardBefore, List.filter_filter]
  refine List.filter_congr (fun packet _ => ?_)
  have hbound := packet.sourceCts_lt
  have hsucc : cts < packet.sourceCts → uint64Succ cts ≤ packet.sourceCts := by
    intro hlt
    rw [uint64Succ, Nat.mod_eq_of_lt (by omega)]
    omega
  simp only [flushed_lastFlushedCts, Option.mem_some_iff, forall_eq', not_le]
  by_cases hlt : cts < packet.sourceCts <;> simp [hlt, hsucc]

/-- The common prefix that the selection confirms is a batch of the log. -/
theorem Live.commonBatch (hlive : Live accepted session startCts log)
    (hselect : selectCommonPrefixEnd session.buffer.a session.buffer.b startCts cts
      session.inferredStep = some cts) :
    CommonBatch session startCts cts ((session.buffer.a.ctsFrom startCts).filter (· ≤ cts)) := by
  obtain ⟨_, _, hsame, hends, hchain⟩ :=
    selectCommonPrefixEnd_eq_some (hlive.keyed .A) (hlive.keyed .B) hselect
  have hheld (stream : RecordingStream) :
      ((session.buffer.get stream).ctsFrom startCts).filter (· ≤ cts) =
        (session.buffer.a.ctsFrom startCts).filter (· ≤ cts) := by
    cases stream with
    | A => rfl
    | B => exact hsame.symm
  refine ⟨hheld, fun stream => ?_, hends, hchain⟩
  rw [← hheld stream]
  refine (Lockstep.head?_filter_le ((hlive.keyed stream).ctsFrom_ascending startCts) ?_).symm
  intro hempty
  have hnone := hends.symm.trans (congrArg List.getLast? ((hheld stream).symm.trans hempty))
  cases hnone

theorem CommonBatch.mem_snapshot {batch : List Nat}
    (hbatch : CommonBatch session startCts cts batch) {x : Nat} (hx : x ∈ batch)
    (stream : RecordingStream) :
    ∃ packet ∈ (session.buffer.get stream).snapshot, packet.sourceCts = x := by
  rw [← hbatch.held stream] at hx
  exact (EncodedPacketBuffer.mem_ctsFrom.mp (List.mem_of_mem_filter hx)).1

theorem CommonBatch.cts_lt {batch : List Nat}
    (hbatch : CommonBatch session startCts cts batch) : cts < uint64Size := by
  obtain ⟨packet, _, hpacket⟩ := hbatch.mem_snapshot (List.mem_of_getLast? hbatch.ends) .A
  rw [← hpacket]
  exact packet.sourceCts_lt

theorem Live.flushBatch_cts {batch : List Nat} (hlive : Live accepted session startCts log)
    (hlast : ∀ last ∈ session.lastFlushedCts, last < cts)
    (hbatch : CommonBatch session startCts cts batch) (stream : RecordingStream) :
    ((session.flushBatch startCts cts stream).map EncodedPacket.sourceCts).Perm batch := by
  rw [← hbatch.held stream, hlive.ctsFrom_eq, List.filter_map]
  exact (hlive.flushBatch_perm hlast hbatch.cts_lt stream).map _

/-- The log that a flush of `batch` leaves. -/
def Live.logAfter {batch : List Nat} (hlive : Live accepted session startCts log)
    (hlast : ∀ last ∈ session.lastFlushedCts, last < cts)
    (hbatch : CommonBatch session startCts cts batch) : AscendingLog Nat :=
  log.extend batch
    (by
      rw [← hbatch.held .A]
      exact ((hlive.keyed .A).ctsFrom_ascending startCts).filter _)
    (by
      intro x hx last hmem
      obtain ⟨packet, hpacket, rfl⟩ := hbatch.mem_snapshot hx .A
      exact hlive.above_last hlast hbatch.cts_lt hpacket last (hlive.lastFlushed ▸ hmem))

/-- The first entry of the log is the start: either the log had one already,
or the buffers still hold the packet at the start and the batch begins there. -/
theorem Live.first_logAfter {batch : List Nat} (hlive : Live accepted session startCts log)
    (hlast : ∀ last ∈ session.lastFlushedCts, last < cts)
    (hbatch : CommonBatch session startCts cts batch) :
    ∀ first ∈ (hlive.logAfter hlast hbatch).first?, first = startCts := by
  intro first hfirst
  cases hlog : log.first? with
  | some old =>
      rw [Live.logAfter, AscendingLog.first?_extend_of_some hlog] at hfirst
      obtain rfl := Option.some.inj hfirst
      exact hlive.first old hlog
  | none =>
      have hmem := AscendingLog.first?_mem hfirst
      rw [Live.logAfter, AscendingLog.first?_extend_of_none hlog] at hfirst
      have hempty : log.last? = none := by
        rw [AscendingLog.last?_eq_none]
        exact List.head?_eq_none_iff.mp hlog
      obtain ⟨opener, hopener, hstart⟩ := hlive.opening (hlive.lastFlushed.trans hempty) .A
      obtain ⟨packet, hpacket, rfl⟩ :=
        hbatch.mem_snapshot (List.mem_of_head? hfirst) .A
      have hle := hlive.fromStart .A packet hpacket
      have hupper : startCts ≤ cts := by
        have hend := List.mem_of_getLast? hbatch.ends
        rw [← hbatch.held .A] at hend
        exact (EncodedPacketBuffer.mem_ctsFrom.mp (List.mem_of_mem_filter hend)).2
      have hin : startCts ∈ (hlive.logAfter hlast hbatch).entries := by
        refine List.mem_append_right _ ?_
        rw [← hbatch.held .A, List.mem_filter]
        exact ⟨EncodedPacketBuffer.mem_ctsFrom.mpr ⟨⟨opener, hopener, hstart⟩, le_rfl⟩,
          decide_eq_true hupper⟩
      have hge : packet.sourceCts ≤ startCts := by
        refine AscendingLog.first_le hin ?_
        rw [Live.logAfter, AscendingLog.first?_extend_of_none hlog]
        exact hfirst
      exact le_antisymm hge hle

/-- A flush moves what lies up to `cts` from the buffers to the files. -/
theorem Live.conserved_flushed {batch : List Nat} (hlive : Live accepted session startCts log)
    (hlast : ∀ last ∈ session.lastFlushedCts, last < cts)
    (hbatch : CommonBatch session startCts cts batch) (stream : RecordingStream) :
    ((accepted stream).filter (fun packet => startCts ≤ packet.sourceCts)).Perm
      (writtenPackets (session.flushed startCts cts).calls stream ++
        (session.flushed startCts cts).unflushed stream) := by
  have hsplit := List.filter_append_perm (fun packet : EncodedPacket => packet.sourceCts ≤ cts)
    (session.buffer.get stream).snapshot
  have hbatch' := hlive.flushBatch_perm hlast hbatch.cts_lt stream
  have hconserved := hlive.conserved stream
  rw [hlive.unflushed_eq hlast hbatch.cts_lt] at hconserved
  rw [flushed_calls, writtenPackets_append, writtenPackets_flushEvents,
    hlive.unflushed_flushed, List.append_assoc]
  refine hconserved.trans (List.Perm.append_left _ ?_)
  refine hsplit.symm.trans ((hbatch'.symm.append_right _).trans (List.Perm.of_eq ?_))
  simp only [decide_not]

theorem Live.flushed {batch : List Nat} (hlive : Live accepted session startCts log)
    (hlast : ∀ last ∈ session.lastFlushedCts, last < cts)
    (hbatch : CommonBatch session startCts cts batch) :
    Live accepted (session.flushed startCts cts) startCts (hlive.logAfter hlast hbatch) where
  written stream := by
    rw [writtenCts, flushed_calls, writtenPackets_append, writtenPackets_flushEvents,
      List.map_append]
    exact (hlive.written stream).append (hlive.flushBatch_cts hlast hbatch stream)
  lastFlushed := (AscendingLog.last?_extend hbatch.ends).symm
  conserved := hlive.conserved_flushed hlast hbatch
  pending stream packet hmem last hend := by
    rw [hlive.unflushed_flushed] at hmem
    obtain rfl : cts = last :=
      Option.some.inj ((AscendingLog.last?_extend hbatch.ends).symm.trans hend)
    simpa using (List.mem_filter.mp hmem).2
  first := hlive.first_logAfter hlast hbatch
  keyframe := hlive.keyframe
  requested := hlive.requested
  accepts event hmem := by
    rcases List.mem_append.mp hmem with hold | hnew
    · exact hlive.accepts event hold
    · exact (mem_flushEvents hnew).1
  range := hlive.range
  keyed stream := by
    rw [flushed_buffer]
    exact (hlive.keyed stream).discardBefore _
  fromStart stream packet hmem := by
    rw [flushed_buffer, (hlive.keyed stream).snapshot_discardBefore] at hmem
    exact hlive.fromStart stream packet (List.mem_of_mem_filter hmem)
  discarded stream packet hmem last hend := by
    rw [flushed_buffer, (hlive.keyed stream).snapshot_discardBefore] at hmem
    obtain rfl := Option.some.inj hend
    simpa using (List.mem_filter.mp hmem).2
  opening hnone := by cases hnone
  unfinalized event hmem := by
    rcases List.mem_append.mp hmem with hold | hnew
    · exact hlive.unfinalized event hold
    · exact (mem_flushEvents hnew).2

end Flush

section Calls

variable {startCts : Nat} {log : AscendingLog Nat}

/-- The invariant reads the buffers, the calls, and the three values that fix
the range. -/
theorem Live.congr (hlive : Live accepted session startCts log)
    (hbuffer : session'.buffer = session.buffer) (hcalls : session'.calls = session.calls)
    (hrange : session'.selectedRange = session.selectedRange)
    (hlast : session'.lastFlushedCts = session.lastFlushedCts)
    (hrequested : session'.requestedStartCts = session.requestedStartCts) :
    Live accepted session' startCts log := by
  cases session
  cases session'
  dsimp only at hbuffer hcalls hrange hlast hrequested
  subst hbuffer hcalls hrange hlast hrequested
  exact ⟨⟨hlive.written, hlive.lastFlushed, hlive.conserved, hlive.pending, hlive.first,
    hlive.keyframe, hlive.requested, hlive.accepts⟩, hlive.range, hlive.keyed,
    hlive.fromStart, hlive.discarded, hlive.opening, hlive.unfinalized⟩

/-- A stable flush leaves the log or appends one common batch up to the
watermark, or it fails the session. -/
theorem Live.flushStablePackets {ok : Bool} (hlive : Live accepted session startCts log)
    (h : session.flushStablePackets = (ok, session')) :
    (ok = false ∧ session'.state = .failed) ∨
    (ok = true ∧ session'.state = session.state ∧ ∃ log', Live accepted session' startCts log' ∧
      Appends session startCts session.runningWatermark log log') := by
  rcases flushStablePackets_cases h with
    ⟨rfl, rfl, hend⟩ | ⟨cts, hend, ⟨rfl, hfailed⟩ | ⟨rfl, range, hrange, hstart, hselect, rfl⟩⟩
  · refine Or.inr ⟨rfl, rfl, log, hlive.congr rfl rfl rfl rfl rfl, .nothing ?_⟩
    intro upper hupper next hle habove hhead
    obtain ⟨cts, hselect, hnext⟩ := hhead.exists_end hlive.keyed hle session.inferredStep
    obtain ⟨last, hlast, hbelow⟩ :=
      le_last_of_stableEnd_eq_none hend hlive.range hupper hselect
    have hlt := habove last (hlive.lastFlushed ▸ hlast)
    omega
  · exact Or.inl ⟨rfl, hfailed.state⟩
  · obtain rfl : range = ⟨startCts, startCts⟩ := Option.some.inj (hrange.symm.trans hlive.range)
    obtain ⟨_, _, watermark, hwatermark, hinitial, hlast⟩ := stableEnd_eq_some hend
    have hbatch := hlive.commonBatch hselect
    have hupper : cts ≤ watermark := selectCommonPrefixEnd_le hinitial
    exact Or.inr ⟨rfl, rfl, hlive.logAfter hlast hbatch, hlive.flushed hlast hbatch,
      .batch hbatch hwatermark hupper rfl⟩

/-- A packet below the start is accepted and dropped. -/
theorem Live.drop {stream : RecordingStream} {packet : EncodedPacket}
    (hlive : Live accepted session startCts log) (hbelow : packet.sourceCts < startCts) :
    Live (accept accepted stream packet) session startCts log where
  toRecorded := { hlive.toRecorded with
    conserved := by
      intro other
      by_cases h : other = stream
      · subst h
        have hnone : [packet].filter (fun packet => startCts ≤ packet.sourceCts) = [] := by
          simpa using hbelow
        rw [accept_self, List.filter_append, hnone, List.append_nil]
        exact hlive.conserved other
      · rw [accept_of_ne _ _ h]
        exact hlive.conserved other
    keyframe := by
      intro other
      obtain ⟨opener, hmem, hopener⟩ := hlive.keyframe other
      exact ⟨opener, mem_accept hmem, hopener⟩ }
  range := hlive.range
  keyed := hlive.keyed
  fromStart := hlive.fromStart
  discarded := hlive.discarded
  opening := hlive.opening
  unfinalized := hlive.unfinalized

/-- The other stream's buffer is untouched; the stream's own gains one packet. -/
theorem admitted_snapshot {stream : RecordingStream} {packet : EncodedPacket}
    {buffer : EncodedPacketBuffer}
    (hpush : (session.buffer.get stream).push packet = (.retained, buffer))
    (other : RecordingStream) :
    (((session.admitted stream packet buffer).buffer.get other).snapshot).Perm
      ((if other = stream then [packet] else []) ++ (session.buffer.get other).snapshot) := by
  rw [admitted_buffer]
  by_cases h : other = stream
  · subst h
    rw [PerStream.get_set_self, if_pos rfl]
    exact EncodedPacketBuffer.snapshot_push hpush
  · rw [PerStream.get_set_of_ne _ _ h, if_neg h]
    exact List.Perm.refl _

theorem admitted_keyed {stream : RecordingStream} {packet : EncodedPacket}
    {buffer : EncodedPacketBuffer}
    (hpush : (session.buffer.get stream).push packet = (.retained, buffer))
    (hkeyed : ∀ stream, (session.buffer.get stream).Keyed) (other : RecordingStream) :
    ((session.admitted stream packet buffer).buffer.get other).Keyed := by
  rw [admitted_buffer]
  by_cases h : other = stream
  · subst h
    rw [PerStream.get_set_self]
    exact (hkeyed other).push hpush
  · rw [PerStream.get_set_of_ne _ _ h]
    exact hkeyed other

theorem accept_eq_append (stream : RecordingStream) (packet : EncodedPacket)
    (other : RecordingStream) :
    accept accepted stream packet other =
      accepted other ++ (if other = stream then [packet] else []) := by
  by_cases h : other = stream
  · subst h
    rw [accept_self, if_pos rfl]
  · rw [accept_of_ne _ _ h, if_neg h, List.append_nil]

theorem mem_admitted_snapshot {stream : RecordingStream} {packet : EncodedPacket}
    {buffer : EncodedPacketBuffer}
    (hpush : (session.buffer.get stream).push packet = (.retained, buffer))
    {other : RecordingStream} {held : EncodedPacket}
    (hmem : held ∈ ((session.admitted stream packet buffer).buffer.get other).snapshot) :
    held = packet ∨ held ∈ (session.buffer.get other).snapshot := by
  rw [(admitted_snapshot hpush other).mem_iff, List.mem_append] at hmem
  refine hmem.imp_left (fun hnew => ?_)
  split_ifs at hnew
  · exact List.mem_singleton.mp hnew
  · cases hnew

/-- An admitted packet is one more that waits above the end of the log. -/
theorem Live.admission {stream : RecordingStream} {packet : EncodedPacket}
    {buffer : EncodedPacketBuffer} (hlive : Live accepted session startCts log)
    (hpush : (session.buffer.get stream).push packet = (.retained, buffer))
    (hstart : startCts ≤ packet.sourceCts)
    (hlast : ∀ last ∈ session.lastFlushedCts, last < packet.sourceCts) :
    Live (accept accepted stream packet) (session.admitted stream packet buffer) startCts
      log where
  written stream' := by
    rw [writtenCts, admitted_calls]
    exact hlive.written stream'
  lastFlushed := by rw [admitted_lastFlushedCts, hlive.lastFlushed]
  conserved other := by
    have hrest := (admitted_snapshot hpush other).filter
      (fun packet => decide (∀ last ∈ session.lastFlushedCts, last < packet.sourceCts))
    rw [List.filter_append] at hrest
    have hnew : (if other = stream then [packet] else []).filter
        (fun packet => decide (∀ last ∈ session.lastFlushedCts, last < packet.sourceCts)) =
        (if other = stream then [packet] else []).filter
          (fun packet => startCts ≤ packet.sourceCts) := by
      split_ifs
      · rw [List.filter_cons_of_pos (by simpa using hlast),
          List.filter_cons_of_pos (by simpa using hstart), List.filter_nil, List.filter_nil]
      · rfl
    rw [accept_eq_append, List.filter_append, ← hnew, unflushed, admitted_calls,
      admitted_lastFlushedCts]
    refine ((hlive.conserved other).append_right _).trans ?_
    rw [List.append_assoc]
    exact List.Perm.append_left _ (List.perm_append_comm.trans hrest.symm)
  pending other held hmem last hend := by
    rcases mem_admitted_snapshot hpush (List.mem_of_mem_filter hmem) with rfl | hold
    · exact hlast last (hlive.lastFlushed ▸ hend)
    · rw [unflushed, List.mem_filter] at hmem
      have habove := of_decide_eq_true hmem.2
      rw [admitted_lastFlushedCts, hlive.lastFlushed] at habove
      exact habove last hend
  first := hlive.first
  keyframe other := by
    obtain ⟨opener, hmem, hopener⟩ := hlive.keyframe other
    exact ⟨opener, mem_accept hmem, hopener⟩
  requested := by
    rw [admitted_requestedStartCts]
    exact hlive.requested
  accepts := by
    rw [admitted_calls]
    exact hlive.accepts
  range := by rw [admitted_selectedRange, hlive.range]
  keyed := admitted_keyed hpush hlive.keyed
  fromStart other held hmem := by
    rcases mem_admitted_snapshot hpush hmem with rfl | hold
    · exact hstart
    · exact hlive.fromStart other held hold
  discarded other held hmem last hend := by
    rw [admitted_lastFlushedCts] at hend
    rcases mem_admitted_snapshot hpush hmem with rfl | hold
    · have hbound := held.sourceCts_lt
      have habove := hlast last hend
      rw [uint64Succ, Nat.mod_eq_of_lt (by omega)]
      exact habove
    · exact hlive.discarded other held hold last hend
  opening hnone other := by
    rw [admitted_lastFlushedCts] at hnone
    obtain ⟨opener, hmem, hopener⟩ := hlive.opening hnone other
    refine ⟨opener, ?_, hopener⟩
    rw [(admitted_snapshot hpush other).mem_iff]
    exact List.mem_append_right _ hmem
  unfinalized := by
    rw [admitted_calls]
    exact hlive.unfinalized

theorem Waiting.admission {stream : RecordingStream} {packet : EncodedPacket}
    {buffer : EncodedPacketBuffer} (hwaiting : Waiting accepted session)
    (hpush : (session.buffer.get stream).push packet = (.retained, buffer)) :
    Waiting (accept accepted stream packet) (session.admitted stream packet buffer) where
  range := by rw [admitted_selectedRange, hwaiting.range]
  lastFlushed := by rw [admitted_lastFlushedCts, hwaiting.lastFlushed]
  calls := by rw [admitted_calls, hwaiting.calls]
  keyed := admitted_keyed hpush hwaiting.keyed
  conserved other := by
    rw [accept_eq_append]
    exact List.perm_append_comm.trans
      (((hwaiting.conserved other).append_left _).trans (admitted_snapshot hpush other).symm)

@[simp] theorem opened_buffer (range : CommonPacketRange) (stream : RecordingStream) :
    ((session.opened range).buffer.get stream).packets =
      (session.buffer.get stream).packets.eraseBefore range.startCts := by
  cases stream <;> rfl

/-- The session that has just opened its sinks is live, with an empty log. -/
theorem Waiting.opened {range : CommonPacketRange} (hwaiting : Waiting accepted session)
    (hrange : (selectCommonStart session.buffer.a session.buffer.b
      session.requestedStartCts).range = some range) :
    Live accepted (session.opened range) range.startCts .empty := by
  obtain ⟨hrequested, hsingle, hkeyA, hkeyB⟩ :=
    selectCommonStart_eq_some (hwaiting.keyed .B) hrange
  have hsnapshot (stream : RecordingStream) :
      ((session.opened range).buffer.get stream).snapshot =
        (session.buffer.get stream).snapshot.filter
          (fun packet => range.startCts ≤ packet.sourceCts) := by
    rw [← (hwaiting.keyed stream).snapshot_discardBefore, EncodedPacketBuffer.snapshot,
      opened_buffer, EncodedPacketBuffer.snapshot, EncodedPacketBuffer.packets_discardBefore]
  have hkeyframe (stream : RecordingStream) : ∃ packet ∈ (session.buffer.get stream).snapshot,
      packet.sourceCts = range.startCts ∧ packet.keyframe = true := by
    cases stream with
    | A => exact hkeyA
    | B => exact hkeyB
  have hcalls : (session.opened range).calls =
      [⟨.A, .open session.streamConfig.a range.startCts, true⟩,
        ⟨.B, .open session.streamConfig.b range.startCts, true⟩] := by
    have happend : (session.opened range).calls = session.calls ++ _ := rfl
    rw [happend, hwaiting.calls, List.nil_append]
  have hwritten (stream : RecordingStream) :
      writtenPackets (session.opened range).calls stream = [] := by
    rw [hcalls]
    rfl
  have hlast : (session.opened range).lastFlushedCts = none := hwaiting.lastFlushed
  exact {
    written := fun stream => by rw [writtenCts, hwritten]; exact List.Perm.refl _
    lastFlushed := hlast
    conserved := fun stream => by
      have hall : (session.opened range).unflushed stream =
          ((session.opened range).buffer.get stream).snapshot := by
        rw [unflushed, hlast]
        exact List.filter_eq_self.mpr (by simp)
      rw [hwritten, hall, List.nil_append, hsnapshot]
      exact (hwaiting.conserved stream).filter _
    pending := by simp
    first := by simp
    keyframe := fun stream => by
      obtain ⟨packet, hmem, hpacket⟩ := hkeyframe stream
      exact ⟨packet, (hwaiting.conserved stream).mem_iff.mpr hmem, hpacket⟩
    requested := hrequested
    accepts := by simp [hcalls]
    range := by
      have hselected : (session.opened range).selectedRange = some range := rfl
      rw [hselected]
      exact congrArg some (by cases range; simp_all)
    keyed := fun stream => (hwaiting.keyed stream).of_packets (by
      intro e he
      rw [opened_buffer, OrderedMap.entries_eraseBefore] at he
      exact List.mem_of_mem_filter he)
    fromStart := fun stream packet hmem => by
      rw [hsnapshot] at hmem
      simpa using (List.mem_filter.mp hmem).2
    discarded := by simp [hlast]
    opening := fun _ stream => by
      obtain ⟨packet, hmem, hcts, _⟩ := hkeyframe stream
      refine ⟨packet, ?_, hcts⟩
      rw [hsnapshot, List.mem_filter]
      exact ⟨hmem, by simpa using hcts.ge⟩
    unfinalized := by simp [hcalls] }

/-- A finished session: both files hold the log, and both sinks were finalized
with the same end. The end is the last entry of the log unless the greatest
representable CTS was accepted, above which nothing can be discarded. -/
structure Finished (accepted : RecordingStream → List EncodedPacket)
    (session : SynchronizedRecordingSession) (startCts endCts : Nat) (log : AscendingLog Nat) :
    Prop where
  recorded : ∃ rest, Recorded accepted rest session startCts log
  range : session.selectedRange = some ⟨startCts, endCts⟩
  finalized : ∀ stream, ⟨stream, .finalize endCts, true⟩ ∈ session.calls
  sameEnd : ∀ event ∈ session.calls, ∀ cts, event.call = .finalize cts → cts = endCts
  ends : (∀ stream, ∀ packet ∈ accepted stream, packet.sourceCts + 1 < uint64Size) →
    log.last? = some endCts

theorem Live.last_accepted {last : Nat} (hlive : Live accepted session startCts log)
    (hlast : last ∈ log.last?) (stream : RecordingStream) :
    ∃ packet ∈ accepted stream, packet.sourceCts = last := by
  have hwritten := (hlive.written stream).mem_iff.mpr (AscendingLog.last?_mem hlast)
  obtain ⟨packet, hmem, hcts⟩ := List.mem_map.mp hwritten
  have hkept := (hlive.conserved stream).mem_iff.mpr (List.mem_append_left _ hmem)
  exact ⟨packet, List.mem_of_mem_filter hkept, hcts⟩

/-- A drain that has nothing to flush ends at the last flushed CTS, because
the candidate it would prefer lies above it. -/
theorem Live.drainEnd_eq_last {last : Nat} (hlive : Live accepted session startCts log)
    (hlast : last ∈ session.lastFlushedCts) (hle : session.drainEnd startCts ≤ last)
    (hbound : ∀ stream, ∀ packet ∈ accepted stream, packet.sourceCts + 1 < uint64Size) :
    session.drainEnd startCts = last := by
  unfold drainEnd at hle ⊢
  dsimp only at hle ⊢
  cases hcandidate : selectCommonPrefixEnd session.buffer.a session.buffer.b startCts
      session.requestedStopCts session.sourceCtsStep with
  | none =>
      rw [hlast]
      rfl
  | some candidate =>
      rw [hcandidate] at hle
      obtain ⟨_, _, _, hends, _⟩ :=
        selectCommonPrefixEnd_eq_some (hlive.keyed .A) (hlive.keyed .B) hcandidate
      have hheld := List.mem_of_mem_filter (List.mem_of_getLast? hends)
      obtain ⟨⟨packet, hmem, rfl⟩, _⟩ := EncodedPacketBuffer.mem_ctsFrom.mp hheld
      have hkept := hlive.discarded .A packet hmem last hlast
      obtain ⟨written, hwritten, rfl⟩ := hlive.last_accepted (hlive.lastFlushed ▸ hlast) .A
      have hroom := hbound .A written hwritten
      have hsucc : uint64Succ written.sourceCts = written.sourceCts + 1 :=
        Nat.mod_eq_of_lt hroom
      simp only [Option.getD_some] at hle
      omega

/-- A drain flushes nothing above the requested stop. -/
theorem drainEnd_le (hlast : ∀ last ∈ session.lastFlushedCts, last < session.drainEnd startCts) :
    session.drainEnd startCts ≤ session.requestedStopCts := by
  unfold drainEnd at hlast ⊢
  dsimp only at hlast ⊢
  cases hcandidate : selectCommonPrefixEnd session.buffer.a session.buffer.b startCts
      session.requestedStopCts session.sourceCtsStep with
  | some candidate => exact selectCommonPrefixEnd_le hcandidate
  | none =>
      rw [hcandidate] at hlast
      cases hflushed : session.lastFlushedCts with
      | none => exact Nat.zero_le _
      | some last =>
          have habove := hlast last hflushed
          simp [hflushed] at habove

/-- Finalizing a live session finishes it. -/
theorem Live.finalizeAt {endCts : Nat} (hlive : Live accepted session startCts log)
    (hends : (∀ stream, ∀ packet ∈ accepted stream, packet.sourceCts + 1 < uint64Size) →
      log.last? = some endCts)
    (h : session.finalizeAt endCts = (true, session')) :
    session'.state = .stopped ∧ Finished accepted session' startCts endCts log := by
  rcases finalizeAt_cases h with
    ⟨hfalse, _⟩ | ⟨_, hstate, _, hrequested, hrange, hlast, hcalls⟩
  · cases hfalse
  have hwritten (stream : RecordingStream) :
      writtenPackets session'.calls stream = writtenPackets session.calls stream := by
    rw [hcalls, writtenPackets_append]
    exact List.append_nil _
  refine ⟨hstate, ⟨session.unflushed, ?_⟩, ?_, ?_, ?_, hends⟩
  · exact {
      written := fun stream => by
        rw [writtenCts, hwritten]
        exact hlive.written stream
      lastFlushed := hlast.trans hlive.lastFlushed
      conserved := fun stream => by
        rw [hwritten]
        exact hlive.conserved stream
      pending := hlive.pending
      first := hlive.first
      keyframe := hlive.keyframe
      requested := hrequested ▸ hlive.requested
      accepts := fun event hmem => by
        rw [hcalls, List.mem_append] at hmem
        rcases hmem with hold | hnew
        · exact hlive.accepts event hold
        · simp only [List.mem_cons, List.not_mem_nil, or_false] at hnew
          rcases hnew with rfl | rfl <;> rfl }
  · rw [hrange, hlive.range]
    rfl
  · intro stream
    rw [hcalls]
    cases stream <;> simp
  · intro event hmem cts hcall
    rw [hcalls, List.mem_append] at hmem
    rcases hmem with hold | hnew
    · exact absurd hcall (hlive.unfinalized event hold cts)
    · simp only [List.mem_cons, List.not_mem_nil, or_false] at hnew
      rcases hnew with rfl | rfl <;> exact (SinkCall.finalize.inj hcall).symm

/-- A drain appends at most one common batch up to the requested stop and
finishes the session, or it fails it. -/
theorem Live.completeDrain {ok : Bool} (hlive : Live accepted session startCts log)
    (hstate : session.state = .draining) (h : session.completeDrain = (ok, session')) :
    session'.state = .failed ∨
    ∃ log', Appends session startCts (some session.requestedStopCts) log log' ∧
      session'.state = .stopped ∧ ∃ endCts, Finished accepted session' startCts endCts log' := by
  rcases completeDrain_cases hstate hlive.range h with
    ⟨_, hfailed⟩ | ⟨_, ⟨_, hflush⟩ | ⟨middle, hflush, hfinal⟩⟩
  · exact Or.inl hfailed.state
  · exact Or.inl (flushThrough_false hflush).state
  by_cases hok : ok = true
  swap
  · rw [Bool.not_eq_true] at hok
    exact Or.inl (finalizeAt_false (hok ▸ hfinal)).state
  rw [hok] at hfinal
  rcases flushThrough_cases hflush with
    ⟨hfalse, _⟩ | ⟨_, rfl, last, hlast, hle⟩ | ⟨_, range, hrange, _, hlast, hselect, rfl⟩
  · cases hfalse
  · obtain ⟨hstopped, hfinished⟩ := hlive.finalizeAt (fun hbound => by
      rw [hlive.drainEnd_eq_last hlast hle hbound, ← hlive.lastFlushed]
      exact hlast) hfinal
    refine Or.inr ⟨log, .nothing ?_, hstopped, _, hfinished⟩
    intro upper hupper next hbelow habove hhead
    obtain rfl := Option.some.inj hupper
    obtain ⟨cts, hselect, hnext⟩ := hhead.exists_end hlive.keyed hbelow middle.sourceCtsStep
    have hdrain : middle.drainEnd startCts = cts := by
      rw [drainEnd, hselect]
      rfl
    have hend : middle.drainEnd startCts ≤ last := hle
    have hlt := habove last (hlive.lastFlushed ▸ hlast)
    omega
  · obtain rfl : range = ⟨startCts, startCts⟩ := Option.some.inj (hrange.symm.trans hlive.range)
    have hbatch := hlive.commonBatch hselect
    obtain ⟨hstopped, hfinished⟩ := (hlive.flushed hlast hbatch).finalizeAt
      (fun _ => AscendingLog.last?_extend hbatch.ends) hfinal
    exact Or.inr ⟨hlive.logAfter hlast hbatch,
      .batch hbatch rfl (drainEnd_le hlast) rfl, hstopped, _, hfinished⟩

end Calls

end SynchronizedRecordingSession

end ObsSyncReplay
