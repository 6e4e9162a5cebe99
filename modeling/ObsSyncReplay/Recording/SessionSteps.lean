import ObsSyncReplay.Recording.SynchronizedRecordingSession

/-!
What each function of the recording session can do. A function that is long in
the source gets one lemma that lists its outcomes, guards included; the
invariants are proved from these lists and never unfold the functions.
-/

namespace ObsSyncReplay

namespace SynchronizedRecordingSession

variable {session session' : SynchronizedRecordingSession}

/-! ### Calls on the sinks only extend the record of calls -/

@[simp] theorem record_nil : session.record [] = session := by
  simp [record]

@[simp] theorem record_record (first second : List SinkEvent) :
    (session.record first).record second = session.record (first ++ second) := by
  simp [record]

@[simp] theorem calls_record (events : List SinkEvent) :
    (session.record events).calls = session.calls ++ events := rfl

theorem callSink_true {stream : RecordingStream} {request : SinkCall}
    (h : session.callSink stream request = (true, session')) :
    session' = session.record [⟨stream, request, true⟩] := by
  unfold callSink at h
  split at h
  · cases h
  · obtain ⟨haccepted, rfl⟩ := Prod.mk.inj h
    rw [haccepted]

theorem callSink_false {stream : RecordingStream} {request : SinkCall}
    (h : session.callSink stream request = (false, session')) :
    ∃ events, session' = session.record events ∧
      ∀ event ∈ events, event = ⟨stream, request, false⟩ := by
  unfold callSink at h
  split at h
  · obtain ⟨_, rfl⟩ := Prod.mk.inj h
    exact ⟨[], by simp, by simp⟩
  · obtain ⟨haccepted, rfl⟩ := Prod.mk.inj h
    exact ⟨_, rfl, by simp [haccepted]⟩

theorem callBoth_true {requestA requestB : SinkCall}
    (h : session.callBoth requestA requestB = (true, session')) :
    session' = session.record [⟨.A, requestA, true⟩, ⟨.B, requestB, true⟩] := by
  unfold callBoth at h
  split at h
  · cases h
  · rename_i middle hA
    rw [callSink_true h, callSink_true hA]
    simp

theorem callBoth_false {requestA requestB : SinkCall}
    (h : session.callBoth requestA requestB = (false, session')) :
    ∃ events, session' = session.record events ∧
      ∀ event ∈ events, event.call = requestA ∨ event.call = requestB := by
  unfold callBoth at h
  split at h
  · rename_i middle hA
    obtain ⟨events, hmiddle, hevents⟩ := callSink_false hA
    obtain ⟨_, rfl⟩ := Prod.mk.inj h
    exact ⟨events, hmiddle, fun event hmem => Or.inl (by rw [hevents event hmem])⟩
  · rename_i middle hA
    obtain ⟨events, rfl, hevents⟩ := callSink_false h
    refine ⟨⟨.A, requestA, true⟩ :: events, by rw [callSink_true hA]; simp, ?_⟩
    intro event hmem
    rcases List.mem_cons.mp hmem with rfl | hmem
    · exact Or.inl rfl
    · exact Or.inr (by rw [hevents event hmem])

theorem writeAll_true {stream : RecordingStream} {packets : List EncodedPacket}
    (h : writeAll stream packets session = (true, session')) :
    session' = session.record (writeEvents stream packets) := by
  induction packets generalizing session with
  | nil =>
      obtain ⟨_, rfl⟩ := Prod.mk.inj h
      simp [writeEvents]
  | cons packet packets ih =>
      unfold writeAll at h
      split at h
      · cases h
      · rename_i middle hcall
        rw [ih h, callSink_true hcall]
        simp [writeEvents]

theorem writeAll_false {stream : RecordingStream} {packets : List EncodedPacket}
    (h : writeAll stream packets session = (false, session')) :
    ∃ events, session' = session.record events ∧
      ∀ event ∈ events, ∃ packet ∈ packets, event.call = .write packet := by
  induction packets generalizing session with
  | nil => cases h
  | cons packet packets ih =>
      unfold writeAll at h
      split at h
      · rename_i middle hcall
        obtain ⟨events, rfl, hevents⟩ := callSink_false hcall
        obtain ⟨_, rfl⟩ := Prod.mk.inj h
        exact ⟨events, rfl, fun event hmem =>
          ⟨packet, List.mem_cons_self, by rw [hevents event hmem]⟩⟩
      · rename_i middle hcall
        obtain ⟨events, rfl, hevents⟩ := ih h
        refine ⟨⟨stream, .write packet, true⟩ :: events,
          by rw [callSink_true hcall]; simp, ?_⟩
        intro event hmem
        rcases List.mem_cons.mp hmem with rfl | hmem
        · exact ⟨packet, List.mem_cons_self, rfl⟩
        · obtain ⟨written, hwritten, hcall⟩ := hevents event hmem
          exact ⟨written, List.mem_cons_of_mem packet hwritten, hcall⟩

theorem writeSelected_true {sourceCts : Nat} {selected : PerStream (List EncodedPacket)}
    (h : session.writeSelected sourceCts selected = (true, session')) :
    session' = session.record (writeEvents .A selected.a ++ writeEvents .B selected.b ++
      [⟨.A, .commitThrough sourceCts, true⟩, ⟨.B, .commitThrough sourceCts, true⟩]) := by
  unfold writeSelected at h
  split at h
  · cases h
  · rename_i afterA hA
    split at h
    · cases h
    · rename_i afterB hB
      rw [callBoth_true h, writeAll_true hB, writeAll_true hA]
      simp

/-- Writes among `events` are of packets up to `bound`. -/
def WritesUpTo (bound : Nat) (events : List SinkEvent) : Prop :=
  ∀ event ∈ events, ∀ packet, event.call = .write packet → packet.sourceCts ≤ bound

theorem WritesUpTo.append {bound : Nat} {first second : List SinkEvent}
    (h : WritesUpTo bound first) (h' : WritesUpTo bound second) :
    WritesUpTo bound (first ++ second) := by
  intro event hmem packet hcall
  rcases List.mem_append.mp hmem with hfirst | hsecond
  · exact h event hfirst packet hcall
  · exact h' event hsecond packet hcall

theorem WritesUpTo.mono {bound bound' : Nat} {events : List SinkEvent}
    (h : WritesUpTo bound events) (hle : bound ≤ bound') : WritesUpTo bound' events :=
  fun event hmem packet hcall => (h event hmem packet hcall).trans hle

theorem writesUpTo_of_no_write {bound : Nat} {events : List SinkEvent}
    (h : ∀ event ∈ events, ∀ packet, event.call ≠ .write packet) :
    WritesUpTo bound events :=
  fun event hmem packet hcall => absurd hcall (h event hmem packet)

theorem writesUpTo_writeEvents {bound : Nat} (stream : RecordingStream)
    {packets : List EncodedPacket} (h : ∀ packet ∈ packets, packet.sourceCts ≤ bound) :
    WritesUpTo bound (writeEvents stream packets) := by
  intro event hmem packet hcall
  obtain ⟨written, hwritten, rfl⟩ := List.mem_map.mp hmem
  obtain rfl : written = packet := SinkCall.write.inj hcall
  exact h written hwritten

theorem writeSelected_false {sourceCts : Nat} {selected : PerStream (List EncodedPacket)}
    (h : session.writeSelected sourceCts selected = (false, session'))
    (hselected : ∀ stream, ∀ packet ∈ selected.get stream, packet.sourceCts ≤ sourceCts) :
    ∃ events, session' = session.record events ∧ WritesUpTo sourceCts events := by
  have hwrite (stream : RecordingStream) {events : List SinkEvent}
      (hevents : ∀ event ∈ events, ∃ packet ∈ selected.get stream,
        event.call = .write packet) : WritesUpTo sourceCts events := by
    intro event hmem packet hcall
    obtain ⟨written, hwritten, hcall'⟩ := hevents event hmem
    obtain rfl : written = packet := SinkCall.write.inj (hcall'.symm.trans hcall)
    exact hselected stream written hwritten
  unfold writeSelected at h
  split at h
  · rename_i middle hA
    obtain ⟨events, rfl, hevents⟩ := writeAll_false hA
    obtain ⟨_, rfl⟩ := Prod.mk.inj h
    exact ⟨events, rfl, hwrite .A hevents⟩
  · rename_i afterA hA
    have hwritesA := writesUpTo_writeEvents .A (hselected .A)
    split at h
    · rename_i middle hB
      obtain ⟨events, rfl, hevents⟩ := writeAll_false hB
      obtain ⟨_, rfl⟩ := Prod.mk.inj h
      refine ⟨_, by rw [writeAll_true hA, record_record], ?_⟩
      exact hwritesA.append (hwrite .B hevents)
    · rename_i afterB hB
      have hwritesB := writesUpTo_writeEvents .B (hselected .B)
      obtain ⟨events, rfl, hevents⟩ := callBoth_false h
      refine ⟨_, by rw [writeAll_true hB, writeAll_true hA, record_record, record_record], ?_⟩
      refine hwritesA.append (hwritesB.append (writesUpTo_of_no_write ?_))
      intro event hmem packet hcall
      rcases hevents event hmem with hcommit | hcommit <;> simp [hcommit] at hcall

theorem abortSinks_eq_record (session : SynchronizedRecordingSession) :
    ∃ events, session.abortSinks = session.record events ∧
      ∀ event ∈ events, event.call = .abort := by
  have hone (session : SynchronizedRecordingSession) (stream : RecordingStream) :
      ∃ events, session.abortSink stream = session.record events ∧
        ∀ event ∈ events, event.call = .abort := by
    unfold abortSink
    split
    · exact ⟨[], by simp, by simp⟩
    · exact ⟨_, rfl, by simp⟩
  obtain ⟨first, hfirst, habort⟩ := hone session .A
  obtain ⟨second, hsecond, habort'⟩ := hone (session.abortSink .A) .B
  refine ⟨first ++ second, by rw [abortSinks, hsecond, hfirst, record_record], ?_⟩
  intro event hmem
  rcases List.mem_append.mp hmem with h | h
  · exact habort event h
  · exact habort' event h

/-- The calls made between `session` and `session'` wrote nothing above `bound`. -/
def WroteUpTo (bound : Nat) (session session' : SynchronizedRecordingSession) : Prop :=
  ∃ events, session'.calls = session.calls ++ events ∧ WritesUpTo bound events

theorem WroteUpTo.of_calls_eq {bound : Nat} (h : session'.calls = session.calls) :
    WroteUpTo bound session session' :=
  ⟨[], by simpa using h, by simp [WritesUpTo]⟩

theorem WroteUpTo.mono {bound bound' : Nat} (h : WroteUpTo bound session session')
    (hle : bound ≤ bound') : WroteUpTo bound' session session' := by
  obtain ⟨events, hcalls, hwrites⟩ := h
  exact ⟨events, hcalls, hwrites.mono hle⟩

theorem WroteUpTo.trans {bound : Nat} {session'' : SynchronizedRecordingSession}
    (h : WroteUpTo bound session session') (h' : WroteUpTo bound session' session'') :
    WroteUpTo bound session session'' := by
  obtain ⟨first, hfirst, hwrites⟩ := h
  obtain ⟨second, hsecond, hwrites'⟩ := h'
  exact ⟨first ++ second, by rw [hsecond, hfirst, List.append_assoc], hwrites.append hwrites'⟩

/-- `session'` is a failed session that came out of `session` for one of
`causes`: the calls made on the way wrote nothing above `bound`. -/
structure FailedFrom (causes : List SynchronizedRecordingFailure) (bound : Nat)
    (session session' : SynchronizedRecordingSession) : Prop where
  state : session'.state = .failed
  cause : session'.failure ∈ causes
  calls : WroteUpTo bound session session'

theorem writesUpTo_of_abort {bound : Nat} {events : List SinkEvent}
    (h : ∀ event ∈ events, event.call = .abort) : WritesUpTo bound events :=
  writesUpTo_of_no_write (fun event hmem packet hcall => by
    rw [h event hmem] at hcall
    cases hcall)

theorem fail_eq (session : SynchronizedRecordingSession) (failure : SynchronizedRecordingFailure) :
    ∃ events, session.fail failure =
      (false, { session with failure := failure, state := .failed }.record events) ∧
      ∀ event ∈ events, event.call = .abort := by
  obtain ⟨events, hrecord, habort⟩ :=
    abortSinks_eq_record { session with failure := failure, state := .failed }
  exact ⟨events, by rw [fail, hrecord], habort⟩

@[simp] theorem fail_fst (failure : SynchronizedRecordingFailure) :
    (session.fail failure).1 = false := rfl

@[simp] theorem fail_state (failure : SynchronizedRecordingFailure) :
    (session.fail failure).2.state = .failed := by
  obtain ⟨events, heq, _⟩ := fail_eq session failure
  rw [heq]
  rfl

@[simp] theorem fail_failure (failure : SynchronizedRecordingFailure) :
    (session.fail failure).2.failure = failure := by
  obtain ⟨events, heq, _⟩ := fail_eq session failure
  rw [heq]
  rfl

theorem eq_fail {failure : SynchronizedRecordingFailure} {ok : Bool}
    (h : session.fail failure = (ok, session')) :
    ok = false ∧ session' = (session.fail failure).2 := by
  rw [h]
  exact ⟨(congrArg Prod.fst h).symm, rfl⟩

/-- A failure after the calls `before`, none of them a write above `bound`. -/
theorem failedFrom_fail {causes : List SynchronizedRecordingFailure} {bound : Nat}
    {start : SynchronizedRecordingSession} {failure : SynchronizedRecordingFailure}
    (before : List SinkEvent) (hcause : failure ∈ causes)
    (hcalls : session.calls = start.calls ++ before) (hbefore : WritesUpTo bound before) :
    FailedFrom causes bound start (session.fail failure).2 := by
  obtain ⟨events, heq, habort⟩ := fail_eq session failure
  refine ⟨fail_state failure, by rwa [fail_failure], before ++ events, ?_,
    hbefore.append (writesUpTo_of_abort habort)⟩
  rw [heq]
  simp [record, hcalls]

theorem failedFrom_fail_self {causes : List SynchronizedRecordingFailure} {bound : Nat}
    {failure : SynchronizedRecordingFailure} (hcause : failure ∈ causes) :
    FailedFrom causes bound session (session.fail failure).2 :=
  failedFrom_fail [] hcause (by simp) (by simp [WritesUpTo])

/-- The packets of one stream that a flush through `sourceCts` writes. -/
def flushBatch (session : SynchronizedRecordingSession) (startCts sourceCts : Nat)
    (stream : RecordingStream) : List EncodedPacket :=
  sortForDecodeOrder (((session.buffer.get stream).snapshotThrough sourceCts).filter
    (inFlushRange startCts session.lastFlushedCts sourceCts))

def flushEvents (session : SynchronizedRecordingSession) (startCts sourceCts : Nat) :
    List SinkEvent :=
  writeEvents .A (session.flushBatch startCts sourceCts .A) ++
    writeEvents .B (session.flushBatch startCts sourceCts .B) ++
    [⟨.A, .commitThrough sourceCts, true⟩, ⟨.B, .commitThrough sourceCts, true⟩]

/-- The session after a flush through `sourceCts` that both sinks accepted. -/
def flushed (session : SynchronizedRecordingSession) (startCts sourceCts : Nat) :
    SynchronizedRecordingSession :=
  let committed := session.inferSourceCtsStep.record (session.flushEvents startCts sourceCts)
  { committed.discardBoth (uint64Succ sourceCts) with
    lastFlushedCts := some sourceCts }.updatePeakRetainedBytes

@[simp] theorem flushed_state (startCts sourceCts : Nat) :
    (session.flushed startCts sourceCts).state = session.state := rfl

@[simp] theorem flushed_calls (startCts sourceCts : Nat) :
    (session.flushed startCts sourceCts).calls =
      session.calls ++ session.flushEvents startCts sourceCts := rfl

@[simp] theorem flushed_lastFlushedCts (startCts sourceCts : Nat) :
    (session.flushed startCts sourceCts).lastFlushedCts = some sourceCts := rfl

@[simp] theorem flushed_selectedRange (startCts sourceCts : Nat) :
    (session.flushed startCts sourceCts).selectedRange = session.selectedRange := rfl

@[simp] theorem flushed_maxObservedCts (startCts sourceCts : Nat) :
    (session.flushed startCts sourceCts).maxObservedCts = session.maxObservedCts := rfl

@[simp] theorem flushed_buffer (startCts sourceCts : Nat) (stream : RecordingStream) :
    (session.flushed startCts sourceCts).buffer.get stream =
      (session.buffer.get stream).discardBefore (uint64Succ sourceCts) := by
  cases stream <;> rfl

theorem le_of_inFlushRange {startCts sourceCts : Nat} {lower : Option Nat}
    {packet : EncodedPacket} (h : inFlushRange startCts lower sourceCts packet = true) :
    startCts ≤ packet.sourceCts ∧ (∀ l ∈ lower, l < packet.sourceCts) ∧
      packet.sourceCts ≤ sourceCts := by
  simpa [inFlushRange] using h

theorem mem_flushBatch_le {startCts sourceCts : Nat} {stream : RecordingStream}
    {packet : EncodedPacket} (h : packet ∈ session.flushBatch startCts sourceCts stream) :
    packet.sourceCts ≤ sourceCts := by
  have hmem := (List.mem_insertionSort _).mp h
  exact (le_of_inFlushRange (List.mem_filter.mp hmem).2).2.2

def flushCauses : List SynchronizedRecordingFailure :=
  [.missingCommonRange, .rangeMismatch, .sinkWrite]

/-- The outcomes of `FlushThrough`: a failure, nothing to do, or a commit of
exactly the common prefix that the selection confirms. -/
theorem flushThrough_cases {sourceCts : Nat} {ok : Bool}
    (h : session.flushThrough sourceCts = (ok, session')) :
    (ok = false ∧ FailedFrom flushCauses sourceCts session session') ∨
    (ok = true ∧ session' = session ∧ ∃ last ∈ session.lastFlushedCts, sourceCts ≤ last) ∨
    (ok = true ∧ ∃ range ∈ session.selectedRange, range.startCts ≤ sourceCts ∧
      (∀ last ∈ session.lastFlushedCts, last < sourceCts) ∧
      selectCommonPrefixEnd session.buffer.a session.buffer.b range.startCts sourceCts
        session.inferredStep = some sourceCts ∧
      session' = session.flushed range.startCts sourceCts) := by
  unfold flushThrough at h
  split at h
  · obtain ⟨rfl, rfl⟩ := Prod.mk.inj h
    exact Or.inl ⟨rfl, failedFrom_fail_self (by simp [flushCauses])⟩
  rename_i range hrange
  split at h
  · obtain ⟨rfl, rfl⟩ := Prod.mk.inj h
    exact Or.inl ⟨rfl, failedFrom_fail_self (by simp [flushCauses])⟩
  rename_i hstart
  split at h
  · rename_i hlast
    obtain ⟨rfl, rfl⟩ := Prod.mk.inj h
    exact Or.inr (Or.inl ⟨rfl, rfl, hlast⟩)
  rename_i hlast
  -- every later failure starts from a session whose calls are still the old ones
  have hfails {failure : SynchronizedRecordingFailure} (hcause : failure ∈ flushCauses) :
      FailedFrom flushCauses sourceCts session (session.inferSourceCtsStep.fail failure).2 :=
    failedFrom_fail [] hcause (by simp [inferSourceCtsStep]) (by simp [WritesUpTo])
  dsimp only at h
  split at h
  · obtain ⟨rfl, rfl⟩ := Prod.mk.inj h
    exact Or.inl ⟨rfl, hfails (by simp [flushCauses])⟩
  rename_i hinitial
  split at h
  · obtain ⟨rfl, rfl⟩ := Prod.mk.inj h
    exact Or.inl ⟨rfl, hfails (by simp [flushCauses])⟩
  split at h
  · obtain ⟨rfl, rfl⟩ := Prod.mk.inj h
    exact Or.inl ⟨rfl, hfails (by simp [flushCauses])⟩
  split at h
  · rename_i middle hwrite
    obtain ⟨rfl, rfl⟩ := Prod.mk.inj h
    obtain ⟨events, rfl, hevents⟩ := writeSelected_false hwrite (by
      intro stream packet hmem
      have hbatch : packet ∈ session.flushBatch range.startCts sourceCts stream := by
        cases stream <;> exact hmem
      exact mem_flushBatch_le hbatch)
    exact Or.inl ⟨rfl, failedFrom_fail events (by simp [flushCauses])
      (by simp [inferSourceCtsStep]) hevents⟩
  · rename_i middle hwrite
    obtain ⟨rfl, rfl⟩ := Prod.mk.inj h
    refine Or.inr (Or.inr ⟨rfl, range, hrange, not_lt.mp hstart, ?_, ?_, ?_⟩)
    · intro last hmem
      exact not_le.mp (fun hle => hlast ⟨last, hmem, hle⟩)
    · exact not_not.mp hinitial
    · rw [writeSelected_true hwrite]
      rfl

theorem flushThrough_false {sourceCts : Nat}
    (h : session.flushThrough sourceCts = (false, session')) :
    FailedFrom flushCauses sourceCts session session' := by
  rcases flushThrough_cases h with ⟨_, hfailed⟩ | ⟨hfalse, _⟩ | ⟨hfalse, _⟩
  · exact hfailed
  · cases hfalse
  · cases hfalse

theorem inferredStep_of_ne_zero (h : session.sourceCtsStep ≠ 0) :
    session.inferredStep = session.sourceCtsStep := by
  unfold inferredStep
  split
  · rfl
  · rw [if_pos h]

theorem inferredStep_infer : session.inferSourceCtsStep.inferredStep = session.inferredStep := by
  by_cases hstep : session.inferredStep = 0
  · have hzero : session.sourceCtsStep = 0 := by
      by_contra hne
      exact hne ((inferredStep_of_ne_zero hne).symm.trans hstep)
    have hsame : session.inferSourceCtsStep = session := by
      rw [inferSourceCtsStep, hstep, ← hzero]
    rw [hsame]
  · exact inferredStep_of_ne_zero hstep

theorem inferSourceCtsStep_idem :
    session.inferSourceCtsStep.inferSourceCtsStep = session.inferSourceCtsStep := by
  change { session with sourceCtsStep := session.inferSourceCtsStep.inferredStep } = _
  rw [inferredStep_infer]
  rfl

/-- The end that `FlushStablePackets` flushes through, if it flushes at all. -/
def stableEnd (session : SynchronizedRecordingSession) : Option Nat :=
  match session.selectedRange, session.runningWatermark with
  | some range, some watermark =>
      match selectCommonPrefixEnd session.buffer.a session.buffer.b range.startCts watermark
          session.inferredStep with
      | none => none
      | some commonPrefix =>
          if ∃ lastFlushedCts ∈ session.lastFlushedCts, commonPrefix ≤ lastFlushedCts then none
          else some commonPrefix
  | _, _ => none

theorem flushStablePackets_eq :
    session.flushStablePackets =
      match session.stableEnd with
      | none => (true, session.inferSourceCtsStep)
      | some commonPrefix => session.inferSourceCtsStep.flushThrough commonPrefix := by
  have hwatermark : session.inferSourceCtsStep.runningWatermark = session.runningWatermark := rfl
  have hrange : session.inferSourceCtsStep.selectedRange = session.selectedRange := rfl
  have hlast : session.inferSourceCtsStep.lastFlushedCts = session.lastFlushedCts := rfl
  have hbuffer : session.inferSourceCtsStep.buffer = session.buffer := rfl
  have hstep : session.inferSourceCtsStep.sourceCtsStep = session.inferredStep := rfl
  unfold flushStablePackets stableEnd
  dsimp only
  rw [hwatermark, hrange, hlast, hbuffer, hstep]
  cases session.selectedRange with
  | none => rfl
  | some range =>
      cases session.runningWatermark with
      | none => rfl
      | some watermark =>
          dsimp only
          cases selectCommonPrefixEnd session.buffer.a session.buffer.b range.startCts watermark
            session.inferredStep with
          | none => rfl
          | some commonPrefix =>
              dsimp only
              split_ifs <;> rfl

theorem stableEnd_eq_some {cts : Nat} (h : session.stableEnd = some cts) :
    ∃ range ∈ session.selectedRange, ∃ watermark ∈ session.runningWatermark,
      selectCommonPrefixEnd session.buffer.a session.buffer.b range.startCts watermark
        session.inferredStep = some cts ∧
      ∀ last ∈ session.lastFlushedCts, last < cts := by
  unfold stableEnd at h
  split at h
  · rename_i range watermark hrange hwatermark
    split at h
    · cases h
    · rename_i commonPrefix hinitial
      split at h
      · cases h
      · rename_i hlast
        obtain rfl : commonPrefix = cts := Option.some.inj h
        refine ⟨range, hrange, watermark, hwatermark, hinitial, ?_⟩
        intro last hmem
        exact not_le.mp (fun hle => hlast ⟨last, hmem, hle⟩)
  · cases h

/-- Nothing is stable only if the common prefix, if there is one, ends at or
below what is flushed already. -/
theorem le_last_of_stableEnd_eq_none {range : CommonPacketRange} {watermark cts : Nat}
    (h : session.stableEnd = none) (hrange : session.selectedRange = some range)
    (hwatermark : session.runningWatermark = some watermark)
    (hselect : selectCommonPrefixEnd session.buffer.a session.buffer.b range.startCts watermark
      session.inferredStep = some cts) : ∃ last ∈ session.lastFlushedCts, cts ≤ last := by
  unfold stableEnd at h
  rw [hrange, hwatermark] at h
  dsimp only at h
  rw [hselect] at h
  dsimp only at h
  by_contra hnot
  rw [if_neg hnot] at h
  cases h

/-- The watermark leaves the reorder budget below the newest common CTS. -/
theorem runningWatermark_add_le {watermark : Nat} (h : watermark ∈ session.runningWatermark) :
    watermark + session.config.reorderSafetyCts ≤
      min session.maxObservedCts.a session.maxObservedCts.b := by
  unfold runningWatermark at h
  split at h
  · cases h
  · dsimp only at h
    split_ifs at h with hsafety hstart
    · cases h
    · cases h
    · obtain rfl := Option.some.inj h
      omega

theorem failedFrom_infer {causes : List SynchronizedRecordingFailure} {bound : Nat}
    (h : FailedFrom causes bound session.inferSourceCtsStep session') :
    FailedFrom causes bound session session' :=
  ⟨h.state, h.cause, h.calls⟩

theorem flushed_infer (startCts sourceCts : Nat) :
    session.inferSourceCtsStep.flushed startCts sourceCts =
      session.flushed startCts sourceCts := by
  unfold flushed
  rw [inferSourceCtsStep_idem]
  rfl

/-- The outcomes of `FlushStablePackets`. -/
theorem flushStablePackets_cases {ok : Bool}
    (h : session.flushStablePackets = (ok, session')) :
    (ok = true ∧ session' = session.inferSourceCtsStep ∧ session.stableEnd = none) ∨
    ∃ cts, session.stableEnd = some cts ∧
      ((ok = false ∧ FailedFrom flushCauses cts session session') ∨
      (ok = true ∧ ∃ range ∈ session.selectedRange, range.startCts ≤ cts ∧
        selectCommonPrefixEnd session.buffer.a session.buffer.b range.startCts cts
          session.inferredStep = some cts ∧
        session' = session.flushed range.startCts cts)) := by
  rw [flushStablePackets_eq] at h
  cases hend : session.stableEnd with
  | none =>
      rw [hend] at h
      obtain ⟨rfl, rfl⟩ := Prod.mk.inj h
      exact Or.inl ⟨rfl, rfl, rfl⟩
  | some cts =>
      rw [hend] at h
      refine Or.inr ⟨cts, rfl, ?_⟩
      obtain ⟨_, _, _, _, _, habove⟩ := stableEnd_eq_some hend
      rcases flushThrough_cases h with
        ⟨rfl, hfailed⟩ | ⟨_, _, last, hlast, hle⟩ |
        ⟨rfl, range, hrange, hstart, _, hselect, rfl⟩
      · exact Or.inl ⟨rfl, failedFrom_infer hfailed⟩
      · exact absurd hle (not_le.mpr (habove last hlast))
      · refine Or.inr ⟨rfl, range, hrange, hstart, ?_, flushed_infer _ _⟩
        rwa [inferredStep_infer] at hselect

theorem flushStablePackets_true (h : session.flushStablePackets = (true, session')) :
    session'.state = session.state := by
  rcases flushStablePackets_cases h with
    ⟨_, rfl, _⟩ | ⟨_, _, ⟨hfalse, _⟩ | ⟨_, _, _, _, _, rfl⟩⟩
  · rfl
  · cases hfalse
  · rfl

theorem flushStablePackets_false (h : session.flushStablePackets = (false, session')) :
    session'.state = .failed := by
  rcases flushStablePackets_cases h with ⟨hfalse, _⟩ | ⟨_, _, ⟨_, hfailed⟩ | ⟨hfalse, _⟩⟩
  · cases hfalse
  · exact hfailed.state
  · cases hfalse

def sizeTails (session : SynchronizedRecordingSession) : SynchronizedRecordingSession :=
  { session with
    buffer := session.buffer.map (fun buffer : EncodedPacketBuffer =>
      { buffer with capacityBytes := session.config.tailCapacityBytes }) }

theorem setTailCapacity_true (h : session.setTailCapacity = (true, session')) :
    session' = session.sizeTails := by
  unfold setTailCapacity at h
  split at h
  · cases h
  · rename_i bufferA hA
    cases hB : session.buffer.b.setCapacityBytes session.config.tailCapacityBytes with
    | mk accepted bufferB =>
        rw [hB] at h
        obtain ⟨rfl, rfl⟩ := Prod.mk.inj h
        rw [EncodedPacketBuffer.setCapacityBytes_true hA,
          EncodedPacketBuffer.setCapacityBytes_true hB]
        rfl

theorem setTailCapacity_calls (session : SynchronizedRecordingSession) :
    session.setTailCapacity.2.calls = session.calls := by
  unfold setTailCapacity
  split <;> rfl

/-- The session that has taken `range` as its start and whose sinks are open,
just before it flushes what is already stable. -/
def opened (session : SynchronizedRecordingSession) (range : CommonPacketRange) :
    SynchronizedRecordingSession :=
  let cut := ({ session with selectedRange := some range }.discardBoth range.startCts).sizeTails
  let asked := cut.record
    [⟨.A, .open session.streamConfig.a range.startCts, true⟩,
      ⟨.B, .open session.streamConfig.b range.startCts, true⟩]
  { { asked with
      maxObservedCts := asked.buffer.map (newestCts range.startCts) }.inferSourceCtsStep with
    state := .running }

def startCauses : List SynchronizedRecordingFailure := [.bufferCapacity, .sinkOpen]

/-- The packets from `range` on fit the tail, and both sinks accept to open at its start. -/
def opens (session : SynchronizedRecordingSession) (range : CommonPacketRange) : Bool :=
  let sized := ({ session with selectedRange := some range }.discardBoth
    range.startCts).setTailCapacity
  sized.1 && (sized.2.callBoth (.open sized.2.streamConfig.a range.startCts)
    (.open sized.2.streamConfig.b range.startCts)).1

/-- A common start either cannot be taken up, or the stable flush follows it. -/
theorem establishCommonStart_of_range {range : CommonPacketRange} {ok : Bool}
    (hstate : session.state = .starting)
    (hrange : (selectCommonStart session.buffer.a session.buffer.b
      session.requestedStartCts).range = some range)
    (h : session.establishCommonStart = (ok, session')) :
    (ok = false ∧ session.opens range = false ∧ FailedFrom startCauses 0 session session') ∨
      (session.opens range = true ∧ (session.opened range).flushStablePackets = (ok, session')) := by
  unfold establishCommonStart at h
  rw [if_neg (by simp [hstate]), hrange] at h
  dsimp only at h
  split at h
  · rename_i middle hcapacity
    obtain ⟨rfl, rfl⟩ := Prod.mk.inj h
    have hcalls := setTailCapacity_calls
      ({ session with selectedRange := some range }.discardBoth range.startCts)
    rw [hcapacity] at hcalls
    exact Or.inl ⟨rfl, by simp [opens, hcapacity], failedFrom_fail [] (by simp [startCauses])
      (hcalls.trans (List.append_nil _).symm) (by simp [WritesUpTo])⟩
  rename_i middle hcapacity
  split at h
  · rename_i asked hopen
    obtain ⟨rfl, rfl⟩ := Prod.mk.inj h
    have hrefused : session.opens range = false := by
      rw [opens, hcapacity, Bool.true_and]
      exact congrArg Prod.fst hopen
    obtain rfl := setTailCapacity_true hcapacity
    obtain ⟨events, rfl, hevents⟩ := callBoth_false hopen
    obtain ⟨aborts, habort, haborts⟩ := abortSinks_eq_record
      ((({ session with selectedRange := some range }.discardBoth
        range.startCts).sizeTails).record events)
    refine Or.inl ⟨rfl, hrefused, failedFrom_fail (events ++ aborts) (by simp [startCauses]) ?_ ?_⟩
    · rw [habort, record_record]
      rfl
    · refine (writesUpTo_of_no_write ?_).append (writesUpTo_of_abort haborts)
      intro event hmem packet hcall
      rcases hevents event hmem with hsink | hsink <;> simp [hsink] at hcall
  · rename_i asked hopen
    have haccepted : session.opens range = true := by
      rw [opens, hcapacity, Bool.true_and]
      exact congrArg Prod.fst hopen
    obtain rfl := setTailCapacity_true hcapacity
    obtain rfl := callBoth_true hopen
    exact Or.inr ⟨haccepted, h⟩

theorem establishCommonStart_cases {ok : Bool} (hstate : session.state = .starting)
    (h : session.establishCommonStart = (ok, session')) :
    (ok = true ∧ session' = session ∧
      (selectCommonStart session.buffer.a session.buffer.b
        session.requestedStartCts).range = none) ∨
    ∃ range ∈ (selectCommonStart session.buffer.a session.buffer.b
        session.requestedStartCts).range,
      (ok = false ∧ FailedFrom startCauses 0 session session') ∨
      (session.opened range).flushStablePackets = (ok, session') := by
  cases hrange : (selectCommonStart session.buffer.a session.buffer.b
      session.requestedStartCts).range with
  | none =>
      unfold establishCommonStart at h
      rw [if_neg (by simp [hstate]), hrange] at h
      obtain ⟨rfl, rfl⟩ := Prod.mk.inj h
      exact Or.inl ⟨rfl, rfl, rfl⟩
  | some range =>
      refine Or.inr ⟨range, rfl, ?_⟩
      rcases establishCommonStart_of_range hstate hrange h with
        ⟨hfalse, -, hfailed⟩ | ⟨-, hflush⟩
      · exact Or.inl ⟨hfalse, hfailed⟩
      · exact Or.inr hflush

theorem finalizeAt_cases {commonEndCts : Nat} {ok : Bool}
    (h : session.finalizeAt commonEndCts = (ok, session')) :
    (ok = false ∧ FailedFrom [.sinkFinalize] 0 session session') ∨
    (ok = true ∧ session'.state = .stopped ∧ session'.failure = session.failure ∧
      session'.requestedStartCts = session.requestedStartCts ∧
      session'.selectedRange = session.selectedRange.map
        (fun range => ⟨range.startCts, commonEndCts⟩) ∧
      session'.lastFlushedCts = session.lastFlushedCts ∧
      session'.calls = session.calls ++
        [⟨.A, .finalize commonEndCts, true⟩, ⟨.B, .finalize commonEndCts, true⟩]) := by
  unfold finalizeAt at h
  split at h
  · rename_i asked hasked
    obtain ⟨rfl, rfl⟩ := Prod.mk.inj h
    obtain ⟨events, rfl, hevents⟩ := callBoth_false hasked
    obtain ⟨aborts, habort, haborts⟩ := abortSinks_eq_record (session.record events)
    refine Or.inl ⟨rfl, failedFrom_fail (events ++ aborts) (by simp) ?_ ?_⟩
    · rw [habort, record_record]
      rfl
    · refine (writesUpTo_of_no_write ?_).append (writesUpTo_of_abort haborts)
      intro event hmem packet hcall
      rcases hevents event hmem with hsink | hsink <;> simp [hsink] at hcall
  · rename_i asked hasked
    obtain ⟨rfl, rfl⟩ := Prod.mk.inj h
    obtain rfl := callBoth_true hasked
    exact Or.inr ⟨rfl, rfl, rfl, rfl, rfl, rfl, rfl⟩

theorem finalizeAt_false {commonEndCts : Nat}
    (h : session.finalizeAt commonEndCts = (false, session')) :
    FailedFrom [.sinkFinalize] 0 session session' := by
  rcases finalizeAt_cases h with ⟨_, hfailed⟩ | ⟨hfalse, _⟩
  · exact hfailed
  · cases hfalse

/-- The session once the buffer of `stream` holds the submitted packet. -/
def admitted (session : SynchronizedRecordingSession) (stream : RecordingStream)
    (packet : EncodedPacket) (buffer : EncodedPacketBuffer) : SynchronizedRecordingSession :=
  { session with buffer := session.buffer.set stream buffer }.observe stream packet

@[simp] theorem admitted_state {stream : RecordingStream} {packet : EncodedPacket}
    {buffer : EncodedPacketBuffer} :
    (session.admitted stream packet buffer).state = session.state := by
  unfold admitted observe
  dsimp only
  split <;> rfl

@[simp] theorem admitted_calls {stream : RecordingStream} {packet : EncodedPacket}
    {buffer : EncodedPacketBuffer} :
    (session.admitted stream packet buffer).calls = session.calls := by
  unfold admitted observe
  dsimp only
  split <;> rfl

@[simp] theorem admitted_selectedRange {stream : RecordingStream} {packet : EncodedPacket}
    {buffer : EncodedPacketBuffer} :
    (session.admitted stream packet buffer).selectedRange = session.selectedRange := by
  unfold admitted observe
  dsimp only
  split <;> rfl

@[simp] theorem admitted_lastFlushedCts {stream : RecordingStream} {packet : EncodedPacket}
    {buffer : EncodedPacketBuffer} :
    (session.admitted stream packet buffer).lastFlushedCts = session.lastFlushedCts := by
  unfold admitted observe
  dsimp only
  split <;> rfl

@[simp] theorem admitted_buffer {stream : RecordingStream} {packet : EncodedPacket}
    {buffer : EncodedPacketBuffer} :
    (session.admitted stream packet buffer).buffer = session.buffer.set stream buffer := by
  unfold admitted observe
  dsimp only
  split <;> rfl

@[simp] theorem admitted_requestedStartCts {stream : RecordingStream} {packet : EncodedPacket}
    {buffer : EncodedPacketBuffer} :
    (session.admitted stream packet buffer).requestedStartCts = session.requestedStartCts := by
  unfold admitted observe
  dsimp only
  split <;> rfl

@[simp] theorem admitted_maxObservedCts {stream : RecordingStream} {packet : EncodedPacket}
    {buffer : EncodedPacketBuffer} :
    (session.admitted stream packet buffer).maxObservedCts =
      session.maxObservedCts.set stream
        (max (session.maxObservedCts.get stream) packet.sourceCts) := by
  unfold admitted observe
  dsimp only
  split <;> rfl

@[simp] theorem admitted_failure {stream : RecordingStream} {packet : EncodedPacket}
    {buffer : EncodedPacketBuffer} :
    (session.admitted stream packet buffer).failure = session.failure := by
  unfold admitted observe
  dsimp only
  split <;> rfl

@[simp] theorem admitted_config {stream : RecordingStream} {packet : EncodedPacket}
    {buffer : EncodedPacketBuffer} :
    (session.admitted stream packet buffer).config = session.config := by
  unfold admitted observe
  dsimp only
  split <;> rfl

@[simp] theorem admitted_sourceCtsStep {stream : RecordingStream} {packet : EncodedPacket}
    {buffer : EncodedPacketBuffer} :
    (session.admitted stream packet buffer).sourceCtsStep = session.sourceCtsStep := by
  unfold admitted observe
  dsimp only
  split <;> rfl

@[simp] theorem admitted_requestedStopCts {stream : RecordingStream} {packet : EncodedPacket}
    {buffer : EncodedPacketBuffer} :
    (session.admitted stream packet buffer).requestedStopCts = session.requestedStopCts := by
  unfold admitted observe
  dsimp only
  split <;> rfl

/-- What `SubmitPacket` goes on to do with an admitted packet. -/
def advance (session : SynchronizedRecordingSession) : Bool × SynchronizedRecordingSession :=
  if session.state = .starting then session.establishCommonStart
  else if session.state = .running then session.flushStablePackets
  else (true, session)

def Accepting (session : SynchronizedRecordingSession) : Prop :=
  session.state = .starting ∨ session.state = .running ∨ session.state = .draining

def submitCauses : List SynchronizedRecordingFailure :=
  [.latePacket, .packetTiming, .duplicateSourceCts, .bufferCapacity]

theorem submitPacket_of_not_accepting {stream : RecordingStream} {packet : EncodedPacket}
    (h : ¬ session.Accepting) :
    session.submitPacket stream packet = session.fail .invalidTransition := by
  unfold submitPacket
  rw [if_pos (by unfold Accepting at h; tauto)]

/-- The outcomes of `SubmitPacket` in a state that accepts packets: the packet
lies before the start and is dropped, it is refused, or the buffer takes it. -/
theorem submitPacket_cases {stream : RecordingStream} {packet : EncodedPacket} {ok : Bool}
    (haccepting : session.Accepting) (h : session.submitPacket stream packet = (ok, session')) :
    (ok = true ∧ session' = session ∧
      ∃ range ∈ session.selectedRange, packet.sourceCts < range.startCts) ∨
    (ok = false ∧ FailedFrom submitCauses 0 session session' ∧
      (session'.failure = .latePacket →
        ∃ last ∈ session.lastFlushedCts, packet.sourceCts ≤ last)) ∨
    ∃ buffer, (session.buffer.get stream).push packet = (.retained, buffer) ∧
      (∀ range ∈ session.selectedRange, range.startCts ≤ packet.sourceCts ∧
        ∀ last ∈ session.lastFlushedCts, last < packet.sourceCts) ∧
      (session.admitted stream packet buffer).advance = (ok, session') := by
  unfold submitPacket at h
  rw [if_neg (by unfold Accepting at haccepting; tauto)] at h
  split_ifs at h with hbefore hlate
  · obtain ⟨rfl, rfl⟩ := Prod.mk.inj h
    exact Or.inl ⟨rfl, rfl, hbefore⟩
  · obtain ⟨rfl, rfl⟩ := eq_fail h
    exact Or.inr (Or.inl ⟨rfl, failedFrom_fail_self (by simp [submitCauses]), fun _ => hlate.2⟩)
  split at h
  · obtain ⟨rfl, rfl⟩ := eq_fail h
    exact Or.inr (Or.inl ⟨rfl, failedFrom_fail_self (by simp [submitCauses]), by simp⟩)
  · obtain ⟨rfl, rfl⟩ := eq_fail h
    exact Or.inr (Or.inl ⟨rfl, failedFrom_fail_self (by simp [submitCauses]), by simp⟩)
  · obtain ⟨rfl, rfl⟩ := eq_fail h
    exact Or.inr (Or.inl ⟨rfl, failedFrom_fail_self (by simp [submitCauses]), by simp⟩)
  · rename_i buffer hpush
    refine Or.inr (Or.inr ⟨buffer, hpush, ?_, h⟩)
    intro range hrange
    refine ⟨not_lt.mp (fun hlt => hbefore ⟨range, hrange, hlt⟩), fun last hmem => ?_⟩
    have hsome : session.selectedRange.isSome := Option.isSome_iff_exists.mpr ⟨range, hrange⟩
    exact not_le.mp (fun hle => hlate ⟨hsome, last, hmem, hle⟩)

/-- The outcomes of `CompleteDrain` in a draining session: there is nothing to
end at, the flush fails, or the session is finalized after the flush. -/
theorem completeDrain_cases {range : CommonPacketRange} {ok : Bool}
    (hstate : session.state = .draining) (hrange : session.selectedRange = some range)
    (h : session.completeDrain = (ok, session')) :
    (ok = false ∧ FailedFrom [.missingCommonRange] 0 session session') ∨
    (range.startCts ≤ session.drainEnd range.startCts ∧
      ((ok = false ∧ session.flushThrough (session.drainEnd range.startCts) = (false, session')) ∨
      ∃ middle, session.flushThrough (session.drainEnd range.startCts) = (true, middle) ∧
        middle.finalizeAt (session.drainEnd range.startCts) = (ok, session'))) := by
  unfold completeDrain at h
  rw [if_neg (by simp [hstate]), if_neg (by simp [hstate]), hstate, hrange] at h
  dsimp only at h
  split_ifs at h with hmissing
  · obtain ⟨rfl, rfl⟩ := Prod.mk.inj h
    exact Or.inl ⟨rfl, failedFrom_fail_self (by simp)⟩
  refine Or.inr ⟨not_lt.mp hmissing, ?_⟩
  split at h
  · rename_i middle hflush
    obtain ⟨rfl, rfl⟩ := Prod.mk.inj h
    exact Or.inl ⟨rfl, hflush⟩
  · rename_i middle hflush
    exact Or.inr ⟨middle, hflush, h⟩

end SynchronizedRecordingSession

end ObsSyncReplay
