import ObsSyncReplay.Lib.Traces
import ObsSyncReplay.Recording.SessionAgreement

/-!
The protocol that `recording/packet-sink` expects of its caller, and that every run of
the recording session keeps to it, whatever the sinks answer and wherever a routine
returns early.
-/

namespace ObsSyncReplay

/-- What one sink has been asked so far; `batch` are the writes since the last commit. -/
structure SinkTrace where
  opened : Bool := false
  finalized : Bool := false
  committed : Option Nat := none
  batch : List EncodedPacket := []
deriving DecidableEq

namespace SinkTrace

def after (trace : SinkTrace) : SinkCall → SinkTrace
  | .open _ _ => { trace with opened := true }
  | .write packet => { trace with batch := trace.batch ++ [packet] }
  | .commitThrough sourceCts => { trace with committed := some sourceCts, batch := [] }
  | .finalize _ => { trace with finalized := true }
  | .abort => trace

/-- The order in which a batch is written. -/
def InDecodeOrder (earlier later : EncodedPacket) : Prop :=
  earlier.dts < later.dts ∨ earlier.dts = later.dts ∧ earlier.pts ≤ later.pts

/-- The sink is between `Open` and `Finalize`. -/
def Receiving (trace : SinkTrace) : Prop :=
  trace.opened = true ∧ trace.finalized = false

def Permits (trace : SinkTrace) : SinkCall → Prop
  | .open _ _ => trace.opened = false
  | .write packet => trace.Receiving ∧
      (∀ last ∈ trace.committed, last < packet.sourceCts) ∧
      ∀ earlier ∈ trace.batch, InDecodeOrder earlier packet
  | .commitThrough sourceCts => trace.Receiving ∧
      (∀ last ∈ trace.committed, last < sourceCts) ∧
      ∀ packet ∈ trace.batch, packet.sourceCts ≤ sourceCts
  | .finalize _ => trace.Receiving
  | .abort => True

end SinkTrace

/-- What the sink of `stream` has been asked in `calls`. -/
def sinkTrace (calls : List SinkEvent) (stream : RecordingStream) : SinkTrace :=
  (calls.filter (·.stream = stream)).foldl (fun trace event => trace.after event.call) {}

/-- One of the sinks has refused a call or has been aborted. -/
def Interrupted (calls : List SinkEvent) : Prop :=
  ∃ event ∈ calls, event.accepted = false ∨ event.call = .abort

/-- The calls that put something into the file or complete it. -/
def SinkCall.progresses : SinkCall → Bool
  | .write _ => true
  | .commitThrough _ => true
  | .finalize _ => true
  | .open _ _ => false
  | .abort => false

/-- The event may follow the calls before it. -/
def LegalCall (before : List SinkEvent) (event : SinkEvent) : Prop :=
  (sinkTrace before event.stream).Permits event.call ∧
    (event.call.progresses = true → ¬Interrupted before)

@[simp] theorem sinkTrace_nil (stream : RecordingStream) : sinkTrace [] stream = {} := rfl

theorem sinkTrace_concat_self (calls : List SinkEvent) (event : SinkEvent) :
    sinkTrace (calls ++ [event]) event.stream =
      (sinkTrace calls event.stream).after event.call := by
  simp [sinkTrace, List.filter_append]

theorem sinkTrace_concat_of_ne {calls : List SinkEvent} {event : SinkEvent}
    {stream : RecordingStream} (h : event.stream ≠ stream) :
    sinkTrace (calls ++ [event]) stream = sinkTrace calls stream := by
  simp [sinkTrace, List.filter_append, h]

theorem not_interrupted_concat {calls : List SinkEvent} {event : SinkEvent}
    (h : ¬Interrupted calls) (haccepted : event.accepted = true) (hcall : event.call ≠ .abort) :
    ¬Interrupted (calls ++ [event]) := by
  rintro ⟨other, hmem, hother⟩
  rcases List.mem_append.mp hmem with hold | hnew
  · exact h ⟨other, hold, hother⟩
  · obtain rfl := List.mem_singleton.mp hnew
    rcases hother with hrefused | habort
    · simp [haccepted] at hrefused
    · exact hcall habort

theorem inDecodeOrder_of_not_decodesBefore {earlier later : EncodedPacket}
    (h : decodesBefore later earlier = false) : SinkTrace.InDecodeOrder earlier later := by
  unfold decodesBefore at h
  unfold SinkTrace.InDecodeOrder
  split_ifs at h with hdts
  · have hle := of_decide_eq_false h
    omega
  · have hle := of_decide_eq_false h
    omega

theorem sortForDecodeOrder_pairwise (packets : List EncodedPacket) :
    (sortForDecodeOrder packets).Pairwise SinkTrace.InDecodeOrder :=
  (sortForDecodeOrder_sorted packets).imp inDecodeOrder_of_not_decodesBefore

/-- The calls so far are legal, nothing in them forbids more, and the sinks stand where
`trace` says. -/
structure Working (calls : List SinkEvent) (trace : PerStream SinkTrace) : Prop where
  obeys : Traces.Obeys LegalCall calls
  quiet : ¬Interrupted calls
  stands : ∀ stream, sinkTrace calls stream = trace.get stream

theorem working_nil : Working [] (.both {}) where
  obeys := Traces.obeys_nil
  quiet := by simp [Interrupted]
  stands := by simp

theorem Working.legal {calls : List SinkEvent} {trace : PerStream SinkTrace}
    {stream : RecordingStream} {request : SinkCall} (h : Working calls trace)
    (hpermits : (trace.get stream).Permits request) (accepted : Bool) :
    LegalCall calls ⟨stream, request, accepted⟩ := by
  refine ⟨?_, fun _ => h.quiet⟩
  rwa [h.stands stream]

theorem Working.concat {calls : List SinkEvent} {trace : PerStream SinkTrace}
    {stream : RecordingStream} {request : SinkCall} (h : Working calls trace)
    (hpermits : (trace.get stream).Permits request) (hrequest : request ≠ .abort) :
    Working (calls ++ [⟨stream, request, true⟩])
      (trace.set stream ((trace.get stream).after request)) where
  obeys := h.obeys.concat (h.legal hpermits true)
  quiet := not_interrupted_concat h.quiet rfl hrequest
  stands := by
    intro other
    by_cases hsame : other = stream
    · subst hsame
      rw [PerStream.get_set_self, ← h.stands other]
      apply sinkTrace_concat_self
    · rw [PerStream.get_set_of_ne trace _ hsame, ← h.stands other]
      apply sinkTrace_concat_of_ne
      exact fun heq => hsame heq.symm

namespace SynchronizedRecordingSession

variable {session session' : SynchronizedRecordingSession} {trace : PerStream SinkTrace}
  {ok : Bool}

/-- What a routine that works on the sinks leaves: the traces it aims at if it succeeds,
and at least legal calls if it gives up. -/
def Leaves (ok : Bool) (session' : SynchronizedRecordingSession)
    (trace : PerStream SinkTrace) : Prop :=
  if ok then Working session'.calls trace else Traces.Obeys LegalCall session'.calls

theorem Leaves.obeys (h : Leaves ok session' trace) : Traces.Obeys LegalCall session'.calls := by
  unfold Leaves at h
  split_ifs at h
  · exact h.obeys
  · exact h

theorem leaves_callSink {request : SinkCall} (stream : RecordingStream)
    (h : Working session.calls trace)
    (hpermits : (trace.get stream).Permits request) (hrequest : request ≠ .abort)
    (hcall : session.callSink stream request = (ok, session')) :
    Leaves ok session' (trace.set stream ((trace.get stream).after request)) := by
  cases ok with
  | true =>
      rw [callSink_true hcall]
      exact h.concat hpermits hrequest
  | false =>
      unfold callSink at hcall
      split at hcall
      · obtain ⟨_, rfl⟩ := Prod.mk.inj hcall
        exact h.obeys
      · obtain ⟨hrefused, rfl⟩ := Prod.mk.inj hcall
        exact h.obeys.concat (h.legal hpermits _)

theorem leaves_callBoth {requestA requestB : SinkCall} (h : Working session.calls trace)
    (hpermitsA : trace.a.Permits requestA) (hpermitsB : trace.b.Permits requestB)
    (hrequestA : requestA ≠ .abort) (hrequestB : requestB ≠ .abort)
    (hcall : session.callBoth requestA requestB = (ok, session')) :
    Leaves ok session' ⟨trace.a.after requestA, trace.b.after requestB⟩ := by
  unfold callBoth at hcall
  split at hcall
  · rename_i middle hmiddle
    obtain ⟨rfl, rfl⟩ := Prod.mk.inj hcall
    exact leaves_callSink .A h hpermitsA hrequestA hmiddle
  · rename_i middle hmiddle
    have hfirst := leaves_callSink .A h hpermitsA hrequestA hmiddle
    exact leaves_callSink .B hfirst hpermitsB hrequestB hcall

theorem leaves_writeAll {packets : List EncodedPacket} (stream : RecordingStream)
    (h : Working session.calls trace)
    (hreceiving : (trace.get stream).Receiving)
    (habove : ∀ packet ∈ packets, ∀ last ∈ (trace.get stream).committed,
      last < packet.sourceCts)
    (hsorted : ((trace.get stream).batch ++ packets).Pairwise SinkTrace.InDecodeOrder)
    (hwrite : writeAll stream packets session = (ok, session')) :
    Leaves ok session' (trace.set stream
      { trace.get stream with batch := (trace.get stream).batch ++ packets }) := by
  induction packets generalizing session trace with
  | nil =>
      obtain ⟨rfl, rfl⟩ := Prod.mk.inj hwrite
      have hsame : trace.set stream
          { trace.get stream with batch := (trace.get stream).batch ++ [] } = trace := by
        cases stream <;> simp [PerStream.set, PerStream.get]
      rw [hsame]
      exact h
  | cons packet packets ih =>
      have hpermits : (trace.get stream).Permits (.write packet) := by
        refine ⟨hreceiving, habove packet List.mem_cons_self, ?_⟩
        intro earlier hearlier
        exact (List.pairwise_append.mp hsorted).2.2 earlier hearlier packet List.mem_cons_self
      unfold writeAll at hwrite
      split at hwrite
      · rename_i middle hmiddle
        obtain ⟨rfl, rfl⟩ := Prod.mk.inj hwrite
        exact leaves_callSink stream h hpermits (by simp) hmiddle
      · rename_i middle hmiddle
        have hfirst : Working middle.calls
            (trace.set stream ((trace.get stream).after (.write packet))) :=
          leaves_callSink stream h hpermits (by simp) hmiddle
        have hrest := ih hfirst
        simp only [PerStream.get_set_self, PerStream.set_set_self, SinkTrace.after,
          List.append_assoc, List.singleton_append] at hrest
        apply hrest hreceiving _ hsorted hwrite
        intro other hother
        exact habove other (List.mem_cons_of_mem packet hother)

/-- Where a sink stands between two flushes. -/
def flushedTrace (last : Option Nat) : SinkTrace :=
  { opened := true, committed := last }

theorem leaves_writeSelected {last : Option Nat} {sourceCts : Nat}
    {selected : PerStream (List EncodedPacket)}
    (h : Working session.calls (.both (flushedTrace last)))
    (hlast : ∀ cts ∈ last, cts < sourceCts)
    (hrange : ∀ stream, ∀ packet ∈ selected.get stream,
      (∀ cts ∈ last, cts < packet.sourceCts) ∧ packet.sourceCts ≤ sourceCts)
    (hsorted : ∀ stream, (selected.get stream).Pairwise SinkTrace.InDecodeOrder)
    (hwrite : session.writeSelected sourceCts selected = (ok, session')) :
    Leaves ok session' (.both (flushedTrace (some sourceCts))) := by
  unfold writeSelected at hwrite
  split at hwrite
  · rename_i middle hmiddle
    obtain ⟨rfl, rfl⟩ := Prod.mk.inj hwrite
    apply leaves_writeAll .A h ⟨rfl, rfl⟩ _ (hsorted .A) hmiddle
    exact fun packet hpacket => (hrange .A packet hpacket).1
  · rename_i afterA hA
    have hworkA : Leaves true afterA _ := leaves_writeAll .A h ⟨rfl, rfl⟩
      (fun packet hpacket => (hrange .A packet hpacket).1) (hsorted .A) hA
    split at hwrite
    · rename_i middle hmiddle
      obtain ⟨rfl, rfl⟩ := Prod.mk.inj hwrite
      apply leaves_writeAll .B hworkA ⟨rfl, rfl⟩ _ (hsorted .B) hmiddle
      exact fun packet hpacket => (hrange .B packet hpacket).1
    · rename_i afterB hB
      have hworkB : Leaves true afterB _ := leaves_writeAll .B hworkA ⟨rfl, rfl⟩
        (fun packet hpacket => (hrange .B packet hpacket).1) (hsorted .B) hB
      apply leaves_callBoth hworkB _ _ (by simp) (by simp) hwrite
      · exact ⟨⟨rfl, rfl⟩, hlast, fun packet hpacket => (hrange .A packet hpacket).2⟩
      · exact ⟨⟨rfl, rfl⟩, hlast, fun packet hpacket => (hrange .B packet hpacket).2⟩

/-- The last call on every sink was `Abort`. -/
def AbortedLast (session : SynchronizedRecordingSession) : Prop :=
  ∀ stream, (session.sink.get stream).isSome →
    ∃ event ∈ (session.calls.filter (·.stream = stream)).getLast?, event.call = .abort

theorem abortSink_obeys (h : Traces.Obeys LegalCall session.calls) (stream : RecordingStream) :
    Traces.Obeys LegalCall (session.abortSink stream).calls := by
  unfold abortSink
  split
  · exact h
  · exact h.concat ⟨trivial, by simp [SinkCall.progresses]⟩

theorem abortSinks_obeys (h : Traces.Obeys LegalCall session.calls) :
    Traces.Obeys LegalCall session.abortSinks.calls :=
  abortSink_obeys (abortSink_obeys h .A) .B

theorem abortSinks_abortedLast (session : SynchronizedRecordingSession) :
    session.abortSinks.AbortedLast := by
  intro stream hsink
  cases hA : session.sink.a <;> cases hB : session.sink.b <;> cases stream <;>
    simp [abortSinks, abortSink, record, PerStream.get, hA, hB] at hsink ⊢

/-- A session that has failed with its files rolled back. -/
structure RolledBack (session : SynchronizedRecordingSession) : Prop where
  state : session.state = .failed
  obeys : Traces.Obeys LegalCall session.calls
  abortedLast : session.AbortedLast

theorem rolledBack_fail (h : Traces.Obeys LegalCall session.calls)
    (failure : SynchronizedRecordingFailure) : RolledBack (session.fail failure).2 where
  state := fail_state failure
  obeys := abortSinks_obeys h
  abortedLast := abortSinks_abortedLast _

/-- Both sinks are open and have been committed through the last flushed CTS. -/
def Between (session : SynchronizedRecordingSession) : Prop :=
  Working session.calls (.both (flushedTrace session.lastFlushedCts))

theorem Between.congr (h : session.Between) (hcalls : session'.calls = session.calls)
    (hlast : session'.lastFlushedCts = session.lastFlushedCts) : session'.Between := by
  unfold Between
  rw [hcalls, hlast]
  exact h

/-- What a routine between two flushes returns. -/
def Returns (session : SynchronizedRecordingSession) (ok : Bool)
    (session' : SynchronizedRecordingSession) : Prop :=
  if ok then session'.Between ∧ session'.state = session.state else session'.RolledBack

theorem Returns.cases (h : session.Returns ok session') :
    (ok = false ∧ session'.RolledBack) ∨
      (ok = true ∧ session'.Between ∧ session'.state = session.state) := by
  cases ok with
  | false => exact Or.inl ⟨rfl, h⟩
  | true => exact Or.inr ⟨rfl, h⟩

theorem returns_fail (hobeys : Traces.Obeys LegalCall session'.calls)
    (failure : SynchronizedRecordingFailure) :
    session.Returns false (session'.fail failure).2 :=
  rolledBack_fail hobeys failure

/-- The write loops and the commits of a flush, on the packets it selects. -/
theorem leaves_flushBatch {startCts sourceCts : Nat} (h : session.Between)
    (hlast : ∀ last ∈ session.lastFlushedCts, last < sourceCts)
    (hwrite : session.inferSourceCtsStep.writeSelected sourceCts
      ⟨session.flushBatch startCts sourceCts .A, session.flushBatch startCts sourceCts .B⟩ =
        (ok, session')) :
    Leaves ok session' (.both (flushedTrace (some sourceCts))) := by
  have hrange (stream : RecordingStream) : ∀ packet ∈ session.flushBatch startCts sourceCts
      stream, (∀ last ∈ session.lastFlushedCts, last < packet.sourceCts) ∧
        packet.sourceCts ≤ sourceCts := by
    intro packet hpacket
    have hmem := (List.mem_insertionSort _).mp hpacket
    exact (le_of_inFlushRange (List.mem_filter.mp hmem).2).2
  have hworking : Working session.inferSourceCtsStep.calls
      (.both (flushedTrace session.lastFlushedCts)) := h
  apply leaves_writeSelected hworking hlast _ _ hwrite
  · intro stream packet hpacket
    cases stream with
    | A => exact hrange .A packet hpacket
    | B => exact hrange .B packet hpacket
  · intro stream
    cases stream <;> exact sortForDecodeOrder_pairwise _

theorem flushThrough_returns {sourceCts : Nat} (h : session.Between)
    (hflush : session.flushThrough sourceCts = (ok, session')) :
    session.Returns ok session' := by
  unfold flushThrough at hflush
  split at hflush
  · obtain ⟨rfl, rfl⟩ := eq_fail hflush
    exact returns_fail h.obeys _
  rename_i range hrange
  split at hflush
  · obtain ⟨rfl, rfl⟩ := eq_fail hflush
    exact returns_fail h.obeys _
  split at hflush
  · obtain ⟨rfl, rfl⟩ := Prod.mk.inj hflush
    exact ⟨h, rfl⟩
  rename_i hnew
  have hinferred : Traces.Obeys LegalCall session.inferSourceCtsStep.calls := h.obeys
  dsimp only at hflush
  split at hflush
  · obtain ⟨rfl, rfl⟩ := eq_fail hflush
    exact returns_fail hinferred _
  split at hflush
  · obtain ⟨rfl, rfl⟩ := eq_fail hflush
    exact returns_fail hinferred _
  split at hflush
  · obtain ⟨rfl, rfl⟩ := eq_fail hflush
    exact returns_fail hinferred _
  have hlast (last : Nat) (hmem : last ∈ session.lastFlushedCts) : last < sourceCts :=
    not_le.mp (fun hle => hnew ⟨last, hmem, hle⟩)
  split at hflush <;> rename_i written hwritten
  · obtain ⟨rfl, rfl⟩ := eq_fail hflush
    exact returns_fail (leaves_flushBatch h hlast hwritten).obeys _
  · obtain ⟨rfl, rfl⟩ := Prod.mk.inj hflush
    refine ⟨leaves_flushBatch h hlast hwritten, ?_⟩
    rw [writeSelected_true hwritten]
    rfl

theorem flushStablePackets_returns (h : session.Between)
    (hflush : session.flushStablePackets = (ok, session')) :
    session.Returns ok session' := by
  have hinferred : session.inferSourceCtsStep.Between := h
  unfold flushStablePackets at hflush
  dsimp only at hflush
  split at hflush
  · split at hflush
    · obtain ⟨rfl, rfl⟩ := Prod.mk.inj hflush
      exact ⟨hinferred, rfl⟩
    · split at hflush
      · obtain ⟨rfl, rfl⟩ := Prod.mk.inj hflush
        exact ⟨hinferred, rfl⟩
      · have hreturns := flushThrough_returns hinferred hflush
        exact hreturns
  · obtain ⟨rfl, rfl⟩ := Prod.mk.inj hflush
    exact ⟨hinferred, rfl⟩

/-- Before the start is established no sink has been asked for anything. -/
structure Unopened (session : SynchronizedRecordingSession) : Prop where
  calls : session.calls = []
  lastFlushedCts : session.lastFlushedCts = none

theorem Unopened.obeys (h : session.Unopened) : Traces.Obeys LegalCall session.calls := by
  rw [h.calls]
  exact Traces.obeys_nil

theorem Unopened.establishCommonStart (h : session.Unopened) (hstate : session.state = .starting)
    (hstart : session.establishCommonStart = (ok, session')) :
    session'.RolledBack ∨ (session'.Unopened ∧ session'.state = .starting) ∨
      (session'.Between ∧ session'.state = .running) := by
  unfold SynchronizedRecordingSession.establishCommonStart at hstart
  rw [if_neg (by simp [hstate])] at hstart
  split at hstart
  · obtain ⟨_, rfl⟩ := Prod.mk.inj hstart
    exact Or.inr (Or.inl ⟨h, hstate⟩)
  rename_i range hrange
  dsimp only at hstart
  have hcalls := setTailCapacity_calls
    ({ session with selectedRange := some range }.discardBoth range.startCts)
  split at hstart <;> rename_i sized hsized <;> rw [hsized] at hcalls
  · obtain ⟨rfl, rfl⟩ := eq_fail hstart
    apply Or.inl (rolledBack_fail _ _)
    rw [hcalls]
    exact h.obeys
  have hworking : Working sized.calls (.both {}) := by
    rw [hcalls]
    simp only [discardBoth, h.calls]
    exact working_nil
  have hleaves {asked : SynchronizedRecordingSession} {accepted : Bool}
      (hasked : sized.callBoth (.open sized.streamConfig.a range.startCts)
        (.open sized.streamConfig.b range.startCts) = (accepted, asked)) :
      Leaves accepted asked (.both (flushedTrace none)) :=
    leaves_callBoth hworking (by rfl) (by rfl) (by simp) (by simp) hasked
  split at hstart <;> rename_i asked hasked
  · obtain ⟨rfl, rfl⟩ := eq_fail hstart
    exact Or.inl (rolledBack_fail (abortSinks_obeys (hleaves hasked).obeys) _)
  · have hlast : asked.lastFlushedCts = none := by
      rw [callBoth_true hasked, setTailCapacity_true hsized]
      exact h.lastFlushedCts
    have hbetween : asked.Between := by
      unfold Between
      rw [hlast]
      exact hleaves hasked
    have hreturns := flushStablePackets_returns (by exact hbetween.congr rfl rfl) hstart
    rcases hreturns.cases with ⟨_, hrolled⟩ | ⟨_, hbetween', hstate'⟩
    · exact Or.inl hrolled
    · exact Or.inr (Or.inr ⟨hbetween', hstate'⟩)

theorem Between.finalizeAt {commonEndCts : Nat} (h : session.Between)
    (hfinalize : session.finalizeAt commonEndCts = (ok, session')) :
    session'.RolledBack ∨
      (session'.state = .stopped ∧ Traces.Obeys LegalCall session'.calls) := by
  have hleaves {asked : SynchronizedRecordingSession} {accepted : Bool}
      (hasked : session.callBoth (.finalize commonEndCts) (.finalize commonEndCts) =
        (accepted, asked)) : Traces.Obeys LegalCall asked.calls :=
    (leaves_callBoth h (by exact ⟨rfl, rfl⟩) (by exact ⟨rfl, rfl⟩) (by simp) (by simp)
      hasked).obeys
  unfold SynchronizedRecordingSession.finalizeAt at hfinalize
  split at hfinalize <;> rename_i asked hasked
  · obtain ⟨_, rfl⟩ := eq_fail hfinalize
    exact Or.inl (rolledBack_fail (abortSinks_obeys (hleaves hasked)) _)
  · have hobeys := hleaves hasked
    obtain ⟨_, rfl⟩ := Prod.mk.inj hfinalize
    exact Or.inr ⟨rfl, hobeys⟩

/-- How far a session has come, as its sinks see it. -/
inductive SinkStage (session : SynchronizedRecordingSession) : Prop
  | unopened (state : session.state = .idle ∨ session.state = .starting)
      (unopened : session.Unopened)
  | between (state : session.state = .running ∨ session.state = .draining)
      (between : session.Between)
  | stopped (state : session.state = .stopped) (obeys : Traces.Obeys LegalCall session.calls)
  | failed (rolledBack : session.RolledBack)

theorem SinkStage.obeys (h : SinkStage session) : Traces.Obeys LegalCall session.calls := by
  cases h with
  | unopened _ hunopened => exact hunopened.obeys
  | between _ hbetween => exact hbetween.obeys
  | stopped _ hobeys => exact hobeys
  | failed hrolled => exact hrolled.obeys

theorem SinkStage.fail (h : SinkStage session) (failure : SynchronizedRecordingFailure) :
    SinkStage (session.fail failure).2 :=
  .failed (rolledBack_fail h.obeys failure)

theorem SinkStage.establishCommonStart (h : SinkStage session) (hstate : session.state = .starting)
    (hstart : session.establishCommonStart = (ok, session')) : SinkStage session' := by
  cases h with
  | unopened _ hunopened =>
      rcases hunopened.establishCommonStart hstate hstart with hrolled | ⟨hunopened', hstate'⟩ |
        ⟨hbetween, hstate'⟩
      · exact .failed hrolled
      · exact .unopened (Or.inr hstate') hunopened'
      · exact .between (Or.inl hstate') hbetween
  | between hbetween _ => rcases hbetween with h | h <;> simp [h] at hstate
  | stopped hstopped _ => simp [hstopped] at hstate
  | failed hrolled => simp [hrolled.state] at hstate

theorem SinkStage.flushStablePackets (h : SinkStage session) (hstate : session.state = .running)
    (hflush : session.flushStablePackets = (ok, session')) : SinkStage session' := by
  cases h with
  | unopened hunopened _ => rcases hunopened with h | h <;> simp [h] at hstate
  | between _ hbetween =>
      rcases (flushStablePackets_returns hbetween hflush).cases with
        ⟨_, hrolled⟩ | ⟨_, hbetween', hstate'⟩
      · exact .failed hrolled
      · exact .between (Or.inl (hstate'.trans hstate)) hbetween'
  | stopped hstopped _ => simp [hstopped] at hstate
  | failed hrolled => simp [hrolled.state] at hstate

/-- Only the state, the calls and the last flushed CTS of a session that has not failed
count. -/
theorem SinkStage.congr (h : SinkStage session) (hopen : session.state ≠ .failed)
    (hstate : session'.state = session.state) (hcalls : session'.calls = session.calls)
    (hlast : session'.lastFlushedCts = session.lastFlushedCts) : SinkStage session' := by
  cases h with
  | unopened hunopened h =>
      exact .unopened (by rwa [hstate]) ⟨hcalls.trans h.calls, hlast.trans h.lastFlushedCts⟩
  | between hlive h => exact .between (by rwa [hstate]) (h.congr hcalls hlast)
  | stopped hstopped h => exact .stopped (hstate.trans hstopped) (by rwa [hcalls])
  | failed hrolled => exact absurd hrolled.state hopen

theorem SinkStage.submitPacket (h : SinkStage session) (stream : RecordingStream)
    (packet : EncodedPacket) : SinkStage (session.submitPacket stream packet).2 := by
  unfold SynchronizedRecordingSession.submitPacket
  split_ifs with hrefused hbelow hlate
  · exact h.fail _
  · exact h
  · exact h.fail _
  split
  · exact h.fail _
  · exact h.fail _
  · exact h.fail _
  rename_i buffer hpush
  have hopen : session.state ≠ .failed := by
    intro hfailed
    simp [hfailed] at hrefused
  have hadmitted : SinkStage (session.admitted stream packet buffer) :=
    h.congr hopen admitted_state admitted_calls admitted_lastFlushedCts
  dsimp only
  split_ifs with hstarting hrunning
  · exact hadmitted.establishCommonStart hstarting (Prod.mk.eta).symm
  · exact hadmitted.flushStablePackets hrunning (Prod.mk.eta).symm
  · exact hadmitted

theorem SinkStage.pollStart (h : SinkStage session) (currentSourceCts : Nat) :
    SinkStage (session.pollStart currentSourceCts).2 := by
  unfold SynchronizedRecordingSession.pollStart
  split_ifs with hignored
  · exact h
  have hstarting : session.state = .starting := not_not.mp hignored
  split <;> rename_i middle hmiddle
  · exact h.establishCommonStart hstarting hmiddle
  · have hmiddle' := h.establishCommonStart hstarting hmiddle
    split_ifs
    · exact hmiddle'.fail _
    · exact hmiddle'

theorem SinkStage.requestStop (h : SinkStage session) (requestedStopCts : Nat) :
    SinkStage (session.requestStop requestedStopCts).2 := by
  unfold SynchronizedRecordingSession.requestStop
  split_ifs with hended hfailed hidle
  · exact h
  · exact h
  · exact h.fail _
  dsimp only
  split_ifs with hrunning
  · cases h with
    | between _ hbetween => exact .between (Or.inr rfl) (hbetween.congr rfl rfl)
    | unopened hunopened _ => rcases hunopened with h | h <;> simp [h] at hrunning
    | stopped hstopped _ => simp [hstopped] at hrunning
    | failed hrolled => exact absurd hrolled.state hfailed
  · exact h.congr hfailed rfl rfl rfl

theorem SinkStage.completeDrain (h : SinkStage session) : SinkStage session.completeDrain.2 := by
  unfold SynchronizedRecordingSession.completeDrain
  split_ifs with hstopped hfailed
  · exact h
  · exact h
  split
  · rename_i range hdraining hrange
    dsimp only
    split_ifs with hbelow
    · exact h.fail _
    have hbetween : session.Between := by
      cases h with
      | between _ hbetween => exact hbetween
      | unopened hunopened _ => rcases hunopened with h | h <;> simp [h] at hdraining
      | stopped hstopped' _ => exact absurd hstopped' hstopped
      | failed hrolled => exact absurd hrolled.state hfailed
    split <;> rename_i flushed hflushed
    · rcases (flushThrough_returns hbetween hflushed).cases with ⟨_, hrolled⟩ | ⟨hfalse, _⟩
      · exact .failed hrolled
      · cases hfalse
    · rcases (flushThrough_returns hbetween hflushed).cases with
        ⟨hfalse, _⟩ | ⟨_, hbetween', _⟩
      · cases hfalse
      rcases hbetween'.finalizeAt (Prod.mk.eta).symm with hrolled | ⟨hstopped', hobeys⟩
      · exact .failed hrolled
      · exact .stopped hstopped' hobeys
  · exact h

theorem SinkStage.abort (h : SinkStage session) : SinkStage session.abort := by
  unfold SynchronizedRecordingSession.abort abortUnlocked
  split_ifs with hended
  · exact h
  · exact .failed ⟨rfl, abortSinks_obeys h.obeys, abortSinks_abortedLast session⟩

theorem SinkStage.step (h : SinkStage session) (call : SessionCall) :
    SinkStage (session.step call).2 := by
  cases call with
  | start requestedStartCts =>
      simp only [SynchronizedRecordingSession.step, SynchronizedRecordingSession.start]
      split_ifs with hrefused
      · exact h.fail _
      push Not at hrefused
      cases h with
      | unopened _ hunopened =>
          exact .unopened (Or.inr rfl) ⟨hunopened.calls, hunopened.lastFlushedCts⟩
      | between hlive _ => rcases hlive with h | h <;> simp [h] at hrefused
      | stopped hstopped _ => simp [hstopped] at hrefused
      | failed hrolled => simp [hrolled.state] at hrefused
  | setStreamExtraData stream extraData =>
      simp only [SynchronizedRecordingSession.step, setStreamExtraData]
      split_ifs with hignored
      · exact h
      · have hopen : session.state ≠ .failed := by
          intro hfailed
          simp [hfailed] at hignored
        exact h.congr hopen rfl rfl rfl
  | submitPacket stream packet => exact h.submitPacket stream packet
  | pollStart currentSourceCts => exact h.pollStart currentSourceCts
  | requestStop requestedStopCts => exact h.requestStop requestedStopCts
  | completeDrain => exact h.completeDrain
  | abort => exact h.abort

/-- In every run the calls on the two sinks follow the protocol, and whenever the session
has failed, an abort is the last thing each of them was asked for. -/
theorem sink_protocol (config : SynchronizedRecordingConfig)
    (streamConfig : PerStream PacketStreamConfig) (sink : PerStream (Option PacketSink))
    {past : List SessionTransition}
    (hrun : Runs.Run step (create config streamConfig sink) past session) :
    Traces.Obeys LegalCall session.calls ∧
      (session.state = .failed → session.AbortedLast) := by
  have hstage : SinkStage session := hrun.stateInvariant
    (.unopened (Or.inl rfl) ⟨rfl, rfl⟩) (fun _ call h => h.step call)
  refine ⟨hstage.obeys, fun hfailed => ?_⟩
  cases hstage with
  | failed hrolled => exact hrolled.abortedLast
  | unopened hunopened _ => rcases hunopened with h | h <;> simp [h] at hfailed
  | between hlive _ => rcases hlive with h | h <;> simp [h] at hfailed
  | stopped hstopped _ => simp [hstopped] at hfailed

/-- The recording is aborted while it is running. -/
theorem sink_protocol_sample :
    Traces.Obeys LegalCall
        (Runs.exec step (sampleSession 10 10) (sampleCalls.take 8 ++ [.abort])).calls ∧
      (Runs.exec step (sampleSession 10 10) (sampleCalls.take 8 ++ [.abort])).AbortedLast := by
  obtain ⟨hlegal, haborted⟩ := sink_protocol _ _ _
    (Runs.run_exec (sampleSession 10 10) (sampleCalls.take 8 ++ [.abort]))
  exact ⟨hlegal, haborted (by decide)⟩

end SynchronizedRecordingSession

end ObsSyncReplay
