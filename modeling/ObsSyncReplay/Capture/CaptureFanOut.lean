import ObsSyncReplay.Capture.CaptureRuns
import ObsSyncReplay.Lib.Traces

/-!
The fan-out of `Ingest` among threads. Every method of the session takes the lock once, so
it is one step; but `Ingest` calls `OnPacket` after it has released the lock, on the list of
consumers that it has copied. A packet accepted by one thread is therefore under way while
another thread unsubscribes a consumer.
-/

namespace ObsSyncReplay

open SynchronizedCaptureSession (Call Answer FanOut)

namespace SynchronizedCaptureSession

variable {session : SynchronizedCaptureSession} {call : Call}

/-- A fan-out goes to the consumers of the moment at which the packet is accepted. -/
theorem consumers_fanOut {fanOut : FanOut} (h : fanOut ∈ (session.step call).1.fanOut) :
    fanOut.consumers = session.consumers := by
  cases call with
  | ingest streamId packet codecExtraData =>
      simp only [step, ingest] at h
      split_ifs at h
      · cases h
      · cases h
      · cases h
        rfl
  | _ => cases h

/-- The consumers change where a call of `Subscribe` or `Unsubscribe` succeeds. -/
theorem step_consumers (session : SynchronizedCaptureSession) (call : Call) :
    (session.step call).2.consumers = session.consumers ∨
      (∃ consumer, call = .subscribe (some consumer) ∧ (session.step call).1 = {} ∧
        consumer ∉ session.consumers ∧
          (session.step call).2.consumers = session.consumers ++ [consumer]) ∨
      ∃ consumer, call = .unsubscribe (some consumer) ∧ (session.step call).1 = {} ∧
        consumer ∈ session.consumers ∧
          (session.step call).2.consumers = session.consumers.erase consumer := by
  cases call with
  | registerStream streamId name config =>
      left
      simp only [step, registerStream]
      split_ifs <;> rfl
  | subscribe consumer =>
      cases consumer with
      | none => exact Or.inl rfl
      | some consumer =>
          by_cases hmem : consumer ∈ session.consumers
          · left
            simp [step, subscribe, hmem]
          · right; left
            refine ⟨consumer, rfl, ?_, hmem, ?_⟩ <;> simp [step, subscribe, hmem]
  | unsubscribe consumer =>
      cases consumer with
      | none => exact Or.inl rfl
      | some consumer =>
          by_cases hmem : consumer ∈ session.consumers
          · right; right
            refine ⟨consumer, rfl, ?_, hmem, ?_⟩ <;> simp [step, unsubscribe, hmem]
          · left
            simp [step, unsubscribe, hmem]
  | start =>
      left
      simp only [step, start]
      split_ifs <;> rfl
  | ingest streamId packet codecExtraData =>
      exact Or.inl (session.sameSwitches_ingest streamId packet codecExtraData).consumers
  | setRingCapacityBytes capacityBytes =>
      exact Or.inl (session.sameSwitches_setRingCapacityBytes capacityBytes).consumers
  | setReplayRetentionEnabled enabled =>
      exact Or.inl (session.consumers_setReplayRetentionEnabled enabled)
  | stop => exact Or.inl rfl

/-- A consumer is subscribed once at most. -/
theorem nodup_consumers_step (h : session.consumers.Nodup) (call : Call) :
    (session.step call).2.consumers.Nodup := by
  rcases step_consumers session call with
    hsame | ⟨consumer, -, -, hnew, hadded⟩ | ⟨consumer, -, -, -, herased⟩
  · rwa [hsame]
  · rw [hadded]
    apply List.nodup_append'.mpr
    exact ⟨h, List.nodup_singleton _, List.disjoint_singleton.mpr hnew⟩
  · rw [herased]
    exact h.erase consumer

theorem nodup_consumers_run {ringCapacityBytes : Nat} {past : List (Runs.Transition _ _ _)}
    (hrun : Runs.Run step (.create ringCapacityBytes) past session) :
    session.consumers.Nodup :=
  hrun.stateInvariant (P := fun session => session.consumers.Nodup) List.nodup_nil
    (fun _ call h => nodup_consumers_step h call)

end SynchronizedCaptureSession

/-- The session, and what the threads inside `Ingest` have still to deliver. -/
structure SharedCapture where
  session : SynchronizedCaptureSession
  inFlight : List FanOut := []

namespace SharedCapture

/-- A method up to the release of the lock, or the next call of `OnPacket` by one of the
threads inside `Ingest`. -/
inductive Event where
  | locked (call : Call)
  | deliver (thread : Nat)

inductive Effect where
  | answered (answer : Answer)
  | onPacket (consumer : CapturePacketConsumer) (captured : CapturedEncodedPacket)
  | nothing
deriving DecidableEq

def locked (capture : SharedCapture) (call : Call) : Effect × SharedCapture :=
  let (answer, session) := capture.session.step call
  (.answered answer,
    { session := session, inFlight := capture.inFlight ++ answer.fanOut.toList })

/-- A thread with no consumer left returns from `Ingest`. -/
def deliver (capture : SharedCapture) (thread : Nat) : Effect × SharedCapture :=
  match capture.inFlight[thread]? with
  | none => (.nothing, capture)
  | some ⟨[], _⟩ =>
      (.nothing, { capture with inFlight := capture.inFlight.eraseIdx thread })
  | some ⟨consumer :: rest, captured⟩ =>
      (.onPacket consumer captured,
        { capture with inFlight := capture.inFlight.set thread ⟨rest, captured⟩ })

def step (capture : SharedCapture) : Event → Effect × SharedCapture
  | .locked call => capture.locked call
  | .deliver thread => capture.deliver thread

abbrev Transition := Runs.Transition SharedCapture Event Effect

def Subscribes (consumer : CapturePacketConsumer) (t : Transition) : Prop :=
  t.input = .locked (.subscribe (some consumer)) ∧ t.output = .answered {}

/-- `Unsubscribe(consumer)` has returned true. -/
def Unsubscribes (consumer : CapturePacketConsumer) (t : Transition) : Prop :=
  t.input = .locked (.unsubscribe (some consumer)) ∧ t.output = .answered {}

def Invokes (consumer : CapturePacketConsumer) (t : Transition) : Prop :=
  ∃ captured, t.output = .onPacket consumer captured

/-- `OnPacket` is called on the consumer only once it is subscribed. -/
def InvokesSubscribed (consumer : CapturePacketConsumer) (before : List Transition)
    (t : Transition) : Prop :=
  Invokes consumer t → ∃ earlier ∈ before, Subscribes consumer earlier

/-- However the threads go on, the consumer is left alone until it is subscribed. -/
def Quiet (consumer : CapturePacketConsumer) (capture : SharedCapture) : Prop :=
  ∀ later capture', Runs.Run step capture later capture' →
    Traces.Obeys (InvokesSubscribed consumer) later

/-- No thread inside `Ingest` has still to deliver to the consumer. -/
def Drained (consumer : CapturePacketConsumer) (capture : SharedCapture) : Prop :=
  ∀ fanOut ∈ capture.inFlight, consumer ∉ fanOut.consumers

variable {capture capture' : SharedCapture} {consumer : CapturePacketConsumer} {event : Event}

@[simp] theorem step_locked_session (call : Call) :
    (capture.step (.locked call)).2.session = (capture.session.step call).2 := rfl

@[simp] theorem step_locked_inFlight (call : Call) :
    (capture.step (.locked call)).2.inFlight =
      capture.inFlight ++ (capture.session.step call).1.fanOut.toList := rfl

@[simp] theorem step_deliver_session (thread : Nat) :
    (capture.step (.deliver thread)).2.session = capture.session := by
  rw [step, deliver]
  split <;> rfl

/-- A delivery calls `OnPacket` on the first of the consumers that are left in some fan-out,
and leaves no fan-out with a consumer it did not have. -/
theorem deliver_cases (capture : SharedCapture) (thread : Nat) :
    (∀ consumer captured, (capture.deliver thread).1 = .onPacket consumer captured →
      ∃ fanOut ∈ capture.inFlight, consumer ∈ fanOut.consumers) ∧
    ∀ fanOut ∈ (capture.deliver thread).2.inFlight,
      ∃ before ∈ capture.inFlight, fanOut.consumers ⊆ before.consumers := by
  unfold deliver
  split
  · exact ⟨by simp, fun fanOut h => ⟨fanOut, h, List.Subset.refl _⟩⟩
  · exact ⟨by simp, fun fanOut h =>
      ⟨fanOut, (List.eraseIdx_sublist _ _).subset h, List.Subset.refl _⟩⟩
  · rename_i first rest packet hthread
    have hmem := List.mem_of_getElem? hthread
    refine ⟨?_, fun fanOut hfanOut => ?_⟩
    · rintro consumer captured hcalled
      cases hcalled
      exact ⟨_, hmem, List.mem_cons_self⟩
    · rcases List.mem_or_eq_of_mem_set hfanOut with hold | rfl
      · exact ⟨fanOut, hold, List.Subset.refl _⟩
      · exact ⟨_, hmem, List.subset_cons_self _ _⟩

/-- The consumer is neither subscribed nor about to be called. -/
structure Gone (consumer : CapturePacketConsumer) (capture : SharedCapture) : Prop where
  unsubscribed : consumer ∉ capture.session.consumers
  drained : Drained consumer capture

theorem Gone.step (h : Gone consumer capture) (event : Event) :
    ¬Invokes consumer (Runs.transition step capture event) ∧
      (Subscribes consumer (Runs.transition step capture event) ∨
        Gone consumer (capture.step event).2) := by
  cases event with
  | locked call =>
      refine ⟨fun ⟨captured, hcalled⟩ => (by cases hcalled), ?_⟩
      have hdrained : Drained consumer (capture.step (.locked call)).2 := by
        intro fanOut hfanOut
        rcases List.mem_append.mp hfanOut with hold | hnew
        · exact h.drained fanOut hold
        · rw [SynchronizedCaptureSession.consumers_fanOut (Option.mem_toList.mp hnew)]
          exact h.unsubscribed
      rcases SynchronizedCaptureSession.step_consumers capture.session call with
        hsame | ⟨other, rfl, haccepted, -, hadded⟩ | ⟨other, rfl, -, -, herased⟩
      · exact Or.inr ⟨by simpa [hsame] using h.unsubscribed, hdrained⟩
      · by_cases hother : other = consumer
        · subst hother
          exact Or.inl ⟨rfl, congrArg Effect.answered haccepted⟩
        · refine Or.inr ⟨?_, hdrained⟩
          rw [step_locked_session, hadded]
          simp [h.unsubscribed, Ne.symm hother]
      · refine Or.inr ⟨?_, hdrained⟩
        rw [step_locked_session, herased]
        exact fun hmem => h.unsubscribed (List.mem_of_mem_erase hmem)
  | deliver thread =>
      obtain ⟨hcalled, hleft⟩ := deliver_cases capture thread
      constructor
      · rintro ⟨captured, hinvoked⟩
        obtain ⟨fanOut, hfanOut, hmem⟩ := hcalled consumer captured hinvoked
        exact h.drained fanOut hfanOut hmem
      · refine Or.inr ⟨by simpa using h.unsubscribed, fun fanOut hfanOut hmem => ?_⟩
        obtain ⟨before, hbefore, hsubset⟩ := hleft fanOut hfanOut
        exact h.drained before hbefore (hsubset hmem)

/-- A consumer that is gone is called only when it has been subscribed again. -/
theorem Gone.quiet (h : Gone consumer capture) : Quiet consumer capture := by
  intro later capture' hrun
  suffices hboth : Traces.Obeys (InvokesSubscribed consumer) later ∧
      ((∃ earlier ∈ later, Subscribes consumer earlier) ∨ Gone consumer capture') from hboth.1
  apply hrun.invariant (P := fun later capture' =>
    Traces.Obeys (InvokesSubscribed consumer) later ∧
      ((∃ earlier ∈ later, Subscribes consumer earlier) ∨ Gone consumer capture'))
  · exact ⟨Traces.obeys_nil, Or.inr h⟩
  · rintro later between event - ⟨hobeys, ⟨earlier, hearlier, hsubscribed⟩ | hgone⟩
    · constructor
      · exact hobeys.concat (fun _ => ⟨earlier, hearlier, hsubscribed⟩)
      · exact Or.inl ⟨earlier, List.mem_append_left _ hearlier, hsubscribed⟩
    · obtain ⟨hquiet, hnext⟩ := hgone.step event
      refine ⟨hobeys.concat (fun hinvoked => absurd hinvoked hquiet), ?_⟩
      apply hnext.imp_left
      intro hsubscribed
      exact ⟨_, List.mem_append_right _ (List.mem_singleton_self _), hsubscribed⟩

/-- What is quiet stays so while the consumer is not subscribed. -/
theorem Quiet.step (h : Quiet consumer capture) (event : Event)
    (hnot : ¬Subscribes consumer (Runs.transition SharedCapture.step capture event)) :
    ¬Invokes consumer (Runs.transition SharedCapture.step capture event) ∧
      Quiet consumer (capture.step event).2 := by
  have hfirst : Runs.Run SharedCapture.step capture
      [Runs.transition SharedCapture.step capture event] (capture.step event).2 :=
    Runs.Run.start.next event
  constructor
  · intro hinvoked
    obtain ⟨earlier, hearlier, -⟩ := h _ _ hfirst [] _ [] rfl hinvoked
    cases hearlier
  · intro later capture' hrun before t after hsplit hinvoked
    have hsplit' : [Runs.transition SharedCapture.step capture event] ++ later =
        (Runs.transition SharedCapture.step capture event :: before) ++ t :: after := by
      rw [hsplit]
      rfl
    obtain ⟨earlier, hearlier, hsubscribed⟩ :=
      h _ _ (hfirst.trans hrun) _ t after hsplit' hinvoked
    rcases List.mem_cons.mp hearlier with rfl | hlater
    · exact absurd hsubscribed hnot
    · exact ⟨earlier, hlater, hsubscribed⟩

/-- A thread that goes on alone calls every consumer that it has left. -/
theorem Quiet.drained (h : Quiet consumer capture) : Drained consumer capture := by
  intro fanOut hfanOut
  obtain ⟨thread, hthread⟩ := List.mem_iff_getElem?.mp hfanOut
  obtain ⟨consumers, captured⟩ := fanOut
  induction consumers generalizing capture with
  | nil => simp
  | cons first rest ih =>
      have hcalled : (capture.step (.deliver thread)) =
          (.onPacket first captured,
            { capture with inFlight := capture.inFlight.set thread ⟨rest, captured⟩ }) := by
        simp [SharedCapture.step, deliver, hthread]
      obtain ⟨hnot, hquiet⟩ := h.step (.deliver thread) (fun hsubscribes => by
        cases hsubscribes.1)
      rw [hcalled] at hquiet
      have hlength := (List.getElem?_eq_some_iff.mp hthread).1
      have hset : (capture.inFlight.set thread ⟨rest, captured⟩)[thread]? =
          some ⟨rest, captured⟩ := by
        simp [hlength]
      have hrest := ih hquiet (List.mem_of_getElem? hset) hset
      have hfirst : consumer ≠ first := by
        rintro rfl
        exact hnot ⟨captured, congrArg Prod.fst hcalled⟩
      exact List.not_mem_cons_of_ne_of_not_mem hfirst hrest

/-- A consumer that is not subscribed is left alone exactly if no thread has it left. -/
theorem quiet_iff (h : consumer ∉ capture.session.consumers) :
    Quiet consumer capture ↔ Drained consumer capture :=
  ⟨Quiet.drained, fun hdrained => Gone.quiet ⟨h, hdrained⟩⟩

/-- The threads run the session itself: what is proved of its runs holds here. -/
theorem session_run {past : List Transition} (hrun : Runs.Run step capture past capture') :
    ∃ calls, Runs.Run SynchronizedCaptureSession.step capture.session calls capture'.session := by
  apply hrun.stateInvariant (P := fun capture' =>
    ∃ calls, Runs.Run SynchronizedCaptureSession.step capture.session calls capture'.session)
  · exact ⟨[], .start⟩
  · rintro between event ⟨calls, hcalls⟩
    cases event with
    | locked call => exact ⟨_, hcalls.next call⟩
    | deliver thread =>
        rw [step_deliver_session]
        exact ⟨calls, hcalls⟩

theorem unsubscribed_of_unsubscribes
    (hnodup : capture.session.consumers.Nodup)
    (h : Unsubscribes consumer (Runs.transition step capture event)) :
    consumer ∉ (capture.step event).2.session.consumers ∧
      (capture.step event).2.inFlight = capture.inFlight := by
  obtain ⟨hinput, houtput⟩ := h
  obtain rfl : event = .locked (.unsubscribe (some consumer)) := hinput
  have haccepted : (capture.session.step (.unsubscribe (some consumer))).1 = {} :=
    Effect.answered.inj houtput
  have hmem : consumer ∈ capture.session.consumers := by
    by_contra hnot
    simp [SynchronizedCaptureSession.step, SynchronizedCaptureSession.unsubscribe, hnot]
      at haccepted
  constructor
  · simpa [SynchronizedCaptureSession.step, SynchronizedCaptureSession.unsubscribe, hmem] using
      hnodup.not_mem_erase
  · simp [haccepted]

/-- In every run, a consumer that is unsubscribed is left alone from then on, until it is
subscribed again, if and only if no thread has still to deliver to it when it is
unsubscribed. -/
theorem unsubscribed_quiet_iff {ringCapacityBytes : Nat} {past : List Transition}
    (hrun : Runs.Run step ⟨.create ringCapacityBytes, []⟩ past capture) :
    (∀ t ∈ past, ∀ consumer, Unsubscribes consumer t → Quiet consumer t.after) ↔
      ∀ t ∈ past, ∀ consumer, Unsubscribes consumer t → Drained consumer t.before := by
  apply hrun.invariant (P := fun past _ =>
    (∀ t ∈ past, ∀ consumer, Unsubscribes consumer t → Quiet consumer t.after) ↔
      ∀ t ∈ past, ∀ consumer, Unsubscribes consumer t → Drained consumer t.before)
  · simp
  · intro past capture event hrun hiff
    simp only [List.forall_mem_append, List.forall_mem_singleton, hiff]
    apply and_congr_right
    intro _
    apply forall_congr'
    intro consumer
    apply imp_congr_right
    intro hunsubscribes
    obtain ⟨calls, hcalls⟩ := session_run hrun
    obtain ⟨hgone, hsame⟩ := unsubscribed_of_unsubscribes
      (SynchronizedCaptureSession.nodup_consumers_run hcalls) hunsubscribes
    rw [Runs.transition, quiet_iff hgone, Drained, hsame]
    exact Iff.rfl

def newCapture : SharedCapture := ⟨.create 1024, []⟩

/-- A packet of the only stream is accepted while the consumer 7 is subscribed. -/
def packetAccepted : List Event :=
  [.locked (.registerStream 0 "Master" { width := 16, height := 9 }),
    .locked (.subscribe (some 7)), .locked .start, .locked (.ingest 0 packet [])]
where
  packet : EncodedPacket :=
    { timebaseNum := 1, timebaseDen := 60, keyframe := true, payload := [0] }

/-- The packet is delivered first, and then the consumer is unsubscribed for good. -/
theorem unsubscribed_quiet_iff_sample :
    (Runs.exec step newCapture
        (packetAccepted ++ [.deliver 0, .locked (.unsubscribe (some 7))])).session.consumers = [] ∧
      ∀ t ∈ Runs.history step newCapture
          (packetAccepted ++ [.deliver 0, .locked (.unsubscribe (some 7))]),
        ∀ consumer, Unsubscribes consumer t → Quiet consumer t.after := by
  have hdelivered : ∀ t ∈ Runs.history step newCapture
      (packetAccepted ++ [.deliver 0, .locked (.unsubscribe (some 7))]),
      t.input matches .deliver _ ∨ ∀ fanOut ∈ t.before.inFlight, fanOut.consumers = [] := by
    decide
  refine ⟨by decide, (unsubscribed_quiet_iff (Runs.run_exec _ _)).mpr ?_⟩
  rintro t ht consumer ⟨hinput, -⟩ fanOut hfanOut
  have hnone := hdelivered t ht
  rw [hinput] at hnone
  rw [hnone.resolve_left (by simp) fanOut hfanOut]
  exact List.not_mem_nil

/-- The consumer is unsubscribed while the packet is under way, and is called after that. -/
theorem unsubscribed_consumer_called :
    (Runs.history step (Runs.exec step newCapture packetAccepted)
        [.locked (.unsubscribe (some 7)), .deliver 0]).map Runs.Transition.output =
      [.answered {}, .onPacket 7 ⟨0, packetAccepted.packet, []⟩] ∧
    ¬∀ t ∈ Runs.history step newCapture (packetAccepted ++ [.locked (.unsubscribe (some 7))]),
      ∀ consumer, Unsubscribes consumer t → Quiet consumer t.after := by
  constructor
  · decide
  · intro h
    have hquiet := h (Runs.transition step (Runs.exec step newCapture packetAccepted)
      (.locked (.unsubscribe (some 7)))) (by simp [Runs.history, packetAccepted]) 7
      ⟨rfl, by decide⟩
    have hcalled : Runs.Run step _ _ _ := Runs.run_exec (Runs.exec step newCapture
      (packetAccepted ++ [.locked (.unsubscribe (some 7))])) [.deliver 0]
    obtain ⟨earlier, hearlier, -⟩ := hquiet _ _ hcalled [] _ [] rfl
      ⟨⟨0, packetAccepted.packet, []⟩, by decide⟩
    cases hearlier

end SharedCapture

end ObsSyncReplay
