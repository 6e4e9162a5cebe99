import ObsSyncReplay.Recording.ConsumerAgreement

/-!
The order of what is committed. The worker compares a new packet with the pending
ones only and not with the slots it has committed already. So the committed source
CTS ascend in every run in which no packet that gets past this comparison lies at
or below the end of the committed range, and in no other run.
-/

namespace ObsSyncReplay

namespace SynchronizedRecordingConsumer

open AscendingList

/-- The worker puts the packet among the pending ones of its lane. -/
def Inserts (consumer : SynchronizedRecordingConsumer) (captured : CapturedEncodedPacket) :
    Prop :=
  ∃ index ∈ consumer.localStreamIndex captured.streamId, ∃ lane ∈ consumer.lanes[index]?,
    captured.packet.sourceCts ∉ lane.pending.keys

/-- No packet that is inserted comes after the slot it belongs to was passed. -/
def InOrder (t : Runs.Transition SynchronizedRecordingConsumer Event Unit) : Prop :=
  ∀ captured ∈ handling t, Inserts t.before captured → 0 < t.before.packetCount →
    t.before.range.endCts < captured.packet.sourceCts

/-- What has been committed, and what each writer was given, is in order. -/
structure WrittenInOrder (consumer : SynchronizedRecordingConsumer) : Prop where
  ascending : consumer.committed.Pairwise (· < ·)
  fromStart : ∀ cts ∈ consumer.committed, consumer.range.startCts ≤ cts
  once : ∀ lane ∈ consumer.lanes, lane.givenCts.Nodup

/-- A step that keeps the order: no insertion at or below a committed slot, and no
step back of the end. -/
structure Ordered (t : Runs.Transition SynchronizedRecordingConsumer Event Unit) : Prop where
  written : WrittenInOrder t.after
  inserted : ∀ captured ∈ handling t, Inserts t.before captured →
    ∀ cts ∈ t.before.committed, cts < captured.packet.sourceCts
  endCts : t.before.range.endCts ≤ t.after.range.endCts

/-- The first lane has nothing pending at or below what is committed, so the next
slot lies above. -/
structure Ascends (consumer : SynchronizedRecordingConsumer) : Prop where
  ascending : consumer.committed.Pairwise (· < ·)
  fromStart : consumer.started = true →
    ∀ cts ∈ consumer.committed ++ consumer.frontPending, consumer.range.startCts ≤ cts
  front : ∀ cts ∈ consumer.frontPending, ∀ slot ∈ consumer.committed, slot < cts
  unset : consumer.committed = [] → consumer.range.endCts = 0

section Moves

variable {consumer consumer' : SynchronizedRecordingConsumer} {cts : Nat}

theorem mem_frontPending_map {f : RecordingLane → RecordingLane} :
    (∃ front ∈ (consumer.lanes.map f).head?, cts ∈ front.pending.keys) ↔
      ∃ front ∈ consumer.lanes.head?, cts ∈ (f front).pending.keys := by
  cases consumer.lanes <;> simp

theorem mem_frontPending_begun {start : Nat} :
    cts ∈ (consumer.begun start).frontPending ↔ cts ∈ consumer.frontPending ∧ start ≤ cts := by
  rw [mem_frontPending, begun, mem_frontPending_map, mem_frontPending]
  simp only [RecordingLane.opened_pending, OrderedMap.mem_keys, OrderedMap.entries_eraseBefore,
    List.mem_filter, decide_eq_true_eq]
  constructor
  · rintro ⟨front, hfront, value, hvalue, hle⟩
    exact ⟨⟨front, hfront, value, hvalue⟩, hle⟩
  · rintro ⟨⟨front, hfront, value, hvalue⟩, hle⟩
    exact ⟨front, hfront, value, hvalue, hle⟩

theorem mem_frontPending_slotCommitted {slot : Nat}
    (hwrite : ∀ lane ∈ consumer.lanes, (lane.writeSlot consumer.range.startCts slot).1 = none) :
    cts ∈ (consumer.slotCommitted slot).frontPending ↔
      cts ∈ consumer.frontPending ∧ cts ≠ slot := by
  rw [mem_frontPending, slotCommitted, mem_frontPending_map, mem_frontPending]
  constructor
  · rintro ⟨front, hfront, hmem⟩
    obtain ⟨hold, hne⟩ :=
      (RecordingLane.mem_slotWritten_keys (hwrite front (List.mem_of_head? hfront))).mp hmem
    exact ⟨⟨front, hfront, hold⟩, hne⟩
  · rintro ⟨⟨front, hfront, hold⟩, hne⟩
    refine ⟨front, hfront, ?_⟩
    apply (RecordingLane.mem_slotWritten_keys (hwrite front (List.mem_of_head? hfront))).mpr
    exact ⟨hold, hne⟩

theorem Ascends.move (h : Ascends consumer) (hagrees : Agrees consumer)
    (hmove : Move consumer consumer') : Ascends consumer' := by
  cases hmove with
  | begin start hstarted hcommon hopen =>
      have hnil := hagrees.idle hstarted
      refine ⟨h.ascending, fun _ cts hcts => ?_, fun cts hcts slot hslot => ?_, h.unset⟩
      · rcases List.mem_append.mp hcts with hcommitted | hpending
        · change cts ∈ consumer.committed at hcommitted
          rw [hnil] at hcommitted
          cases hcommitted
        · exact (mem_frontPending_begun.mp hpending).2
      · change slot ∈ consumer.committed at hslot
        rw [hnil] at hslot
        cases hslot
  | commit slot hstarted hnext hwrite =>
      obtain ⟨hhead, -⟩ := nextSlot_eq_some.mp hnext
      have hmem : slot ∈ consumer.frontPending := List.mem_of_head? hhead
      refine ⟨?_, fun _ cts hcts => ?_, fun cts hcts other hother => ?_, fun hnil => ?_⟩
      · apply List.pairwise_append.mpr
        refine ⟨h.ascending, List.pairwise_singleton _ _, fun other hother cts hcts => ?_⟩
        obtain rfl := List.mem_singleton.mp hcts
        exact h.front cts hmem other hother
      · change consumer.range.startCts ≤ cts
        apply h.fromStart hstarted cts
        rcases List.mem_append.mp hcts with hcommitted | hpending
        · rcases List.mem_append.mp hcommitted with hold | hnew
          · exact List.mem_append_left _ hold
          · obtain rfl := List.mem_singleton.mp hnew
            exact List.mem_append_right _ hmem
        · exact List.mem_append_right _ ((mem_frontPending_slotCommitted hwrite).mp hpending).1
      · obtain ⟨hold, hne⟩ := (mem_frontPending_slotCommitted hwrite).mp hcts
        rcases List.mem_append.mp hother with hbefore | hnew
        · exact h.front cts hold other hbefore
        · obtain rfl := List.mem_singleton.mp hnew
          have hle := head?_le frontPending_ascending hold hhead
          omega
      · exact absurd hnil (List.append_ne_nil_of_right_ne_nil _ (List.cons_ne_nil _ _))

theorem Ascends.moves (h : Ascends consumer) (hagrees : Agrees consumer)
    (hkeyed : consumer.Keyed) (hmoves : Moves consumer consumer') : Ascends consumer' := by
  induction hmoves with
  | refl => exact h
  | tail hprior hmove ih => exact ih.move (hagrees.moves hkeyed hprior) hmove

/-- The end of the range is the last committed slot, and the first lane lies above it. -/
theorem Ascends.endCts_lt (h : Ascends consumer) (hagrees : Agrees consumer)
    (hmem : cts ∈ consumer.frontPending) : consumer.range.endCts ≤ cts := by
  cases hlast : consumer.committed.getLast? with
  | none =>
      rw [h.unset (List.getLast?_eq_none_iff.mp hlast)]
      exact Nat.zero_le cts
  | some last =>
      rw [hagrees.last last hlast]
      exact (h.front cts hmem last (List.mem_of_getLast? hlast)).le

theorem Ascends.endCts_le (h : Ascends consumer) (hagrees : Agrees consumer)
    (hkeyed : consumer.Keyed) (hmoves : Moves consumer consumer') :
    consumer.range.endCts ≤ consumer'.range.endCts := by
  induction hmoves with
  | refl => exact le_rfl
  | @tail middle after hprior hmove ih =>
      apply ih.trans
      cases hmove with
      | begin start hstarted hcommon hopen => exact le_rfl
      | commit slot hstarted hnext hwrite =>
          have hmem : slot ∈ middle.frontPending :=
            List.mem_of_head? (nextSlot_eq_some.mp hnext).1
          exact (h.moves hagrees hkeyed hprior).endCts_lt (hagrees.moves hkeyed hprior) hmem

theorem Ascends.writtenInOrder (h : Ascends consumer) (hagrees : Agrees consumer) :
    WrittenInOrder consumer := by
  refine ⟨h.ascending, fun cts hcts => ?_, fun lane hlane => ?_⟩
  · cases hstarted : consumer.started with
    | true => exact h.fromStart hstarted cts (List.mem_append_left _ hcts)
    | false =>
        rw [hagrees.idle hstarted] at hcts
        cases hcts
  · rw [hagrees.given lane hlane]
    exact h.ascending.imp ne_of_lt

/-- A refusal may leave one lane with the next slot, which is above all others. -/
theorem Ascends.refused (h : Ascends consumer) (hagrees : Agrees consumer)
    (hrefused : Refused consumer consumer') :
    WrittenInOrder consumer' ∧ consumer'.range.endCts = consumer.range.endCts := by
  obtain ⟨error, range, lanes, -, hrange, hgiven, -, -⟩ := hrefused
  have hwritten := h.writtenInOrder hagrees
  constructor
  · refine ⟨?_, ?_, ?_⟩
    · rw [fail_committed]
      exact hwritten.ascending
    · rw [fail_committed, fail_range]
      change ∀ cts ∈ consumer.committed, range.startCts ≤ cts
      rcases hrange with rfl | ⟨hnot, -⟩
      · exact hwritten.fromStart
      · rw [hagrees.idle hnot]
        simp
    · rw [fail_lanes]
      intro lane' hlane'
      obtain ⟨lane, hlane, hsame | ⟨-, cts, hnext, happend⟩⟩ :=
        exists_of_mem_right hgiven hlane'
      · rw [hsame]
        exact hwritten.once lane hlane
      · rw [happend, hagrees.given lane hlane]
        have hmem : cts ∈ consumer.frontPending :=
          List.mem_of_head? (nextSlot_eq_some.mp hnext).1
        apply List.Pairwise.imp ne_of_lt
        apply List.pairwise_append.mpr
        refine ⟨h.ascending, List.pairwise_singleton _ _, fun other hother slot hslot => ?_⟩
        obtain rfl := List.mem_singleton.mp hslot
        exact h.front slot hmem other hother
  · rw [fail_range]
    rcases hrange with rfl | ⟨-, hend⟩
    · rfl
    · exact hend

theorem mem_frontPending_insert {captured : CapturedEncodedPacket}
    (h : cts ∈ (consumer.insert captured).frontPending) :
    cts ∈ consumer.frontPending ∨
      cts = captured.packet.sourceCts ∧ Inserts consumer captured := by
  obtain ⟨front', hfront', hmem⟩ := mem_frontPending.mp h
  have hzero : (consumer.insert captured).lanes[0]? = some front' := by
    rw [← List.head?_eq_getElem?]
    exact hfront'
  rw [insert_getElem?] at hzero
  obtain ⟨front, hfront, rfl⟩ := Option.map_eq_some_iff.mp hzero
  have hhead : consumer.lanes.head? = some front := by rw [List.head?_eq_getElem?, hfront]
  split_ifs at hmem with hindex
  · rcases RecordingLane.mem_insert_keys.mp hmem with rfl | hold
    · by_cases hpending : captured.packet.sourceCts ∈ front.pending.keys
      · exact Or.inl (mem_frontPending.mpr ⟨front, hhead, hpending⟩)
      · exact Or.inr ⟨rfl, 0, hindex, front, hfront, hpending⟩
    · exact Or.inl (mem_frontPending.mpr ⟨front, hhead, hold⟩)
  · exact Or.inl (mem_frontPending.mpr ⟨front, hhead, hmem⟩)

theorem Ascends.insert (h : Ascends consumer) (hagrees : Agrees consumer)
    (hbegun : consumer.started = true → consumer.committed ≠ [])
    {captured : CapturedEncodedPacket}
    (horder : Inserts consumer captured → 0 < consumer.packetCount →
      consumer.range.endCts < captured.packet.sourceCts) :
    Ascends (consumer.insert captured) := by
  obtain ⟨hcommitted, -⟩ := insert_committed consumer captured
  -- an inserted packet lies above everything that is committed
  have habove : Inserts consumer captured → ∀ slot ∈ consumer.committed,
      slot < captured.packet.sourceCts := by
    intro hinserts slot hslot
    have hne := List.ne_nil_of_mem hslot
    obtain ⟨last, hlast⟩ := Option.ne_none_iff_exists'.mp
      (fun hnone => hne (List.getLast?_eq_none_iff.mp hnone))
    have hpositive : 0 < consumer.packetCount := by
      rw [hagrees.count]
      exact List.length_pos_iff.mpr hne
    have hend := horder hinserts hpositive
    rw [hagrees.last last hlast] at hend
    exact (le_getLast? h.ascending hslot hlast).trans_lt hend
  refine ⟨?_, fun hstarted cts hcts => ?_, fun cts hcts slot hslot => ?_, fun hnil => ?_⟩
  · rw [hcommitted]
    exact h.ascending
  · rw [insert_started] at hstarted
    rw [insert_range]
    rw [hcommitted] at hcts
    rcases List.mem_append.mp hcts with hold | hpending
    · exact h.fromStart hstarted cts (List.mem_append_left _ hold)
    · rcases mem_frontPending_insert hpending with hold | ⟨rfl, hinserts⟩
      · exact h.fromStart hstarted cts (List.mem_append_right _ hold)
      · obtain ⟨slot, hslot⟩ := List.exists_mem_of_ne_nil _ (hbegun hstarted)
        have hstart := h.fromStart hstarted slot (List.mem_append_left _ hslot)
        exact hstart.trans (habove hinserts slot hslot).le
  · rw [hcommitted] at hslot
    rcases mem_frontPending_insert hcts with hold | ⟨rfl, hinserts⟩
    · exact h.front cts hold slot hslot
    · exact habove hinserts slot hslot
  · rw [hcommitted] at hnil
    rw [insert_range]
    exact h.unset hnil

end Moves

/-- Either slots are still committed in order, or the recording has failed or ended and
what was written stays. -/
inductive Sequence (consumer : SynchronizedRecordingConsumer) : Prop
  | writing (hworker : consumer.worker ≠ .done) (agrees : Agrees consumer)
      (ascends : Ascends consumer) (begun : consumer.started = true → consumer.committed ≠ [])
  | closing (hworker : ∀ captured, consumer.worker ≠ .processing captured)
      (hended : consumer.failed = true ∨ consumer.worker = .done)
      (written : WrittenInOrder consumer)

section Runs

variable {consumer consumer' : SynchronizedRecordingConsumer} {past : History}

theorem WrittenInOrder.of_same (h : WrittenInOrder consumer)
    (hcommitted : consumer'.committed = consumer.committed)
    (hrange : consumer'.range = consumer.range)
    (hgiven : consumer'.lanes.map RecordingLane.givenCts =
      consumer.lanes.map RecordingLane.givenCts) : WrittenInOrder consumer' := by
  refine ⟨?_, ?_, fun lane hlane => ?_⟩
  · rw [hcommitted]
    exact h.ascending
  · rw [hcommitted, hrange]
    exact h.fromStart
  · have hmem := List.mem_map_of_mem (f := RecordingLane.givenCts) hlane
    rw [hgiven] at hmem
    obtain ⟨before, hbefore, hsame⟩ := List.mem_map.mp hmem
    rw [← hsame]
    exact h.once before hbefore

theorem WrittenInOrder.finalize (h : WrittenInOrder consumer) :
    WrittenInOrder consumer.finalize :=
  h.of_same rfl rfl finalize_givenCts

theorem WrittenInOrder.fail (h : WrittenInOrder consumer) (error : String) :
    WrittenInOrder (consumer.fail error) :=
  h.of_same fail_committed fail_range (by rw [fail_lanes])

theorem Sequence.writtenInOrder (h : Sequence consumer) : WrittenInOrder consumer := by
  cases h with
  | writing _ agrees ascends _ => exact ascends.writtenInOrder agrees
  | closing _ _ written => exact written

/-- Steps that leave the lanes and what is committed alone. -/
theorem Sequence.of_same (h : Sequence consumer) {queue : List CapturedEncodedPacket}
    {worker : WorkerPhase} {stopRequested failed : Bool}
    {result : Option SynchronizedRecordingConsumerResult}
    (hfailed : consumer.failed = true → failed = true)
    (hdone : worker = .done ↔ consumer.worker = .done)
    (hprocessing : ∀ captured, worker = .processing captured →
      consumer.failed = false ∨ consumer.worker = .processing captured) :
    Sequence { consumer with
      queue := queue, worker := worker, stopRequested := stopRequested, failed := failed
      result := result } := by
  cases h with
  | writing hworker agrees ascends begun =>
      refine .writing (fun hnot => hworker (hdone.mp hnot)) ⟨agrees.lanes, agrees.given,
        agrees.accepted, agrees.writing, agrees.idle, agrees.count, agrees.last, agrees.first⟩
        ⟨ascends.ascending, ascends.fromStart, ascends.front, ascends.unset⟩ begun
  | closing hworker hended written =>
      refine .closing (fun captured hcaptured => ?_) (hended.imp hfailed hdone.mpr)
        (written.of_same rfl rfl rfl)
      rcases hprocessing captured hcaptured with hnot | hsame
      · rcases hended with hfail | hdone'
        · rw [hfail] at hnot
          cases hnot
        · rw [hdone.mpr hdone'] at hcaptured
          cases hcaptured
      · exact hworker captured hsame

/-- The work on one packet that keeps the order. -/
theorem Sequence.process (h : Sequence consumer) (hkeyed : consumer.Keyed)
    {captured : CapturedEncodedPacket} (hworker : consumer.worker = .processing captured)
    (horder : Inserts consumer captured → 0 < consumer.packetCount →
      consumer.range.endCts < captured.packet.sourceCts) :
    Sequence consumer.work ∧ consumer.range.endCts ≤ consumer.work.range.endCts := by
  cases h with
  | closing hnot => exact absurd hworker (hnot captured)
  | writing _ agrees ascends begun =>
      have hagrees := agrees.insert begun captured
      have hascends := ascends.insert agrees begun horder
      have hkeyed' := hkeyed.insert captured
      have hrange := insert_range consumer captured
      simp only [SynchronizedRecordingConsumer.work, hworker]
      rcases process_cases hkeyed captured with
        ⟨-, heq⟩ | ⟨middle, hmoves, ⟨heq, hsettled⟩ | ⟨continues, consumer', hrefused, heq⟩⟩
      · rw [heq]
        refine ⟨.closing (by simp) (Or.inl fail_failed)
          (((hascends.writtenInOrder hagrees).fail _).of_same rfl rfl rfl), ?_⟩
        change _ ≤ ((consumer.insert captured).fail _).range.endCts
        rw [fail_range, hrange]
      · rw [heq]
        have hmiddle := hagrees.moves hkeyed' hmoves
        have hmiddle' := hascends.moves hagrees hkeyed' hmoves
        refine ⟨.writing (by simp) ⟨hmiddle.lanes, hmiddle.given, hmiddle.accepted,
          hmiddle.writing, hmiddle.idle, hmiddle.count, hmiddle.last, hmiddle.first⟩
          ⟨hmiddle'.ascending, hmiddle'.fromStart, hmiddle'.front, hmiddle'.unset⟩
          (hmiddle.committed_ne_nil hsettled), ?_⟩
        rw [← hrange]
        exact hascends.endCts_le hagrees hkeyed' hmoves
      · rw [heq]
        obtain ⟨hwritten, hend⟩ := (hascends.moves hagrees hkeyed' hmoves).refused
          (hagrees.moves hkeyed' hmoves) hrefused
        refine ⟨.closing (by cases continues <;> simp) (Or.inl hrefused.failed)
          (hwritten.of_same rfl rfl rfl), ?_⟩
        change _ ≤ consumer'.range.endCts
        rw [hend, ← hrange]
        exact hascends.endCts_le hagrees hkeyed' hmoves

theorem Sequence.finish (h : Sequence consumer) (hkeyed : consumer.Keyed)
    (hworker : consumer.worker = .finishing) :
    Sequence consumer.finish ∧ consumer.range.endCts ≤ consumer.finish.range.endCts := by
  have hclosed : ∀ ending : SynchronizedRecordingConsumer, WrittenInOrder ending →
      consumer.range.endCts ≤ ending.range.endCts →
      (if consumer.failed then consumer else consumer.settle) = ending →
      Sequence consumer.finish ∧ consumer.range.endCts ≤ consumer.finish.range.endCts := by
    intro ending hending hle heq
    unfold SynchronizedRecordingConsumer.finish
    rw [heq]
    exact ⟨.closing (by simp) (Or.inr rfl) (hending.finalize.of_same rfl rfl rfl), hle⟩
  by_cases hfailed : consumer.failed = true
  · exact hclosed consumer h.writtenInOrder le_rfl (if_pos hfailed)
  · cases h with
    | closing _ hended _ =>
        rw [hworker] at hended
        simp [hfailed] at hended
    | writing _ agrees ascends begun =>
        obtain ⟨middle, hmoves, hend⟩ := settle_cases hkeyed
        have hmiddle := agrees.moves hkeyed hmoves
        have hmiddle' := ascends.moves agrees hkeyed hmoves
        have hle := ascends.endCts_le agrees hkeyed hmoves
        have hwritten := hmiddle'.writtenInOrder hmiddle
        rcases hend with ⟨-, -, hsettle⟩ | ⟨-, -, -, hsettle⟩ | ⟨-, -, -, hsettle⟩ | hrefused
        · apply hclosed _ (hwritten.fail "no-common-recording-start-keyframe") _
            ((if_neg hfailed).trans hsettle)
          rwa [fail_range]
        · apply hclosed _ (hwritten.fail "recording-unresolved-common-prefix") _
            ((if_neg hfailed).trans hsettle)
          rwa [fail_range]
        · exact hclosed middle hwritten hle ((if_neg hfailed).trans hsettle)
        · obtain ⟨hwritten', hsame⟩ := hmiddle'.refused hmiddle hrefused
          apply hclosed consumer.settle hwritten' _ (if_neg hfailed)
          rwa [hsame]

theorem Sequence.work (h : Sequence consumer) (hkeyed : consumer.Keyed)
    (horder : InOrder (Runs.transition step consumer .work)) :
    Sequence consumer.work ∧ consumer.range.endCts ≤ consumer.work.range.endCts := by
  cases hworker : consumer.worker with
  | waiting =>
      have hdone : consumer.worker ≠ .done := by simp [hworker]
      simp only [SynchronizedRecordingConsumer.work, hworker]
      rcases take_cases consumer with ⟨heq, -⟩ | ⟨-, heq⟩ | ⟨captured, rest, -, hfailed, heq⟩
      · rw [heq]
        exact ⟨h, le_rfl⟩
      · rw [heq]
        refine ⟨h.of_same id ?_ ?_, le_rfl⟩
        · simp [hworker]
        · simp
      · rw [heq]
        refine ⟨h.of_same id ?_ ?_, le_rfl⟩
        · simp [hworker]
        · exact fun _ _ => Or.inl hfailed
  | processing captured =>
      apply h.process hkeyed hworker
      apply horder captured
      simp [handling, Runs.transition, hworker]
  | finishing =>
      simp only [SynchronizedRecordingConsumer.work, hworker]
      exact h.finish hkeyed hworker
  | done =>
      simp only [SynchronizedRecordingConsumer.work, hworker]
      exact ⟨h, le_rfl⟩

theorem Sequence.step (h : Sequence consumer) (hkeyed : consumer.Keyed) (event : Event)
    (horder : InOrder (Runs.transition step consumer event)) :
    Sequence (consumer.step event).2 ∧
      consumer.range.endCts ≤ (consumer.step event).2.range.endCts := by
  cases event with
  | onPacket packet =>
      simp only [SynchronizedRecordingConsumer.step]
      rcases onPacket_cases consumer packet with
        heq | ⟨-, -, heq⟩ | ⟨captured, -, -, -, -, -, heq⟩
      · rw [heq]
        exact ⟨h, le_rfl⟩
      · rw [heq]
        exact ⟨h.of_same (fun _ => rfl) Iff.rfl (fun _ => Or.inr), le_rfl⟩
      · rw [heq]
        exact ⟨h.of_same id Iff.rfl (fun _ => Or.inr), le_rfl⟩
  | stop => exact ⟨h.of_same id Iff.rfl (fun _ => Or.inr), le_rfl⟩
  | work => exact h.work hkeyed horder

/-- What is inserted in order lies above every committed slot, and conversely. -/
theorem Sequence.inserted_iff (h : Sequence consumer) (event : Event) :
    InOrder (Runs.transition SynchronizedRecordingConsumer.step consumer event) ↔
      ∀ captured ∈ handling (Runs.transition SynchronizedRecordingConsumer.step consumer event),
        Inserts consumer captured → ∀ cts ∈ consumer.committed,
          cts < captured.packet.sourceCts := by
  cases h with
  | closing hworker _ _ =>
      have hnone : ∀ captured, captured ∉
          handling (Runs.transition SynchronizedRecordingConsumer.step consumer event) := by
        intro captured hcaptured
        unfold handling Runs.transition at hcaptured
        cases event with
        | onPacket packet => cases hcaptured
        | stop => cases hcaptured
        | work =>
            cases hphase : consumer.worker with
            | processing other => exact hworker other hphase
            | _ => simp [hphase] at hcaptured
      exact ⟨fun _ captured hcaptured => absurd hcaptured (hnone captured),
        fun _ captured hcaptured => absurd hcaptured (hnone captured)⟩
  | writing _ agrees ascends _ =>
      constructor
      · intro horder captured hcaptured hinserts cts hcts
        have hne := List.ne_nil_of_mem hcts
        obtain ⟨last, hlast⟩ := Option.ne_none_iff_exists'.mp
          (fun hnone => hne (List.getLast?_eq_none_iff.mp hnone))
        have hend : consumer.range.endCts < captured.packet.sourceCts := by
          apply horder captured hcaptured hinserts
          change 0 < consumer.packetCount
          rw [agrees.count]
          exact List.length_pos_iff.mpr hne
        rw [agrees.last last hlast] at hend
        exact (le_getLast? ascends.ascending hcts hlast).trans_lt hend
      · intro hinserted captured hcaptured hinserts hpositive
        change 0 < consumer.packetCount at hpositive
        rw [agrees.count] at hpositive
        obtain ⟨last, hlast⟩ := Option.ne_none_iff_exists'.mp
          (fun hnone => (List.length_pos_iff.mp hpositive) (List.getLast?_eq_none_iff.mp hnone))
        change consumer.range.endCts < _
        rw [agrees.last last hlast]
        exact hinserted captured hcaptured hinserts last (List.mem_of_getLast? hlast)

theorem Fresh.sequence (h : Fresh consumer) : Sequence consumer := by
  cases h.stage with
  | recording hworker _ hrecording =>
      have hfront : consumer.frontPending = [] := by
        obtain ⟨front, rest, hlanes⟩ := List.exists_cons_of_ne_nil h.lanes
        have hempty := (h.idle front (by simp [hlanes])).1
        simp [frontPending, hlanes, hempty]
      refine .writing hworker hrecording.agrees ⟨?_, ?_, ?_, fun _ => ?_⟩ hrecording.begun
      · simp [h.committed]
      · simp [h.started]
      · simp [hfront]
      · rw [h.range]
  | failing _ hfailed _ =>
      rw [h.failed] at hfailed
      cases hfailed
  | ended hworker _ _ _ =>
      rw [h.worker] at hworker
      cases hworker

theorem run_sequence {first : SynchronizedRecordingConsumer} (hfresh : Fresh first)
    (hrun : Runs.Run SynchronizedRecordingConsumer.step first past consumer) :
    ((∀ t ∈ past, Ordered t) ↔ ∀ t ∈ past, InOrder t) ∧
      ((∀ t ∈ past, InOrder t) → Sequence consumer) := by
  refine hrun.invariant
    (P := fun past consumer => ((∀ t ∈ past, Ordered t) ↔ ∀ t ∈ past, InOrder t) ∧
      ((∀ t ∈ past, InOrder t) → Sequence consumer))
    ⟨by simp, fun _ => hfresh.sequence⟩ (fun past consumer event hprior ih => ?_)
  obtain ⟨hiff, hsequence⟩ := ih
  have hkeyed := run_keyed hfresh hprior
  simp only [List.forall_mem_append, List.forall_mem_singleton]
  refine ⟨⟨fun ⟨hold, hnew⟩ => ?_, fun ⟨hold, hnew⟩ => ?_⟩, fun ⟨hold, hnew⟩ => ?_⟩
  · have hold' := hiff.mp hold
    exact ⟨hold', ((hsequence hold').inserted_iff event).mpr hnew.inserted⟩
  · obtain ⟨hafter, hend⟩ := (hsequence hold).step hkeyed event hnew
    exact ⟨hiff.mpr hold, hafter.writtenInOrder,
      ((hsequence hold).inserted_iff event).mp hnew, hend⟩
  · exact ((hsequence hold).step hkeyed event hnew).1

end Runs

/-- In every run of a started consumer, every step keeps the committed source CTS
ascending, at or above the start, once in each file and with an end that never goes
back, if and only if no packet is inserted at or below the end of the committed range. -/
theorem committed_in_order_iff {streamConfigs : List PacketStreamConfig} {paths : List String}
    {streamIds : List CaptureStreamId} {library : Nat → MuxLibrary}
    {first consumer : SynchronizedRecordingConsumer} {past : History}
    (hstart : start streamConfigs paths streamIds library = some first)
    (hrun : Runs.Run step first past consumer) :
    (∀ t ∈ past, Ordered t) ↔ ∀ t ∈ past, InOrder t :=
  (run_sequence (start_fresh hstart) hrun).1

theorem committed_in_order_iff_two_streams :
    ∃ consumer past, Runs.Run step (startedConsumer 2) past consumer ∧
      consumer.committed = [100, 110] ∧ ∀ t ∈ past, Ordered t := by
  have hstart : start (List.replicate 2 recordingConfig) (List.replicate 2 "video") []
      (fun _ => acceptingLibrary) = some (startedConsumer 2) := rfl
  have hrun := run_of_events 2 twoStreamEvents
  have hahead : ∀ t ∈ Runs.history step (startedConsumer 2) twoStreamEvents,
      ∀ captured ∈ handling t, 0 < t.before.packetCount →
        t.before.range.endCts < captured.packet.sourceCts := by
    decide
  refine ⟨_, _, hrun, by decide, (committed_in_order_iff hstart hrun).mpr ?_⟩
  exact fun t ht captured hcaptured _ => hahead t ht captured hcaptured

/-- A packet that arrives again after its slot was committed is written again, and the
recording succeeds. -/
theorem slot_committed_twice :
    start [recordingConfig] ["video"] [] (fun _ => acceptingLibrary) =
        some (startedConsumer 1) ∧
      ∃ consumer past, Runs.Run step (startedConsumer 1) past consumer ∧
        consumer.result.map (fun result => result.success) = some true ∧
        consumer.committed = [100, 100] ∧
        consumer.lanes.map RecordingLane.writtenCts = [[100, 100]] ∧ ¬ ∀ t ∈ past, Ordered t := by
  have hrun := (run_of_events 1
    (recordingEvents [recordingPacket 0 100 true, recordingPacket 0 100 true])).next .work
  refine ⟨rfl, _, _, hrun, by decide, by decide, by decide, fun hordered => ?_⟩
  have hlast := (hordered _ (List.mem_append_right _ (List.mem_singleton_self _))).written
  have hascending := hlast.ascending
  revert hascending
  decide

end SynchronizedRecordingConsumer

end ObsSyncReplay
