import ObsSyncReplay.Recording.SynchronizedRecordingConsumer

/-!
What opening the writer of a lane and writing one slot do to the lane: to its
pending packets, to the source CTS that its writer was given, and to what the
writer reports of them.
-/

namespace ObsSyncReplay

namespace WriterEvent

/-- The source CTS of the packet handed to the writer by the call. -/
def given (event : WriterEvent) : Option Nat :=
  match event.call with
  | .write packet => some packet.sourceCts
  | _ => none

/-- The same for a packet that the writer took. -/
def written (event : WriterEvent) : Option Nat :=
  if event.accepted then event.given else none

end WriterEvent

namespace RecordingLane

def givenCts (lane : RecordingLane) : List Nat := lane.calls.filterMap WriterEvent.given

def writtenCts (lane : RecordingLane) : List Nat := lane.calls.filterMap WriterEvent.written

def AllAccepted (lane : RecordingLane) : Prop := ∀ event ∈ lane.calls, event.accepted = true

theorem AllAccepted.writtenCts_eq {lane : RecordingLane} (h : lane.AllAccepted) :
    lane.writtenCts = lane.givenCts := by
  refine List.filterMap_congr (fun event hevent => ?_)
  rw [WriterEvent.written, if_pos (h event hevent)]

/-- Every packet is pending under its own source CTS. -/
def Keyed (lane : RecordingLane) : Prop :=
  ∀ e ∈ lane.pending.entries, e.1 = e.2.packet.sourceCts

/-- The lane has a writer in good order that reports the source CTS `written`. -/
def Writing (lane : RecordingLane) (written : List Nat) : Prop :=
  ∃ writer, lane.writer = some writer ∧ writer.Ready ∧ writer.Tracks written

theorem givenCts_append (lane : RecordingLane) (event : WriterEvent) :
    { lane with calls := lane.calls ++ [event] }.givenCts =
      lane.givenCts ++ event.given.toList := by
  simp only [givenCts, List.filterMap_append]
  cases hgiven : event.given <;> simp [hgiven]

theorem allAccepted_append {lane : RecordingLane} {event : WriterEvent} :
    { lane with calls := lane.calls ++ [event] }.AllAccepted ↔
      lane.AllAccepted ∧ event.accepted = true := by
  simp only [AllAccepted, List.mem_append, List.mem_singleton]
  constructor
  · exact fun h => ⟨fun other hother => h other (Or.inl hother), h event (Or.inr rfl)⟩
  · rintro ⟨hall, hevent⟩ other (hold | rfl)
    · exact hall other hold
    · exact hevent

section Insert

variable {lane : RecordingLane} {captured : CapturedEncodedPacket}

@[simp] theorem insert_streamId : (lane.insert captured).streamId = lane.streamId := by
  unfold RecordingLane.insert
  split_ifs <;> rfl

@[simp] theorem insert_calls : (lane.insert captured).calls = lane.calls := by
  unfold RecordingLane.insert
  split_ifs <;> rfl

@[simp] theorem insert_writer : (lane.insert captured).writer = lane.writer := by
  unfold RecordingLane.insert
  split_ifs <;> rfl

@[simp] theorem insert_givenCts : (lane.insert captured).givenCts = lane.givenCts := by
  rw [givenCts, insert_calls]
  rfl

theorem insert_of_pending (h : captured.packet.sourceCts ∈ lane.pending.keys) :
    lane.insert captured = lane := by
  rw [RecordingLane.insert, if_pos (OrderedMap.contains_iff.mpr h)]

theorem mem_insert (h : captured.packet.sourceCts ∉ lane.pending.keys)
    {e : Nat × CapturedEncodedPacket} :
    e ∈ (lane.insert captured).pending.entries ↔
      e = (captured.packet.sourceCts, captured) ∨ e ∈ lane.pending.entries := by
  rw [RecordingLane.insert, if_neg (fun hmem => h (OrderedMap.contains_iff.mp hmem))]
  exact OrderedMap.mem_emplace h

theorem mem_insert_keys {cts : Nat} :
    cts ∈ (lane.insert captured).pending.keys ↔
      cts = captured.packet.sourceCts ∨ cts ∈ lane.pending.keys := by
  by_cases h : captured.packet.sourceCts ∈ lane.pending.keys
  · rw [insert_of_pending h]
    refine ⟨Or.inr, ?_⟩
    rintro (rfl | hmem)
    · exact h
    · exact hmem
  · simp only [OrderedMap.mem_keys, mem_insert h, Prod.mk.injEq]
    constructor
    · rintro ⟨value, ⟨rfl, -⟩ | hmem⟩
      · exact Or.inl rfl
      · exact Or.inr ⟨value, hmem⟩
    · rintro (rfl | ⟨value, hmem⟩)
      · exact ⟨captured, Or.inl ⟨rfl, rfl⟩⟩
      · exact ⟨value, Or.inr hmem⟩

theorem Keyed.insert (h : lane.Keyed) (captured : CapturedEncodedPacket) :
    (lane.insert captured).Keyed := by
  by_cases hpending : captured.packet.sourceCts ∈ lane.pending.keys
  · rwa [insert_of_pending hpending]
  · intro e he
    rcases (mem_insert hpending).mp he with rfl | hold
    · rfl
    · exact h e hold

end Insert

/-- The lane after its writer was opened for a start. -/
def opened (cts : Nat) (lane : RecordingLane) : RecordingLane :=
  ((lane.eraseBefore cts).openAt cts).2

section Open

variable {lane : RecordingLane} {cts : Nat}

@[simp] theorem openAt_pending : (lane.openAt cts).2.pending = lane.pending := by
  simp only [openAt]
  split_ifs
  · rfl
  · cases lane.pending.find? cts <;> rfl

@[simp] theorem openAt_streamId : (lane.openAt cts).2.streamId = lane.streamId := by
  simp only [openAt]
  split_ifs
  · rfl
  · cases lane.pending.find? cts <;> rfl

/-- The call that `openAt` makes, and its answer. -/
theorem openAt_calls :
    (lane.openAt cts).2.calls = lane.calls ++ [⟨.open lane.path lane.config,
      (MkvPacketWriter.open {} lane.library lane.path lane.config).1⟩] := by
  simp only [openAt]
  split_ifs
  · rfl
  · cases lane.pending.find? cts <;> rfl

theorem openAt_writer :
    (lane.openAt cts).2.writer =
      some (MkvPacketWriter.open {} lane.library lane.path lane.config).2 := by
  simp only [openAt]
  split_ifs
  · rfl
  · cases lane.pending.find? cts <;> rfl

theorem openAt_eq_none_iff :
    (lane.openAt cts).1 = none ↔
      (MkvPacketWriter.open {} lane.library lane.path lane.config).1 = true ∧
        cts ∈ lane.pending.keys := by
  simp only [openAt]
  cases hopen : (MkvPacketWriter.open {} lane.library lane.path lane.config).1 with
  | false => simp
  | true =>
      simp only [Bool.not_true, Bool.false_eq_true, if_false, true_and]
      cases hfind : lane.pending.find? cts with
      | none => simpa using OrderedMap.find?_eq_none.mp hfind
      | some first => simpa using OrderedMap.mem_keys_of_find? hfind

@[simp] theorem opened_pending : (lane.opened cts).pending = lane.pending.eraseBefore cts :=
  openAt_pending

@[simp] theorem opened_streamId : (lane.opened cts).streamId = lane.streamId := openAt_streamId

@[simp] theorem openAt_givenCts : (lane.openAt cts).2.givenCts = lane.givenCts := by
  rw [givenCts, openAt_calls]
  exact (givenCts_append lane _).trans (List.append_nil _)

@[simp] theorem opened_givenCts : (lane.opened cts).givenCts = lane.givenCts := openAt_givenCts

theorem openAt_allAccepted_iff :
    (lane.openAt cts).2.AllAccepted ↔ lane.AllAccepted ∧
      (MkvPacketWriter.open {} lane.library lane.path lane.config).1 = true := by
  rw [AllAccepted, openAt_calls]
  exact allAccepted_append

theorem opened_writing (h : ((lane.eraseBefore cts).openAt cts).1 = none) :
    (lane.opened cts).Writing [] := by
  obtain ⟨hopen, -⟩ := openAt_eq_none_iff.mp h
  have heq : MkvPacketWriter.open {} lane.library lane.path lane.config =
      (true, (MkvPacketWriter.open {} lane.library lane.path lane.config).2) :=
    Prod.ext hopen rfl
  obtain ⟨hready, hreport⟩ := MkvPacketWriter.open_true heq
  exact ⟨_, openAt_writer, hready, hreport.tracks MkvPacketWriter.tracks_new⟩

theorem Keyed.eraseBefore (h : lane.Keyed) (cts : Nat) : (lane.eraseBefore cts).Keyed := by
  intro e he
  rw [RecordingLane.eraseBefore, OrderedMap.entries_eraseBefore] at he
  exact h e (List.mem_of_mem_filter he)

theorem Keyed.openAt (h : lane.Keyed) (cts : Nat) : (lane.openAt cts).2.Keyed := by
  intro e he
  rw [openAt_pending] at he
  exact h e he

end Open

/-- The lane after the slot `cts` was written. -/
def slotWritten (startCts cts : Nat) (lane : RecordingLane) : RecordingLane :=
  (lane.writeSlot startCts cts).2

section Write

variable {lane : RecordingLane} {startCts cts : Nat}

/-- What `writeSlot` hands to the writer. -/
def slotOutput (lane : RecordingLane) (startCts cts : Nat) : EncodedPacket :=
  lane.outputPacket startCts cts ((lane.pending.find? cts).getD {}).packet

theorem writeSlot_calls :
    (lane.writeSlot startCts cts).2.calls = lane.calls ++
      [⟨.write (lane.slotOutput startCts cts),
        ((lane.writer.getD {}).write lane.library (lane.slotOutput startCts cts)).1⟩] := by
  simp only [writeSlot, slotOutput]
  split_ifs <;> rfl

theorem writeSlot_writer :
    (lane.writeSlot startCts cts).2.writer =
      some ((lane.writer.getD {}).write lane.library (lane.slotOutput startCts cts)).2 := by
  simp only [writeSlot, slotOutput]
  split_ifs <;> rfl

theorem writeSlot_eq_none_iff :
    (lane.writeSlot startCts cts).1 = none ↔
      ((lane.writer.getD {}).write lane.library (lane.slotOutput startCts cts)).1 = true := by
  simp only [writeSlot, slotOutput]
  cases ((lane.writer.getD {}).write lane.library
    (lane.outputPacket startCts cts ((lane.pending.find? cts).getD {}).packet)).1 <;> simp

@[simp] theorem writeSlot_streamId :
    (lane.writeSlot startCts cts).2.streamId = lane.streamId := by
  simp only [writeSlot]
  split_ifs <;> rfl

theorem slotOutput_sourceCts (hkeyed : lane.Keyed) (hmem : cts ∈ lane.pending.keys) :
    (lane.slotOutput startCts cts).sourceCts = cts := by
  obtain ⟨captured, hcaptured⟩ := OrderedMap.mem_keys.mp hmem
  simp only [slotOutput, outputPacket, OrderedMap.find?_eq_some.mpr hcaptured, Option.getD_some]
  exact (hkeyed _ hcaptured).symm

theorem writeSlot_givenCts (hkeyed : lane.Keyed) (hmem : cts ∈ lane.pending.keys) :
    (lane.writeSlot startCts cts).2.givenCts = lane.givenCts ++ [cts] := by
  rw [givenCts, writeSlot_calls]
  refine (givenCts_append lane _).trans ?_
  change lane.givenCts ++ [(lane.slotOutput startCts cts).sourceCts] = _
  rw [slotOutput_sourceCts hkeyed hmem]

theorem writeSlot_allAccepted_iff :
    (lane.writeSlot startCts cts).2.AllAccepted ↔
      lane.AllAccepted ∧ (lane.writeSlot startCts cts).1 = none := by
  rw [AllAccepted, writeSlot_calls, writeSlot_eq_none_iff]
  exact allAccepted_append

theorem slotWritten_pending (h : (lane.writeSlot startCts cts).1 = none) :
    (lane.slotWritten startCts cts).pending = lane.pending.erase cts := by
  have hwritten := writeSlot_eq_none_iff.mp h
  simp only [slotOutput] at hwritten
  simp only [slotWritten, writeSlot, hwritten, Bool.not_true, Bool.false_eq_true, if_false]

theorem mem_slotWritten_keys (h : (lane.writeSlot startCts cts).1 = none) {other : Nat} :
    other ∈ (lane.slotWritten startCts cts).pending.keys ↔
      other ∈ lane.pending.keys ∧ other ≠ cts := by
  rw [slotWritten_pending h]
  simp only [OrderedMap.mem_keys, OrderedMap.entries_erase, List.mem_filter, decide_eq_true_eq]
  exact ⟨fun ⟨value, hmem, hne⟩ => ⟨⟨value, hmem⟩, hne⟩,
    fun ⟨⟨value, hmem⟩, hne⟩ => ⟨value, hmem, hne⟩⟩

theorem Keyed.writeSlot (hkeyed : lane.Keyed) (startCts cts : Nat) :
    (lane.writeSlot startCts cts).2.Keyed := by
  intro e he
  simp only [RecordingLane.writeSlot] at he
  split_ifs at he
  · exact hkeyed e he
  · exact hkeyed e (List.mem_of_mem_filter he)

theorem Writing.slotWritten {written : List Nat} (hwriting : lane.Writing written)
    (hkeyed : lane.Keyed) (hmem : cts ∈ lane.pending.keys)
    (h : (lane.writeSlot startCts cts).1 = none) :
    (lane.slotWritten startCts cts).Writing (written ++ [cts]) := by
  obtain ⟨writer, hwriter, hready, htracks⟩ := hwriting
  have hwritten := writeSlot_eq_none_iff.mp h
  rw [hwriter, Option.getD_some] at hwritten
  have heq : writer.write lane.library (lane.slotOutput startCts cts) =
      (true, (writer.write lane.library (lane.slotOutput startCts cts)).2) :=
    Prod.ext hwritten rfl
  obtain ⟨hready', htracks'⟩ := MkvPacketWriter.write_true heq
  refine ⟨_, writeSlot_writer, ?_, ?_⟩
  · rw [hwriter, Option.getD_some]
    exact hready' hready
  · rw [hwriter, Option.getD_some]
    have hreports := htracks' written htracks
    rwa [slotOutput_sourceCts hkeyed hmem] at hreports

end Write

end RecordingLane

section EachLane

variable {f : RecordingLane → Option String × RecordingLane} {lanes : List RecordingLane}

theorem eachLane_none (h : (eachLane f lanes).1 = none) :
    (∀ lane ∈ lanes, (f lane).1 = none) ∧
      (eachLane f lanes).2 = lanes.map (fun lane => (f lane).2) := by
  induction lanes with
  | nil => exact ⟨by simp, rfl⟩
  | cons lane rest ih =>
      rcases hlane : f lane with ⟨_ | error, lane'⟩
      · simp only [eachLane, hlane] at h ⊢
        obtain ⟨hall, hmap⟩ := ih h
        refine ⟨List.forall_mem_cons.mpr ⟨by rw [hlane], hall⟩, ?_⟩
        rw [hmap, List.map_cons, hlane]
      · simp only [eachLane, hlane] at h
        cases h

/-- The lane at which the work stopped is the last one that was touched. -/
theorem eachLane_some {error : String} (h : (eachLane f lanes).1 = some error) :
    List.Forall₂ (fun lane lane' => lane' = lane ∨ lane' = (f lane).2) lanes
        (eachLane f lanes).2 ∧
      ∃ lane ∈ lanes, (f lane).1 = some error ∧ (f lane).2 ∈ (eachLane f lanes).2 := by
  induction lanes with
  | nil => cases h
  | cons lane rest ih =>
      rcases hlane : f lane with ⟨_ | reached, lane'⟩
      · simp only [eachLane, hlane] at h ⊢
        obtain ⟨htouched, stopped, hmem, herror, hin⟩ := ih h
        exact ⟨.cons (Or.inr (by rw [hlane])) htouched, stopped,
          List.mem_cons_of_mem lane hmem, herror, List.mem_cons_of_mem lane' hin⟩
      · simp only [eachLane, hlane] at h ⊢
        refine ⟨.cons (Or.inr (by rw [hlane])) (List.forall₂_same.mpr fun _ _ => Or.inl rfl),
          lane, List.mem_cons_self, by rw [hlane]; exact h, ?_⟩
        rw [hlane]
        exact List.mem_cons_self

theorem forall₂_imp_of_mem {R S : RecordingLane → RecordingLane → Prop}
    {lanes' : List RecordingLane} (h : List.Forall₂ R lanes lanes')
    (himp : ∀ lane ∈ lanes, ∀ lane', R lane lane' → S lane lane') :
    List.Forall₂ S lanes lanes' := by
  induction h with
  | nil => exact .nil
  | cons hhead _ ih =>
      exact .cons (himp _ List.mem_cons_self _ hhead)
        (ih (fun lane hlane => himp lane (List.mem_cons_of_mem _ hlane)))

theorem exists_of_mem_right {R : RecordingLane → RecordingLane → Prop}
    {lanes' : List RecordingLane} (h : List.Forall₂ R lanes lanes') {lane' : RecordingLane}
    (hmem : lane' ∈ lanes') : ∃ lane ∈ lanes, R lane lane' := by
  induction h with
  | nil => cases hmem
  | @cons lane _ _ _ hhead _ ih =>
      rcases List.mem_cons.mp hmem with rfl | hrest
      · exact ⟨lane, List.mem_cons_self, hhead⟩
      · obtain ⟨other, hother, hrelated⟩ := ih hrest
        exact ⟨other, List.mem_cons_of_mem lane hother, hrelated⟩

end EachLane

end ObsSyncReplay
