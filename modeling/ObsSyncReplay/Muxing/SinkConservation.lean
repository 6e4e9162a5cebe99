import ObsSyncReplay.Muxing.MkvPacketSink

/-!
What a sink makes of the packets it accepts, from its `Open` to a `Finalize` that succeeds. A
packet is either pending or handed to the container, wherever the commits cut and whatever the
DTS order. The writer refuses a frame that would go back in time, and it does not forget a
refusal, so a `Finalize` that succeeds ends a file that is in order.
-/

namespace ObsSyncReplay

namespace MkvPacketWriter

variable {writer writer' : MkvPacketWriter} {library : MuxLibrary} {packet : EncodedPacket}

theorem error_fail_ne {reason : String} (h : reason ≠ "") :
    (writer.fail reason).2.error ≠ "" := by
  unfold fail
  split_ifs with hfirst
  · exact h
  · exact hfirst

theorem dtsOrderError_ne (packet : EncodedPacket) (muxedDts lastDts : Int) :
    dtsOrderError packet muxedDts lastDts ≠ "" := by
  obtain ⟨rest, hrest⟩ := dtsOrderError_prefix packet muxedDts lastDts
  rw [hrest]
  exact append_ne_empty (by decide) rest

theorem writeError_ne (packet : EncodedPacket) (description : String) (lastDts : Option Int) :
    writeError packet description lastDts ≠ "" := by
  obtain ⟨rest, hrest⟩ := writeError_prefix packet description lastDts
  rw [hrest]
  exact append_ne_empty (by decide) rest

/-- A write with a frame fails with a reason, or the frame is in order. -/
theorem writeFrame_ordered (writer : MkvPacketWriter) (library : MuxLibrary)
    (packet : EncodedPacket) (origin : Int) :
    (writer.writeFrame library packet origin).1 = false ∧
        (writer.writeFrame library packet origin).2.error ≠ "" ∨
      (writer.writeFrame library packet origin).1 = true ∧
        writer.InOrder (writer.frameAt library packet origin).dts := by
  unfold writeFrame
  dsimp only
  split
  · exact Or.inl ⟨rfl, error_fail_ne (dtsOrderError_ne _ _ _)⟩
  · rename_i hnone
    split_ifs
    · exact Or.inl ⟨rfl, error_fail_ne (writeError_ne _ _ _)⟩
    · refine Or.inr ⟨rfl, fun lastDts hlast => not_lt.mp (fun hless => ?_)⟩
      have hsome : writer.lastWrittenDts.filter
          (fun lastDts => (writer.frameAt library packet origin).dts < lastDts) = some lastDts :=
        Option.filter_eq_some_iff.mpr ⟨hlast, decide_eq_true hless⟩
      cases hnone.symm.trans hsome

theorem write_ordered (writer : MkvPacketWriter) (library : MuxLibrary)
    (packet : EncodedPacket) :
    (writer.write library packet).1 = false ∧ (writer.write library packet).2.error ≠ "" ∨
      (writer.write library packet).1 = true ∧
        writer.InOrder (writer.frameFor library packet).dts := by
  rcases write_cases writer library packet with
    ⟨-, hwrite⟩ | ⟨-, hwrite⟩ | ⟨-, -, hwrite⟩ <;> rw [hwrite]
  · exact Or.inl ⟨rfl, error_fail_ne (by decide)⟩
  · exact Or.inl ⟨rfl, error_fail_ne (by decide)⟩
  · exact writeFrame_ordered _ library packet (writer.originFor packet)

/-- An error that the writer holds is not lost by a write. -/
theorem write_keeps_error (h : writer.error ≠ "") (packet : EncodedPacket) :
    (writer.write library packet).2.error ≠ "" := by
  rcases write_ordered writer library packet with ⟨_, hfailed⟩ | ⟨hok, _⟩
  · exact hfailed
  · rw [(write_written writer library packet).error hok]
    exact h

/-- The writer is open and has refused nothing: the container holds the frames of the packets
`handed`, in this order and with DTS that do not decrease. -/
structure Muxed (library : MuxLibrary) (handed : List EncodedPacket)
    (writer : MkvPacketWriter) : Prop where
  ready : writer.Ready
  tracks : writer.Tracks (handed.map EncodedPacket.sourceCts)
  frames : ∀ origin ∈ writer.timestampOrigin,
    writer.frames = handed.map (fun packet => writer.frameAt library packet origin)
  unstamped : writer.timestampOrigin = none → handed = [] ∧ writer.frames = []
  ordered : (writer.frames.map MuxFrame.dts).Pairwise (· ≤ ·)
  lastDts : writer.lastWrittenDts = (writer.frames.map MuxFrame.dts).getLast?

theorem muxed_open {path : String} {config : PacketStreamConfig}
    (h : MkvPacketWriter.open {} library path config = (true, writer)) :
    Muxed library [] writer := by
  obtain ⟨hready, hreport⟩ := open_true h
  have hunstamped := open_unstamped {} library path config
  rw [h] at hunstamped
  have hframes : writer.frames = [] := hunstamped.frames
  refine ⟨hready, hreport.tracks tracks_new, fun origin horigin => ?_, fun _ => ⟨rfl, hframes⟩,
    ?_, ?_⟩
  · rw [hunstamped.origin] at horigin
    cases horigin
  · rw [hframes]
    exact .nil
  · rw [hframes]
    exact hunstamped.lastDts

/-- Nothing in an ascending list is above its last element. -/
theorem le_last_of_ordered {times : List Int} (h : times.Pairwise (· ≤ ·)) {time last : Int}
    (hmem : time ∈ times) (hlast : times.getLast? = some last) : time ≤ last := by
  obtain ⟨front, rfl⟩ := List.getLast?_eq_some_iff.mp hlast
  rcases List.mem_append.mp hmem with hfront | hend
  · exact (List.pairwise_append.mp h).2.2 time hfront last (List.mem_singleton_self last)
  · exact (List.mem_singleton.mp hend).le

theorem Muxed.write {handed : List EncodedPacket} (h : Muxed library handed writer)
    (hok : (writer.write library packet).1 = true) :
    Muxed library (handed ++ [packet]) (writer.write library packet).2 := by
  have hwrite : writer.write library packet = (true, (writer.write library packet).2) :=
    Prod.ext hok rfl
  obtain ⟨hready, htracks⟩ := write_true hwrite
  have hwritten := write_written writer library packet
  have hframes : (writer.write library packet).2.frames =
      writer.frames ++ [writer.frameFor library packet] := by
    rcases hwritten.frames with hframes | ⟨hfailed, _⟩
    · exact hframes
    · rw [hok] at hfailed
      cases hfailed
  have hinOrder : writer.InOrder (writer.frameFor library packet).dts := by
    rcases write_ordered writer library packet with ⟨hfailed, _⟩ | ⟨_, hinOrder⟩
    · rw [hok] at hfailed
      cases hfailed
    · exact hinOrder
  refine ⟨hready h.ready, ?_, fun origin horigin => ?_, fun hnone => ?_, ?_, ?_⟩
  · rw [List.map_append]
    exact htracks _ h.tracks
  · obtain rfl : writer.originFor packet = origin :=
      Option.some.inj ((hwritten.origin hok).symm.trans horigin)
    -- a frame depends on the writer only through its time base, which the write keeps
    have hsame (other : EncodedPacket) :
        (writer.write library packet).2.frameAt library other (writer.originFor packet) =
          writer.frameAt library other (writer.originFor packet) := by
      unfold frameAt
      rw [hwritten.timebase]
    rw [hframes, List.map_append, List.map_singleton, hsame packet]
    congr 1
    cases hstamped : writer.timestampOrigin with
    | none =>
        obtain ⟨rfl, hempty⟩ := h.unstamped hstamped
        exact hempty
    | some first =>
        have hfirst : writer.originFor packet = first := by
          unfold originFor
          rw [hstamped, Option.getD_some]
        rw [h.frames first hstamped]
        apply List.map_congr_left
        intro other _
        rw [hsame other, hfirst]
  · rw [hwritten.origin hok] at hnone
    cases hnone
  · rw [hframes, List.map_append]
    apply List.pairwise_append.mpr
    refine ⟨h.ordered, List.pairwise_singleton _ _, fun earlier hearlier time htime => ?_⟩
    rw [List.map_singleton, List.mem_singleton] at htime
    obtain ⟨last, hlast⟩ := Option.ne_none_iff_exists'.mp
      (fun hnone => List.ne_nil_of_mem hearlier (List.getLast?_eq_none_iff.mp hnone))
    have hafter : last ≤ time := by
      rw [htime]
      exact hinOrder last (h.lastDts.trans hlast)
    exact (le_last_of_ordered h.ordered hearlier hlast).trans hafter
  · rw [hframes, List.map_append, List.map_singleton, List.getLast?_concat]
    exact hwritten.lastDts hok

/-- A batch of writes either hands over all its packets or leaves an error. -/
theorem writePackets_muxed {handed : List EncodedPacket} (packets : List EncodedPacket)
    (h : Muxed library handed writer) :
    (writePackets library packets writer).1 = false ∧
        (writePackets library packets writer).2.error ≠ "" ∨
      (writePackets library packets writer).1 = true ∧
        Muxed library (handed ++ packets) (writePackets library packets writer).2 := by
  induction packets generalizing writer handed with
  | nil =>
      rw [List.append_nil]
      exact Or.inr ⟨rfl, h⟩
  | cons packet packets ih =>
      have hordered := write_ordered writer library packet
      have hmuxed : (writer.write library packet).1 = true →
          Muxed library (handed ++ [packet]) (writer.write library packet).2 := h.write
      rw [writePackets]
      generalize writer.write library packet = answered at hordered hmuxed ⊢
      obtain ⟨ok, middle⟩ := answered
      cases ok with
      | false =>
          rcases hordered with hfailed | ⟨htrue, _⟩
          · exact Or.inl hfailed
          · cases htrue
      | true =>
          rw [List.append_cons]
          exact ih (hmuxed rfl)

theorem writePackets_keeps_error (packets : List EncodedPacket) (h : writer.error ≠ "") :
    (writePackets library packets writer).2.error ≠ "" := by
  induction packets generalizing writer with
  | nil => exact h
  | cons packet packets ih =>
      have hkept : (writer.write library packet).2.error ≠ "" := write_keeps_error h packet
      rw [writePackets]
      generalize writer.write library packet = answered at hkept ⊢
      obtain ⟨ok, middle⟩ := answered
      cases ok with
      | false => exact hkept
      | true => exact ih hkept

theorem finalize_success (h : (writer.finalize library).1.success = true) :
    writer.error = "" := by
  unfold finalize at h
  split_ifs at h
  · exact of_decide_eq_true h
  · obtain ⟨hanswer, herror⟩ := of_decide_eq_true h
    rw [if_neg (not_lt.mpr hanswer)] at herror
    exact herror

end MkvPacketWriter

namespace MkvPacketSink

open MkvPacketWriter

abbrev SinkTransition := Runs.Transition MkvPacketSink SinkCall Bool

/-- The packets that `Write` has accepted. -/
def acceptedWrites (past : List SinkTransition) : List EncodedPacket :=
  past.filterMap (fun transition =>
    match transition.input with
    | .write packet => if transition.output then some packet else none
    | _ => none)

theorem acceptedWrites_append (past later : List SinkTransition) :
    acceptedWrites (past ++ later) = acceptedWrites past ++ acceptedWrites later :=
  List.filterMap_append

/-- The calls between `Open` and `Finalize`. -/
def feeds : SinkCall → Bool
  | .write _ => true
  | .commitThrough _ => true
  | _ => false

/-- `pending_bytes_` counts the pending payloads, within the capacity of the configuration. -/
structure Accounted (config : PacketStreamConfig) (sink : MkvPacketSink) : Prop where
  counted : sink.pendingBytes = (sink.pending.map (fun packet => packet.payload.length)).sum
  capacity : sink.pendingCapacityBytes = config.muxerTailCapacityBytes
  bounded : sink.pendingBytes ≤ config.muxerTailCapacityBytes

variable {library : MuxLibrary} {config : PacketStreamConfig} {sink sink' : MkvPacketSink}
  {startCts : Nat}

theorem Accounted.accept (h : Accounted config sink) {packet : EncodedPacket}
    (hfits : packet.payload.length ≤ sink.freeBytes) : Accounted config (sink.accept packet) := by
  have hroom : sink.pendingBytes + packet.payload.length ≤ config.muxerTailCapacityBytes := by
    have hbounded := h.bounded
    unfold freeBytes at hfits
    rw [h.capacity, if_pos hbounded] at hfits
    omega
  refine ⟨?_, h.capacity, hroom⟩
  simp only [MkvPacketSink.accept, List.map_append, List.sum_append, List.map_singleton,
    List.sum_singleton, h.counted]

theorem Accounted.flush (h : Accounted config sink) (dtsWatermark : Option Int) :
    Accounted config (sink.flushPendingThroughDts library dtsWatermark).2 := by
  refine ⟨rfl, h.capacity, ?_⟩
  have hless : ((sink.pending.filter (fun packet => !selects dtsWatermark packet)).map
      (fun packet => packet.payload.length)).sum ≤
        (sink.pending.map (fun packet => packet.payload.length)).sum :=
    (List.filter_sublist.map _).sum_le_sum (fun _ _ => Nat.zero_le _)
  exact hless.trans (h.counted.symm.le.trans h.bounded)

/-- The accepted packets are pending or handed to the container, unless the writer holds an
error. -/
structure Conserved (library : MuxLibrary) (startCts : Nat) (accepted : List EncodedPacket)
    (sink : MkvPacketSink) : Prop where
  start : sink.commonStartCts = startCts
  muxed : sink.writer.error ≠ "" ∨ ∃ handed,
    Muxed library handed sink.writer ∧ (handed ++ sink.pending).Perm accepted

theorem Conserved.flush {accepted : List EncodedPacket}
    (h : Conserved library startCts accepted sink) (dtsWatermark : Option Int) :
    Conserved library startCts accepted (sink.flushPendingThroughDts library dtsWatermark).2 := by
  refine ⟨h.start, ?_⟩
  let selected := sortForDecodeOrder (sink.pending.filter (selects dtsWatermark))
  change (writePackets library selected sink.writer).2.error ≠ "" ∨ ∃ handed,
    Muxed library handed (writePackets library selected sink.writer).2 ∧
      (handed ++ sink.pending.filter (fun packet => !selects dtsWatermark packet)).Perm accepted
  rcases h.muxed with herror | ⟨handed, hmuxed, hperm⟩
  · exact Or.inl (writePackets_keeps_error selected herror)
  · rcases writePackets_muxed selected hmuxed with ⟨_, herror⟩ | ⟨_, hmuxed'⟩
    · exact Or.inl herror
    · refine Or.inr ⟨handed ++ selected, hmuxed', ?_⟩
      have hsorted : selected.Perm (sink.pending.filter (selects dtsWatermark)) :=
        List.perm_insertionSort _ _
      have hsplit := List.filter_append_perm (selects dtsWatermark) sink.pending
      rw [List.append_assoc]
      exact (((hsorted.append_right _).trans hsplit).append_left handed).trans hperm

theorem flush_all (sink : MkvPacketSink) (library : MuxLibrary) :
    (sink.flushPendingThroughDts library none).2.pending = [] := by
  simp [flushPendingThroughDts, selects]

theorem write_cases (sink : MkvPacketSink) (packet : EncodedPacket) :
    (∃ reason, sink.write packet = sink.fail reason) ∨
      packet.payload.length ≤ sink.freeBytes ∧
        (sink.packetTimebase.num = 0 ∨ packet.timebase = sink.packetTimebase) ∧
        sink.write packet =
          (true, { sink with packetTimebase := packet.timebase }.accept packet) := by
  unfold MkvPacketSink.write
  by_cases hroom : packet.payload.isEmpty ∨ packet.payload.length > sink.freeBytes
  · rw [if_pos hroom]
    exact Or.inl ⟨_, rfl⟩
  · rw [if_neg hroom]
    have hfits : packet.payload.length ≤ sink.freeBytes := by
      by_contra hlarge
      exact hroom (Or.inr (not_le.mp hlarge))
    split_ifs with hunset hother
    · exact Or.inr ⟨hfits, Or.inl hunset, rfl⟩
    · exact Or.inl ⟨_, rfl⟩
    · have hsame : packet.timebase = sink.packetTimebase := not_not.mp hother
      refine Or.inr ⟨hfits, Or.inr hsame, ?_⟩
      rw [hsame]

theorem commitThrough_cases (sink : MkvPacketSink) (library : MuxLibrary) (sourceCts : Nat) :
    sink.committedDts library = none ∧ sink.commitThrough library sourceCts = (true, sink) ∨
      ∃ watermark, sink.committedDts library = some watermark ∧
        sink.commitThrough library sourceCts =
          sink.flushPendingThroughDts library (some watermark) := by
  unfold commitThrough
  split
  · rename_i hnone
    exact Or.inl ⟨hnone, rfl⟩
  · rename_i watermark hsome
    exact Or.inr ⟨watermark, hsome, rfl⟩

/-- One call that feeds the sink keeps the books and the packets. -/
theorem step_conserves {past : List SinkTransition} {call : SinkCall} (hfeeds : feeds call = true)
    (haccounted : Accounted config sink)
    (hconserved : Conserved library startCts (acceptedWrites past) sink) :
    Accounted config (step library sink call).2 ∧
      Conserved library startCts
        (acceptedWrites (past ++ [Runs.transition (step library) sink call]))
        (step library sink call).2 := by
  rw [acceptedWrites_append]
  cases call with
  | write packet =>
      rcases write_cases sink packet with ⟨reason, hwrite⟩ | ⟨hfits, -, hwrite⟩
      · have hstep : step library sink (.write packet) = sink.fail reason := hwrite
        have hnone : acceptedWrites [Runs.transition (step library) sink (.write packet)] = [] := by
          simp [acceptedWrites, Runs.transition, hstep, MkvPacketSink.fail]
        rw [hstep, hnone, List.append_nil]
        exact ⟨⟨haccounted.counted, haccounted.capacity, haccounted.bounded⟩,
          hconserved.start, hconserved.muxed⟩
      · have hstep : step library sink (.write packet) =
            (true, { sink with packetTimebase := packet.timebase }.accept packet) := hwrite
        have hone : acceptedWrites [Runs.transition (step library) sink (.write packet)] =
            [packet] := by
          simp [acceptedWrites, Runs.transition, hstep]
        rw [hstep, hone]
        constructor
        · have hsame : Accounted config { sink with packetTimebase := packet.timebase } :=
            ⟨haccounted.counted, haccounted.capacity, haccounted.bounded⟩
          exact hsame.accept hfits
        · refine ⟨hconserved.start, hconserved.muxed.imp_right ?_⟩
          rintro ⟨handed, hmuxed, hperm⟩
          refine ⟨handed, hmuxed, ?_⟩
          have hlater : (handed ++ (sink.pending ++ [packet])).Perm
              (acceptedWrites past ++ [packet]) := by
            rw [← List.append_assoc]
            exact hperm.append_right [packet]
          exact hlater
  | commitThrough sourceCts =>
      have hnone : acceptedWrites
          [Runs.transition (step library) sink (.commitThrough sourceCts)] = [] := rfl
      rw [hnone, List.append_nil]
      rcases commitThrough_cases sink library sourceCts with ⟨-, hidle⟩ | ⟨watermark, -, hflush⟩
      · have hstep : step library sink (.commitThrough sourceCts) = (true, sink) := hidle
        rw [hstep]
        exact ⟨haccounted, hconserved⟩
      · have hstep : step library sink (.commitThrough sourceCts) =
            sink.flushPendingThroughDts library (some watermark) := hflush
        rw [hstep]
        exact ⟨haccounted.flush _, hconserved.flush _⟩
  | «open» _ _ => cases hfeeds
  | finalize _ => cases hfeeds
  | abort => cases hfeeds

theorem open_true {path : String} {opened : MkvPacketSink}
    (h : MkvPacketSink.open { path := path } library config startCts = (true, opened)) :
    Accounted config opened ∧ Conserved library startCts [] opened := by
  unfold MkvPacketSink.open at h
  dsimp only at h
  split_ifs at h
  · have hopened : MkvPacketWriter.open {} library path config =
        (true, (MkvPacketWriter.open {} library path config).2) :=
      Prod.ext (Prod.mk.inj h).1 rfl
    rw [← (Prod.mk.inj h).2]
    exact ⟨⟨rfl, rfl, Nat.zero_le _⟩, rfl, Or.inr ⟨[], muxed_open hopened, .nil⟩⟩
  · cases congrArg Prod.fst h

/-- The file of a finalized sink: the frames of all accepted packets, each once, in the order of
their DTS, from the common start to the common end. -/
structure FileComplete (library : MuxLibrary) (accepted : List EncodedPacket)
    (startCts endCts : Nat) (writer : MkvPacketWriter) : Prop where
  permuted : ∃ handed : List EncodedPacket, handed.Perm accepted ∧ ∃ origin,
    writer.frames = handed.map (fun packet => writer.frameAt library packet origin)
  ordered : (writer.frames.map MuxFrame.dts).Pairwise (· ≤ ·)
  first : IsLeast {cts | ∃ packet ∈ accepted, packet.sourceCts = cts} startCts
  last : IsGreatest {cts | ∃ packet ∈ accepted, packet.sourceCts = cts} endCts

theorem Accounted.finalize (h : Accounted config sink) (endCts : Nat) :
    Accounted config (sink.finalize library endCts).2 := by
  have hflush : Accounted config (sink.flushPendingThroughDts library none).2 := h.flush none
  unfold MkvPacketSink.finalize
  split
  · rename_i middle hmiddle
    rwa [hmiddle] at hflush
  · rename_i middle hmiddle
    rw [hmiddle] at hflush
    exact ⟨hflush.counted, hflush.capacity, hflush.bounded⟩

theorem Conserved.finalize {accepted : List EncodedPacket} {endCts : Nat}
    (h : Conserved library startCts accepted sink) (hsome : accepted ≠ [])
    (hok : (sink.finalize library endCts).1 = true) :
    FileComplete library accepted startCts endCts (sink.finalize library endCts).2.writer := by
  have hflush := h.flush none
  have hpending := flush_all sink library
  unfold MkvPacketSink.finalize at hok ⊢
  generalize sink.flushPendingThroughDts library none = flushed at hflush hpending hok ⊢
  obtain ⟨written, middle⟩ := flushed
  cases written with
  | false => cases hok
  | true =>
      obtain ⟨hsuccess, hstart, hend⟩ := of_decide_eq_true hok
      obtain ⟨hfirst, hlast, -⟩ := finalize_fst middle.writer library
      obtain ⟨hframes, htimebase⟩ := finalize_frames middle.writer library
      rcases hflush.muxed with herror | ⟨handed, hmuxed, hperm⟩
      · exact absurd (finalize_success hsuccess) herror
      rw [hpending, List.append_nil] at hperm
      have hhanded : handed ≠ [] := fun hnil => hsome (by
        rw [hnil] at hperm
        exact hperm.nil_eq.symm)
      have hmem (cts : Nat) : (∃ packet ∈ accepted, packet.sourceCts = cts) ↔
          cts ∈ handed.map EncodedPacket.sourceCts := by
        rw [List.mem_map]
        exact exists_congr (fun packet => and_congr_left' hperm.mem_iff.symm)
      have hmapped : handed.map EncodedPacket.sourceCts ≠ [] := by simpa using hhanded
      rw [hfirst, hflush.start] at hstart
      rw [hlast] at hend
      constructor
      · obtain ⟨origin, horigin⟩ := Option.ne_none_iff_exists'.mp
          (fun hnone => hhanded (hmuxed.unstamped hnone).1)
        refine ⟨handed, hperm, origin, ?_⟩
        change (middle.writer.finalize library).2.frames = _
        rw [hframes, hmuxed.frames origin horigin]
        apply List.map_congr_left
        intro packet _
        unfold frameAt
        rw [htimebase]
      · change ((middle.writer.finalize library).2.frames.map MuxFrame.dts).Pairwise (· ≤ ·)
        rw [hframes]
        exact hmuxed.ordered
      · simp only [hmem]
        rw [← hstart]
        exact hmuxed.tracks.first hmapped
      · simp only [hmem]
        rw [← hend]
        exact ⟨hmuxed.tracks.last hmapped, hmuxed.tracks.upper⟩

/-- From the `Open` of a new sink, in every run of `Write` and `CommitThrough`, the bytes held
back are accounted for; and if the sink has accepted a packet and `Finalize` succeeds, the file
is complete. -/
theorem sink_conserves {path : String} {opened : MkvPacketSink} {past : List SinkTransition}
    (hopen : MkvPacketSink.open { path := path } library config startCts = (true, opened))
    (hrun : Runs.Run (step library) opened past sink)
    (hfeeds : ∀ transition ∈ past, feeds transition.input = true) (endCts : Nat) :
    ((∀ transition ∈ past, Accounted config transition.before ∧
        Accounted config transition.after) ∧
      Accounted config sink ∧ Accounted config (sink.finalize library endCts).2) ∧
    (acceptedWrites past ≠ [] → (sink.finalize library endCts).1 = true →
      FileComplete library (acceptedWrites past) startCts endCts
        (sink.finalize library endCts).2.writer) := by
  obtain ⟨haccounted, hconserved⟩ := open_true hopen
  have hall := hrun.invariant (P := fun past sink =>
    (∀ transition ∈ past, feeds transition.input = true) →
      (∀ transition ∈ past, Accounted config transition.before ∧
        Accounted config transition.after) ∧
      Accounted config sink ∧ Conserved library startCts (acceptedWrites past) sink)
    (fun _ => ⟨by simp, haccounted, hconserved⟩) ?_
  · obtain ⟨hpast, hheld, hkept⟩ := hall hfeeds
    exact ⟨⟨hpast, hheld, hheld.finalize endCts⟩, fun hsome hok => hkept.finalize hsome hok⟩
  intro past sink call _ hbefore hfeeds
  obtain ⟨hpast, hheld, hkept⟩ := hbefore (fun transition hmem =>
    hfeeds transition (List.mem_append_left _ hmem))
  obtain ⟨hheld', hkept'⟩ := step_conserves
    (hfeeds _ (List.mem_append_right _ (List.mem_singleton_self _))) hheld hkept
  refine ⟨?_, hheld', hkept'⟩
  rw [List.forall_mem_append, List.forall_mem_singleton]
  exact ⟨hpast, hheld, hheld'⟩

/-- Every call succeeds, and the stream keeps the time base of its packets. -/
def nanosecondLibrary : MuxLibrary where
  rescale value _ _ := value
  answer _ _ := 0
  describe _ := ""

def nanosecondPacket (cts : Fin 256) : EncodedPacket where
  sourceCts := cts
  pts := cts
  dts := cts
  timebaseNum := 1
  timebaseDen := 1000000000
  payload := [0]
  sourceCts_lt := byte_lt_uint64Size cts

def openedSink : MkvPacketSink :=
  (MkvPacketSink.open { path := "video.mkv" } nanosecondLibrary
    { width := 16, height := 9, timebaseNum := 1, timebaseDen := 1000000000, extraData := [1]
      muxerTailCapacityBytes := 3, muxerReorderSafetyCts := 10 } 100).2

/-- The packet at 110 comes after the one at 120, and the first commit cuts between them. -/
def reorderedCalls : List SinkCall :=
  [.write (nanosecondPacket 100), .write (nanosecondPacket 120), .write (nanosecondPacket 110),
    .commitThrough 120, .write (nanosecondPacket 130), .commitThrough 130]

theorem sink_conserves_reordered :
    (Runs.exec (step nanosecondLibrary) openedSink reorderedCalls).pending.map
        EncodedPacket.sourceCts = [130] ∧
      FileComplete nanosecondLibrary
        [nanosecondPacket 100, nanosecondPacket 120, nanosecondPacket 110, nanosecondPacket 130]
        100 130
        ((Runs.exec (step nanosecondLibrary) openedSink reorderedCalls).finalize
          nanosecondLibrary 130).2.writer := by
  refine ⟨by decide, ?_⟩
  exact (sink_conserves (Prod.ext (by decide) rfl)
    (Runs.run_exec openedSink reorderedCalls) (by decide) 130).2 (by decide) (by decide)

example : ((Runs.exec (step nanosecondLibrary) openedSink reorderedCalls).finalize
    nanosecondLibrary 130).2.writer.frames.map MuxFrame.dts = [0, 10, 20, 30] := by decide

end MkvPacketSink

end ObsSyncReplay
