import ObsSyncReplay.Lib.Traces
import ObsSyncReplay.Muxing.SinkConservation

/-!
The safety window of a sink. A commit writes what is pending up to the greatest DTS seen so
far less the safety budget. A packet that comes later is in time as long as it is not older
than that, and if all are in time, no flush of a run hands the writer a DTS that goes back.
-/

namespace ObsSyncReplay

/-- What is assumed of `av_rescale_q`: between two fixed time bases it is monotone. -/
def KeepsOrder (library : MuxLibrary) : Prop :=
  ∀ source target, Monotone (fun value => library.rescale value source target)

namespace MkvPacketWriter

variable {writer : MkvPacketWriter} {library : MuxLibrary} {timebase : AVRational}

/-- `Write` gets as far as the order check, and the packet fails it. -/
def RejectsDts (writer : MkvPacketWriter) (library : MuxLibrary) (packet : EncodedPacket) : Prop :=
  writer.TakesUp packet ∧
    0 ≤ library.answer writer.requests (.allocPacket packet.payload.length) ∧
    ¬writer.InOrder (writer.frameFor library packet).dts

/-- What the writer has written would come no later than a packet at `dts`. -/
def Behind (library : MuxLibrary) (timebase : AVRational) (dts : Int) (writer : MkvPacketWriter) :
    Prop :=
  ∀ lastDts ∈ writer.lastWrittenDts, ∃ origin ∈ writer.timestampOrigin,
    lastDts ≤ library.rescale (dts - origin) timebase writer.timebase

theorem behind_of_unwritten (h : writer.lastWrittenDts = none) (dts : Int) :
    Behind library timebase dts writer := by
  intro lastDts hlast
  rw [h] at hlast
  cases hlast

/-- A write that is refused for its DTS says so in its error. -/
theorem write_of_rejectsDts {packet : EncodedPacket} (h : writer.RejectsDts library packet)
    (herror : writer.error = "") :
    ∃ lastDts ∈ writer.lastWrittenDts, (writer.write library packet).1 = false ∧
      (writer.write library packet).2.error =
        dtsOrderError packet (writer.frameFor library packet).dts lastDts := by
  obtain ⟨htakes, hanswer, hbackward⟩ := h
  rcases write_cases writer library packet with ⟨hnot, -⟩ | ⟨hnegative, -⟩ | ⟨-, -, hwrite⟩
  · exact absurd htakes hnot
  · exact absurd hnegative (not_lt.mpr hanswer)
  · rw [hwrite, writeFrame]
    dsimp only
    split
    · rename_i lastDts hlast
      exact ⟨lastDts, (Option.filter_eq_some_iff.mp hlast).1, rfl, error_fail herror _⟩
    · rename_i hnone
      refine absurd (fun lastDts hlast => not_lt.mp (fun hless => ?_)) hbackward
      exact Option.filter_eq_none_iff.mp hnone lastDts hlast (decide_eq_true hless)

/-- Every other refusal has another error. -/
theorem write_of_not_rejectsDts {packet : EncodedPacket} (h : ¬writer.RejectsDts library packet)
    (herror : writer.error = "") (hrefused : (writer.write library packet).1 = false) :
    FailsOtherwise (writer.write library packet).2.error := by
  rcases write_cases writer library packet with
    ⟨-, hwrite⟩ | ⟨-, hwrite⟩ | ⟨htakes, hanswer, -⟩
  · rw [hwrite]
    exact Or.inl (error_fail herror _)
  · rw [hwrite]
    exact Or.inr (Or.inl (error_fail herror _))
  · have hordered : writer.InOrder (writer.frameFor library packet).dts := by
      by_contra hbackward
      exact h ⟨htakes, hanswer, hbackward⟩
    exact (write_written writer library packet).failure hrefused herror hordered

theorem Behind.mono (hmono : KeepsOrder library) {dts dts' : Int}
    (h : Behind library timebase dts writer) (hle : dts ≤ dts') :
    Behind library timebase dts' writer := by
  intro lastDts hlast
  obtain ⟨origin, horigin, hbound⟩ := h lastDts hlast
  exact ⟨origin, horigin, hbound.trans (hmono _ _ (Int.sub_le_sub_right hle origin))⟩

theorem originFor_of_mem {origin : Int} (h : origin ∈ writer.timestampOrigin)
    (packet : EncodedPacket) : writer.originFor packet = origin := by
  unfold originFor
  rw [Option.mem_def.mp h, Option.getD_some]

theorem not_rejectsDts_of_behind {packet : EncodedPacket}
    (h : Behind library packet.timebase packet.dts writer) :
    ¬writer.RejectsDts library packet := by
  rintro ⟨-, -, hbackward⟩
  apply hbackward
  intro lastDts hlast
  obtain ⟨origin, horigin, hbound⟩ := h lastDts hlast
  rwa [frameFor_dts, originFor_of_mem horigin]

/-- A write leaves the last DTS as it was, or sets it to that of the packet. -/
theorem write_stamps (writer : MkvPacketWriter) (library : MuxLibrary) (packet : EncodedPacket) :
    ((writer.write library packet).2.lastWrittenDts = writer.lastWrittenDts ∧
      ∀ origin ∈ writer.timestampOrigin,
        origin ∈ (writer.write library packet).2.timestampOrigin) ∨
    (writer.TakesUp packet ∧
      (writer.write library packet).2.lastWrittenDts =
        some (writer.frameFor library packet).dts ∧
      (writer.write library packet).2.timestampOrigin = some (writer.originFor packet)) := by
  have hkept : ∀ origin ∈ writer.timestampOrigin, origin ∈ some (writer.originFor packet) :=
    fun origin horigin => by rw [originFor_of_mem horigin, Option.mem_some_iff]
  rcases write_cases writer library packet with
    ⟨-, hwrite⟩ | ⟨-, hwrite⟩ | ⟨htakes, -, hwrite⟩ <;> rw [hwrite]
  · exact Or.inl ⟨rfl, fun _ h => h⟩
  · exact Or.inl ⟨rfl, hkept⟩
  · rcases writeFrame_cases (writer.stamped library packet) library packet
        (writer.originFor packet) with
      ⟨-, reason, hframe⟩ | ⟨description, hframe⟩ | hframe <;> rw [hframe]
    · exact Or.inl ⟨rfl, hkept⟩
    · exact Or.inl ⟨rfl, hkept⟩
    · exact Or.inr ⟨htakes, rfl, rfl⟩

theorem Behind.write (hmono : KeepsOrder library) {packet : EncodedPacket} {dts : Int}
    (h : Behind library timebase dts writer)
    (htimebase : writer.TakesUp packet → packet.timebase = timebase) (hle : packet.dts ≤ dts) :
    Behind library timebase dts (writer.write library packet).2 := by
  have hcontainer := (write_written writer library packet).timebase
  intro lastDts hlast
  rcases write_stamps writer library packet with ⟨hsame, hkept⟩ | ⟨htakes, hnew, horigin⟩
  · rw [hsame] at hlast
    obtain ⟨origin, horigin, hbound⟩ := h lastDts hlast
    exact ⟨origin, hkept origin horigin, by rwa [hcontainer]⟩
  · rw [hnew, Option.mem_some_iff] at hlast
    refine ⟨writer.originFor packet, horigin, ?_⟩
    rw [hcontainer, ← hlast, frameFor_dts, htimebase htakes]
    exact hmono _ _ (Int.sub_le_sub_right hle _)

/-- The writes that the loop over a batch makes, each with the writer it is made on. -/
def writeAttempts (library : MuxLibrary) :
    List EncodedPacket → MkvPacketWriter → List (MkvPacketWriter × EncodedPacket)
  | [], _ => []
  | packet :: packets, writer =>
      (writer, packet) ::
        if (writer.write library packet).1 then
          writeAttempts library packets (writer.write library packet).2
        else []

theorem writeAttempts_inTime (hmono : KeepsOrder library) (packets : List EncodedPacket)
    (htimebase : ∀ packet ∈ packets, 0 < packet.timebaseNum → packet.timebase = timebase)
    (hsorted : packets.Pairwise (fun earlier later => earlier.dts ≤ later.dts))
    (hbehind : ∀ packet ∈ packets, 0 < packet.timebaseNum →
      Behind library timebase packet.dts writer) :
    ∀ attempt ∈ writeAttempts library packets writer,
      ¬attempt.1.RejectsDts library attempt.2 := by
  induction packets generalizing writer with
  | nil => simp [writeAttempts]
  | cons packet packets ih =>
      rw [List.forall_mem_cons] at htimebase hbehind
      rw [List.pairwise_cons] at hsorted
      rw [writeAttempts, List.forall_mem_cons]
      constructor
      · intro hrejects
        have hnum : 0 < packet.timebaseNum := hrejects.1.2.2.1
        apply not_rejectsDts_of_behind _ hrejects
        rw [htimebase.1 hnum]
        exact hbehind.1 hnum
      · split_ifs
        · apply ih htimebase.2 hsorted.2
          intro later hlater hnum
          exact (hbehind.2 later hlater hnum).write hmono
            (fun htakes => htimebase.1 htakes.2.2.1) (hsorted.1 later hlater)
        · simp

theorem Behind.writePackets (hmono : KeepsOrder library) (packets : List EncodedPacket) {dts : Int}
    (h : Behind library timebase dts writer)
    (htimebase : ∀ packet ∈ packets, 0 < packet.timebaseNum → packet.timebase = timebase)
    (hle : ∀ packet ∈ packets, packet.dts ≤ dts) :
    Behind library timebase dts (ObsSyncReplay.writePackets library packets writer).2 := by
  induction packets generalizing writer with
  | nil => exact h
  | cons packet packets ih =>
      rw [List.forall_mem_cons] at htimebase hle
      have hwritten : Behind library timebase dts (writer.write library packet).2 :=
        h.write hmono (fun htakes => htimebase.1 htakes.2.2.1) hle.1
      rw [ObsSyncReplay.writePackets]
      generalize writer.write library packet = answered at hwritten ⊢
      obtain ⟨ok, middle⟩ := answered
      cases ok with
      | false => exact hwritten
      | true => exact ih hwritten htimebase.2 hle.2

end MkvPacketWriter

namespace MkvPacketSink

open MkvPacketWriter

variable {library : MuxLibrary} {config : PacketStreamConfig} {past : List SinkTransition}
  {sink : MkvPacketSink} {startCts : Nat}

/-- The safety budget in ticks of the time base, as `CommitThrough` converts it. -/
def safetyTicks (library : MuxLibrary) (config : PacketStreamConfig) (timebase : AVRational) :
    Int :=
  library.rescale (min config.muxerReorderSafetyCts int64Max : Nat) nanoseconds timebase

def commits : SinkCall → Bool
  | .commitThrough _ => true
  | _ => false

/-- A packet at `dts` is not older than what was accepted before any of the commits, less the
safety budget. -/
def InTime (library : MuxLibrary) (config : PacketStreamConfig) (past : List SinkTransition)
    (timebase : AVRational) (dts : Int) : Prop :=
  Traces.Obeys (fun before transition => commits transition.input = true →
    ∀ earlier ∈ acceptedWrites before, earlier.dts - safetyTicks library config timebase ≤ dts) past

/-- A packet that is accepted is in time. -/
def WithinWindow (library : MuxLibrary) (config : PacketStreamConfig)
    (before : List SinkTransition) (transition : SinkTransition) : Prop :=
  ∀ packet, transition.input = .write packet → transition.output = true →
    InTime library config before packet.timebase packet.dts

/-- The writes that a flush makes. -/
def flushAttempts (library : MuxLibrary) (sink : MkvPacketSink) (dtsWatermark : Option Int) :
    List (MkvPacketWriter × EncodedPacket) :=
  writeAttempts library (sortForDecodeOrder (sink.pending.filter (selects dtsWatermark)))
    sink.writer

/-- The writes that a call makes. -/
def attempts (library : MuxLibrary) (sink : MkvPacketSink) :
    SinkCall → List (MkvPacketWriter × EncodedPacket)
  | .commitThrough _ =>
      (sink.committedDts library).elim [] (fun watermark =>
        sink.flushAttempts library (some watermark))
  | .finalize _ => sink.flushAttempts library none
  | _ => []

theorem committedDts_eq_some {watermark : Int} (h : sink.committedDts library = some watermark) :
    0 < sink.packetTimebase.num ∧ ∃ dts ∈ sink.maxObservedDts,
      watermark = dts - library.rescale (min sink.muxerReorderSafetyCts int64Max : Nat)
        nanoseconds sink.packetTimebase := by
  unfold committedDts at h
  split at h
  · cases h
  · rename_i dts hdts
    dsimp only at h
    split_ifs at h with htimebase hless
    exact ⟨not_le.mp (fun hnum => htimebase (Or.inl hnum)), dts, hdts, (Option.some.inj h).symm⟩

/-- The writer is behind all that is pending and behind every packet that may still come. -/
structure Windowed (library : MuxLibrary) (config : PacketStreamConfig)
    (past : List SinkTransition) (sink : MkvPacketSink) : Prop where
  safety : sink.muxerReorderSafetyCts = config.muxerReorderSafetyCts
  timebase : ∀ packet ∈ sink.pending, 0 < packet.timebaseNum →
    packet.timebase = sink.packetTimebase
  unset : sink.packetTimebase.num = 0 → sink.writer.lastWrittenDts = none
  observed : ∀ dts ∈ sink.maxObservedDts, ∃ earlier ∈ acceptedWrites past, earlier.dts = dts
  greatest : ∀ earlier ∈ acceptedWrites past, ∃ dts ∈ sink.maxObservedDts, earlier.dts ≤ dts
  pending : ∀ packet ∈ sink.pending, Behind library sink.packetTimebase packet.dts sink.writer
  later : ∀ dts, InTime library config past sink.packetTimebase dts →
    Behind library sink.packetTimebase dts sink.writer

/-- The writes of a flush are all in order. -/
theorem Windowed.flush_inTime (h : Windowed library config past sink) (hmono : KeepsOrder library)
    (dtsWatermark : Option Int) :
    ∀ attempt ∈ sink.flushAttempts library dtsWatermark,
      ¬attempt.1.RejectsDts library attempt.2 := by
  have hpending {packet : EncodedPacket}
      (hmem : packet ∈ sortForDecodeOrder (sink.pending.filter (selects dtsWatermark))) :
      packet ∈ sink.pending :=
    List.mem_of_mem_filter (mem_sortForDecodeOrder.mp hmem)
  apply writeAttempts_inTime hmono
  · exact fun packet hmem => h.timebase packet (hpending hmem)
  · exact (sortForDecodeOrder_sorted _).imp dts_le_of_not_decodesBefore
  · exact fun packet hmem _ => h.pending packet (hpending hmem)

/-- A call that neither accepts a packet nor flushes leaves the window as it is. -/
theorem Windowed.idle (h : Windowed library config past sink) {transition : SinkTransition}
    (hnone : acceptedWrites [transition] = []) (error : String) :
    Windowed library config (past ++ [transition]) { sink with error := error } := by
  have hsame : acceptedWrites (past ++ [transition]) = acceptedWrites past := by
    rw [acceptedWrites_append, hnone, List.append_nil]
  refine ⟨h.safety, h.timebase, h.unset, ?_, ?_, h.pending, fun dts hdts => ?_⟩
  · rw [hsame]
    exact h.observed
  · rw [hsame]
    exact h.greatest
  · exact h.later dts (Traces.obeys_concat_iff.mp hdts).1

theorem maxObservedDts_accept (sink : MkvPacketSink) (packet : EncodedPacket) :
    (sink.accept packet).maxObservedDts =
      some (sink.maxObservedDts.elim packet.dts (max · packet.dts)) := by
  unfold MkvPacketSink.accept
  cases sink.maxObservedDts with
  | none => rfl
  | some greatest =>
      by_cases hgreater : packet.dts > greatest
      · simp [hgreater, max_eq_right hgreater.le]
      · simp [hgreater, max_eq_left (not_lt.mp hgreater)]

/-- An accepted packet that is in time is one more that the writer is behind. -/
theorem Windowed.accept (h : Windowed library config past sink) {transition : SinkTransition}
    {packet : EncodedPacket} (hone : acceptedWrites [transition] = [packet])
    (hinTime : InTime library config past packet.timebase packet.dts)
    (htimebase : sink.packetTimebase.num = 0 ∨ packet.timebase = sink.packetTimebase) :
    Windowed library config (past ++ [transition])
      ({ sink with packetTimebase := packet.timebase }.accept packet) := by
  have hmore : acceptedWrites (past ++ [transition]) = acceptedWrites past ++ [packet] := by
    rw [acceptedWrites_append, hone]
  -- as long as there is no time base, nothing has been written
  have hbehind {dts : Int} (hbefore : Behind library sink.packetTimebase dts sink.writer) :
      Behind library packet.timebase dts sink.writer := by
    rcases htimebase with hunset | hsame
    · exact behind_of_unwritten (h.unset hunset) dts
    · rwa [hsame]
  have hlater {dts : Int} (hdts : InTime library config past packet.timebase dts) :
      Behind library packet.timebase dts sink.writer := by
    rcases htimebase with hunset | hsame
    · exact behind_of_unwritten (h.unset hunset) dts
    · rw [hsame] at hdts ⊢
      exact h.later dts hdts
  constructor
  · exact h.safety
  · intro other hother hnum
    rcases List.mem_append.mp hother with hold | hnew
    · have hbefore : other.timebase = sink.packetTimebase := h.timebase other hold hnum
      rcases htimebase with hunset | hsame
      · rw [← hbefore] at hunset
        exact absurd hunset hnum.ne'
      · exact hbefore.trans hsame.symm
    · rw [List.mem_singleton.mp hnew]
      rfl
  · intro hunset
    rcases htimebase with hbefore | hsame
    · exact h.unset hbefore
    · exact h.unset (by rwa [← hsame])
  · intro dts hdts
    rw [maxObservedDts_accept, Option.mem_some_iff] at hdts
    rw [← hdts, hmore]
    cases hobserved : sink.maxObservedDts with
    | none => exact ⟨packet, by simp, rfl⟩
    | some greatest =>
        obtain ⟨earlier, hearlier, rfl⟩ := h.observed greatest hobserved
        rcases max_choice earlier.dts packet.dts with hmax | hmax
        · exact ⟨earlier, List.mem_append_left _ hearlier, hmax.symm⟩
        · exact ⟨packet, by simp, hmax.symm⟩
  · intro earlier hearlier
    refine ⟨_, maxObservedDts_accept _ _, ?_⟩
    rw [hmore] at hearlier
    rcases List.mem_append.mp hearlier with hold | hnew
    · obtain ⟨greatest, hgreatest, hle⟩ := h.greatest earlier hold
      rw [show sink.maxObservedDts = some greatest from hgreatest]
      exact hle.trans (le_max_left _ _)
    · rw [List.mem_singleton.mp hnew]
      cases sink.maxObservedDts with
      | none => exact le_rfl
      | some greatest => exact le_max_right _ _
  · intro other hother
    rcases List.mem_append.mp hother with hold | hnew
    · exact hbehind (h.pending other hold)
    · rw [List.mem_singleton.mp hnew]
      exact hlater hinTime
  · exact fun dts hdts => hlater (Traces.obeys_concat_iff.mp hdts).1

/-- A commit raises the bound to its watermark: what is left is above it, and what may still
come is not below it. -/
theorem Windowed.commit (h : Windowed library config past sink) (hmono : KeepsOrder library)
    {transition : SinkTransition} (hcommits : commits transition.input = true)
    {watermark : Int} (hwatermark : sink.committedDts library = some watermark) :
    Windowed library config (past ++ [transition])
      (sink.flushPendingThroughDts library (some watermark)).2 := by
  obtain ⟨hnum, greatest, hgreatest, rfl⟩ := committedDts_eq_some hwatermark
  rw [h.safety] at hwatermark ⊢
  have hticks : library.rescale (min config.muxerReorderSafetyCts int64Max : Nat) nanoseconds
      sink.packetTimebase = safetyTicks library config sink.packetTimebase := rfl
  rw [hticks] at hwatermark ⊢
  have hupper : ∀ earlier ∈ acceptedWrites past, earlier.dts ≤ greatest := by
    intro earlier hearlier
    obtain ⟨dts, hdts, hle⟩ := h.greatest earlier hearlier
    rwa [Option.mem_unique hgreatest hdts]
  obtain ⟨latest, hlatest, hlatestDts⟩ := h.observed greatest hgreatest
  generalize hbound : greatest - safetyTicks library config sink.packetTimebase = watermark
    at hwatermark ⊢
  have hbefore : Behind library sink.packetTimebase watermark sink.writer := by
    apply h.later
    intro before transition after hsplit _ earlier hearlier
    have hle := hupper earlier (by
      rw [hsplit, acceptedWrites_append]
      exact List.mem_append_left _ hearlier)
    omega
  have hafter : Behind library sink.packetTimebase watermark
      (sink.flushPendingThroughDts library (some watermark)).2.writer := by
    apply hbefore.writePackets hmono
    · intro packet hmem
      exact h.timebase packet (List.mem_of_mem_filter (mem_sortForDecodeOrder.mp hmem))
    · intro packet hmem
      have hselected := List.of_mem_filter (mem_sortForDecodeOrder.mp hmem)
      simpa [selects] using hselected
  have hnone : acceptedWrites [transition] = [] := by
    cases hinput : transition.input with
    | write packet =>
        rw [hinput] at hcommits
        cases hcommits
    | _ => simp [acceptedWrites, hinput]
  have hsame : acceptedWrites (past ++ [transition]) = acceptedWrites past := by
    rw [acceptedWrites_append, hnone, List.append_nil]
  constructor
  · exact h.safety
  · exact fun packet hmem => h.timebase packet (List.mem_of_mem_filter hmem)
  · intro hunset
    exact absurd hunset hnum.ne'
  · rw [hsame]
    exact h.observed
  · rw [hsame]
    exact h.greatest
  · intro packet hmem
    have hkept := List.of_mem_filter hmem
    simp only [selects, Option.mem_some_iff, forall_eq', Bool.not_eq_true',
      decide_eq_false_iff_not, not_le] at hkept
    exact hafter.mono hmono hkept.le
  · intro dts hdts
    have hle : latest.dts - safetyTicks library config sink.packetTimebase ≤ dts :=
      (Traces.obeys_concat_iff.mp hdts).2 hcommits latest hlatest
    exact hafter.mono hmono (by omega)

/-- One call that feeds the sink keeps the window, and its writes are in order. -/
theorem Windowed.step (h : Windowed library config past sink) (hmono : KeepsOrder library)
    {call : SinkCall} (hfeeds : feeds call = true)
    (hwithin : WithinWindow library config past
      (Runs.transition (MkvPacketSink.step library) sink call)) :
    Windowed library config (past ++ [Runs.transition (MkvPacketSink.step library) sink call])
      (MkvPacketSink.step library sink call).2 ∧
    ∀ attempt ∈ sink.attempts library call, ¬attempt.1.RejectsDts library attempt.2 := by
  cases call with
  | write packet =>
      refine ⟨?_, by simp [attempts]⟩
      rcases write_cases sink packet with ⟨reason, hwrite⟩ | ⟨-, htimebase, hwrite⟩
      · have hstep : MkvPacketSink.step library sink (.write packet) = sink.fail reason := hwrite
        have hnone : acceptedWrites
            [Runs.transition (MkvPacketSink.step library) sink (.write packet)] = [] := by
          simp [acceptedWrites, Runs.transition, hstep, MkvPacketSink.fail]
        rw [hstep]
        exact h.idle hnone _
      · have hstep : MkvPacketSink.step library sink (.write packet) =
            (true, { sink with packetTimebase := packet.timebase }.accept packet) := hwrite
        have hone : acceptedWrites
            [Runs.transition (MkvPacketSink.step library) sink (.write packet)] = [packet] := by
          simp [acceptedWrites, Runs.transition, hstep]
        have hinTime : InTime library config past packet.timebase packet.dts :=
          hwithin packet rfl (congrArg Prod.fst hstep)
        rw [hstep]
        exact h.accept hone hinTime htimebase
  | commitThrough sourceCts =>
      rcases commitThrough_cases sink library sourceCts with
        ⟨hnone, hidle⟩ | ⟨watermark, hsome, hflush⟩
      · have hstep : MkvPacketSink.step library sink (.commitThrough sourceCts) = (true, sink) :=
          hidle
        rw [hstep]
        exact ⟨h.idle rfl sink.error, by simp [attempts, hnone]⟩
      · have hstep : MkvPacketSink.step library sink (.commitThrough sourceCts) =
            sink.flushPendingThroughDts library (some watermark) := hflush
        rw [hstep]
        refine ⟨h.commit hmono rfl hsome, ?_⟩
        simp only [attempts, hsome, Option.elim_some]
        exact h.flush_inTime hmono (some watermark)
  | «open» _ _ => cases hfeeds
  | finalize _ => cases hfeeds
  | abort => cases hfeeds

theorem windowed_open {path : String} {opened : MkvPacketSink}
    (h : MkvPacketSink.open { path := path } library config startCts = (true, opened)) :
    Windowed library config [] opened := by
  unfold MkvPacketSink.open at h
  dsimp only at h
  split_ifs at h
  · have hunwritten : (MkvPacketWriter.open {} library path config).2.lastWrittenDts = none :=
      (open_unstamped {} library path config).lastDts
    rw [← (Prod.mk.inj h).2]
    constructor
    · rfl
    · simp
    · exact fun _ => hunwritten
    · simp
    · simp [acceptedWrites]
    · simp
    · exact fun dts _ => behind_of_unwritten hunwritten dts
  · cases congrArg Prod.fst h

/-- From the `Open` of a new sink, in every run of `Write` and `CommitThrough` whose accepted
packets are in time, neither a commit nor the flush of a `Finalize` makes a write that is
refused for a decreasing DTS. -/
theorem window_suffices {path : String} {opened : MkvPacketSink} (hmono : KeepsOrder library)
    (hopen : MkvPacketSink.open { path := path } library config startCts = (true, opened))
    (hrun : Runs.Run (MkvPacketSink.step library) opened past sink)
    (hfeeds : ∀ transition ∈ past, feeds transition.input = true)
    (hwithin : Traces.Obeys (WithinWindow library config) past) (endCts : Nat) :
    (∀ transition ∈ past, ∀ attempt ∈ transition.before.attempts library transition.input,
      ¬attempt.1.RejectsDts library attempt.2) ∧
    ∀ attempt ∈ sink.attempts library (.finalize endCts),
      ¬attempt.1.RejectsDts library attempt.2 := by
  have hall := hrun.invariant (P := fun past sink =>
    (∀ transition ∈ past, feeds transition.input = true) →
      Traces.Obeys (WithinWindow library config) past →
        (∀ transition ∈ past, ∀ attempt ∈ transition.before.attempts library transition.input,
          ¬attempt.1.RejectsDts library attempt.2) ∧ Windowed library config past sink)
    (fun _ _ => ⟨by simp, windowed_open hopen⟩) ?_
  · obtain ⟨hpast, hwindowed⟩ := hall hfeeds hwithin
    exact ⟨hpast, hwindowed.flush_inTime hmono none⟩
  intro past sink call _ hbefore hfeeds hwithin
  obtain ⟨hearlier, hlegal⟩ := Traces.obeys_concat_iff.mp hwithin
  obtain ⟨hpast, hwindowed⟩ := hbefore (fun transition hmem =>
    hfeeds transition (List.mem_append_left _ hmem)) hearlier
  obtain ⟨hwindowed', hattempts⟩ := hwindowed.step hmono
    (hfeeds _ (List.mem_append_right _ (List.mem_singleton_self _))) hlegal
  refine ⟨?_, hwindowed'⟩
  rw [List.forall_mem_append, List.forall_mem_singleton]
  exact ⟨hpast, hattempts⟩

/-! ### A packet that comes late -/

/-- What `openedSink` was opened with. -/
def lateConfig : PacketStreamConfig where
  width := 16
  height := 9
  timebaseNum := 1
  timebaseDen := 1000000000
  extraData := [1]
  muxerTailCapacityBytes := 3
  muxerReorderSafetyCts := 10

/-- The packet at 112 comes after a commit at 120, within the budget of 10. -/
def lateCalls : List SinkCall :=
  [.write (nanosecondPacket 100), .write (nanosecondPacket 120), .commitThrough 120,
    .write (nanosecondPacket 112)]

theorem lateCalls_within : Traces.Obeys (WithinWindow nanosecondLibrary lateConfig)
    (Runs.history (MkvPacketSink.step nanosecondLibrary) openedSink lateCalls) := by
  refine (((Traces.obeys_nil.concat ?_).concat ?_).concat ?_).concat ?_
  · exact fun packet _ _ => Traces.obeys_nil
  · exact fun packet _ _ => Traces.obeys_nil.concat (fun hcommits => by cases hcommits)
  · rintro packet hinput
    cases hinput
  · rintro packet hinput -
    obtain rfl := SinkCall.write.inj hinput
    refine ((Traces.obeys_nil.concat ?_).concat ?_).concat ?_
    · exact fun hcommits => by cases hcommits
    · exact fun hcommits => by cases hcommits
    · exact fun _ => by decide

theorem window_suffices_late :
    (Runs.exec (MkvPacketSink.step nanosecondLibrary) openedSink lateCalls).writer.frames.map
        MuxFrame.dts = [0] ∧
      ∀ attempt ∈ (Runs.exec (MkvPacketSink.step nanosecondLibrary) openedSink lateCalls).attempts
        nanosecondLibrary (.finalize 120), ¬attempt.1.RejectsDts nanosecondLibrary attempt.2 := by
  refine ⟨by decide, ?_⟩
  have hopen : MkvPacketSink.open { path := "video.mkv" } nanosecondLibrary lateConfig 100 =
      (true, openedSink) := Prod.ext (by decide) rfl
  exact (window_suffices (fun _ _ => monotone_id) hopen (Runs.run_exec openedSink lateCalls)
    (by decide) lateCalls_within 120).2

end MkvPacketSink

end ObsSyncReplay
