import ObsSyncReplay.Muxing.GrantedRequests
import ObsSyncReplay.Replay.SnapshotPresentation
import ObsSyncReplay.Sync.PacketRangeValidation

/-!
The files that a replay save leaves. A save writes its streams one after the other and stops at the
first that fails; every file is closed by then, and every file before the failing one holds its
stream. A snapshot of a session is always in order, so that the library alone makes a save fail.
-/

namespace ObsSyncReplay

open MkvPacketWriter (Muxed Openable)

variable {library : MuxLibrary} {range : ReplayFrameRange} {path : String}
  {config : PacketStreamConfig} {owned : List CapturedEncodedPacket} {writer : MkvPacketWriter}

def sourceCtsOf (owned : List CapturedEncodedPacket) : List Nat :=
  owned.map (fun captured => captured.packet.sourceCts)

/-- The source CTS reach from the start of the range to its end, and not beyond. -/
structure ReplayFrameRange.Spans (range : ReplayFrameRange) (written : List Nat) : Prop where
  first : range.startCts ∈ written
  last : range.endCts ∈ written
  within : ∀ cts ∈ written, range.startCts ≤ cts ∧ cts ≤ range.endCts

/-- The file is closed, and holds every packet of its stream once with nothing changed but the time
stamps, in an order in which the DTS do not decrease. What is reported of it is what it holds. -/
structure MkvPacketWriter.HoldsStream (writer : MkvPacketWriter) (reported : MkvWriteResult)
    (range : ReplayFrameRange) (owned : List CapturedEncodedPacket) : Prop where
  closed : writer.isOpen = false
  contents : (writer.frames.map (fun frame => (frame.data, frame.keyframe))).Perm
    (owned.map (fun captured => (captured.packet.payload, captured.packet.keyframe)))
  ordered : (writer.frames.map MuxFrame.dts).Pairwise (· ≤ ·)
  spans : range.Spans (sourceCtsOf owned)
  reports : reported = {
    success := true
    firstSourceCts := range.startCts
    lastSourceCts := range.endCts
    packetCount := owned.length
    bytes := (owned.map packetBytes).sum }

/-- What a rebase leaves alone is written as it was captured. -/
theorem muxPackets_map {β : Type} {f : EncodedPacket → β}
    (hf : ∀ timebase dtsOrigin packet, f (rebase library range timebase dtsOrigin packet) =
      f packet) :
    (muxPackets library owned range).map f = (inDecodeOrder owned).map f := by
  unfold muxPackets
  dsimp only
  split
  · rfl
  · split_ifs
    · rfl
    · rw [List.map_map]
      exact List.map_congr_left (fun packet _ => hf _ _ packet)

theorem muxPackets_perm {β : Type} {f : EncodedPacket → β}
    (hf : ∀ timebase dtsOrigin packet, f (rebase library range timebase dtsOrigin packet) =
      f packet) :
    ((muxPackets library owned range).map f).Perm
      (owned.map (fun captured => f captured.packet)) := by
  have hperm := (sortForDecodeOrder_decodeSorted
    (owned.map CapturedEncodedPacket.packet)).perm.map f
  rw [muxPackets_map hf]
  rwa [List.map_map] at hperm

theorem length_muxPackets : (muxPackets library owned range).length = owned.length := by
  have hperm : ((muxPackets library owned range).map EncodedPacket.sourceCts).Perm
      (sourceCtsOf owned) := muxPackets_perm (fun _ _ _ => rfl)
  simpa [sourceCtsOf] using hperm.length_eq

namespace MkvPacketWriter

theorem write_bytes {packet : EncodedPacket} (h : (writer.write library packet).1 = true) :
    (writer.write library packet).2.bytes = writer.bytes + packet.payload.length := by
  rcases write_cases writer library packet with ⟨-, hwrite⟩ | ⟨-, hwrite⟩ | ⟨-, -, hwrite⟩ <;>
    rw [hwrite] at h ⊢
  · cases h
  · cases h
  · rcases writeFrame_cases (writer.stamped library packet) library packet
        (writer.originFor packet) with ⟨-, reason, hframe⟩ | ⟨reason, hframe⟩ | hframe <;>
      rw [hframe] at h ⊢
    · cases h
    · cases h
    · rfl

/-- An `Open` that fails at a step has released what the steps before it took. -/
theorem openFormat_closed : (writer.openFormat library config).1 = true ∨
    (writer.openFormat library config).2.isOpen = false := by
  unfold openFormat
  dsimp only
  split_ifs <;> first | exact Or.inl rfl | exact Or.inr rfl

theorem openStream_closed : (writer.openStream library config).1 = true ∨
    (writer.openStream library config).2.isOpen = false := by
  unfold openStream
  dsimp only
  split_ifs
  · exact Or.inr rfl
  · exact Or.inr rfl
  · exact Or.inr rfl
  · exact openFormat_closed

theorem open_closed : (MkvPacketWriter.open {} library path config).1 = true ∨
    (MkvPacketWriter.open {} library path config).2.isOpen = false := by
  unfold MkvPacketWriter.open
  simp only [Bool.false_eq_true, false_or]
  split_ifs
  · exact Or.inr rfl
  · exact Or.inr rfl
  · exact openStream_closed

theorem finalize_closed (writer : MkvPacketWriter) (library : MuxLibrary) :
    (writer.finalize library).2.isOpen = false := by
  unfold finalize
  dsimp only
  split_ifs with hclosed
  · simpa using hclosed
  · rfl
  · rfl

/-- What a file reports that was closed without an error. -/
theorem finalize_result (h : (writer.finalize library).1.success = true) :
    (writer.finalize library).1 = { writer.writeResult with success := true } := by
  have herror := finalize_success h
  unfold finalize at h ⊢
  split_ifs at h ⊢
  · simp [writeResult, herror]
  · dsimp only at h ⊢
    rw [h, if_neg (not_lt.mpr (of_decide_eq_true h).1)]
    rfl

end MkvPacketWriter

theorem writePackets_bytes {packets : List EncodedPacket}
    (h : (writePackets library packets writer).1 = true) :
    (writePackets library packets writer).2.bytes =
      writer.bytes + (packets.map (fun packet => packet.payload.length)).sum := by
  induction packets generalizing writer with
  | nil => rfl
  | cons packet packets ih =>
      unfold writePackets at h ⊢
      rcases hwrite : writer.write library packet with ⟨_ | _, middle⟩ <;> rw [hwrite] at h
      · cases h
      · have hbytes := @MkvPacketWriter.write_bytes library writer packet
        rw [hwrite] at hbytes
        rw [ih h, hbytes rfl, List.map_cons, List.sum_cons, Nat.add_assoc]

/-- The file was closed without an error, and reaches over the range. -/
structure MkvWriteResult.Covers (result : MkvWriteResult) (range : ReplayFrameRange) : Prop where
  success : result.success = true
  first : result.firstSourceCts = range.startCts
  last : result.lastSourceCts = range.endCts

/-- How a round of `WriteSnapshot` ends. -/
theorem writeStream_cases (library : MuxLibrary) (range : ReplayFrameRange) (path : String)
    (config : PacketStreamConfig) (owned : List CapturedEncodedPacket) :
    (∃ opened, MkvPacketWriter.open {} library path config = (false, opened) ∧
      writeStream library range path config owned =
        ⟨some ("stream-open-failed:" ++ opened.error), {}, opened⟩) ∨
    ∃ opened, MkvPacketWriter.open {} library path config = (true, opened) ∧
      ((owned = [] ∧ writeStream library range path config owned =
          ⟨some "empty-snapshot-stream", {}, opened.abort⟩) ∨
        owned ≠ [] ∧ ∃ written,
          (writePackets library (muxPackets library owned range) opened = (false, written) ∧
            writeStream library range path config owned =
              ⟨some ("stream-write-failed:" ++ written.error), {}, written.abort⟩) ∨
          writePackets library (muxPackets library owned range) opened = (true, written) ∧
            (¬(written.finalize library).1.Covers range ∧
                writeStream library range path config owned =
                  ⟨some ("stream-range-mismatch:" ++ (written.finalize library).1.error),
                    (written.finalize library).1, (written.finalize library).2⟩ ∨
              (written.finalize library).1.Covers range ∧
                writeStream library range path config owned =
                  ⟨none, (written.finalize library).1, (written.finalize library).2⟩)) := by
  have hempty : (muxPackets library owned range).isEmpty = true ↔ owned = [] := by
    rw [List.isEmpty_iff, ← List.length_eq_zero_iff, length_muxPackets, List.length_eq_zero_iff]
  unfold writeStream
  rcases hopen : MkvPacketWriter.open {} library path config with ⟨_ | _, opened⟩
  · exact Or.inl ⟨opened, rfl, rfl⟩
  refine Or.inr ⟨opened, rfl, ?_⟩
  by_cases howned : owned = []
  · exact Or.inl ⟨howned, if_pos (hempty.mpr howned)⟩
  refine Or.inr ⟨howned, ?_⟩
  dsimp only
  rw [if_neg (fun h => howned (hempty.mp h))]
  rcases hwrite : writePackets library (muxPackets library owned range) opened with
    ⟨_ | _, written⟩
  · exact ⟨written, Or.inl ⟨rfl, rfl⟩⟩
  refine ⟨written, Or.inr ⟨rfl, ?_⟩⟩
  by_cases hcovers : (written.finalize library).1.Covers range
  · refine Or.inr ⟨hcovers, if_neg ?_⟩
    simp [hcovers.success, hcovers.first, hcovers.last]
  · refine Or.inl ⟨hcovers, if_pos ?_⟩
    by_contra hnot
    simp only [Bool.not_eq_true', not_or, Bool.not_eq_false, not_not] at hnot
    exact hcovers ⟨hnot.1, hnot.2.1, hnot.2.2⟩

theorem writeStream_closed :
    (writeStream library range path config owned).writer.isOpen = false := by
  rcases writeStream_cases library range path config owned with
    ⟨opened, hopen, hstream⟩ | ⟨opened, -, ⟨-, hstream⟩ | ⟨-, written, ⟨-, hstream⟩ |
      ⟨-, ⟨-, hstream⟩ | ⟨-, hstream⟩⟩⟩⟩ <;> rw [hstream]
  · have hclosed := @MkvPacketWriter.open_closed library path config
    rw [hopen] at hclosed
    exact hclosed.resolve_left Bool.false_ne_true
  · rfl
  · rfl
  · exact written.finalize_closed library
  · exact written.finalize_closed library

theorem writeStream_error_ne (h : (writeStream library range path config owned).error ≠ none) :
    ∃ error, (writeStream library range path config owned).error = some error ∧ error ≠ "" := by
  rcases writeStream_cases library range path config owned with
    ⟨opened, -, hstream⟩ | ⟨opened, -, ⟨-, hstream⟩ | ⟨-, written, ⟨-, hstream⟩ |
      ⟨-, ⟨-, hstream⟩ | ⟨-, hstream⟩⟩⟩⟩ <;> rw [hstream] at h ⊢
  · exact ⟨_, rfl, append_ne_empty (by decide) _⟩
  · exact ⟨_, rfl, by decide⟩
  · exact ⟨_, rfl, append_ne_empty (by decide) _⟩
  · exact ⟨_, rfl, append_ne_empty (by decide) _⟩
  · exact absurd rfl h

/-- The frames of a file that was written to its end. -/
theorem MkvPacketWriter.Muxed.contents {packets : List EncodedPacket}
    (h : Muxed library packets writer) (hne : packets ≠ []) :
    writer.frames.map (fun frame => (frame.data, frame.keyframe)) =
      packets.map (fun packet => (packet.payload, packet.keyframe)) := by
  cases horigin : writer.timestampOrigin with
  | none => exact absurd (h.unstamped horigin).1 hne
  | some origin =>
      rw [h.frames origin horigin, List.map_map]
      rfl

theorem MkvPacketWriter.Tracks.spans {written : List Nat} (h : writer.Tracks written)
    (hne : written ≠ []) (hfirst : writer.firstSourceCts = range.startCts)
    (hlast : writer.lastSourceCts = range.endCts) : range.Spans written := by
  obtain ⟨hmem, hleast⟩ := h.first hne
  constructor
  · rwa [← hfirst]
  · rw [← hlast]
    exact h.last hne
  · intro cts hcts
    rw [← hfirst, ← hlast]
    exact ⟨hleast cts hcts, h.upper cts hcts⟩

theorem ReplayFrameRange.Spans.perm {written written' : List Nat} (h : range.Spans written)
    (hperm : written.Perm written') : range.Spans written' :=
  ⟨hperm.mem_iff.mp h.first, hperm.mem_iff.mp h.last,
    fun cts hcts => h.within cts (hperm.mem_iff.mpr hcts)⟩

/-- A round of `WriteSnapshot` without an error leaves a file that holds its stream. -/
theorem writeStream_holds (h : (writeStream library range path config owned).error = none) :
    (writeStream library range path config owned).writer.HoldsStream
      (writeStream library range path config owned).result range owned := by
  have hclosed := @writeStream_closed library range path config owned
  rcases writeStream_cases library range path config owned with
    ⟨opened, -, hstream⟩ | ⟨opened, hopen, ⟨-, hstream⟩ | ⟨howned, written, ⟨-, hstream⟩ |
      ⟨hwrite, ⟨-, hstream⟩ | ⟨hcovers, hstream⟩⟩⟩⟩ <;> rw [hstream] at h hclosed ⊢
  · cases h
  · cases h
  · cases h
  · cases h
  have hne : muxPackets library owned range ≠ [] := by
    rwa [← List.length_pos_iff, length_muxPackets, List.length_pos_iff]
  have hsource : ((muxPackets library owned range).map EncodedPacket.sourceCts).Perm
      (sourceCtsOf owned) := muxPackets_perm (fun _ _ _ => rfl)
  have hsize : ((muxPackets library owned range).map (fun packet => packet.payload.length)).Perm
      (owned.map packetBytes) := muxPackets_perm (fun _ _ _ => rfl)
  have hmuxed := MkvPacketWriter.writePackets_muxed (muxPackets library owned range)
    (MkvPacketWriter.muxed_open hopen)
  have hbytes := @writePackets_bytes library opened (muxPackets library owned range)
  rw [hwrite] at hmuxed hbytes
  replace hmuxed : Muxed library ([] ++ muxPackets library owned range) written :=
    (hmuxed.resolve_left (by simp)).2
  replace hbytes : written.bytes = _ := hbytes rfl
  obtain ⟨hframes, -⟩ := written.finalize_frames library
  obtain ⟨hfirst, hlast, -⟩ := written.finalize_fst library
  have hopened : opened.bytes = 0 :=
    congrArg MkvWriteResult.bytes (MkvPacketWriter.open_true hopen).2.1
  refine ⟨hclosed, ?_, ?_, ?_, ?_⟩
  · rw [hframes, hmuxed.contents hne]
    exact muxPackets_perm (fun _ _ _ => rfl)
  · rw [hframes]
    exact hmuxed.ordered
  · refine (hmuxed.tracks.spans ?_ ?_ ?_).perm hsource
    · simpa using hne
    · exact hfirst.symm.trans hcovers.first
    · exact hlast.symm.trans hcovers.last
  · have hcount : written.packetCount = owned.length := by
      rw [hmuxed.tracks.count, List.length_map, List.nil_append, length_muxPackets]
    have htotal : written.bytes = (owned.map packetBytes).sum := by
      rw [hbytes, hopened, Nat.zero_add, hsize.sum_eq]
    dsimp only
    rw [MkvPacketWriter.finalize_result hcovers.success, ← hcount, ← htotal, ← hcovers.first,
      ← hcovers.last, hfirst, hlast, MkvPacketWriter.writeResult,
      MkvPacketWriter.finalize_success hcovers.success]

section Blame

variable {rescale : Int → AVRational → AVRational → Int} {startCts : Nat} {timebase : AVRational}
  {packet : EncodedPacket} {packets : List EncodedPacket}

theorem Aligned.inOrder (hlibrary : library.rescale = rescale)
    (hrebased : Rebased rescale startCts timebase (packet :: packets))
    (haligned : Aligned rescale timebase (packet :: packets) writer) :
    writer.InOrder (writer.frameFor library packet).dts := by
  intro lastDts hlast
  rw [MkvPacketWriter.frameFor_dts, haligned.origin packet rfl, sub_zero, hlibrary,
    hrebased.sameTimebase packet List.mem_cons_self]
  exact haligned.ordered lastDts hlast packet List.mem_cons_self

theorem Aligned.write (hrescale : MonotoneRescale rescale) (hlibrary : library.rescale = rescale)
    (hrebased : Rebased rescale startCts timebase (packet :: packets))
    (haligned : Aligned rescale timebase (packet :: packets) writer)
    (hok : (writer.write library packet).1 = true) :
    Aligned rescale timebase packets (writer.write library packet).2 := by
  have hwritten := writer.write_written library packet
  have horigin := haligned.origin packet rfl
  refine ⟨(hwritten.error hok).trans haligned.error, fun first _ => ?_, ?_⟩
  · unfold MkvPacketWriter.originFor
    rw [hwritten.origin hok, Option.getD_some, horigin]
  · intro lastDts hlast later hlater
    rw [hwritten.lastDts hok] at hlast
    obtain rfl := Option.some.inj hlast
    rw [MkvPacketWriter.frameFor_dts, horigin, sub_zero, hlibrary,
      hrebased.sameTimebase packet List.mem_cons_self, hwritten.timebase]
    apply hrescale.monotone
    exact (List.pairwise_cons.mp hrebased.ordered).1 later hlater

/-- A packet that no writer refuses as invalid. -/
def EncodedPacket.Usable (packet : EncodedPacket) : Prop :=
  packet.payload ≠ [] ∧ 0 < packet.timebaseNum ∧ 0 < packet.timebaseDen

theorem writePackets_true_iff (hrescale : MonotoneRescale rescale)
    (hlibrary : library.rescale = rescale) (hrebased : Rebased rescale startCts timebase packets)
    (haligned : Aligned rescale timebase packets writer)
    (husable : ∀ packet ∈ packets, packet.Usable) (hready : writer.Ready)
    (hgrants : library.Grants writer.requests) :
    (writePackets library packets writer).1 = true ↔
      library.Grants (writePackets library packets writer).2.requests := by
  induction packets generalizing writer with
  | nil => exact iff_of_true rfl hgrants
  | cons packet packets ih =>
      rw [List.forall_mem_cons] at husable
      have hwrite := MkvPacketWriter.write_true_iff hgrants ⟨hready.isOpen, husable.1⟩
        (haligned.inOrder hlibrary hrebased)
      have haligned' := haligned.write hrescale hlibrary hrebased
      unfold writePackets
      rcases hafter : writer.write library packet with ⟨_ | _, after⟩ <;>
        rw [hafter] at hwrite haligned'
      · exact hwrite
      · exact ih hrebased.tail (haligned' rfl) husable.2
          ((MkvPacketWriter.write_true hafter).1 hready) (hwrite.mp rfl)

/-- What a stream of a snapshot brings with it, whatever the library does. -/
structure StreamReady (range : ReplayFrameRange) (config : PacketStreamConfig)
    (owned : List CapturedEncodedPacket) : Prop where
  width : config.width ≠ 0
  height : config.height ≠ 0
  timebase : 0 < config.timebaseNum ∧ 0 < config.timebaseDen
  payload : ∀ captured ∈ owned, captured.packet.payload ≠ []
  spans : range.Spans (sourceCtsOf owned)

theorem muxPackets_usable (htimebase : OneTimebase owned)
    (hpayload : ∀ captured ∈ owned, captured.packet.payload ≠ []) :
    ∀ packet ∈ muxPackets library owned range, packet.Usable := by
  obtain ⟨timebase, hnum, hden, hsame⟩ := htimebase
  have hperm : ((muxPackets library owned range).map
      (fun packet => (packet.payload, packet.timebase))).Perm
      (owned.map (fun captured => (captured.packet.payload, captured.packet.timebase))) :=
    muxPackets_perm (fun _ _ _ => rfl)
  intro packet hpacket
  have hcopied := hperm.mem_iff.mp (List.mem_map_of_mem hpacket)
  obtain ⟨captured, hcaptured, hpair⟩ := List.mem_map.mp hcopied
  obtain ⟨hdata, htime⟩ := Prod.mk.inj hpair
  rw [hsame captured hcaptured] at htime
  subst htime
  exact ⟨hdata ▸ hpayload captured hcaptured, hnum, hden⟩

theorem MkvPacketWriter.Tracks.covers {written : List Nat} (h : writer.Tracks written)
    (hspans : range.Spans written) :
    writer.firstSourceCts = range.startCts ∧ writer.lastSourceCts = range.endCts := by
  have hne := List.ne_nil_of_mem hspans.first
  obtain ⟨hmem, hleast⟩ := h.first hne
  have hfirst := hspans.within _ hmem
  have hlast := hspans.within _ (h.last hne)
  exact ⟨le_antisymm (hleast _ hspans.first) hfirst.1,
    le_antisymm hlast.2 (h.upper _ hspans.last)⟩

/-- A stream of a snapshot is saved exactly if there is a path, the codec has told its header, and
the library refuses nothing. -/
theorem writeStream_error_iff (hrescale : MonotoneRescale rescale)
    (hlibrary : library.rescale = rescale) (hready : StreamReady range config owned)
    (htimebase : OneTimebase owned)
    (hfits : ∀ captured ∈ owned, FitsInt64 range.startCts captured.packet.sourceCts) :
    (writeStream library range path config owned).error = none ↔
      (path ≠ "" ∧ config.extraData ≠ []) ∧
        library.Grants (writeStream library range path config owned).writer.requests := by
  have hopenable (hpath : path ≠ "" ∧ config.extraData ≠ []) : Openable path config :=
    ⟨hpath.1, hready.width, hready.height, hpath.2, hready.timebase⟩
  have hiff := @MkvPacketWriter.open_true_iff library path config
  rcases writeStream_cases library range path config owned with
    ⟨opened, hopen, hstream⟩ | ⟨opened, hopen, ⟨hempty, -⟩ | ⟨howned, written, hwritten⟩⟩
  · rw [hopen] at hiff
    rw [hstream]
    refine iff_of_false (by simp) (fun hgranted => ?_)
    exact Bool.false_ne_true (hiff.mpr ⟨hopenable hgranted.1, hgranted.2⟩)
  · have hstart := hready.spans.first
    rw [hempty] at hstart
    cases hstart
  rw [hopen] at hiff
  obtain ⟨hconfig, hgrants⟩ := hiff.mp rfl
  have hpaths : path ≠ "" ∧ config.extraData ≠ [] := ⟨hconfig.path, hconfig.extraData⟩
  have hunstamped := MkvPacketWriter.open_unstamped {} library path config
  rw [hopen] at hunstamped
  have hnew := (MkvPacketWriter.open_true hopen).1
  obtain ⟨front, -, hrebased, haligned⟩ := muxPackets_aligned hrescale hlibrary htimebase
    (fun captured hcaptured => ⟨(hready.spans.within _ (List.mem_map_of_mem hcaptured)).1,
      hfits captured hcaptured⟩) howned hnew.error hunstamped.origin hunstamped.lastDts
  have hpackets := writePackets_true_iff hrescale hlibrary hrebased haligned
    (muxPackets_usable htimebase hready.payload) hnew hgrants
  have hmuxed := MkvPacketWriter.writePackets_muxed (muxPackets library owned range)
    (MkvPacketWriter.muxed_open hopen)
  rcases hwritten with ⟨hwrite, hstream⟩ | ⟨hwrite, hclosed⟩ <;> rw [hwrite] at hpackets hmuxed
  · rw [hstream]
    exact iff_of_false (by simp) (fun hgranted => Bool.false_ne_true (hpackets.mpr hgranted.2))
  replace hmuxed : Muxed library ([] ++ muxPackets library owned range) written :=
    (hmuxed.resolve_left (by simp)).2
  have hsuccess := MkvPacketWriter.finalize_success_iff (hpackets.mp rfl) hmuxed.ready
  rcases hclosed with ⟨hnot, hstream⟩ | ⟨hcovers, hstream⟩ <;> rw [hstream]
  · refine iff_of_false (by simp) (fun hgranted => hnot ?_)
    have hsource : ((muxPackets library owned range).map EncodedPacket.sourceCts).Perm
        (sourceCtsOf owned) := muxPackets_perm (fun _ _ _ => rfl)
    obtain ⟨hfirst, hlast, -⟩ := written.finalize_fst library
    obtain ⟨hstart, hend⟩ := hmuxed.tracks.covers (hready.spans.perm hsource.symm)
    exact ⟨hsuccess.mpr hgranted.2, hfirst.trans hstart, hlast.trans hend⟩
  · exact iff_of_true rfl ⟨hpaths, hsuccess.mp hcovers.success⟩

end Blame

def StreamJob.written (job : StreamJob) (range : ReplayFrameRange) : StreamWritten :=
  writeStream job.library range job.path job.config job.owned

/-- The jobs up to the first that fails. -/
def attemptedJobs (range : ReplayFrameRange) : List StreamJob → List StreamJob
  | [] => []
  | job :: jobs =>
      if (job.written range).error = none then job :: attemptedJobs range jobs else [job]

theorem attemptedJobs_isPrefix (jobs : List StreamJob) : attemptedJobs range jobs <+: jobs := by
  induction jobs with
  | nil => exact List.prefix_rfl
  | cons job jobs ih =>
      unfold attemptedJobs
      split_ifs
      · exact List.prefix_cons_inj job |>.mpr ih
      · exact ⟨jobs, rfl⟩

theorem attemptedJobs_at {jobs : List StreamJob} {place : Nat} {job : StreamJob}
    (h : (attemptedJobs range jobs)[place]? = some job) : jobs[place]? = some job := by
  obtain ⟨rest, hrest⟩ := @attemptedJobs_isPrefix range jobs
  rw [← hrest, List.getElem?_append_left (List.getElem?_eq_some_iff.mp h).1, h]

/-- Every job that is not the last of the attempted ones was done. -/
theorem attemptedJobs_done {jobs : List StreamJob} {place : Nat} {job : StreamJob}
    (hplace : place + 1 < (attemptedJobs range jobs).length)
    (hjob : (attemptedJobs range jobs)[place]? = some job) :
    (job.written range).error = none := by
  induction jobs generalizing place with
  | nil => cases hjob
  | cons first jobs ih =>
      unfold attemptedJobs at hplace hjob
      split_ifs at hplace hjob with hdone
      · cases place with
        | zero =>
            obtain rfl := Option.some.inj hjob
            exact hdone
        | succ place => exact ih (by simpa using hplace) hjob
      · simp at hplace

/-- What a save reports of its streams, and which of them it has tried. -/
structure StreamsWritten (range : ReplayFrameRange) (jobs : List StreamJob) (index : Nat)
    (result result' : ReplaySaveResult) (writers : List MkvPacketWriter) : Prop where
  writers : writers = (attemptedJobs range jobs).map (fun job => (job.written range).writer)
  bytes : result'.snapshotPayloadBytes = result.snapshotPayloadBytes +
    ((attemptedJobs range jobs).map (fun job => (job.owned.map packetBytes).sum)).sum
  streams : ∀ place job, (attemptedJobs range jobs)[place]? = some job →
    index + place < result.streams.length →
      result'.streams[index + place]? = some (job.written range).result
  earlier : ∀ place < index, result'.streams[place]? = result.streams[place]?
  length : result'.streams.length = result.streams.length
  succeeds : result'.success = true ↔ ∀ job ∈ jobs, (job.written range).error = none
  fails : result'.success = false → result'.error ≠ "" ∧
    ∃ job, (attemptedJobs range jobs).getLast? = some job ∧ (job.written range).error ≠ none
  clean : result'.success = true → result'.error = result.error

theorem writeStreams_written (jobs : List StreamJob) (index : Nat) (result : ReplaySaveResult)
    (hrange : result.range = range) (hopen : result.success = false) :
    StreamsWritten range jobs index result (writeStreams jobs index result).1
      (writeStreams jobs index result).2 := by
  induction jobs generalizing index result with
  | nil => exact ⟨rfl, rfl, nofun, fun _ _ => rfl, rfl, by simp [writeStreams], nofun, fun _ => rfl⟩
  | cons job jobs ih =>
      have hnonempty : (job.written range).error ≠ none →
          ∃ error, (job.written range).error = some error ∧ error ≠ "" := writeStream_error_ne
      rcases hwritten : job.written range with ⟨error, stored, writer⟩
      have hstream : writeStream job.library result.range job.path job.config job.owned =
          ⟨error, stored, writer⟩ := by rw [hrange, ← hwritten, StreamJob.written]
      unfold writeStreams
      simp only [hstream]
      cases error with
      | some error =>
          have hattempted : attemptedJobs range (job :: jobs) = [job] := by
            simp [attemptedJobs, hwritten]
          constructor <;> simp only [hattempted]
          · simp [hwritten]
          · simp
          · intro place attempted hplace hbound
            obtain ⟨rfl, rfl⟩ : place = 0 ∧ job = attempted := by
              cases place <;> simp_all
            simp_all
          · intro place hplace
            simp [show index ≠ place by omega]
          · simp
          · simp [hopen, hwritten]
          · intro _
            refine ⟨?_, job, rfl, by simp [hwritten]⟩
            rw [hwritten] at hnonempty
            obtain ⟨reason, hreason, hne⟩ := hnonempty (by simp)
            rwa [Option.some.inj hreason]
          · intro hsuccess
            simp [hopen] at hsuccess
      | none =>
          have hattempted : attemptedJobs range (job :: jobs) =
              job :: attemptedJobs range jobs := by
            simp [attemptedJobs, hwritten]
          have hrest := ih (index + 1) { result with
            snapshotPayloadBytes := result.snapshotPayloadBytes + (job.owned.map packetBytes).sum
            streams := result.streams.set index stored } hrange hopen
          constructor <;> simp only [hattempted]
          · rw [List.map_cons, hrest.writers, hwritten]
          · rw [hrest.bytes, List.map_cons, List.sum_cons, Nat.add_assoc]
          · intro place attempted hplace hbound
            cases place with
            | zero =>
                obtain rfl := Option.some.inj hplace
                simp only [Nat.add_zero] at hbound ⊢
                rw [hrest.earlier index (by omega), hwritten]
                simp [hbound]
            | succ place =>
                have hstored := hrest.streams place attempted hplace
                  (by simp only [List.length_set]; omega)
                rwa [show index + (place + 1) = index + 1 + place by omega]
          · intro place hplace
            rw [hrest.earlier place (by omega)]
            simp [show index ≠ place by omega]
          · rw [hrest.length, List.length_set]
          · rw [hrest.succeeds, List.forall_mem_cons, hwritten]
            simp
          · intro hfailed
            obtain ⟨herror, last, hlast, hfailing⟩ := hrest.fails hfailed
            refine ⟨herror, last, ?_, hfailing⟩
            rw [List.getLast?_cons, hlast]
            rfl
          · exact hrest.clean

theorem attemptedJobs_all {jobs : List StreamJob}
    (h : ∀ job ∈ jobs, (job.written range).error = none) : attemptedJobs range jobs = jobs := by
  induction jobs with
  | nil => rfl
  | cons job jobs ih =>
      rw [List.forall_mem_cons] at h
      rw [attemptedJobs, if_pos h.1, ih h.2]

namespace ReplaySave

variable {save : ReplaySave}

def jobs (save : ReplaySave) : List StreamJob :=
  streamJobs save.library save.snapshot save.paths

def writers (save : ReplaySave) : List MkvPacketWriter :=
  (writeSnapshot save.library save.snapshot save.paths).2

/-- Every stream of the snapshot has its configuration, and a file to go to. -/
structure Paired (save : ReplaySave) : Prop where
  configs : save.snapshot.streamConfigs.length = save.snapshot.packets.length
  paths : save.paths.length = save.snapshot.packets.length

theorem Paired.map_owned (h : save.Paired) :
    save.jobs.map StreamJob.owned = save.snapshot.packets := by
  have hlength : save.snapshot.packets.length ≤
      (save.snapshot.streamConfigs.zip save.paths).length := by
    rw [List.length_zip, h.configs, h.paths, min_self]
  have hfirst : save.jobs.map StreamJob.owned = ((save.snapshot.packets.zip
      (save.snapshot.streamConfigs.zip save.paths)).zipIdx.map Prod.fst).map Prod.fst := by
    unfold jobs streamJobs
    rw [List.map_map, List.map_map]
    rfl
  rw [hfirst, List.zipIdx_map_fst, List.map_fst_zip hlength]

theorem Paired.length (h : save.Paired) : save.jobs.length = save.snapshot.packets.length := by
  rw [← h.map_owned, List.length_map]

theorem Paired.written (h : save.Paired) :
    StreamsWritten save.snapshot.range save.jobs 0
      { range := save.snapshot.range, paths := save.paths
        streams := List.replicate save.snapshot.packets.length {} } save.result save.writers := by
  unfold result writers writeSnapshot
  dsimp only
  rw [if_neg (by simp [h.configs, h.paths])]
  exact writeStreams_written save.jobs 0 _ rfl rfl

/-- The file at a place holds the stream at this place. -/
def Holds (save : ReplaySave) (place : Nat) : Prop :=
  ∃ owned writer reported, save.snapshot.packets[place]? = some owned ∧
    save.writers[place]? = some writer ∧ save.result.streams[place]? = some reported ∧
      writer.HoldsStream reported save.snapshot.range owned

theorem Paired.holds (h : save.Paired) {place : Nat} {job : StreamJob}
    (hjob : (attemptedJobs save.snapshot.range save.jobs)[place]? = some job)
    (hdone : (job.written save.snapshot.range).error = none) : save.Holds place := by
  have hat : save.jobs[place]? = some job := attemptedJobs_at hjob
  have hplace := (List.getElem?_eq_some_iff.mp hat).1
  rw [h.length] at hplace
  refine ⟨job.owned, (job.written save.snapshot.range).writer,
    (job.written save.snapshot.range).result, ?_, ?_, ?_, writeStream_holds hdone⟩
  · rw [← h.map_owned, List.getElem?_map, hat]
    rfl
  · rw [h.written.writers, List.getElem?_map, hjob]
    rfl
  · have hstored := h.written.streams place job hjob (by simpa using hplace)
    rwa [Nat.zero_add] at hstored

/-- What a save leaves. Every file is closed. Either every stream is in its file, or the save has
stopped at a stream that failed, and every stream before it is in its file. -/
structure Outcome (save : ReplaySave) : Prop where
  closed : ∀ writer ∈ save.writers, writer.isOpen = false
  whole : save.result.success = true → save.result.error = "" ∧
    save.writers.length = save.snapshot.packets.length ∧
      ∀ place < save.snapshot.packets.length, save.Holds place
  stopped : save.result.success = false → save.result.error ≠ "" ∧
    ∃ failed < save.snapshot.packets.length, save.writers.length = failed + 1 ∧
      ∀ place < failed, save.Holds place
  bytes : save.result.snapshotPayloadBytes =
    ((save.snapshot.packets.take save.writers.length).map
      (fun owned => (owned.map packetBytes).sum)).sum

theorem Paired.outcome (h : save.Paired) : save.Outcome := by
  have hwritten := h.written
  have hprefix := @attemptedJobs_isPrefix save.snapshot.range save.jobs
  have hlength : save.writers.length =
      (attemptedJobs save.snapshot.range save.jobs).length := by
    rw [hwritten.writers, List.length_map]
  refine ⟨?_, ?_, ?_, ?_⟩
  · intro writer hwriter
    rw [hwritten.writers] at hwriter
    obtain ⟨job, -, rfl⟩ := List.mem_map.mp hwriter
    exact writeStream_closed
  · intro hsuccess
    have hdone := hwritten.succeeds.mp hsuccess
    have hall := attemptedJobs_all hdone
    refine ⟨hwritten.clean hsuccess, by rw [hlength, hall, h.length], fun place hplace => ?_⟩
    rw [← h.length] at hplace
    have hjob := List.getElem?_eq_getElem hplace
    exact h.holds (by rwa [hall]) (hdone _ (List.getElem_mem hplace))
  · intro hfailed
    obtain ⟨herror, last, hlast, -⟩ := hwritten.fails hfailed
    have hne : attemptedJobs save.snapshot.range save.jobs ≠ [] := by
      rintro hnil
      rw [hnil] at hlast
      cases hlast
    have hpositive := List.length_pos_iff.mpr hne
    have hbound := hprefix.length_le
    rw [h.length] at hbound
    refine ⟨herror, (attemptedJobs save.snapshot.range save.jobs).length - 1, by omega,
      by omega, fun place hplace => ?_⟩
    have hbefore : place < (attemptedJobs save.snapshot.range save.jobs).length := by omega
    have hjob := List.getElem?_eq_getElem hbefore
    exact h.holds hjob (attemptedJobs_done (by omega) hjob)
  · have htake := List.prefix_iff_eq_take.mp hprefix
    have howned : (save.snapshot.packets.take save.writers.length) =
        (attemptedJobs save.snapshot.range save.jobs).map StreamJob.owned := by
      rw [hlength, ← h.map_owned, ← List.map_take, ← htake]
    rw [hwritten.bytes, howned, List.map_map, Nat.zero_add]
    rfl

theorem job_config {place : Nat} {job : StreamJob} (h : save.jobs[place]? = some job) :
    save.snapshot.streamConfigs[place]? = some job.config := by
  unfold jobs streamJobs at h
  rw [List.getElem?_map, List.getElem?_zipIdx] at h
  obtain ⟨⟨⟨owned, config, path⟩, index⟩, hzip, rfl⟩ := Option.map_eq_some_iff.mp h
  obtain ⟨pair, hpair, hsame⟩ := Option.map_eq_some_iff.mp hzip
  obtain ⟨rfl, -⟩ := Prod.mk.inj hsame
  exact (List.getElem?_zip_eq_some.mp (List.getElem?_zip_eq_some.mp hpair).2).1

/-- What a snapshot brings along for a save, whatever the libraries do. -/
structure Ready (save : ReplaySave) : Prop extends Paired save where
  streams : ∀ (place : Nat) (owned : List CapturedEncodedPacket) (config : PacketStreamConfig),
    save.snapshot.packets[place]? = some owned →
      save.snapshot.streamConfigs[place]? = some config →
        StreamReady save.snapshot.range config owned

/-- The libraries have refused no request of the save. -/
def Granted (save : ReplaySave) : Prop :=
  ∀ place writer, save.writers[place]? = some writer →
    (save.library place).Grants writer.requests

variable {rescale : Int → AVRational → AVRational → Int}

theorem Ready.job_error_iff (h : save.Ready) (hrescale : MonotoneRescale rescale)
    (hlibraries : ∀ place, (save.library place).rescale = rescale)
    (hpresentable : Presentable save.snapshot) {place : Nat} {job : StreamJob}
    (hjob : save.jobs[place]? = some job) :
    (job.written save.snapshot.range).error = none ↔
      (job.path ≠ "" ∧ job.config.extraData ≠ []) ∧
        (save.library place).Grants (job.written save.snapshot.range).writer.requests := by
  obtain ⟨hlibrary, howned, -⟩ := streamJobs_getElem? hjob
  have hmem := List.mem_of_getElem? howned
  rw [← hlibrary]
  exact writeStream_error_iff hrescale (hlibrary ▸ hlibraries place)
    (h.streams place job.owned job.config howned (job_config hjob)) (hpresentable.timebase _ hmem)
    (hpresentable.fits _ hmem)

/-- A save succeeds exactly if there is a path for every stream, every codec has told its header,
and the libraries refuse nothing. -/
theorem Ready.success_iff (h : save.Ready) (hrescale : MonotoneRescale rescale)
    (hlibraries : ∀ place, (save.library place).rescale = rescale)
    (hpresentable : Presentable save.snapshot) :
    save.result.success = true ↔
      ((∀ path ∈ save.paths, path ≠ "") ∧
        ∀ config ∈ save.snapshot.streamConfigs, config.extraData ≠ []) ∧ save.Granted := by
  have hwritten := h.toPaired.written
  have hlength := h.toPaired.length
  constructor
  · intro hsuccess
    have hdone := hwritten.succeeds.mp hsuccess
    have hjob {place : Nat} {job : StreamJob} (hat : save.jobs[place]? = some job) :=
      (h.job_error_iff hrescale hlibraries hpresentable hat).mp
        (hdone job (List.mem_of_getElem? hat))
    refine ⟨⟨fun path hpath => ?_, fun config hconfig => ?_⟩, fun place writer hwriter => ?_⟩
    · obtain ⟨place, hplace, rfl⟩ := List.getElem_of_mem hpath
      have hat := List.getElem?_eq_getElem (show place < save.jobs.length by
        rw [hlength, ← h.paths]; exact hplace)
      have hsame := (streamJobs_getElem? hat).2.2
      rw [List.getElem?_eq_getElem hplace] at hsame
      rw [Option.some.inj hsame]
      exact (hjob hat).1.1
    · obtain ⟨place, hplace, rfl⟩ := List.getElem_of_mem hconfig
      have hat := List.getElem?_eq_getElem (show place < save.jobs.length by
        rw [hlength, ← h.configs]; exact hplace)
      have hsame := job_config hat
      rw [List.getElem?_eq_getElem hplace] at hsame
      rw [Option.some.inj hsame]
      exact (hjob hat).1.2
    · rw [hwritten.writers, attemptedJobs_all hdone, List.getElem?_map] at hwriter
      obtain ⟨job, hat, rfl⟩ := Option.map_eq_some_iff.mp hwriter
      exact (hjob hat).2
  · rintro ⟨⟨hpaths, hconfigs⟩, hgranted⟩
    by_contra hfailed
    obtain ⟨-, job, hlast, herror⟩ := hwritten.fails (by simpa using hfailed)
    rw [List.getLast?_eq_getElem?] at hlast
    have hat := attemptedJobs_at hlast
    refine herror ((h.job_error_iff hrescale hlibraries hpresentable hat).mpr ⟨⟨?_, ?_⟩, ?_⟩)
    · exact hpaths _ (List.mem_of_getElem? (streamJobs_getElem? hat).2.2)
    · exact hconfigs _ (List.mem_of_getElem? (job_config hat))
    · apply hgranted
      rw [hwritten.writers, List.getElem?_map, hlast]
      rfl

end ReplaySave

end ObsSyncReplay
