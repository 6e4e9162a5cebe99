import ObsSyncReplay.Capture.RangeContract
import ObsSyncReplay.Recording.ConsumerPresentation
import ObsSyncReplay.Replay.SynchronizedReplayConsumer

/-!
The presentation times of a replay save. The packets of a stream are written in decode order;
the first of them has the DTS 0 and a PTS that is not negative, so the writer takes 0 for its
origin, and the DTS of the frames never go back.
-/

namespace ObsSyncReplay

open MkvPacketWriter (Presents FailsOtherwise InOrder)

variable {rescale : Int → AVRational → AVRational → Int} {library : MuxLibrary}
  {startCts : Nat} {timebase : AVRational} {packets written : List EncodedPacket}
  {writer : MkvPacketWriter}

theorem MkvPacketWriter.Presents.mono {time : EncodedPacket → AVRational → Int}
    (h : writer.Presents time written) (hsublist : written.Sublist packets) :
    writer.Presents time packets := by
  obtain ⟨handed, hhanded, hpresented⟩ := h
  exact ⟨handed, hhanded.trans hsublist, hpresented⟩

/-- The packets have one time base, are rebased to the start, and are in decode order. -/
structure Rebased (rescale : Int → AVRational → AVRational → Int) (startCts : Nat)
    (timebase : AVRational) (packets : List EncodedPacket) : Prop where
  sameTimebase : ∀ packet ∈ packets, packet.timebase = timebase
  pts : ∀ packet ∈ packets, packet.pts =
    rescale (((packet.sourceCts : Int) - startCts).bmod uint64Size) nanoseconds timebase
  ordered : packets.Pairwise (fun earlier later => earlier.dts ≤ later.dts)

theorem Rebased.tail {first : EncodedPacket} (h : Rebased rescale startCts timebase
    (first :: packets)) : Rebased rescale startCts timebase packets :=
  ⟨fun packet hpacket => h.sameTimebase packet (List.mem_cons_of_mem _ hpacket),
    fun packet hpacket => h.pts packet (List.mem_cons_of_mem _ hpacket), h.ordered.of_cons⟩

/-- The writer subtracts 0 from the packets, and has no later DTS behind it. -/
structure Aligned (rescale : Int → AVRational → AVRational → Int) (timebase : AVRational)
    (packets : List EncodedPacket) (writer : MkvPacketWriter) : Prop where
  error : writer.error = ""
  origin : ∀ first ∈ packets.head?, writer.originFor first = 0
  ordered : ∀ lastDts ∈ writer.lastWrittenDts, ∀ packet ∈ packets,
    lastDts ≤ rescale packet.dts timebase writer.timebase

/-- What is handed over is presented by its source CTS, and no write fails for its DTS. -/
theorem writePackets_outcome (hrescale : MonotoneRescale rescale)
    (hlibrary : library.rescale = rescale)
    (hrebased : Rebased rescale startCts timebase packets)
    (haligned : Aligned rescale timebase packets writer)
    (hwritten : writer.Presents (sourceTime rescale startCts) written) :
    (writePackets library packets writer).2.Presents (sourceTime rescale startCts)
        (written ++ packets) ∧
      ((writePackets library packets writer).1 = false →
        FailsOtherwise (writePackets library packets writer).2.error) := by
  induction packets generalizing writer written with
  | nil => exact ⟨by simpa [writePackets] using hwritten, fun hfailed => (by cases hfailed)⟩
  | cons packet rest ih =>
      have htimebase := hrebased.sameTimebase packet List.mem_cons_self
      have horigin := haligned.origin packet rfl
      have hwrite := writer.write_written library packet
      have hpts : (writer.frameFor library packet).pts =
          sourceTime rescale startCts packet writer.timebase := by
        unfold sourceTime
        rw [MkvPacketWriter.frameFor_pts, horigin, sub_zero, hlibrary, htimebase,
          hrebased.pts packet List.mem_cons_self]
      have hdts : (writer.frameFor library packet).dts =
          rescale packet.dts timebase writer.timebase := by
        rw [MkvPacketWriter.frameFor_dts, horigin, sub_zero, hlibrary, htimebase]
      have hpresents := hwritten.write hpts hwrite
      have hsplit : written ++ packet :: rest = (written ++ [packet]) ++ rest := by simp
      rw [hsplit]
      unfold writePackets
      split <;> rename_i after hafter <;> rw [hafter] at hwrite hpresents
      · refine ⟨hpresents.mono (List.sublist_append_left _ _), fun _ => ?_⟩
        apply hwrite.failure rfl haligned.error
        intro lastDts hlast
        rw [hdts]
        exact haligned.ordered lastDts hlast packet List.mem_cons_self
      · apply ih hrebased.tail _ hpresents
        refine ⟨(hwrite.error rfl).trans haligned.error, fun first _ => ?_, ?_⟩
        · unfold MkvPacketWriter.originFor
          rw [hwrite.origin rfl, Option.getD_some, horigin]
        · intro lastDts hlast later hlater
          rw [hwrite.lastDts rfl] at hlast
          obtain rfl := Option.some.inj hlast
          rw [hdts, hwrite.timebase]
          apply hrescale.monotone
          exact (List.pairwise_cons.mp hrebased.ordered).1 later hlater

/-- The packets of a stream share a time base whose parts are positive. -/
def OneTimebase (owned : List CapturedEncodedPacket) : Prop :=
  ∃ timebase : AVRational, 0 < timebase.num ∧ 0 < timebase.den ∧
    ∀ captured ∈ owned, captured.packet.timebase = timebase

/-- The packets of a stream in the order in which they are written. -/
def inDecodeOrder (owned : List CapturedEncodedPacket) : List EncodedPacket :=
  sortForDecodeOrder (owned.map CapturedEncodedPacket.packet)

theorem mem_inDecodeOrder {owned : List CapturedEncodedPacket} {packet : EncodedPacket} :
    packet ∈ inDecodeOrder owned ↔ ∃ captured ∈ owned, captured.packet = packet := by
  rw [inDecodeOrder, mem_sortForDecodeOrder, List.mem_map]

theorem muxPackets_eq {owned : List CapturedEncodedPacket} {range : ReplayFrameRange}
    {front : EncodedPacket} {rest : List EncodedPacket}
    (hsorted : inDecodeOrder owned = front :: rest)
    (hpositive : 0 < front.timebaseNum ∧ 0 < front.timebaseDen) :
    muxPackets library owned range =
      (inDecodeOrder owned).map (rebase library range front.timebase front.dts) := by
  have hhead : (sortForDecodeOrder (owned.map CapturedEncodedPacket.packet)).head? =
      some front := by
    rw [← inDecodeOrder, hsorted, List.head?_cons]
  unfold muxPackets
  simp only [hhead]
  rw [if_neg (by omega)]
  rfl

/-- The packets of a stream, rebased, meet what the writes need. -/
theorem muxPackets_rebased {owned : List CapturedEncodedPacket} {range : ReplayFrameRange}
    {front : EncodedPacket} (hlibrary : library.rescale = rescale)
    (htimebase : ∀ packet ∈ inDecodeOrder owned, packet.timebase = front.timebase) :
    Rebased rescale range.startCts front.timebase
      ((inDecodeOrder owned).map (rebase library range front.timebase front.dts)) := by
  refine ⟨?_, ?_, ?_⟩
  · intro rebased hrebased
    obtain ⟨packet, hpacket, rfl⟩ := List.mem_map.mp hrebased
    exact htimebase packet hpacket
  · intro rebased hrebased
    obtain ⟨packet, hpacket, rfl⟩ := List.mem_map.mp hrebased
    simp only [rebase, hlibrary]
    rfl
  · apply List.pairwise_map.mpr
    apply (sortForDecodeOrder_sorted _).imp
    intro earlier later hbefore
    exact sub_le_sub_right (dts_le_of_not_decodesBefore hbefore) _

/-- Two texts that differ in their first letters differ whatever follows. -/
theorem append_ne_of_take {first second : String} {count : Nat}
    (hfirst : count ≤ first.toList.length) (hsecond : count ≤ second.toList.length)
    (h : first.toList.take count ≠ second.toList.take count) (rest rest' : String) :
    first ++ rest ≠ second ++ rest' := by
  intro hsame
  have htake := congrArg (fun text => text.toList.take count) hsame
  rw [String.toList_append, String.toList_append, List.take_append_of_le_length hfirst,
    List.take_append_of_le_length hsecond] at htake
  exact h htake

theorem ne_dtsOrderError {error : String} (h : FailsOtherwise error) (packet : EncodedPacket)
    (muxedDts lastDts : Int) : error ≠ MkvPacketWriter.dtsOrderError packet muxedDts lastDts := by
  obtain ⟨rest, hrest⟩ := MkvPacketWriter.dtsOrderError_prefix packet muxedDts lastDts
  rw [hrest]
  have hdiffers (text : String) (other : String) (hone : 1 ≤ text.toList.length)
      (hfirst : text.toList.take 1 ≠ "packet-dts-order-invalid:source_cts=".toList.take 1) :
      text ++ other ≠ "packet-dts-order-invalid:source_cts=" ++ rest :=
    append_ne_of_take hone (by decide) hfirst other rest
  rcases h with rfl | rfl | ⟨other, rfl⟩
  · exact hdiffers "invalid-mkv-packet" "" (by decide) (by decide)
  · exact hdiffers "mkv-packet-allocation-failed" "" (by decide) (by decide)
  · exact hdiffers "mkv-write-failed:" other (by decide) (by decide)

/-- The packets of a stream as they are given to a writer that has just been opened. -/
theorem muxPackets_aligned {owned : List CapturedEncodedPacket} {range : ReplayFrameRange}
    (hrescale : MonotoneRescale rescale) (hlibrary : library.rescale = rescale)
    (htimebase : OneTimebase owned)
    (hrange : ∀ captured ∈ owned, range.startCts ≤ captured.packet.sourceCts ∧
      FitsInt64 range.startCts captured.packet.sourceCts)
    (hne : owned ≠ []) (herror : writer.error = "") (horigin : writer.timestampOrigin = none)
    (hlast : writer.lastWrittenDts = none) :
    ∃ front : EncodedPacket, muxPackets library owned range =
        (inDecodeOrder owned).map (rebase library range front.timebase front.dts) ∧
      Rebased rescale range.startCts front.timebase (muxPackets library owned range) ∧
      Aligned rescale front.timebase (muxPackets library owned range) writer := by
  obtain ⟨timebase, hnum, hden, hsame⟩ := htimebase
  have hpackets : ∀ packet ∈ inDecodeOrder owned, packet.timebase = timebase := by
    intro packet hpacket
    obtain ⟨captured, hcaptured, rfl⟩ := mem_inDecodeOrder.mp hpacket
    exact hsame captured hcaptured
  cases hsorted : inDecodeOrder owned with
  | nil =>
      obtain ⟨captured, hcaptured⟩ := List.exists_mem_of_ne_nil owned hne
      have hmem := mem_inDecodeOrder.mpr ⟨captured, hcaptured, rfl⟩
      rw [hsorted] at hmem
      cases hmem
  | cons front rest =>
      have hfront : front ∈ inDecodeOrder owned := by simp [hsorted]
      obtain rfl := hpackets front hfront
      have hmux : muxPackets library owned range =
          (inDecodeOrder owned).map (rebase library range front.timebase front.dts) :=
        muxPackets_eq hsorted ⟨hnum, hden⟩
      have hrebased : Rebased rescale range.startCts front.timebase
          ((inDecodeOrder owned).map (rebase library range front.timebase front.dts)) :=
        muxPackets_rebased hlibrary hpackets
      rw [← hsorted]
      refine ⟨front, hmux, by rw [hmux]; exact hrebased, herror, ?_, by simp [hlast]⟩
      intro first hfirst
      rw [hmux, hsorted] at hfirst
      obtain rfl := Option.some.inj hfirst
      obtain ⟨captured, hcaptured, rfl⟩ := mem_inDecodeOrder.mp hfront
      obtain ⟨hstart, hfits⟩ := hrange captured hcaptured
      have hpts : 0 ≤ rescale ((captured.packet.sourceCts : Int) - range.startCts) nanoseconds
          captured.packet.timebase := by
        rw [← hrescale.zero nanoseconds captured.packet.timebase]
        apply hrescale.monotone
        omega
      unfold MkvPacketWriter.originFor
      rw [horigin, Option.getD_none]
      simp only [rebase, hlibrary, sub_self, bmod_of_fits hfits]
      exact min_eq_right hpts

/-- The frames of a stream are presented by their source CTS, and no packet is refused for its
DTS. -/
theorem writeStream_outcome {owned : List CapturedEncodedPacket} {range : ReplayFrameRange}
    {path : String} {config : PacketStreamConfig} (hrescale : MonotoneRescale rescale)
    (hlibrary : library.rescale = rescale) (htimebase : OneTimebase owned)
    (hrange : ∀ captured ∈ owned, range.startCts ≤ captured.packet.sourceCts ∧
      FitsInt64 range.startCts captured.packet.sourceCts) :
    (writeStream library range path config owned).writer.Presents
        (sourceTime rescale range.startCts) (inDecodeOrder owned) ∧
      ∀ packet muxedDts lastDts, (writeStream library range path config owned).error ≠
        some ("stream-write-failed:" ++
          MkvPacketWriter.dtsOrderError packet muxedDts lastDts) := by
  have hother (text other : String) (hlength : 8 ≤ text.toList.length)
      (htext : text.toList.take 8 ≠ "stream-write-failed:".toList.take 8)
      (packet : EncodedPacket) (muxedDts lastDts : Int) :
      some (text ++ other) ≠ some ("stream-write-failed:" ++
        MkvPacketWriter.dtsOrderError packet muxedDts lastDts) := fun hsame =>
    append_ne_of_take hlength (by decide) htext _ _ (Option.some.inj hsame)
  have hopened := MkvPacketWriter.open_unstamped {} library path config
  unfold writeStream
  rcases hopen : MkvPacketWriter.open {} library path config with ⟨_ | _, writer⟩ <;>
    rw [hopen] at hopened
  · exact ⟨MkvPacketWriter.presents_of_unwritten hopened.frames,
      hother "stream-open-failed:" _ (by decide) (by decide)⟩
  · dsimp only
    split_ifs with hempty
    · exact ⟨MkvPacketWriter.presents_of_unwritten hopened.frames,
        hother "empty-snapshot-stream" "" (by decide) (by decide)⟩
    · have hne : owned ≠ [] := by
        rintro rfl
        exact hempty rfl
      obtain ⟨hready, -⟩ := MkvPacketWriter.open_true hopen
      obtain ⟨front, hmux, hrebased, haligned⟩ := muxPackets_aligned hrescale hlibrary htimebase
        hrange hne hready.error hopened.origin hopened.lastDts
      have hnothing : writer.Presents (sourceTime rescale range.startCts) [] :=
        MkvPacketWriter.presents_of_unwritten hopened.frames
      obtain ⟨hpresents, hfailure⟩ :=
        writePackets_outcome hrescale hlibrary hrebased haligned hnothing
      rw [List.nil_append] at hpresents
      have hsource : (writePackets library (muxPackets library owned range) writer).2.Presents
          (sourceTime rescale range.startCts) (inDecodeOrder owned) := by
        apply Presents.of_map (f := rebase library range front.timebase front.dts)
        · rwa [← hmux]
        · exact fun packet _ => ⟨rfl, rfl, rfl⟩
      split <;> rename_i after hafter <;> rw [hafter] at hsource hfailure
      · refine ⟨hsource.of_same rfl rfl, fun packet muxedDts lastDts hsame => ?_⟩
        apply ne_dtsOrderError (hfailure rfl) packet muxedDts lastDts
        exact String.append_right_inj _ |>.mp (Option.some.inj hsame)
      · obtain ⟨hframes, hcontainer⟩ := after.finalize_frames library
        split_ifs
        · exact ⟨hsource.of_same hframes hcontainer,
            hother "stream-range-mismatch:" _ (by decide) (by decide)⟩
        · exact ⟨hsource.of_same hframes hcontainer, by simp⟩

theorem writer_of_writeStreams {jobs : List StreamJob} {index place : Nat}
    {result : ReplaySaveResult}
    (h : (writeStreams jobs index result).2[place]? = some writer) :
    ∃ job, jobs[place]? = some job ∧
      writer = (writeStream job.library result.range job.path job.config job.owned).writer := by
  induction jobs generalizing index place result with
  | nil => simp [writeStreams] at h
  | cons job jobs ih =>
      unfold writeStreams at h
      dsimp only at h
      cases place with
      | zero =>
          refine ⟨job, rfl, ?_⟩
          split at h <;> simpa using h.symm
      | succ place =>
          split at h
          · simp at h
          · rw [List.getElem?_cons_succ] at h
            obtain ⟨later, hlater, hwriter⟩ := ih h
            exact ⟨later, hlater, hwriter⟩

theorem error_of_writeStreams (jobs : List StreamJob) (index : Nat) (result : ReplaySaveResult) :
    (writeStreams jobs index result).1.error = result.error ∨
      ∃ job ∈ jobs, (writeStream job.library result.range job.path job.config job.owned).error =
        some (writeStreams jobs index result).1.error := by
  induction jobs generalizing index result with
  | nil => exact Or.inl rfl
  | cons job jobs ih =>
      unfold writeStreams
      dsimp only
      split
      · rename_i error herror
        exact Or.inr ⟨job, List.mem_cons_self, herror⟩
      · apply (ih (index + 1) _).imp_right
        rintro ⟨failing, hmem, hfailing⟩
        exact ⟨failing, List.mem_cons_of_mem _ hmem, hfailing⟩

theorem streamJobs_getElem? {libraries : Nat → MuxLibrary} {snapshot : ReplaySnapshot}
    {paths : List String} {place : Nat} {job : StreamJob}
    (h : (streamJobs libraries snapshot paths)[place]? = some job) :
    job.library = libraries place ∧ snapshot.packets[place]? = some job.owned ∧
      paths[place]? = some job.path := by
  unfold streamJobs at h
  rw [List.getElem?_map, List.getElem?_zipIdx] at h
  obtain ⟨⟨⟨owned, config, path⟩, index⟩, hzip, rfl⟩ := Option.map_eq_some_iff.mp h
  obtain ⟨⟨owned', config', path'⟩, hpair, hsame⟩ := Option.map_eq_some_iff.mp hzip
  obtain ⟨hpair', rfl⟩ := Prod.mk.inj hsame
  obtain ⟨rfl, hsame'⟩ := Prod.mk.inj hpair'
  obtain ⟨rfl, rfl⟩ := Prod.mk.inj hsame'
  obtain ⟨howned, hfile⟩ := List.getElem?_zip_eq_some.mp hpair
  exact ⟨by simp, howned, (List.getElem?_zip_eq_some.mp hfile).2⟩

/-- The time of a packet, from its source CTS and its time base. -/
def packetTime (rescale : Int → AVRational → AVRational → Int) (startCts : Nat)
    (packet : EncodedPacket) (container : AVRational) : Int :=
  presentationTime rescale startCts packet.timebase container packet.sourceCts

theorem MkvPacketWriter.Presents.of_fits
    (h : writer.Presents (sourceTime rescale startCts) packets)
    (hfits : ∀ packet ∈ packets, FitsInt64 startCts packet.sourceCts) :
    writer.Presents (packetTime rescale startCts) packets := by
  apply Presents.of_map (f := id)
  · rwa [List.map_id]
  · exact fun packet hpacket => ⟨sourceTime_of_fits (hfits packet hpacket) _, rfl, rfl⟩

/-- What a save needs of the streams of its snapshot. -/
structure Presentable (snapshot : ReplaySnapshot) : Prop where
  timebase : ∀ owned ∈ snapshot.packets, OneTimebase owned
  fits : ∀ owned ∈ snapshot.packets, ∀ captured ∈ owned,
    FitsInt64 snapshot.range.startCts captured.packet.sourceCts

/-- A snapshot holds nothing from before its start. -/
theorem SynchronizedCaptureSession.Reachable.snapshot_start_le
    {session : SynchronizedCaptureSession} {streamIds : List CaptureStreamId} {durationNs : Nat}
    {snapshot : ReplaySnapshot} (hreachable : session.Reachable)
    (hsnapshot : (session.snapshotCommonRangeDetailed streamIds durationNs).snapshot =
      some snapshot) {owned : List CapturedEncodedPacket} (howned : owned ∈ snapshot.packets)
    {captured : CapturedEncodedPacket} (hcaptured : captured ∈ owned) :
    snapshot.range.startCts ≤ captured.packet.sourceCts := by
  obtain ⟨start, endCts, -, -, rfl⟩ :=
    (SynchronizedCaptureSession.snapshot_eq_some_iff hreachable.keyed).mp hsnapshot
  rw [SynchronizedCaptureSession.packets_snapshotRange] at howned
  obtain ⟨streamId, -, rfl⟩ := List.mem_map.mp howned
  have hcts := List.mem_map_of_mem
    (f := fun captured : CapturedEncodedPacket => captured.packet.sourceCts) hcaptured
  rw [hreachable.keyed.map_copied] at hcts
  exact (SynchronizedCaptureSession.mem_copiedCts.mp hcts).2.1

theorem ReplaySnapshot.writeSnapshot_presents {libraries : Nat → MuxLibrary}
    {snapshot : ReplaySnapshot} {paths : List String} (hrescale : MonotoneRescale rescale)
    (hlibraries : ∀ index, (libraries index).rescale = rescale) (h : Presentable snapshot)
    (hstart : ∀ owned ∈ snapshot.packets, ∀ captured ∈ owned,
      snapshot.range.startCts ≤ captured.packet.sourceCts) :
    (∀ (place : Nat) (writer : MkvPacketWriter),
      (writeSnapshot libraries snapshot paths).2[place]? = some writer →
      ∃ owned, snapshot.packets[place]? = some owned ∧
        writer.Presents (packetTime rescale snapshot.range.startCts) (inDecodeOrder owned)) ∧
    ∀ packet muxedDts lastDts, (writeSnapshot libraries snapshot paths).1.error ≠
      "stream-write-failed:" ++ MkvPacketWriter.dtsOrderError packet muxedDts lastDts := by
  have hjob {place : Nat} {job : StreamJob}
      (hjob : (streamJobs libraries snapshot paths)[place]? = some job) :
      snapshot.packets[place]? = some job.owned ∧ (writeStream job.library snapshot.range
          job.path job.config job.owned).writer.Presents
        (sourceTime rescale snapshot.range.startCts) (inDecodeOrder job.owned) ∧
      ∀ packet muxedDts lastDts, (writeStream job.library snapshot.range job.path job.config
        job.owned).error ≠ some ("stream-write-failed:" ++
          MkvPacketWriter.dtsOrderError packet muxedDts lastDts) := by
    obtain ⟨hlibrary, howned, -⟩ := streamJobs_getElem? hjob
    have hmem := List.mem_of_getElem? howned
    refine ⟨howned, writeStream_outcome hrescale ?_ (h.timebase _ hmem) ?_⟩
    · rw [hlibrary, hlibraries]
    · exact fun captured hcaptured =>
        ⟨hstart _ hmem captured hcaptured, h.fits _ hmem captured hcaptured⟩
  have hdiffers (error : String) (packet : EncodedPacket) (muxedDts lastDts : Int)
      (hfirst : error.toList.take 8 ≠ "stream-write-failed:".toList.take 8)
      (hlength : 8 ≤ error.toList.length) : error ≠
        "stream-write-failed:" ++ MkvPacketWriter.dtsOrderError packet muxedDts lastDts := by
    have happend := append_ne_of_take hlength (by decide) hfirst ""
      (MkvPacketWriter.dtsOrderError packet muxedDts lastDts)
    rwa [String.append_empty] at happend
  unfold writeSnapshot
  dsimp only
  split_ifs with hcount
  · exact ⟨fun place writer hwriter => (by simp at hwriter),
      fun packet muxedDts lastDts => hdiffers "snapshot-stream-count-mismatch" _ _ _ (by decide)
        (by decide)⟩
  · refine ⟨fun place writer hwriter => ?_, fun packet muxedDts lastDts => ?_⟩
    · obtain ⟨job, hplace, rfl⟩ := writer_of_writeStreams hwriter
      obtain ⟨howned, hpresents, -⟩ := hjob hplace
      refine ⟨job.owned, howned, hpresents.of_fits fun packet hpacket => ?_⟩
      obtain ⟨captured, hcaptured, rfl⟩ := mem_inDecodeOrder.mp hpacket
      exact h.fits _ (List.mem_of_getElem? howned) captured hcaptured
    · rcases error_of_writeStreams (streamJobs libraries snapshot paths) 0
        { range := snapshot.range, paths := paths
          streams := List.replicate snapshot.packets.length {} } with
        hinitial | ⟨job, hmem, hfailed⟩
      · intro hsame
        have hempty : "" = "stream-write-failed:" ++
            MkvPacketWriter.dtsOrderError packet muxedDts lastDts := hinitial.symm.trans hsame
        have hlabel : "stream-write-failed:".length = 20 := by decide
        have hlength := congrArg String.length hempty
        rw [String.length_append, String.length_empty] at hlength
        omega
      · obtain ⟨place, hplace⟩ := List.getElem?_of_mem hmem
        intro hsame
        apply (hjob hplace).2.2 packet muxedDts lastDts
        rw [hfailed, hsame]

/-- Every packet that reaches a container, from a replay save or from a live recording, is
presented at a time that its source CTS determines; the start is presented at 0, and a save
has no packet refused for its DTS. -/
theorem presentation_by_source {libraries : Nat → MuxLibrary} (hrescale : MonotoneRescale rescale)
    (hlibraries : ∀ index, (libraries index).rescale = rescale) :
    (∀ (session : SynchronizedCaptureSession), session.Reachable →
      ∀ (streamIds : List CaptureStreamId) (durationNs : Nat) (snapshot : ReplaySnapshot)
        (paths : List String),
      (session.snapshotCommonRangeDetailed streamIds durationNs).snapshot = some snapshot →
      Presentable snapshot →
      (∀ (place : Nat) (writer : MkvPacketWriter),
        (writeSnapshot libraries snapshot paths).2[place]? = some writer →
        ∃ owned, snapshot.packets[place]? = some owned ∧
          writer.Presents (packetTime rescale snapshot.range.startCts) (inDecodeOrder owned)) ∧
      ∀ packet muxedDts lastDts, (writeSnapshot libraries snapshot paths).1.error ≠
        "stream-write-failed:" ++ MkvPacketWriter.dtsOrderError packet muxedDts lastDts) ∧
    (∀ (streamConfigs : List PacketStreamConfig) (paths : List String)
        (streamIds : List CaptureStreamId) (first : SynchronizedRecordingConsumer),
      SynchronizedRecordingConsumer.start streamConfigs paths streamIds libraries = some first →
      ∀ past consumer, Runs.Run SynchronizedRecordingConsumer.step first past consumer →
      ∀ lane ∈ consumer.lanes,
      (∀ packet ∈ lane.outputs, FitsInt64 consumer.range.startCts packet.sourceCts) →
      ∀ writer ∈ lane.writer,
        writer.Presents (packetTime rescale consumer.range.startCts) lane.outputs) ∧
    ∀ (startCts : Nat) (timebase container : AVRational),
      presentationTime rescale startCts timebase container startCts = 0 := by
  refine ⟨?_, ?_, presentationTime_start hrescale⟩
  · intro session hreachable streamIds durationNs snapshot paths hsnapshot hpresentable
    apply ReplaySnapshot.writeSnapshot_presents hrescale hlibraries hpresentable
    intro owned howned captured hcaptured
    exact hreachable.snapshot_start_le hsnapshot howned hcaptured
  · intro streamConfigs paths streamIds first hstart past consumer hrun lane hlane hfits writer
      hwriter
    have hpresent := SynchronizedRecordingConsumer.presents_run hrescale hlibraries hstart hrun
    exact ((hpresent lane hlane).frames writer hwriter).of_fits hfits

/-- Rounds to the nearest value, halves upwards. -/
def roundedRescale (value : Int) (source target : AVRational) : Int :=
  (value * (source.num * target.den).natAbs + (target.num * source.den).natAbs / 2) /
    (target.num * source.den).natAbs

theorem roundedRescale_monotone : MonotoneRescale roundedRescale where
  monotone source target := by
    intro value value' hle
    rcases Nat.eq_zero_or_pos (target.num * source.den).natAbs with hzero | hpositive
    · simp [roundedRescale, hzero]
    · apply Int.ediv_le_ediv (by omega)
      apply Int.add_le_add_right
      exact Int.mul_le_mul_of_nonneg_right hle (Int.natCast_nonneg _)
  zero source target := by
    rcases Nat.eq_zero_or_pos (target.num * source.den).natAbs with hzero | hpositive
    · simp [roundedRescale, hzero]
    · unfold roundedRescale
      rw [Int.zero_mul, Int.zero_add]
      apply Int.ediv_eq_zero_of_lt <;> omega

/-- A container that counts in milliseconds, and accepts every request. -/
def millisecondLibrary : MuxLibrary where
  rescale := roundedRescale
  answer := fun _ _ => 0
  describe := fun _ => ""
  streamTimebase := fun _ => ⟨1, 1000⟩

/-- A frame of 60 in a second, whose own time stamps count from elsewhere. -/
def sixtiethPacket (frame : Fin 8) (dts : Int) : EncodedPacket where
  sourceCts := 1000000000 + frame * 16666667
  pts := 700 + frame
  dts := dts
  timebaseNum := 1
  timebaseDen := 60
  keyframe := frame = 0
  payload := [0]
  sourceCts_lt := by
    unfold uint64Size
    omega

/-- One stream whose second frame is decoded after the third. -/
def reorderedSession : SynchronizedCaptureSession :=
  Runs.exec SynchronizedCaptureSession.step (SynchronizedCaptureSession.create 1024)
    [.registerStream 0 "master" SynchronizedRecordingConsumer.recordingConfig, .start,
      .ingest 0 (sixtiethPacket 0 58) [], .ingest 0 (sixtiethPacket 1 60) [],
      .ingest 0 (sixtiethPacket 2 59) []]

def reorderedSnapshot : ReplaySnapshot :=
  SynchronizedCaptureSession.snapshotRange reorderedSession.streams [0] ⟨1000000000, 1033333334⟩

def sixtiethConsumer : SynchronizedRecordingConsumer where
  lanes := SynchronizedRecordingConsumer.makeLanes
    [SynchronizedRecordingConsumer.recordingConfig] ["video"] [0] (fun _ => millisecondLibrary)

def sixtiethEvents : List SynchronizedRecordingConsumer.Event :=
  SynchronizedRecordingConsumer.recordingEvents
    [{ packet := sixtiethPacket 0 58 }, { packet := sixtiethPacket 1 59 },
      { packet := sixtiethPacket 2 60 }]

theorem presentation_by_source_sixtieths :
    (∃ writer, (writeSnapshot (fun _ => millisecondLibrary) reorderedSnapshot ["video"]).2[0]? =
        some writer ∧ writer.frames.map MuxFrame.pts = [0, 33, 17] ∧
      writer.Presents (packetTime roundedRescale 1000000000)
        [sixtiethPacket 0 58, sixtiethPacket 2 59, sixtiethPacket 1 60]) ∧
    ∃ lane writer, lane ∈ (Runs.exec SynchronizedRecordingConsumer.step sixtiethConsumer
        sixtiethEvents).lanes ∧ lane.writer = some writer ∧
      writer.frames.map MuxFrame.pts = [0, 17, 33] ∧
      writer.Presents (packetTime roundedRescale 1000000000) lane.outputs := by
  have hlibraries : ∀ index, ((fun _ : Nat => millisecondLibrary) index).rescale =
      roundedRescale := fun _ => rfl
  obtain ⟨hsaves, hlive, -⟩ := presentation_by_source roundedRescale_monotone hlibraries
  constructor
  · have hpackets : reorderedSnapshot.packets = [[{ packet := sixtiethPacket 0 58 },
        { packet := sixtiethPacket 1 60 }, { packet := sixtiethPacket 2 59 }]] := by
      decide
    have hpresentable : Presentable reorderedSnapshot := by
      constructor <;> intro owned howned <;> rw [hpackets, List.mem_singleton] at howned <;>
        subst howned
      · exact ⟨⟨1, 60⟩, by decide, by decide, by decide⟩
      · decide
    obtain ⟨hpresents, -⟩ := hsaves reorderedSession ⟨1024, _, Runs.run_exec _ _⟩ [0] 1000
      reorderedSnapshot ["video"] (by decide) hpresentable
    have hframes : (writeSnapshot (fun _ => millisecondLibrary) reorderedSnapshot
        ["video"]).2[0]?.map (fun writer => writer.frames.map MuxFrame.pts) =
        some [0, 33, 17] := by
      decide
    obtain ⟨writer, hwriter, hpts⟩ := Option.map_eq_some_iff.mp hframes
    obtain ⟨owned, howned, hpresented⟩ := hpresents 0 writer hwriter
    rw [hpackets] at howned
    obtain rfl := Option.some.inj howned
    have hsorted : inDecodeOrder [{ packet := sixtiethPacket 0 58 },
        { packet := sixtiethPacket 1 60 }, { packet := sixtiethPacket 2 59 }] =
        [sixtiethPacket 0 58, sixtiethPacket 2 59, sixtiethPacket 1 60] := by
      decide
    rw [hsorted] at hpresented
    exact ⟨writer, hwriter, hpts, hpresented⟩
  · have hfinal : (Runs.exec SynchronizedRecordingConsumer.step sixtiethConsumer
        sixtiethEvents).lanes.head?.map (fun lane => (lane.outputs.map EncodedPacket.sourceCts,
          lane.writer.map (fun writer => writer.frames.map MuxFrame.pts))) =
        some ([1000000000, 1016666667, 1033333334], some [0, 17, 33]) := by
      decide
    obtain ⟨lane, hlane, hsame⟩ := Option.map_eq_some_iff.mp hfinal
    obtain ⟨houtputs, hwritten⟩ := Prod.mk.inj hsame
    obtain ⟨writer, hwriter, hpts⟩ := Option.map_eq_some_iff.mp hwritten
    have hmem := List.mem_of_head? hlane
    refine ⟨lane, writer, hmem, hwriter, hpts, ?_⟩
    apply hlive [SynchronizedRecordingConsumer.recordingConfig] ["video"] [0] sixtiethConsumer rfl
      _ _ (Runs.run_exec _ _) lane hmem _ writer hwriter
    intro packet hpacket
    have hcts := List.mem_map_of_mem (f := EncodedPacket.sourceCts) hpacket
    rw [houtputs] at hcts
    have hstart : (Runs.exec SynchronizedRecordingConsumer.step sixtiethConsumer
        sixtiethEvents).range.startCts = 1000000000 := by
      decide
    rw [hstart]
    have hfits : ∀ cts ∈ [1000000000, 1016666667, 1033333334], FitsInt64 1000000000 cts := by
      decide
    exact hfits _ hcts

end ObsSyncReplay
