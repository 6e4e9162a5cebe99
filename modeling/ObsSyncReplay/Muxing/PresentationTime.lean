import ObsSyncReplay.Muxing.MkvPacketWriter

/-!
The presentation times that a writer hands to its container. A writer subtracts an origin of
its own, taken from its first packet; where this origin is 0, the time of a frame is the
rescaled time of its packet, whatever was written before it.
-/

namespace ObsSyncReplay

def nanoseconds : AVRational := ⟨1, 1000000000⟩

def EncodedPacket.timebase (packet : EncodedPacket) : AVRational :=
  ⟨packet.timebaseNum, packet.timebaseDen⟩

/-- What is assumed of `av_rescale_q`. -/
structure MonotoneRescale (rescale : Int → AVRational → AVRational → Int) : Prop where
  monotone : ∀ source target, Monotone (fun value => rescale value source target)
  zero : ∀ source target, rescale 0 source target = 0

/-- The presentation time of the source CTS in a container: a function of the source alone. -/
def presentationTime (rescale : Int → AVRational → AVRational → Int) (startCts : Nat)
    (timebase container : AVRational) (cts : Nat) : Int :=
  rescale (rescale ((cts : Int) - startCts) nanoseconds timebase) timebase container

theorem presentationTime_start {rescale : Int → AVRational → AVRational → Int}
    (hrescale : MonotoneRescale rescale) (startCts : Nat) (timebase container : AVRational) :
    presentationTime rescale startCts timebase container startCts = 0 := by
  unfold presentationTime
  rw [sub_self, hrescale.zero, hrescale.zero]

/-- The distance of the source CTS to the start is an `int64_t`. -/
def FitsInt64 (startCts cts : Nat) : Prop :=
  -2 ^ 63 ≤ (cts : Int) - startCts ∧ (cts : Int) - startCts < 2 ^ 63

instance (startCts cts : Nat) : Decidable (FitsInt64 startCts cts) :=
  inferInstanceAs (Decidable (_ ∧ _))

theorem bmod_of_fits {startCts cts : Nat} (h : FitsInt64 startCts cts) :
    ((cts : Int) - startCts).bmod uint64Size = (cts : Int) - startCts := by
  obtain ⟨hlower, hupper⟩ := h
  apply Int.bmod_eq_of_le_mul_two <;> unfold uint64Size <;> omega

namespace MkvPacketWriter

def frameOf (request : MuxRequest) : Option MuxFrame :=
  match request with
  | .writeFrame frame => some frame
  | _ => none

/-- The frames that the writer has handed to its container. -/
def frames (writer : MkvPacketWriter) : List MuxFrame := writer.requests.filterMap frameOf

/-- The origin that `Write` subtracts from the time stamps of the packet. -/
def originFor (writer : MkvPacketWriter) (packet : EncodedPacket) : Int :=
  writer.timestampOrigin.getD (min packet.pts packet.dts)

/-- The frame of a packet for a given origin. -/
def frameAt (writer : MkvPacketWriter) (library : MuxLibrary) (packet : EncodedPacket)
    (origin : Int) : MuxFrame where
  pts := library.rescale (packet.pts - origin) packet.timebase writer.timebase
  dts := library.rescale (packet.dts - origin) packet.timebase writer.timebase
  data := packet.payload
  keyframe := packet.keyframe

def frameFor (writer : MkvPacketWriter) (library : MuxLibrary) (packet : EncodedPacket) :
    MuxFrame :=
  writer.frameAt library packet (writer.originFor packet)

theorem frameFor_pts (writer : MkvPacketWriter) (library : MuxLibrary) (packet : EncodedPacket) :
    (writer.frameFor library packet).pts =
      library.rescale (packet.pts - writer.originFor packet) packet.timebase writer.timebase :=
  rfl

theorem frameFor_dts (writer : MkvPacketWriter) (library : MuxLibrary) (packet : EncodedPacket) :
    (writer.frameFor library packet).dts =
      library.rescale (packet.dts - writer.originFor packet) packet.timebase writer.timebase :=
  rfl

/-- The writer's order check accepts the DTS. -/
def InOrder (writer : MkvPacketWriter) (dts : Int) : Prop :=
  ∀ lastDts ∈ writer.lastWrittenDts, lastDts ≤ dts

/-- The two ways for a write to fail before there is a frame, and the way to fail with it. -/
def FailsOtherwise (error : String) : Prop :=
  error = "invalid-mkv-packet" ∨ error = "mkv-packet-allocation-failed" ∨
    ∃ rest, error = "mkv-write-failed:" ++ rest

variable {writer writer' : MkvPacketWriter} {library : MuxLibrary} {packet : EncodedPacket}

@[simp] theorem frames_ask (request : MuxRequest) :
    (writer.ask library request).2.frames = writer.frames ++ (frameOf request).toList := by
  unfold frames ask
  cases h : frameOf request <;> simp [h]

@[simp] theorem frames_fail (reason : String) :
    (writer.fail reason).2.frames = writer.frames := rfl

@[simp] theorem frames_wrote (muxedDts : Int) :
    (writer.wrote packet muxedDts).frames = writer.frames := rfl

theorem error_fail (h : writer.error = "") (reason : String) :
    (writer.fail reason).2.error = reason :=
  if_pos h

/-- Neither a frame nor a time stamp has been seen between the two. -/
structure Unstamped (writer writer' : MkvPacketWriter) : Prop where
  frames : writer'.frames = writer.frames
  origin : writer'.timestampOrigin = writer.timestampOrigin
  lastDts : writer'.lastWrittenDts = writer.lastWrittenDts

theorem Unstamped.trans {middle : MkvPacketWriter} (h : Unstamped writer middle)
    (h' : Unstamped middle writer') : Unstamped writer writer' :=
  ⟨h'.frames.trans h.frames, h'.origin.trans h.origin, h'.lastDts.trans h.lastDts⟩

theorem unstamped_ask (writer : MkvPacketWriter) (library : MuxLibrary)
    (request : MuxRequest) (h : frameOf request = none) :
    Unstamped writer (writer.ask library request).2 := by
  constructor
  · rw [frames_ask, h]
    exact List.append_nil _
  · rfl
  · rfl

theorem unstamped_refuse (writer : MkvPacketWriter) (reason : String) :
    Unstamped writer (writer.refuse reason).2 := ⟨rfl, rfl, rfl⟩

theorem openFormat_unstamped (writer : MkvPacketWriter) (library : MuxLibrary)
    (config : PacketStreamConfig) : Unstamped writer (writer.openFormat library config).2 := by
  have hfile : Unstamped writer (if library.noFile then (0, writer)
      else writer.ask library (.openFile writer.path)).2 := by
    split_ifs
    · exact ⟨rfl, rfl, rfl⟩
    · exact unstamped_ask writer library (.openFile writer.path) rfl
  unfold openFormat
  generalize (if library.noFile then (0, writer)
    else writer.ask library (.openFile writer.path)) = opened at hfile
  obtain ⟨fileError, middle⟩ := opened
  have hheader := hfile.trans (unstamped_ask middle library (.writeHeader config) rfl)
  dsimp only
  split_ifs
  · exact hfile.trans (unstamped_refuse _ _)
  · exact hheader.trans (unstamped_refuse _ _)
  · exact hheader.trans ⟨rfl, rfl, rfl⟩

theorem openStream_unstamped (writer : MkvPacketWriter) (library : MuxLibrary)
    (config : PacketStreamConfig) : Unstamped writer (writer.openStream library config).2 := by
  have hstream : Unstamped writer (writer.ask library .newStream).2 :=
    unstamped_ask writer library .newStream rfl
  have htimed : Unstamped writer { (writer.ask library .newStream).2 with
      timebase := ⟨config.timebaseNum, config.timebaseDen⟩ } := hstream.trans ⟨rfl, rfl, rfl⟩
  have hextra := htimed.trans (unstamped_ask _ library
    (.allocExtraData config.extraData.length) rfl)
  unfold openStream
  dsimp only
  split_ifs
  · exact hstream.trans (unstamped_refuse _ _)
  · exact htimed.trans (unstamped_refuse _ _)
  · exact hextra.trans (unstamped_refuse _ _)
  · exact hextra.trans (openFormat_unstamped _ library config)

theorem open_unstamped (writer : MkvPacketWriter) (library : MuxLibrary) (path : String)
    (config : PacketStreamConfig) :
    Unstamped writer (MkvPacketWriter.open writer library path config).2 := by
  let named : MkvPacketWriter := { writer with error := "", path := path }
  have hnamed : Unstamped writer named := ⟨rfl, rfl, rfl⟩
  have hcontext := hnamed.trans (unstamped_ask named library (.allocContext path) rfl)
  unfold MkvPacketWriter.open
  dsimp only
  split_ifs
  · exact ⟨rfl, rfl, rfl⟩
  · exact hcontext.trans (unstamped_refuse _ _)
  · exact hcontext.trans (openStream_unstamped _ library config)

theorem finalize_frames (writer : MkvPacketWriter) (library : MuxLibrary) :
    (writer.finalize library).2.frames = writer.frames ∧
      (writer.finalize library).2.timebase = writer.timebase := by
  have hasked := (unstamped_ask writer library .writeTrailer rfl).frames
  unfold finalize
  split_ifs
  · exact ⟨rfl, rfl⟩
  · dsimp only
    split_ifs <;> exact ⟨hasked, rfl⟩

/-- What `Write` leaves of the writer. The frame is handed over if the write succeeds, and it
may be if the write fails. -/
structure Written (writer : MkvPacketWriter) (library : MuxLibrary) (packet : EncodedPacket)
    (accepted : Bool) (writer' : MkvPacketWriter) : Prop where
  timebase : writer'.timebase = writer.timebase
  frames : writer'.frames = writer.frames ++ [writer.frameFor library packet] ∨
    accepted = false ∧ writer'.frames = writer.frames
  origin : accepted = true → writer'.timestampOrigin = some (writer.originFor packet)
  lastDts : accepted = true → writer'.lastWrittenDts = some (writer.frameFor library packet).dts
  error : accepted = true → writer'.error = writer.error
  failure : accepted = false → writer.error = "" →
    writer.InOrder (writer.frameFor library packet).dts → FailsOtherwise writer'.error

theorem writeError_prefix (packet : EncodedPacket) (description : String)
    (lastDts : Option Int) :
    ∃ rest, writeError packet description lastDts = "mkv-write-failed:" ++ rest := by
  unfold writeError
  simp only [String.append_assoc]
  exact ⟨_, rfl⟩

theorem dtsOrderError_prefix (packet : EncodedPacket) (muxedDts lastDts : Int) :
    ∃ rest, dtsOrderError packet muxedDts lastDts =
      "packet-dts-order-invalid:source_cts=" ++ rest := by
  unfold dtsOrderError
  simp only [String.append_assoc]
  exact ⟨_, rfl⟩

/-- The part of `Write` that has an `AVPacket` to fill. -/
theorem writeFrame_cases (writer : MkvPacketWriter) (library : MuxLibrary)
    (packet : EncodedPacket) (origin : Int) :
    (¬writer.InOrder (writer.frameAt library packet origin).dts ∧ ∃ reason,
      writer.writeFrame library packet origin = writer.fail reason) ∨
    (∃ description, writer.writeFrame library packet origin =
      (writer.ask library (.writeFrame (writer.frameAt library packet origin))).2.fail
        ("mkv-write-failed:" ++ description)) ∨
    writer.writeFrame library packet origin =
      (true, (writer.ask library (.writeFrame (writer.frameAt library packet origin))).2.wrote
        packet (writer.frameAt library packet origin).dts) := by
  unfold writeFrame
  dsimp only
  split
  · rename_i lastDts hlast
    obtain ⟨hsome, hless⟩ := Option.filter_eq_some_iff.mp hlast
    refine Or.inl ⟨fun hordered => ?_, _, rfl⟩
    exact absurd (hordered lastDts hsome) (not_le.mpr (of_decide_eq_true hless))
  · split_ifs
    · obtain ⟨rest, hrest⟩ := writeError_prefix packet (library.describe (library.answer
        writer.requests (.writeFrame (writer.frameAt library packet origin)))) writer.lastWrittenDts
      exact Or.inr (Or.inl ⟨rest, congrArg _ hrest⟩)
    · exact Or.inr (Or.inr rfl)

theorem written_of_failure (htimebase : writer'.timebase = writer.timebase)
    (hframes : writer'.frames = writer.frames ++ [writer.frameFor library packet] ∨
      writer'.frames = writer.frames)
    (hfailure : writer.error = "" → writer.InOrder (writer.frameFor library packet).dts →
      FailsOtherwise writer'.error) :
    Written writer library packet false writer' where
  timebase := htimebase
  frames := hframes.imp_right (fun hsame => ⟨rfl, hsame⟩)
  origin haccepted := by cases haccepted
  lastDts haccepted := by cases haccepted
  error haccepted := by cases haccepted
  failure _ := hfailure

/-- `Write` takes the packet up: it does not refuse it as invalid. -/
def TakesUp (writer : MkvPacketWriter) (packet : EncodedPacket) : Prop :=
  writer.isOpen = true ∧ packet.payload ≠ [] ∧ 0 < packet.timebaseNum ∧ 0 < packet.timebaseDen

/-- The writer in `Write` once it has its origin and has asked for an `AVPacket`. -/
def stamped (writer : MkvPacketWriter) (library : MuxLibrary) (packet : EncodedPacket) :
    MkvPacketWriter :=
  ({ writer with timestampOrigin := some (writer.originFor packet) }.ask library
    (.allocPacket packet.payload.length)).2

/-- How a write ends before there is a frame, or goes on with it. -/
theorem write_cases (writer : MkvPacketWriter) (library : MuxLibrary) (packet : EncodedPacket) :
    (¬writer.TakesUp packet ∧ writer.write library packet = writer.fail "invalid-mkv-packet") ∨
    (library.answer writer.requests (.allocPacket packet.payload.length) < 0 ∧
      writer.write library packet =
        (writer.stamped library packet).fail "mkv-packet-allocation-failed") ∨
    (writer.TakesUp packet ∧
      0 ≤ library.answer writer.requests (.allocPacket packet.payload.length) ∧
      writer.write library packet =
        (writer.stamped library packet).writeFrame library packet (writer.originFor packet)) := by
  unfold write
  by_cases hinvalid : !writer.isOpen ∨ packet.payload.isEmpty ∨ packet.timebaseNum ≤ 0 ∨
      packet.timebaseDen ≤ 0
  · rw [if_pos hinvalid]
    refine Or.inl ⟨fun htakes => ?_, rfl⟩
    obtain ⟨hopen, hpayload, hnum, hden⟩ := htakes
    simp [hopen, hpayload, not_le.mpr hnum, not_le.mpr hden] at hinvalid
  · rw [if_neg hinvalid]
    have htakes : writer.TakesUp packet := by
      unfold TakesUp
      simp only [Bool.not_eq_true', List.isEmpty_iff, not_or, Bool.not_eq_false,
        not_le] at hinvalid
      exact hinvalid
    dsimp only
    split_ifs with hanswer
    · exact Or.inr (Or.inl ⟨hanswer, rfl⟩)
    · exact Or.inr (Or.inr ⟨htakes, not_lt.mp hanswer, rfl⟩)

theorem stamped_frames (writer : MkvPacketWriter) (library : MuxLibrary)
    (packet : EncodedPacket) : (writer.stamped library packet).frames = writer.frames := by
  simp only [stamped, frames_ask, frameOf, Option.toList_none, List.append_nil]
  rfl

theorem write_written (writer : MkvPacketWriter) (library : MuxLibrary)
    (packet : EncodedPacket) :
    Written writer library packet (writer.write library packet).1
      (writer.write library packet).2 := by
  have hframes := stamped_frames writer library packet
  rcases write_cases writer library packet with
    ⟨-, hwrite⟩ | ⟨-, hwrite⟩ | ⟨-, -, hwrite⟩ <;> rw [hwrite]
  · exact written_of_failure rfl (Or.inr rfl) (fun herror _ => Or.inl (error_fail herror _))
  · exact written_of_failure rfl (Or.inr hframes)
      (fun herror _ => Or.inr (Or.inl (error_fail herror _)))
  · rcases writeFrame_cases (writer.stamped library packet) library packet
        (writer.originFor packet) with
      ⟨hrefused, reason, hwrite⟩ | ⟨description, hwrite⟩ | hwrite
    · rw [hwrite]
      exact written_of_failure rfl (Or.inr hframes)
        (fun _ hordered => absurd hordered hrefused)
    · rw [hwrite]
      refine written_of_failure rfl (Or.inl ?_)
        (fun herror _ => Or.inr (Or.inr ⟨description, error_fail herror _⟩))
      simp only [frames_fail, frames_ask, hframes, frameOf, Option.toList_some]
      rfl
    · rw [hwrite]
      refine ⟨rfl, Or.inl ?_, fun _ => rfl, fun _ => rfl, fun _ => rfl, by simp⟩
      simp only [frames_wrote, frames_ask, hframes, frameOf, Option.toList_some]
      rfl

/-- The container was handed frames of some of the packets, in this order, at the times
`time`. -/
def Presents (time : EncodedPacket → AVRational → Int) (packets : List EncodedPacket)
    (writer : MkvPacketWriter) : Prop :=
  ∃ handed, handed.Sublist packets ∧ List.Forall₂
    (fun (packet : EncodedPacket) (frame : MuxFrame) =>
      frame.pts = time packet writer.timebase ∧ frame.data = packet.payload ∧
        frame.keyframe = packet.keyframe) handed writer.frames

variable {time time' : EncodedPacket → AVRational → Int} {packets : List EncodedPacket}

theorem presents_of_unwritten (h : writer.frames = []) : writer.Presents time packets := by
  refine ⟨[], List.nil_sublist _, ?_⟩
  rw [h]
  exact List.Forall₂.nil

theorem Presents.of_same (h : writer.Presents time packets)
    (hframes : writer'.frames = writer.frames) (htimebase : writer'.timebase = writer.timebase) :
    writer'.Presents time packets := by
  obtain ⟨handed, hsublist, hpresented⟩ := h
  refine ⟨handed, hsublist, ?_⟩
  rw [hframes, htimebase]
  exact hpresented

theorem Presents.write (h : writer.Presents time packets) {accepted : Bool}
    (hpts : (writer.frameFor library packet).pts = time packet writer.timebase)
    (hwritten : Written writer library packet accepted writer') :
    writer'.Presents time (packets ++ [packet]) := by
  obtain ⟨handed, hsublist, hpresented⟩ := h
  rcases hwritten.frames with hframes | ⟨-, hframes⟩
  · refine ⟨handed ++ [packet], hsublist.append_right [packet], ?_⟩
    rw [hframes, hwritten.timebase]
    exact List.rel_append hpresented (.cons ⟨hpts, rfl, rfl⟩ .nil)
  · refine ⟨handed, hsublist.trans (List.sublist_append_left _ _), ?_⟩
    rw [hframes, hwritten.timebase]
    exact hpresented

/-- What is presented depends on the packets only as far as it is seen in the frames. -/
theorem Presents.of_map {f : EncodedPacket → EncodedPacket}
    (h : writer.Presents time (packets.map f))
    (hf : ∀ packet ∈ packets, time (f packet) writer.timebase = time' packet writer.timebase ∧
      (f packet).payload = packet.payload ∧ (f packet).keyframe = packet.keyframe) :
    writer.Presents time' packets := by
  obtain ⟨handed, hsublist, hpresented⟩ := h
  obtain ⟨sources, hsources, rfl⟩ := List.sublist_map_iff.mp hsublist
  refine ⟨sources, hsources, ?_⟩
  rw [List.forall₂_map_left_iff, List.forall₂_iff_zip] at hpresented
  obtain ⟨hlength, hpresented⟩ := hpresented
  refine List.forall₂_iff_zip.mpr ⟨hlength, ?_⟩
  intro packet frame hpair
  obtain ⟨hpts, hdata, hkeyframe⟩ := hpresented hpair
  obtain ⟨htime, hpayload, hkey⟩ := hf packet (hsources.subset (List.of_mem_zip hpair).1)
  exact ⟨hpts.trans htime, hdata.trans hpayload, hkeyframe.trans hkey⟩

end MkvPacketWriter

end ObsSyncReplay
