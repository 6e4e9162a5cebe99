import ObsSyncReplay.Recording.PacketSink

/-!
`muxing/mkv-packet-writer`: the packet-only writer of one Matroska file. The
muxing library below it is a parameter: it rescales time stamps, and its answer
to a request may depend on every request that this writer made before, so any
pattern of successes and failures is the behaviour of some library. Wall-clock
times are left out.
-/

namespace ObsSyncReplay

structure AVRational where
  num : Int
  den : Int
deriving DecidableEq

/-- What a writer hands to the library as an `AVPacket`. -/
structure MuxFrame where
  pts : Int
  dts : Int
  data : List UInt8
  keyframe : Bool
deriving DecidableEq

/-- The library calls that can fail. -/
inductive MuxRequest where
  | allocContext (path : String)
  | newStream
  | allocExtraData (size : Nat)
  | openFile (path : String)
  | writeHeader (config : PacketStreamConfig)
  | allocPacket (size : Nat)
  | writeFrame (frame : MuxFrame)
  | writeTrailer
deriving DecidableEq

/-- The muxing library as one writer sees it. A negative answer is an error
code, or stands for a null pointer. `streamTimebase` is the time base that a
stream has once the header is written, which may differ from the requested one. -/
structure MuxLibrary where
  rescale : Int → AVRational → AVRational → Int
  answer : List MuxRequest → MuxRequest → Int
  describe : Int → String
  noFile : Bool := false
  streamTimebase : AVRational → AVRational := id

structure MkvWriteResult where
  success : Bool := false
  firstSourceCts : Nat := 0
  lastSourceCts : Nat := 0
  packetCount : Nat := 0
  bytes : Nat := 0
  error : String := ""
deriving DecidableEq

/-- `isOpen` says that `format_` is set; the two origins with their flags are
optional values. -/
structure MkvPacketWriter where
  path : String := ""
  isOpen : Bool := false
  timebase : AVRational := ⟨0, 0⟩
  timestampOrigin : Option Int := none
  lastWrittenDts : Option Int := none
  hasPacket : Bool := false
  firstSourceCts : Nat := 0
  lastSourceCts : Nat := 0
  packetCount : Nat := 0
  bytes : Nat := 0
  error : String := ""
  requests : List MuxRequest := []

/-- An error text with a reason in front is not empty. -/
theorem append_ne_empty {text : String} (h : text ≠ "") (rest : String) : text ++ rest ≠ "" :=
  fun hempty => h (String.append_eq_empty_iff.mp hempty).1

namespace MkvPacketWriter

def ask (writer : MkvPacketWriter) (library : MuxLibrary) (request : MuxRequest) :
    Int × MkvPacketWriter :=
  (library.answer writer.requests request,
    { writer with requests := writer.requests ++ [request] })

/-- Sets the error and releases the format. -/
def refuse (writer : MkvPacketWriter) (reason : String) : Bool × MkvPacketWriter :=
  (false, { writer with error := reason, isOpen := false })

/-- Keeps the first error. -/
def fail (writer : MkvPacketWriter) (reason : String) : Bool × MkvPacketWriter :=
  (false, { writer with error := if writer.error = "" then reason else writer.error })

/-- The last two steps of `Open`: the file and the header. -/
def openFormat (writer : MkvPacketWriter) (library : MuxLibrary) (config : PacketStreamConfig) :
    Bool × MkvPacketWriter :=
  let (fileError, writer) :=
    if library.noFile then (0, writer) else writer.ask library (.openFile writer.path)
  if fileError < 0 then writer.refuse ("mkv-open-failed:" ++ library.describe fileError)
  else
    let (headerError, writer) := writer.ask library (.writeHeader config)
    if headerError < 0 then writer.refuse ("mkv-header-failed:" ++ library.describe headerError)
    else
      (true, { writer with
        isOpen := true, timebase := library.streamTimebase writer.timebase })

/-- The steps of `Open` after the context is allocated, up to the file. -/
def openStream (writer : MkvPacketWriter) (library : MuxLibrary) (config : PacketStreamConfig) :
    Bool × MkvPacketWriter :=
  let (stream, writer) := writer.ask library .newStream
  if stream < 0 then writer.refuse "mkv-stream-failed"
  else
    let writer := { writer with timebase := ⟨config.timebaseNum, config.timebaseDen⟩ }
    if config.timebaseNum ≤ 0 ∨ config.timebaseDen ≤ 0 then writer.refuse "invalid-mkv-timebase"
    else
      let (extraData, writer) := writer.ask library (.allocExtraData config.extraData.length)
      if extraData < 0 then writer.refuse "mkv-extradata-allocation-failed"
      else writer.openFormat library config

end MkvPacketWriter

def MkvPacketWriter.open (writer : MkvPacketWriter) (library : MuxLibrary) (path : String)
    (config : PacketStreamConfig) : Bool × MkvPacketWriter :=
  let writer := { writer with error := "" }
  if writer.isOpen ∨ path = "" ∨ config.width = 0 ∨ config.height = 0 ∨
      config.extraData.isEmpty then
    (false, { writer with error := "invalid-mkv-writer-configuration" })
  else
    let (context, writer) := { writer with path := path }.ask library (.allocContext path)
    if context < 0 then writer.refuse ("mkv-context-failed:" ++ library.describe context)
    else writer.openStream library config

namespace MkvPacketWriter

/-- The bookkeeping of `Write` once the library has taken the packet. -/
def wrote (writer : MkvPacketWriter) (packet : EncodedPacket) (muxedDts : Int) :
    MkvPacketWriter :=
  { writer with
    firstSourceCts :=
      if writer.hasPacket then min writer.firstSourceCts packet.sourceCts else packet.sourceCts
    hasPacket := true
    lastSourceCts := max writer.lastSourceCts packet.sourceCts
    lastWrittenDts := some muxedDts
    packetCount := writer.packetCount + 1
    bytes := writer.bytes + packet.payload.length }

def dtsOrderError (packet : EncodedPacket) (muxedDts lastDts : Int) : String :=
  "packet-dts-order-invalid:source_cts=" ++ toString packet.sourceCts ++ ":dts=" ++
    toString packet.dts ++ ":muxed_dts=" ++ toString muxedDts ++ ":last_muxed_dts=" ++
    toString lastDts

def writeError (packet : EncodedPacket) (description : String) (lastDts : Option Int) : String :=
  "mkv-write-failed:" ++ description ++ ":source_cts=" ++ toString packet.sourceCts ++ ":pts=" ++
    toString packet.pts ++ ":dts=" ++ toString packet.dts ++ ":last_written_dts_target=" ++
    lastDts.elim "none" toString

/-- The part of `Write` that follows the allocation of the `AVPacket`. -/
def writeFrame (writer : MkvPacketWriter) (library : MuxLibrary) (packet : EncodedPacket)
    (origin : Int) : Bool × MkvPacketWriter :=
  let source : AVRational := ⟨packet.timebaseNum, packet.timebaseDen⟩
  let pts := library.rescale (packet.pts - origin) source writer.timebase
  let dts := library.rescale (packet.dts - origin) source writer.timebase
  match writer.lastWrittenDts.filter (fun lastDts => dts < lastDts) with
  | some lastDts => writer.fail (dtsOrderError packet dts lastDts)
  | none =>
      let frame := ⟨pts, dts, packet.payload, packet.keyframe⟩
      let (error, writer) := writer.ask library (.writeFrame frame)
      if error < 0 then
        writer.fail (writeError packet (library.describe error) writer.lastWrittenDts)
      else (true, writer.wrote packet dts)

def write (writer : MkvPacketWriter) (library : MuxLibrary) (packet : EncodedPacket) :
    Bool × MkvPacketWriter :=
  if !writer.isOpen ∨ packet.payload.isEmpty ∨ packet.timebaseNum ≤ 0 ∨
      packet.timebaseDen ≤ 0 then
    writer.fail "invalid-mkv-packet"
  else
    let origin := writer.timestampOrigin.getD (min packet.pts packet.dts)
    let writer := { writer with timestampOrigin := some origin }
    let (allocated, writer) := writer.ask library (.allocPacket packet.payload.length)
    if allocated < 0 then writer.fail "mkv-packet-allocation-failed"
    else writer.writeFrame library packet origin

/-- The result as far as `Finalize` reads it off the writer. -/
def writeResult (writer : MkvPacketWriter) : MkvWriteResult where
  firstSourceCts := writer.firstSourceCts
  lastSourceCts := writer.lastSourceCts
  packetCount := writer.packetCount
  bytes := writer.bytes
  error := writer.error

def finalize (writer : MkvPacketWriter) (library : MuxLibrary) :
    MkvWriteResult × MkvPacketWriter :=
  if !writer.isOpen then ({ writer.writeResult with success := writer.error = "" }, writer)
  else
    let (error, writer) := writer.ask library .writeTrailer
    let writer :=
      if error < 0 then { writer with error := "mkv-trailer-failed:" ++ library.describe error }
      else writer
    ({ writer.writeResult with success := error ≥ 0 ∧ writer.error = "" },
      { writer with isOpen := false })

def abort (writer : MkvPacketWriter) : MkvPacketWriter :=
  { writer with isOpen := false }

end MkvPacketWriter

/-- The writes of one stream, up to the first that fails: the loop around `Write` that a
replay save and a recording sink share. -/
def writePackets (library : MuxLibrary) :
    List EncodedPacket → MkvPacketWriter → Bool × MkvPacketWriter
  | [], writer => (true, writer)
  | packet :: packets, writer =>
      match writer.write library packet with
      | (false, writer) => (false, writer)
      | (true, writer) => writePackets library packets writer

namespace MkvPacketWriter

/-- The writer has taken exactly the packets with the source CTS `written`, in
this order; it reports the least and the greatest of them. -/
structure Tracks (writer : MkvPacketWriter) (written : List Nat) : Prop where
  hasPacket : writer.hasPacket = !written.isEmpty
  first : written ≠ [] → writer.firstSourceCts ∈ written ∧
    ∀ cts ∈ written, writer.firstSourceCts ≤ cts
  last : written ≠ [] → writer.lastSourceCts ∈ written
  upper : ∀ cts ∈ written, cts ≤ writer.lastSourceCts
  empty : written = [] → writer.lastSourceCts = 0
  count : writer.packetCount = written.length

theorem tracks_new : Tracks {} [] :=
  ⟨rfl, fun h => absurd rfl h, fun h => absurd rfl h, by simp, fun _ => rfl, rfl⟩

theorem Tracks.wrote {writer : MkvPacketWriter} {written : List Nat} (h : Tracks writer written)
    (packet : EncodedPacket) (muxedDts : Int) :
    Tracks (writer.wrote packet muxedDts) (written ++ [packet.sourceCts]) where
  hasPacket := by simp [MkvPacketWriter.wrote]
  first _ := by
    by_cases hempty : written = []
    · have hnone : writer.hasPacket = false := by rw [h.hasPacket, hempty]; rfl
      simp [MkvPacketWriter.wrote, hnone, hempty]
    · have hsome : writer.hasPacket = true := by
        rw [h.hasPacket, List.isEmpty_eq_false_iff.mpr hempty]
        rfl
      obtain ⟨hmem, hle⟩ := h.first hempty
      simp only [MkvPacketWriter.wrote, hsome, if_true, List.mem_append, List.mem_singleton]
      refine ⟨?_, ?_⟩
      · rcases min_choice writer.firstSourceCts packet.sourceCts with hmin | hmin
        · exact Or.inl (by rwa [hmin])
        · exact Or.inr hmin
      · rintro cts (hold | rfl)
        · exact (min_le_left _ _).trans (hle cts hold)
        · exact min_le_right _ _
  last _ := by
    simp only [MkvPacketWriter.wrote, List.mem_append, List.mem_singleton]
    rcases max_choice writer.lastSourceCts packet.sourceCts with hmax | hmax
    · by_cases hempty : written = []
      · have hzero := h.empty hempty
        exact Or.inr (by omega)
      · exact Or.inl (by
          rw [hmax]
          exact h.last hempty)
    · exact Or.inr hmax
  upper cts hmem := by
    simp only [MkvPacketWriter.wrote]
    rcases List.mem_append.mp hmem with hold | hnew
    · exact (h.upper cts hold).trans (le_max_left _ _)
    · rw [List.mem_singleton.mp hnew]
      exact le_max_right _ _
  empty hempty := by simp at hempty
  count := by simp [MkvPacketWriter.wrote, h.count]

/-- A writer that is being written: open, and without an error. -/
structure Ready (writer : MkvPacketWriter) : Prop where
  isOpen : writer.isOpen = true
  error : writer.error = ""

/-- `writer'` reports of its packets what `writer` does. -/
def SameReport (writer writer' : MkvPacketWriter) : Prop :=
  writer'.writeResult = { writer.writeResult with error := writer'.error } ∧
    writer'.hasPacket = writer.hasPacket

theorem SameReport.tracks {writer writer' : MkvPacketWriter} {written : List Nat}
    (h : SameReport writer writer') (htracks : Tracks writer written) :
    Tracks writer' written := by
  obtain ⟨hresult, hpacket⟩ := h
  have hfirst : writer'.firstSourceCts = writer.firstSourceCts :=
    congrArg MkvWriteResult.firstSourceCts hresult
  have hlast : writer'.lastSourceCts = writer.lastSourceCts :=
    congrArg MkvWriteResult.lastSourceCts hresult
  have hcount : writer'.packetCount = writer.packetCount :=
    congrArg MkvWriteResult.packetCount hresult
  exact ⟨by rw [hpacket, htracks.hasPacket], by rw [hfirst]; exact htracks.first,
    by rw [hlast]; exact htracks.last, by rw [hlast]; exact htracks.upper,
    by rw [hlast]; exact htracks.empty, by rw [hcount, htracks.count]⟩

section Library

variable {writer writer' : MkvPacketWriter} {library : MuxLibrary}

theorem openFormat_true {config : PacketStreamConfig}
    (h : writer.openFormat library config = (true, writer')) :
    writer'.isOpen = true ∧ writer'.error = writer.error ∧ SameReport writer writer' := by
  unfold openFormat ask refuse at h
  by_cases hfile : library.noFile = true
  · simp only [hfile, if_true, lt_irrefl, if_false] at h
    split_ifs at h
    · cases congrArg Prod.fst h
    · obtain ⟨-, rfl⟩ := Prod.mk.inj h
      exact ⟨rfl, rfl, rfl, rfl⟩
  · simp only [hfile, Bool.false_eq_true, if_false] at h
    split_ifs at h
    · cases congrArg Prod.fst h
    · cases congrArg Prod.fst h
    · obtain ⟨-, rfl⟩ := Prod.mk.inj h
      exact ⟨rfl, rfl, rfl, rfl⟩

theorem openStream_true {config : PacketStreamConfig}
    (h : writer.openStream library config = (true, writer')) :
    writer'.isOpen = true ∧ writer'.error = writer.error ∧ SameReport writer writer' := by
  unfold openStream ask refuse at h
  dsimp only at h
  split_ifs at h
  · cases congrArg Prod.fst h
  · cases congrArg Prod.fst h
  · cases congrArg Prod.fst h
  · obtain ⟨hopen, herror, hreport⟩ := openFormat_true h
    exact ⟨hopen, herror, hreport⟩

theorem open_true {path : String} {config : PacketStreamConfig}
    (h : writer.open library path config = (true, writer')) :
    Ready writer' ∧ SameReport writer writer' := by
  unfold MkvPacketWriter.open ask refuse at h
  dsimp only at h
  split_ifs at h
  · cases congrArg Prod.fst h
  · cases congrArg Prod.fst h
  · obtain ⟨hopen, herror, hreport⟩ := openStream_true h
    exact ⟨⟨hopen, herror⟩, hreport⟩

theorem writeFrame_true {packet : EncodedPacket} {origin : Int}
    (h : writer.writeFrame library packet origin = (true, writer')) :
    ∃ middle muxedDts, SameReport writer middle ∧ middle.isOpen = writer.isOpen ∧
      middle.error = writer.error ∧ writer' = middle.wrote packet muxedDts := by
  unfold writeFrame ask at h
  dsimp only at h
  split at h
  · cases congrArg Prod.fst h
  · split_ifs at h
    · cases congrArg Prod.fst h
    · refine ⟨_, _, ?_, ?_, ?_, (Prod.mk.inj h).2.symm⟩
      · exact ⟨rfl, rfl⟩
      · rfl
      · rfl

/-- A write that succeeds keeps the writer ready and adds one packet to what it
reports. -/
theorem write_true {packet : EncodedPacket}
    (h : writer.write library packet = (true, writer')) :
    (Ready writer → Ready writer') ∧
      ∀ written, Tracks writer written → Tracks writer' (written ++ [packet.sourceCts]) := by
  unfold write ask at h
  dsimp only at h
  split_ifs at h
  · cases congrArg Prod.fst h
  · cases congrArg Prod.fst h
  · obtain ⟨middle, muxedDts, hreport, hopen, herror, rfl⟩ := writeFrame_true h
    refine ⟨fun hready => ⟨hopen.trans hready.isOpen, herror.trans hready.error⟩,
      fun written htracks => ?_⟩
    exact (SameReport.tracks hreport (SameReport.tracks ⟨rfl, rfl⟩ htracks)).wrote packet muxedDts

end Library

theorem finalize_fst (writer : MkvPacketWriter) (library : MuxLibrary) :
    (writer.finalize library).1.firstSourceCts = writer.firstSourceCts ∧
      (writer.finalize library).1.lastSourceCts = writer.lastSourceCts ∧
      (writer.finalize library).1.packetCount = writer.packetCount := by
  unfold finalize ask
  dsimp only
  by_cases hopen : (!writer.isOpen) = true
  · rw [if_pos hopen]
    exact ⟨rfl, rfl, rfl⟩
  · rw [if_neg hopen]
    by_cases herror : library.answer writer.requests .writeTrailer < 0
    · rw [if_pos herror]
      exact ⟨rfl, rfl, rfl⟩
    · rw [if_neg herror]
      exact ⟨rfl, rfl, rfl⟩

end MkvPacketWriter

end ObsSyncReplay
