import ObsSyncReplay.Muxing.SinkConservation

/-!
Whose fault a failed file is. A writer with a usable configuration and usable packets fails exactly
if the muxing library has refused one of its requests.
-/

namespace ObsSyncReplay

/-- The library has refused none of these requests. -/
def MuxLibrary.Grants (library : MuxLibrary) (requests : List MuxRequest) : Prop :=
  ∀ past request, past ++ [request] <+: requests → 0 ≤ library.answer past request

variable {library : MuxLibrary} {requests : List MuxRequest}

@[simp] theorem MuxLibrary.grants_nil : library.Grants [] := by
  intro past request hprefix
  simp at hprefix

theorem MuxLibrary.grants_concat {request : MuxRequest} :
    library.Grants (requests ++ [request]) ↔
      library.Grants requests ∧ 0 ≤ library.answer requests request := by
  constructor
  · intro h
    refine ⟨fun past earlier hprefix => h past earlier ?_, h requests request List.prefix_rfl⟩
    exact hprefix.trans (List.prefix_append _ _)
  · rintro ⟨hearlier, hlast⟩ past earlier hprefix
    rcases List.prefix_concat_iff.mp hprefix with hall | hbefore
    · obtain ⟨rfl, hsame⟩ := List.append_inj' hall rfl
      obtain rfl := List.singleton_inj.mp hsame
      exact hlast
    · exact hearlier past earlier hbefore

namespace MkvPacketWriter

variable {writer : MkvPacketWriter} {path : String} {config : PacketStreamConfig}

theorem grants_ask {request : MuxRequest} :
    library.Grants (writer.ask library request).2.requests ↔
      library.Grants writer.requests ∧ 0 ≤ (writer.ask library request).1 :=
  MuxLibrary.grants_concat

theorem not_grants_ask {request : MuxRequest} (h : (writer.ask library request).1 < 0) :
    ¬library.Grants (writer.ask library request).2.requests :=
  fun hgrants => absurd (grants_ask.mp hgrants).2 (not_le.mpr h)

theorem openFormat_true_iff (h : library.Grants writer.requests) :
    (writer.openFormat library config).1 = true ↔
      library.Grants (writer.openFormat library config).2.requests := by
  -- the header is written whether or not there was a file to open
  have hheader {opened : MkvPacketWriter} (hopened : library.Grants opened.requests)
      (hfailed : (opened.ask library (.writeHeader config)).1 < 0 → False) :
      library.Grants (opened.ask library (.writeHeader config)).2.requests :=
    grants_ask.mpr ⟨hopened, not_lt.mp hfailed⟩
  unfold openFormat
  by_cases hnoFile : library.noFile = true
  · simp only [hnoFile, if_true, lt_irrefl, if_false]
    split_ifs with hfailed
    · exact iff_of_false Bool.false_ne_true (not_grants_ask hfailed)
    · exact iff_of_true rfl (hheader h hfailed)
  · simp only [hnoFile, if_false, Bool.false_eq_true]
    split_ifs with hfile hfailed
    · exact iff_of_false Bool.false_ne_true (not_grants_ask hfile)
    · exact iff_of_false Bool.false_ne_true (not_grants_ask hfailed)
    · exact iff_of_true rfl (hheader (grants_ask.mpr ⟨h, not_lt.mp hfile⟩) hfailed)

/-- What `Open` asks of a path and of a configuration. -/
structure Openable (path : String) (config : PacketStreamConfig) : Prop where
  path : path ≠ ""
  width : config.width ≠ 0
  height : config.height ≠ 0
  extraData : config.extraData ≠ []
  timebase : 0 < config.timebaseNum ∧ 0 < config.timebaseDen

theorem openStream_true_iff (h : library.Grants writer.requests) :
    (writer.openStream library config).1 = true ↔
      (0 < config.timebaseNum ∧ 0 < config.timebaseDen) ∧
        library.Grants (writer.openStream library config).2.requests := by
  unfold openStream
  dsimp only
  split_ifs with hstream htimebase hextraData
  · exact iff_of_false Bool.false_ne_true (fun hgrants => not_grants_ask hstream hgrants.2)
  · exact iff_of_false Bool.false_ne_true (fun hgrants => by omega)
  · exact iff_of_false Bool.false_ne_true (fun hgrants => not_grants_ask hextraData hgrants.2)
  · rw [openFormat_true_iff]
    · exact (and_iff_right (by omega)).symm
    · refine grants_ask.mpr ⟨?_, not_lt.mp hextraData⟩
      exact grants_ask.mpr ⟨h, not_lt.mp hstream⟩

/-- A new file is opened exactly if it can be, and the library refuses nothing. -/
theorem open_true_iff :
    (MkvPacketWriter.open {} library path config).1 = true ↔
      Openable path config ∧
        library.Grants (MkvPacketWriter.open {} library path config).2.requests := by
  unfold MkvPacketWriter.open
  simp only [Bool.false_eq_true, false_or]
  split_ifs with hinvalid hcontext
  · refine iff_of_false id ?_
    rintro ⟨⟨hpath, hwidth, hheight, hextraData, -⟩, -⟩
    simp [hpath, hwidth, hheight, hextraData] at hinvalid
  · exact iff_of_false Bool.false_ne_true (fun hgrants => not_grants_ask hcontext hgrants.2)
  · rw [openStream_true_iff (grants_ask.mpr ⟨MuxLibrary.grants_nil, not_lt.mp hcontext⟩)]
    simp only [List.isEmpty_iff, not_or] at hinvalid
    obtain ⟨hpath, hwidth, hheight, hextraData⟩ := hinvalid
    constructor
    · exact fun ⟨htimebase, hgrants⟩ => ⟨⟨hpath, hwidth, hheight, hextraData, htimebase⟩, hgrants⟩
    · exact fun ⟨hopenable, hgrants⟩ => ⟨hopenable.timebase, hgrants⟩

theorem writeFrame_true_iff (h : library.Grants writer.requests) {packet : EncodedPacket}
    {origin : Int} (hordered : writer.InOrder (writer.frameAt library packet origin).dts) :
    (writer.writeFrame library packet origin).1 = true ↔
      library.Grants (writer.writeFrame library packet origin).2.requests := by
  unfold writeFrame
  dsimp only
  split
  · rename_i lastDts hlast
    obtain ⟨hsome, hless⟩ := Option.filter_eq_some_iff.mp hlast
    exact absurd (hordered lastDts hsome) (not_le.mpr (of_decide_eq_true hless))
  · split_ifs with hanswer
    · exact iff_of_false Bool.false_ne_true (not_grants_ask hanswer)
    · exact iff_of_true rfl (grants_ask.mpr ⟨h, not_lt.mp hanswer⟩)

/-- A packet that the writer takes up, and that is not behind its DTS, is refused by the library
alone. -/
theorem write_true_iff (h : library.Grants writer.requests) {packet : EncodedPacket}
    (htakes : writer.TakesUp packet)
    (hordered : writer.InOrder (writer.frameFor library packet).dts) :
    (writer.write library packet).1 = true ↔
      library.Grants (writer.write library packet).2.requests := by
  rcases write_cases writer library packet with
    ⟨hnot, -⟩ | ⟨hanswer, hwrite⟩ | ⟨-, hanswer, hwrite⟩
  · exact absurd htakes hnot
  · rw [hwrite]
    exact iff_of_false Bool.false_ne_true
      (fun hgrants => absurd (MuxLibrary.grants_concat.mp hgrants).2 (not_le.mpr hanswer))
  · rw [hwrite]
    exact writeFrame_true_iff (MuxLibrary.grants_concat.mpr ⟨h, hanswer⟩) hordered

/-- The end of a file that has no error. -/
theorem finalize_success_iff (h : library.Grants writer.requests) (hready : Ready writer) :
    (writer.finalize library).1.success = true ↔
      library.Grants (writer.finalize library).2.requests := by
  unfold finalize
  rw [if_neg (by simp [hready.isOpen])]
  dsimp only
  split_ifs with hanswer
  · refine iff_of_false ?_ (not_grants_ask hanswer)
    simp
  · refine iff_of_true ?_ (grants_ask.mpr ⟨h, not_lt.mp hanswer⟩)
    exact decide_eq_true ⟨not_lt.mp hanswer, hready.error⟩

end MkvPacketWriter

end ObsSyncReplay
