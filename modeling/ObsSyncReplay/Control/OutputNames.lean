import ObsSyncReplay.Control.PluginCaptureRuntime
import ObsSyncReplay.Control.StreamRegistration

/-!
Whether the streams of one consumer are written to different files. The capture session tells
streams apart by their names as they are; in a file name nine characters are replaced by `_`.
-/

namespace ObsSyncReplay

/-- What stands for `_` in a file name. -/
def underscored : List Char := ['<', '>', ':', '\x22', '/', '\\', '|', '?', '*', '_']

/-- Names of one length that differ only where both have characters that stand for `_`. -/
def Alike (a b : String) : Prop :=
  List.Forall₂ (fun x y => x = y ∨ x ∈ underscored ∧ y ∈ underscored) a.toList b.toList

instance : DecidableRel Alike :=
  fun a b => inferInstanceAs (Decidable (List.Forall₂ _ a.toList b.toList))

/-- The names of the streams that take part. -/
def participantNames (streams : List ConfiguredStream) (consumer : CaptureConsumer) :
    List String :=
  (streams.filter (fun stream => streamParticipates stream.mode consumer)).map
    ConfiguredStream.name

/-- The character that a file name has in the place of this one. -/
def fileNameCharacter (character : Char) : Char :=
  if character ∈ ['<', '>', ':', '\x22', '/', '\\', '|', '?', '*'] then '_' else character

theorem fileNameCharacter_eq_iff {x y : Char} :
    fileNameCharacter x = fileNameCharacter y ↔ x = y ∨ x ∈ underscored ∧ y ∈ underscored := by
  have hmem (character : Char) : character ∈ underscored ↔
      character ∈ ['<', '>', ':', '\x22', '/', '\\', '|', '?', '*'] ∨ character = '_' :=
    List.mem_append (s := ['<', '>', ':', '\x22', '/', '\\', '|', '?', '*']) (t := ['_'])
      |>.trans (by simp)
  unfold fileNameCharacter
  rw [hmem, hmem]
  split_ifs with hx hy hy <;> grind

/-- The text of a file name, for a name that is not empty. -/
theorem toList_fileNameComponent {name : String} (hname : name ≠ "") :
    (fileNameComponent name).toList = name.toList.map fileNameCharacter := by
  have hreplaced : (name.map fileNameCharacter).isEmpty = false := by
    rw [Bool.eq_false_iff, ne_eq, String.isEmpty_iff, ← String.toList_eq_nil_iff,
      String.toList_map, List.map_eq_nil_iff, String.toList_eq_nil_iff]
    exact hname
  change (if (name.map fileNameCharacter).isEmpty then "stream"
    else name.map fileNameCharacter).toList = _
  rw [hreplaced, if_neg Bool.false_ne_true, String.toList_map]

theorem fileNameComponent_of_map {name replaced : String} (hname : name ≠ "")
    (h : name.toList.map fileNameCharacter = replaced.toList) :
    fileNameComponent name = replaced := by
  rw [← String.toList_inj, toList_fileNameComponent hname, h]

theorem fileNameComponent_eq_iff {a b : String} (ha : a ≠ "") (hb : b ≠ "") :
    fileNameComponent a = fileNameComponent b ↔ Alike a b := by
  rw [← String.toList_inj, toList_fileNameComponent ha, toList_fileNameComponent hb, Alike]
  rw [← List.forall₂_eq_eq_eq, List.forall₂_map_left_iff, List.forall₂_map_right_iff]
  simp only [fileNameCharacter_eq_iff]

namespace PluginCaptureRuntime

variable {engine : CaptureControlEngine PluginEncoderController} {output : OutputDirectory}
  {stem : String} {consumer : CaptureConsumer}

def outputPath (directory stem name : String) : String :=
  directory ++ "/" ++ (stem ++ "-" ++ fileNameComponent name ++ ".mkv")

theorem outputPath_eq_iff {directory a b : String} (ha : a ≠ "") (hb : b ≠ "") :
    outputPath directory stem a = outputPath directory stem b ↔ Alike a b := by
  rw [← fileNameComponent_eq_iff ha hb]
  simp [outputPath, ← String.toList_inj]

theorem outputPaths_eq :
    outputPaths engine consumer output stem = output.directory.elim [] (fun directory =>
      (participantNames engine.configuration.streams consumer).map
        (outputPath directory stem)) := by
  unfold outputPaths participantNames
  cases output.directory with
  | none => rfl
  | some directory =>
      rw [Option.elim_some, List.map_map]
      rfl

theorem ne_empty_of_mem_participantNames {streams : List ConfiguredStream}
    (hregistrable : Registrable streams) {name : String}
    (hname : name ∈ participantNames streams consumer) : name ≠ "" := by
  obtain ⟨stream, hstream, rfl⟩ := List.mem_map.mp hname
  obtain ⟨hmem, htakesPart⟩ := List.mem_filter.mp hstream
  have henabled : stream.mode ≠ .disabled := by
    intro hdisabled
    rw [hdisabled] at htakesPart
    cases htakesPart
  exact (hregistrable.wellFormed stream
    (List.mem_filter.mpr ⟨hmem, decide_eq_true henabled⟩)).1

/-- The paths are distinct exactly if no two streams that take part have names alike. Without
an output directory there are no paths. -/
theorem output_paths_distinct_iff {configuration : CaptureConfiguration}
    {ringCapacityBytes : Nat} {controller : PluginEncoderController}
    (hinitialized : (CaptureControlEngine.create configuration (.create ringCapacityBytes)
      controller).initializeEngine = (true, engine))
    (consumer : CaptureConsumer) (output : OutputDirectory) (stem : String) :
    (outputPaths engine consumer output stem).Nodup ↔
      output.directory = none ∨
        (participantNames configuration.streams consumer).Pairwise (fun a b => ¬Alike a b) := by
  obtain ⟨hregistrable, rfl⟩ :=
    CaptureControlEngine.initializeEngine_create_iff.mp hinitialized
  rw [outputPaths_eq]
  cases output.directory with
  | none => simp
  | some directory =>
      rw [Option.elim_some, List.Nodup, List.pairwise_map]
      simp only [reduceCtorEq, false_or]
      exact List.Pairwise.iff_of_mem (fun ha hb => not_congr (outputPath_eq_iff
        (ne_empty_of_mem_participantNames hregistrable ha)
        (ne_empty_of_mem_participantNames hregistrable hb)))

/-- Master and two scenes with these names. -/
def twoScenes (first second : String) : CaptureConfiguration where
  streams := [
    ⟨.master, "master", .both, streamConfig (0, 0)⟩,
    ⟨⟨.scene, "uuid-1"⟩, first, .both, streamConfig (0, 0)⟩,
    ⟨⟨.scene, "uuid-2"⟩, second, .both, streamConfig (0, 0)⟩]

/-- The runtime's engine for them. -/
def twoScenesEngine (first second : String) : Bool × CaptureControlEngine PluginEncoderController :=
  (CaptureControlEngine.create (twoScenes first second) (.create (30 * 1024 * 1024))
    (.create 3 (fun _ => true))).initializeEngine

/-- The scenes `A/B` and `A:B` are both recorded to `recording-1-0-A_B.mkv`. -/
theorem output_paths_collide :
    (twoScenesEngine "A/B" "A:B").1 = true ∧
      outputPaths (twoScenesEngine "A/B" "A:B").2 .recording ⟨some "out", 0⟩ "recording-1-0" =
        ["out/recording-1-0-master.mkv", "out/recording-1-0-A_B.mkv",
          "out/recording-1-0-A_B.mkv"] ∧
      ¬(outputPaths (twoScenesEngine "A/B" "A:B").2 .recording ⟨some "out", 0⟩
        "recording-1-0").Nodup := by
  have hmaster : fileNameComponent "master" = "master" :=
    fileNameComponent_of_map (by decide) (by decide)
  have hslash : fileNameComponent "A/B" = "A_B" :=
    fileNameComponent_of_map (by decide) (by decide)
  have hcolon : fileNameComponent "A:B" = "A_B" :=
    fileNameComponent_of_map (by decide) (by decide)
  have hnames : participantNames (twoScenesEngine "A/B" "A:B").2.configuration.streams .recording =
      ["master", "A/B", "A:B"] := by decide
  have hpaths : outputPaths (twoScenesEngine "A/B" "A:B").2 .recording ⟨some "out", 0⟩
      "recording-1-0" = ["out/recording-1-0-master.mkv", "out/recording-1-0-A_B.mkv",
        "out/recording-1-0-A_B.mkv"] := by
    rw [outputPaths_eq, Option.elim_some, hnames]
    simp only [List.map_cons, List.map_nil, outputPath, hmaster, hslash, hcolon]
    decide
  refine ⟨by decide, hpaths, ?_⟩
  rw [hpaths]
  decide

theorem output_paths_distinct_sample :
    (outputPaths (twoScenesEngine "A/B" "A/C").2 .recording ⟨some "out", 0⟩
      "recording-1-0").Nodup := by
  have hinitialized : (CaptureControlEngine.create (twoScenes "A/B" "A/C")
      (.create (30 * 1024 * 1024)) (PluginEncoderController.create 3 (fun _ => true))
      ).initializeEngine = (true, (twoScenesEngine "A/B" "A/C").2) := Prod.ext (by decide) rfl
  exact (output_paths_distinct_iff hinitialized _ _ _).mpr (.inr (by decide))

end PluginCaptureRuntime

end ObsSyncReplay
