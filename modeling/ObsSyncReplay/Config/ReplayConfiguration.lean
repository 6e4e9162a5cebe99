import ObsSyncReplay.Control.CaptureConfiguration

/-!
`config/replay-configuration` and `config/obs-replay-configuration`: what the profile of OBS asks of
the replay. OBS keeps a duration and a size as signed numbers that the user may have edited, and a
size that does not apply in some modes; what comes out is a duration of whole seconds and a budget
of whole megabytes, neither of them zero.
-/

namespace ObsSyncReplay

def kDefaultReplayDurationSeconds : Nat := 20

def kDefaultReplayMemoryMegabytes : Nat := 512

def kReplayEmergencyMemoryBudgetBytes : Nat := 30 * 1024 * 1024

inductive ReplayOutputMode where
  | simple
  | advanced
deriving DecidableEq

structure ReplayProfileValues where
  outputMode : ReplayOutputMode := .simple
  replayEnabled : Bool := false
  stockBackendAvailable : Bool := true
  stockMemoryLimitApplies : Bool := true
  durationSeconds : Nat := kDefaultReplayDurationSeconds
  memoryMegabytes : Nat := kDefaultReplayMemoryMegabytes

def makeReplayConfiguration (values : ReplayProfileValues) : ReplayConfiguration :=
  let durationSeconds := if values.durationSeconds = 0 then 1 else values.durationSeconds
  let memoryMegabytes := if values.memoryMegabytes = 0 then 1 else values.memoryMegabytes
  let limited := values.stockMemoryLimitApplies &&
    memoryMegabytes ≤ (uint64Size - 1) / (1024 * 1024)
  { enabled := values.replayEnabled && values.stockBackendAvailable
    targetDurationNs :=
      if durationSeconds > (uint64Size - 1) / 1000000000 then uint64Size - 1
      else durationSeconds * 1000000000
    memoryBudgetBytes :=
      if limited then memoryMegabytes * 1024 * 1024 else kReplayEmergencyMemoryBudgetBytes
    memoryLimitConfigured := limited }

/-- What OBS answers about a profile. `settings path name` is the rate control in the encoder
settings of that name, where they can be read. -/
structure ObsProfile where
  getString : String → String → Option String := fun _ _ => none
  getBool : String → String → Bool := fun _ _ => false
  getInt : String → String → Int := fun _ _ => 0
  path : Option String := none
  settings : String → String → Option (Option String) := fun _ _ => none

def isBitrateRateControl (rateControl : Option String) : Bool :=
  rateControl ∈ ["CBR", "VBR", "ABR", "cbr", "vbr", "abr"].map some

def readAdvancedMemoryLimitApplies (profile : ObsProfile) (recordEncoder : Option String) : Bool :=
  let settingsName :=
    if recordEncoder = some "none" then "streamEncoder.json" else "recordEncoder.json"
  match profile.path with
  | none => true
  | some path =>
      if path = "" then true
      else
        match profile.settings path settingsName with
        | none => true
        | some rateControl => !isBitrateRateControl rateControl

/-- What `ReadObsReplayConfiguration` reads. The numbers are cast to `uint32_t` and `size_t`. -/
def readProfileValues : Option ObsProfile → ReplayProfileValues
  | none => {}
  | some profile =>
      if profile.getString "Output" "Mode" = some "Advanced" then
        { outputMode := .advanced
          replayEnabled := profile.getBool "AdvOut" "RecRB"
          durationSeconds := (profile.getInt "AdvOut" "RecRBTime" % 2 ^ 32).toNat
          memoryMegabytes := (profile.getInt "AdvOut" "RecRBSize" % 2 ^ 64).toNat
          stockBackendAvailable := profile.getString "AdvOut" "RecType" ≠ some "FFmpeg"
          stockMemoryLimitApplies :=
            readAdvancedMemoryLimitApplies profile (profile.getString "AdvOut" "RecEncoder") }
      else
        { outputMode := .simple
          replayEnabled := profile.getBool "SimpleOutput" "RecRB"
          durationSeconds := (profile.getInt "SimpleOutput" "RecRBTime" % 2 ^ 32).toNat
          memoryMegabytes := (profile.getInt "SimpleOutput" "RecRBSize" % 2 ^ 64).toNat
          stockBackendAvailable :=
            profile.getString "SimpleOutput" "RecQuality" ≠ some "Lossless"
          stockMemoryLimitApplies :=
            profile.getString "SimpleOutput" "RecQuality" ≠ some "Stream" }

/-- Without a profile the defaults are taken. -/
def readObsReplayConfiguration (profile : Option ObsProfile) : ReplayConfiguration :=
  makeReplayConfiguration (readProfileValues profile)

/-- A configuration that some profile asks for: whole seconds, and whole megabytes or the bound of
emergency. -/
structure ReplayConfiguration.WellFormed (configuration : ReplayConfiguration) : Prop where
  duration : ∃ seconds, 0 < seconds ∧ seconds < 2 ^ 32 ∧
    configuration.targetDurationNs = seconds * 1000000000
  limited : configuration.memoryLimitConfigured = true →
    ∃ megabytes, 0 < megabytes ∧ megabytes < 2 ^ 44 ∧
      configuration.memoryBudgetBytes = megabytes * 2 ^ 20
  emergency : configuration.memoryLimitConfigured = false →
    configuration.memoryBudgetBytes = kReplayEmergencyMemoryBudgetBytes

theorem durationSeconds_readProfileValues_lt (profile : Option ObsProfile) :
    (readProfileValues profile).durationSeconds < 2 ^ 32 := by
  have hcast (value : Int) : (value % 2 ^ 32).toNat < 2 ^ 32 := by
    have hnonneg := Int.emod_nonneg value (b := 2 ^ 32) (by decide)
    have hlt := Int.emod_lt_of_pos value (b := 2 ^ 32) (by decide)
    omega
  unfold readProfileValues
  split
  · decide
  · split_ifs
    · exact hcast _
    · exact hcast _

/-- The duration is never cut off, since its seconds have 32 bits. -/
theorem wellFormed_makeReplayConfiguration {values : ReplayProfileValues}
    (hseconds : values.durationSeconds < 2 ^ 32) :
    (makeReplayConfiguration values).WellFormed := by
  constructor
  · obtain ⟨seconds, hpos, hlt, hseconds⟩ : ∃ seconds, 0 < seconds ∧ seconds < 2 ^ 32 ∧
        (if values.durationSeconds = 0 then 1 else values.durationSeconds) = seconds := by
      split_ifs with hzero
      · exact ⟨1, by omega, by omega, rfl⟩
      · exact ⟨_, by omega, hseconds, rfl⟩
    refine ⟨seconds, hpos, hlt, ?_⟩
    simp only [makeReplayConfiguration, hseconds]
    rw [if_neg]
    unfold uint64Size
    omega
  · intro hlimited
    simp only [makeReplayConfiguration] at hlimited ⊢
    rw [if_pos hlimited]
    rw [Bool.and_eq_true, decide_eq_true_eq] at hlimited
    refine ⟨_, ?_, ?_, Nat.mul_assoc _ _ _⟩
    · split_ifs <;> omega
    · have hfits := hlimited.2
      unfold uint64Size at hfits
      omega
  · intro hunlimited
    simp only [makeReplayConfiguration] at hunlimited ⊢
    rw [if_neg (by simp [hunlimited])]

theorem wellFormed_readObsReplayConfiguration (profile : Option ObsProfile) :
    (readObsReplayConfiguration profile).WellFormed :=
  wellFormed_makeReplayConfiguration (durationSeconds_readProfileValues_lt profile)

end ObsSyncReplay
