import ObsSyncReplay.Timeline.MasterFrameTimeline
import ObsSyncReplay.Lib.Ledger

/-!
`timeline/master-frame-coordinator`: each tick of libobs offers the time of the video frame to the
timeline, and dispatches the frame that the timeline issues. What else a tick reads (the
configured interval, the count of lagged frames, whether the sink throws) is reported and does not
reach the timeline.
-/

namespace ObsSyncReplay

inductive MasterFrameTimingConfigurationResult where
  | initialized
  | unchanged
  | changed
  | invalidInterval
deriving DecidableEq, Repr

structure MasterFrameTimingConfiguration where
  frameIntervalNs : Option UInt64 := none
deriving DecidableEq

namespace MasterFrameTimingConfiguration

def observeFrameInterval (configuration : MasterFrameTimingConfiguration)
    (frameIntervalNs : UInt64) :
    MasterFrameTimingConfigurationResult × MasterFrameTimingConfiguration :=
  if frameIntervalNs = 0 then (.invalidInterval, configuration)
  else
    match configuration.frameIntervalNs with
    | none => (.initialized, { frameIntervalNs := some frameIntervalNs })
    | some current =>
        if current = frameIntervalNs then (.unchanged, configuration)
        else (.changed, { frameIntervalNs := some frameIntervalNs })

def reset (_ : MasterFrameTimingConfiguration) : MasterFrameTimingConfiguration := {}

end MasterFrameTimingConfiguration

structure ObsVideoInfo where
  fpsNum : UInt32
  fpsDen : UInt32
deriving DecidableEq

/-- What `RefreshTimingConfiguration` reads: `obs_get_frame_interval_ns`, and `obs_get_video_info`
where it succeeds. -/
structure TimingReadings where
  frameIntervalNs : UInt64
  videoInfo : Option ObsVideoInfo
deriving DecidableEq

namespace TimingReadings

/-- What is printed for the rate, 0 without video information. -/
def fpsNum (readings : TimingReadings) : UInt32 :=
  (readings.videoInfo.map ObsVideoInfo.fpsNum).getD 0

def fpsDen (readings : TimingReadings) : UInt32 :=
  (readings.videoInfo.map ObsVideoInfo.fpsDen).getD 0

end TimingReadings

/-- What a tick reads, and whether the frame sink throws. `obs_get_lagged_frames` is read once for
the message about the cadence and once after it. -/
structure TickReadings where
  timing : TimingReadings
  videoFrameTime : MasterFramePts
  reportedLaggedFrames : UInt32
  laggedFrames : UInt32
  sinkThrows : Bool
deriving DecidableEq

/-- The lines of the log, with the values they print. -/
inductive TimelineLog where
  | startIgnored
  | started
  | stopped
  | invalidTimingConfiguration
  | timingConfiguration (fpsNum fpsDen : UInt32) (frameIntervalNs : UInt64)
  | timingConfigurationChanged (previousIntervalNs : Option UInt64) (frameIntervalNs : UInt64)
      (fpsNum fpsDen : UInt32)
  | rejected (ptsNs : MasterFramePts) (result : MasterFrameObservationResult)
  | cadenceDiscontinuity (previousPtsNs ptsNs : MasterFramePts)
      (deltaNs configuredIntervalNs : UInt64) (laggedFrames : UInt32)
  | graphicsLag (previousLaggedFrames laggedFrames : UInt32) (frame : MasterFrame)
  | masterFrame (sampled : Bool) (frame : MasterFrame)
  | sinkFailed (frame : MasterFrame)
deriving DecidableEq

inductive CoordinatorEvent where
  | logged (log : TimelineLog)
  | tickCallbackAdded
  | tickCallbackRemoved
  | dispatched (frame : MasterFrame)
deriving DecidableEq

/-- A reading that is out of the ordinary. -/
def TimelineLog.isReport : TimelineLog → Bool
  | .invalidTimingConfiguration | .cadenceDiscontinuity .. | .timingConfigurationChanged ..
  | .graphicsLag .. => true
  | _ => false

def CoordinatorEvent.frame : CoordinatorEvent → Option MasterFrame
  | .dispatched frame => some frame
  | _ => none

def CoordinatorEvent.callbackEntry : CoordinatorEvent → Option (Ledger.Entry Unit)
  | .tickCallbackAdded => some (.acquired ())
  | .tickCallbackRemoved => some (.released ())
  | _ => none

structure MasterFrameCoordinator where
  timeline : MasterFrameTimeline := {}
  timingConfiguration : MasterFrameTimingConfiguration := {}
  lastObservedPtsNs : Option MasterFramePts := none
  laggedFrames : UInt32 := 0
  invalidTimingConfigurationLogged : Bool := false
  running : Bool := false
deriving DecidableEq

namespace MasterFrameCoordinator

def refreshTimingConfiguration (coordinator : MasterFrameCoordinator) (readings : TimingReadings) :
    MasterFrameTimingConfigurationResult × List CoordinatorEvent × MasterFrameCoordinator :=
  let previousIntervalNs := coordinator.timingConfiguration.frameIntervalNs
  let (result, timingConfiguration) :=
    coordinator.timingConfiguration.observeFrameInterval readings.frameIntervalNs
  match result with
  | .invalidInterval =>
      (result,
        if coordinator.invalidTimingConfigurationLogged then []
        else [.logged .invalidTimingConfiguration],
        { coordinator with invalidTimingConfigurationLogged := true })
  | .unchanged => (result, [], { coordinator with invalidTimingConfigurationLogged := false })
  | .changed =>
      (result,
        [.logged (.timingConfigurationChanged previousIntervalNs readings.frameIntervalNs
          readings.fpsNum readings.fpsDen)],
        { coordinator with
          timingConfiguration := timingConfiguration
          invalidTimingConfigurationLogged := false })
  | .initialized =>
      (result,
        [.logged (.timingConfiguration readings.fpsNum readings.fpsDen
          readings.frameIntervalNs)],
        { coordinator with
          timingConfiguration := timingConfiguration
          invalidTimingConfigurationLogged := false })

def start (coordinator : MasterFrameCoordinator) (laggedFrames : UInt32)
    (readings : TimingReadings) : List CoordinatorEvent × MasterFrameCoordinator :=
  if coordinator.running then ([.logged .startIgnored], coordinator)
  else
    let (_, events, coordinator) :=
      { coordinator with
        timeline := coordinator.timeline.reset
        timingConfiguration := coordinator.timingConfiguration.reset
        lastObservedPtsNs := none
        laggedFrames := laggedFrames
        invalidTimingConfigurationLogged := false
        running := true }.refreshTimingConfiguration readings
    (events ++ [.tickCallbackAdded, .logged .started], coordinator)

def stop (coordinator : MasterFrameCoordinator) : List CoordinatorEvent × MasterFrameCoordinator :=
  if !coordinator.running then ([], coordinator)
  else
    ([.tickCallbackRemoved, .logged .stopped],
      { coordinator with
        running := false
        timeline := coordinator.timeline.reset
        timingConfiguration := coordinator.timingConfiguration.reset
        lastObservedPtsNs := none })

/-- The warning about two frames that are not one interval apart. -/
def cadenceEvents (coordinator : MasterFrameCoordinator)
    (timingResult : MasterFrameTimingConfigurationResult) (readings : TickReadings) :
    List CoordinatorEvent :=
  match coordinator.lastObservedPtsNs, coordinator.timingConfiguration.frameIntervalNs with
  | some lastObservedPtsNs, some frameIntervalNs =>
      let deltaNs := readings.videoFrameTime - lastObservedPtsNs
      if timingResult = .unchanged ∧ deltaNs ≠ frameIntervalNs then
        [.logged (.cadenceDiscontinuity lastObservedPtsNs readings.videoFrameTime deltaNs
          frameIntervalNs readings.reportedLaggedFrames)]
      else []
  | _, _ => []

def lagEvents (coordinator : MasterFrameCoordinator) (readings : TickReadings)
    (frame : MasterFrame) : List CoordinatorEvent :=
  if readings.laggedFrames ≠ coordinator.laggedFrames then
    [.logged (.graphicsLag coordinator.laggedFrames readings.laggedFrames frame)]
  else []

/-- The first frames, and every 300th, are logged at the level of information. -/
def sampled (frame : MasterFrame) : Bool := frame.frameId < 3 || frame.frameId % 300 == 0

def observeObsTick (coordinator : MasterFrameCoordinator) (readings : TickReadings) :
    List CoordinatorEvent × MasterFrameCoordinator :=
  if !coordinator.running then ([], coordinator)
  else
    let (timingResult, timingEvents, coordinator) :=
      coordinator.refreshTimingConfiguration readings.timing
    let ((result, observedFrame), timeline) :=
      coordinator.timeline.observe readings.videoFrameTime none
    match result, observedFrame with
    | .accepted, some frame =>
        (timingEvents ++ coordinator.cadenceEvents timingResult readings ++
            coordinator.lagEvents readings frame ++
            [.logged (.masterFrame (sampled frame) frame), .dispatched frame] ++
            (if readings.sinkThrows then [.logged (.sinkFailed frame)] else []),
          { coordinator with
            timeline := timeline
            lastObservedPtsNs := some readings.videoFrameTime
            laggedFrames := readings.laggedFrames })
    | result, _ =>
        (timingEvents ++ [.logged (.rejected readings.videoFrameTime result)],
          { coordinator with timeline := timeline })

inductive Call where
  | start (laggedFrames : UInt32) (readings : TimingReadings)
  | stop
  | tick (readings : TickReadings)
deriving DecidableEq

def step (coordinator : MasterFrameCoordinator) :
    Call → List CoordinatorEvent × MasterFrameCoordinator
  | .start laggedFrames readings => coordinator.start laggedFrames readings
  | .stop => coordinator.stop
  | .tick readings => coordinator.observeObsTick readings

abbrev Transition := Runs.Transition MasterFrameCoordinator Call (List CoordinatorEvent)

/-- A `Start` of a coordinator that is not running. -/
def opens (t : Transition) : Bool :=
  match t.input with
  | .start _ _ => !t.before.running
  | _ => false

/-- What has happened since the coordinator was last started, with the start itself. -/
def session (past : List Transition) : List Transition :=
  past.foldl (fun session t => if opens t then [t] else session ++ [t]) []

/-- The frames that a call hands to the sink. -/
def dispatched (t : Transition) : List MasterFrame :=
  t.output.filterMap CoordinatorEvent.frame

def callbackEntries (t : Transition) : List (Ledger.Entry Unit) :=
  t.output.filterMap CoordinatorEvent.callbackEntry

/-- The interval that a call reads. -/
def intervalReading (t : Transition) : Option UInt64 :=
  match t.input with
  | .start _ readings => if t.before.running then none else some readings.frameIntervalNs
  | .stop => none
  | .tick readings => if t.before.running then some readings.timing.frameIntervalNs else none

/-- The count of lagged frames that a call compares later counts with. -/
def lagReading (t : Transition) : Option UInt32 :=
  match t.input with
  | .start laggedFrames _ => if t.before.running then none else some laggedFrames
  | .stop => none
  | .tick readings => if dispatched t = [] then none else some readings.laggedFrames

def sessionFrames (past : List Transition) : List MasterFrame :=
  (session past).flatMap dispatched

def sessionIntervals (past : List Transition) : List UInt64 :=
  (session past).filterMap intervalReading

/-- The interval that is configured, as the session has last read it. -/
def configuredInterval (past : List Transition) : Option UInt64 :=
  ((sessionIntervals past).filter (· ≠ 0)).getLast?

def sessionLags (past : List Transition) : List UInt32 :=
  (session past).filterMap lagReading

/-- What a call of the coordinator asks of its timeline. -/
def timelineCalls (t : Transition) : List MasterFrameTimeline.Call :=
  match t.input with
  | .start _ _ => if t.before.running then [] else [.reset]
  | .stop => if t.before.running then [.reset] else []
  | .tick readings => if t.before.running then [.observe readings.videoFrameTime none] else []

/-- Frames that are numbered from 0 and stamped in ascending order. -/
structure Numbered (frames : List MasterFrame) : Prop where
  ids : frames.map (fun frame => frame.frameId.toNat) = List.range frames.length
  ascending : (frames.map MasterFrame.ptsNs).Pairwise (· < ·)

/-- What a call reports, exactly: an interval of zero once for each streak of such readings, and a
cadence that is not the interval only between two frames of one session and only while the
interval is as it was. -/
structure Reports (before : List Transition) (t : Transition) : Prop where
  invalid : .logged .invalidTimingConfiguration ∈ t.output ↔
    intervalReading t = some 0 ∧ (opens t ∨ (sessionIntervals before).getLast? ≠ some 0)
  cadence : ∀ previousPtsNs ptsNs deltaNs intervalNs laggedFrames,
    .logged (.cadenceDiscontinuity previousPtsNs ptsNs deltaNs intervalNs laggedFrames) ∈
        t.output ↔
      ∃ readings, t.input = .tick readings ∧ dispatched t ≠ [] ∧
        (sessionFrames before).getLast?.map MasterFrame.ptsNs = some previousPtsNs ∧
        configuredInterval before = some intervalNs ∧
        readings.timing.frameIntervalNs = intervalNs ∧ readings.videoFrameTime = ptsNs ∧
        deltaNs = ptsNs - previousPtsNs ∧ deltaNs ≠ intervalNs ∧
        readings.reportedLaggedFrames = laggedFrames
  changed : ∀ previousIntervalNs intervalNs,
    (∃ fpsNum fpsDen, .logged (.timingConfigurationChanged previousIntervalNs intervalNs
        fpsNum fpsDen) ∈ t.output) ↔
      opens t = false ∧ intervalReading t = some intervalNs ∧ intervalNs ≠ 0 ∧
        configuredInterval before = previousIntervalNs ∧ previousIntervalNs ≠ none ∧
        previousIntervalNs ≠ some intervalNs
  lag : ∀ previousLaggedFrames laggedFrames frame,
    .logged (.graphicsLag previousLaggedFrames laggedFrames frame) ∈ t.output ↔
      dispatched t = [frame] ∧ (sessionLags before).getLast? = some previousLaggedFrames ∧
        lagReading t = some laggedFrames ∧ laggedFrames ≠ previousLaggedFrames

variable {coordinator : MasterFrameCoordinator} {past : List Transition}

/-- The four outcomes of a reading of the interval. -/
theorem refreshTimingConfiguration_cases (coordinator : MasterFrameCoordinator)
    (readings : TimingReadings) :
    (readings.frameIntervalNs = 0 ∧
      coordinator.refreshTimingConfiguration readings =
        (.invalidInterval,
          if coordinator.invalidTimingConfigurationLogged then []
          else [.logged .invalidTimingConfiguration],
          { coordinator with invalidTimingConfigurationLogged := true })) ∨
    (readings.frameIntervalNs ≠ 0 ∧
      coordinator.timingConfiguration.frameIntervalNs = some readings.frameIntervalNs ∧
      coordinator.refreshTimingConfiguration readings =
        (.unchanged, [], { coordinator with invalidTimingConfigurationLogged := false })) ∨
    (readings.frameIntervalNs ≠ 0 ∧
      coordinator.timingConfiguration.frameIntervalNs ≠ some readings.frameIntervalNs ∧
      ∃ result log,
        coordinator.refreshTimingConfiguration readings =
          (result, [.logged log],
            { coordinator with
              timingConfiguration := ⟨some readings.frameIntervalNs⟩
              invalidTimingConfigurationLogged := false }) ∧
        ((coordinator.timingConfiguration.frameIntervalNs = none ∧ result = .initialized ∧
            log = .timingConfiguration readings.fpsNum readings.fpsDen
              readings.frameIntervalNs) ∨
          (coordinator.timingConfiguration.frameIntervalNs ≠ none ∧ result = .changed ∧
            log = .timingConfigurationChanged coordinator.timingConfiguration.frameIntervalNs
              readings.frameIntervalNs readings.fpsNum readings.fpsDen))) := by
  by_cases hzero : readings.frameIntervalNs = 0
  · refine Or.inl ⟨hzero, ?_⟩
    simp [refreshTimingConfiguration, MasterFrameTimingConfiguration.observeFrameInterval, hzero]
  · cases hinterval : coordinator.timingConfiguration.frameIntervalNs with
    | none =>
        refine Or.inr (Or.inr ⟨hzero, nofun, .initialized, _, ?_, Or.inl ⟨rfl, rfl, rfl⟩⟩)
        simp only [refreshTimingConfiguration, MasterFrameTimingConfiguration.observeFrameInterval,
          hzero, hinterval, if_false]
    | some current =>
        by_cases hsame : current = readings.frameIntervalNs
        · refine Or.inr (Or.inl ⟨hzero, by rw [hsame], ?_⟩)
          simp [refreshTimingConfiguration, MasterFrameTimingConfiguration.observeFrameInterval,
            hzero, hinterval, hsame]
        · refine Or.inr (Or.inr ⟨hzero, by simpa using hsame, .changed, _, ?_,
            Or.inr ⟨nofun, rfl, rfl⟩⟩)
          simp only [refreshTimingConfiguration,
            MasterFrameTimingConfiguration.observeFrameInterval, hzero, hinterval, hsame, if_false]

/-- What a reading of the interval leaves in the coordinator. -/
structure Refreshed (coordinator refreshed : MasterFrameCoordinator) (readings : TimingReadings) :
    Prop where
  timeline : refreshed.timeline = coordinator.timeline
  lastObserved : refreshed.lastObservedPtsNs = coordinator.lastObservedPtsNs
  lagged : refreshed.laggedFrames = coordinator.laggedFrames
  running : refreshed.running = coordinator.running
  interval : refreshed.timingConfiguration.frameIntervalNs =
    if readings.frameIntervalNs = 0 then coordinator.timingConfiguration.frameIntervalNs
    else some readings.frameIntervalNs
  invalidLogged : refreshed.invalidTimingConfigurationLogged = true ↔ readings.frameIntervalNs = 0

theorem refreshTimingConfiguration_refreshed (coordinator : MasterFrameCoordinator)
    (readings : TimingReadings) :
    Refreshed coordinator (coordinator.refreshTimingConfiguration readings).2.2 readings := by
  rcases coordinator.refreshTimingConfiguration_cases readings with
    ⟨hzero, hrefresh⟩ | ⟨hnonzero, hsame, hrefresh⟩ | ⟨hnonzero, -, result, log, hrefresh, -⟩
  · rw [hrefresh]
    exact ⟨rfl, rfl, rfl, rfl, by rw [if_pos hzero], by simp [hzero]⟩
  · rw [hrefresh]
    exact ⟨rfl, rfl, rfl, rfl, by rw [if_neg hnonzero, hsame], by simp [hnonzero]⟩
  · rw [hrefresh]
    exact ⟨rfl, rfl, rfl, rfl, by rw [if_neg hnonzero], by simp [hnonzero]⟩

/-- The interval is as it was when it has been read before. -/
theorem refresh_unchanged_iff {readings : TimingReadings} :
    (coordinator.refreshTimingConfiguration readings).1 = .unchanged ↔
      coordinator.timingConfiguration.frameIntervalNs = some readings.frameIntervalNs ∧
        readings.frameIntervalNs ≠ 0 := by
  rcases coordinator.refreshTimingConfiguration_cases readings with
    ⟨hzero, hrefresh⟩ | ⟨hnonzero, hsame, hrefresh⟩ |
    ⟨hnonzero, hother, result, log, hrefresh, hresult⟩
  · simp [hrefresh, hzero]
  · simp [hrefresh, hsame, hnonzero]
  · rw [hrefresh]
    rcases hresult with ⟨-, rfl, -⟩ | ⟨-, rfl, -⟩ <;> simp [hother]

/-- What a reading of the interval reports. -/
structure TimingReport (coordinator : MasterFrameCoordinator) (readings : TimingReadings)
    (events : List CoordinatorEvent) : Prop where
  frames : events.filterMap CoordinatorEvent.frame = []
  callbacks : events.filterMap CoordinatorEvent.callbackEntry = []
  invalid : .logged .invalidTimingConfiguration ∈ events ↔
    readings.frameIntervalNs = 0 ∧ coordinator.invalidTimingConfigurationLogged = false
  changed : ∀ previousIntervalNs intervalNs,
    (∃ fpsNum fpsDen, .logged (.timingConfigurationChanged previousIntervalNs intervalNs
        fpsNum fpsDen) ∈ events) ↔
      readings.frameIntervalNs = intervalNs ∧ intervalNs ≠ 0 ∧
        coordinator.timingConfiguration.frameIntervalNs = previousIntervalNs ∧
        previousIntervalNs ≠ none ∧ previousIntervalNs ≠ some intervalNs
  cadence : ∀ previousPtsNs ptsNs deltaNs intervalNs laggedFrames,
    .logged (.cadenceDiscontinuity previousPtsNs ptsNs deltaNs intervalNs laggedFrames) ∉ events
  lag : ∀ previousLaggedFrames laggedFrames frame,
    .logged (.graphicsLag previousLaggedFrames laggedFrames frame) ∉ events

theorem refreshTimingConfiguration_report (coordinator : MasterFrameCoordinator)
    (readings : TimingReadings) :
    TimingReport coordinator readings
      (coordinator.refreshTimingConfiguration readings).2.1 := by
  rcases coordinator.refreshTimingConfiguration_cases readings with
    ⟨hzero, hrefresh⟩ | ⟨hnonzero, hsame, hrefresh⟩ |
    ⟨hnonzero, hother, result, log, hrefresh, hresult⟩
  · rw [hrefresh]
    cases hlogged : coordinator.invalidTimingConfigurationLogged with
    | false =>
        constructor <;>
          simp [CoordinatorEvent.frame, CoordinatorEvent.callbackEntry, hzero, hlogged]
    | true =>
        constructor <;> simp [hzero, hlogged]
  · rw [hrefresh]
    constructor <;> simp [hnonzero, hsame]
  · rw [hrefresh]
    rcases hresult with ⟨hnone, rfl, rfl⟩ | ⟨hsome, rfl, rfl⟩
    · constructor <;>
        simp [CoordinatorEvent.frame, CoordinatorEvent.callbackEntry, hnonzero, hnone]
    · constructor <;> simp [CoordinatorEvent.frame, CoordinatorEvent.callbackEntry, hnonzero]
      rintro previousIntervalNs intervalNs
      constructor
      · rintro ⟨rfl, rfl⟩
        exact ⟨rfl, hnonzero, rfl, hsome, hother⟩
      · rintro ⟨rfl, -, rfl, -, -⟩
        exact ⟨rfl, rfl⟩

theorem start_running (laggedFrames : UInt32) (readings : TimingReadings)
    (h : coordinator.running = true) :
    coordinator.start laggedFrames readings = ([.logged .startIgnored], coordinator) := by
  simp only [start, h, if_true]

/-- What `Start` resets before it reads the interval. -/
def restarted (coordinator : MasterFrameCoordinator) (laggedFrames : UInt32) :
    MasterFrameCoordinator :=
  { coordinator with
    timeline := coordinator.timeline.reset
    timingConfiguration := coordinator.timingConfiguration.reset
    lastObservedPtsNs := none
    laggedFrames := laggedFrames
    invalidTimingConfigurationLogged := false
    running := true }

theorem start_stopped (laggedFrames : UInt32) (readings : TimingReadings)
    (h : coordinator.running = false) :
    coordinator.start laggedFrames readings =
      (((coordinator.restarted laggedFrames).refreshTimingConfiguration readings).2.1 ++
          [.tickCallbackAdded, .logged .started],
        ((coordinator.restarted laggedFrames).refreshTimingConfiguration readings).2.2) := by
  simp only [start, h, Bool.false_eq_true, if_false]
  rfl

theorem stop_running (h : coordinator.running = true) :
    coordinator.stop = ([.tickCallbackRemoved, .logged .stopped],
      { coordinator with
        running := false
        timeline := {}
        timingConfiguration := {}
        lastObservedPtsNs := none }) := by
  simp only [stop, h, Bool.not_true, Bool.false_eq_true, if_false]
  rfl

theorem stop_stopped (h : coordinator.running = false) : coordinator.stop = ([], coordinator) := by
  simp only [stop, h, Bool.not_false, if_true]

theorem observeObsTick_stopped (readings : TickReadings) (h : coordinator.running = false) :
    coordinator.observeObsTick readings = ([], coordinator) := by
  simp only [observeObsTick, h, Bool.not_false, if_true]

/-- A tick of a running coordinator reads the interval, and then dispatches the frame that the
timeline issues or reports that it issues none. -/
theorem observeObsTick_running (readings : TickReadings) (h : coordinator.running = true) :
    ∃ timingResult timingEvents refreshed,
      coordinator.refreshTimingConfiguration readings.timing =
        (timingResult, timingEvents, refreshed) ∧
      ((∃ result, result ≠ .accepted ∧
          coordinator.timeline.observe readings.videoFrameTime none =
            ((result, none), coordinator.timeline) ∧
          coordinator.observeObsTick readings =
            (timingEvents ++ [.logged (.rejected readings.videoFrameTime result)], refreshed)) ∨
        (∃ frame timeline, frame.ptsNs = readings.videoFrameTime ∧
          coordinator.timeline.observe readings.videoFrameTime none =
            ((.accepted, some frame), timeline) ∧
          coordinator.observeObsTick readings =
            (timingEvents ++ refreshed.cadenceEvents timingResult readings ++
                refreshed.lagEvents readings frame ++
                [.logged (.masterFrame (sampled frame) frame), .dispatched frame] ++
                (if readings.sinkThrows then [.logged (.sinkFailed frame)] else []),
              { refreshed with
                timeline := timeline
                lastObservedPtsNs := some readings.videoFrameTime
                laggedFrames := readings.laggedFrames }))) := by
  have hrefreshed := coordinator.refreshTimingConfiguration_refreshed readings.timing
  generalize hrefresh : coordinator.refreshTimingConfiguration readings.timing = refresh
    at hrefreshed
  obtain ⟨timingResult, timingEvents, refreshed⟩ := refresh
  refine ⟨timingResult, timingEvents, refreshed, rfl, ?_⟩
  have htimeline : refreshed.timeline = coordinator.timeline := hrefreshed.timeline
  rcases coordinator.timeline.observe_cases readings.videoFrameTime none with
    ⟨-, hobserve⟩ | ⟨-, -, hobserve⟩ | ⟨-, -, timeline, hobserve, -⟩
  · refine Or.inl ⟨.frameIdExhausted, nofun, hobserve, ?_⟩
    simp only [observeObsTick, h, hrefresh, htimeline, hobserve, Bool.not_true,
      Bool.false_eq_true, if_false]
    rw [← htimeline]
  · refine Or.inl ⟨.nonMonotonicPts, nofun, hobserve, ?_⟩
    simp only [observeObsTick, h, hrefresh, htimeline, hobserve, Bool.not_true,
      Bool.false_eq_true, if_false]
    rw [← htimeline]
  · refine Or.inr ⟨_, timeline, rfl, hobserve, ?_⟩
    simp only [observeObsTick, h, hrefresh, htimeline, hobserve, Bool.not_true,
      Bool.false_eq_true, if_false]

/-- What a run of the coordinator makes its timeline do. -/
def timelineHistory (past : List Transition) : List MasterFrameTimeline.Transition :=
  Runs.history MasterFrameTimeline.step {} (past.flatMap timelineCalls)

theorem session_concat (t : Transition) :
    session (past ++ [t]) = if opens t then [t] else session past ++ [t] := by
  unfold session
  rw [List.foldl_append]
  rfl

theorem sessionFrames_concat {t : Transition} (h : opens t = false) :
    sessionFrames (past ++ [t]) = sessionFrames past ++ dispatched t := by
  simp [sessionFrames, session_concat, h]

theorem sessionFrames_opens {t : Transition} (h : opens t = true) :
    sessionFrames (past ++ [t]) = dispatched t := by
  simp [sessionFrames, session_concat, h]

theorem timelineHistory_concat (past : List Transition) {t : Transition}
    {call : MasterFrameTimeline.Call} (hcalls : timelineCalls t = [call]) :
    timelineHistory (past ++ [t]) = timelineHistory past ++
      [Runs.transition MasterFrameTimeline.step
        (Runs.exec MasterFrameTimeline.step {} (past.flatMap timelineCalls)) call] := by
  simp [timelineHistory, Runs.history_append, Runs.history, hcalls]

/-- The timeline has done what the calls of the coordinator asked of it, and the frames it has
issued are those that went to the sink. -/
structure FollowsTimeline (past : List Transition) (coordinator : MasterFrameCoordinator) :
    Prop where
  timeline : coordinator.timeline =
    Runs.exec MasterFrameTimeline.step {} (past.flatMap timelineCalls)
  frames : past.flatMap dispatched =
    (timelineHistory past).filterMap MasterFrameTimeline.acceptedFrame
  current : coordinator.running = true →
    sessionFrames past = MasterFrameTimeline.issued (timelineHistory past)
  numbered : Numbered (sessionFrames past)
  callbacks : Ledger.Settles 0 (past.flatMap callbackEntries)
    (if coordinator.running then {()} else 0)

/-- A call that asks nothing of the timeline and dispatches nothing. -/
theorem FollowsTimeline.quiet {after : MasterFrameCoordinator} {t : Transition}
    (h : FollowsTimeline past coordinator) (htimeline : after.timeline = coordinator.timeline)
    (hrunning : after.running = coordinator.running) (hopens : opens t = false)
    (hcalls : timelineCalls t = []) (hdispatched : dispatched t = [])
    (hentries : callbackEntries t = []) : FollowsTimeline (past ++ [t]) after := by
  have hhistory : timelineHistory (past ++ [t]) = timelineHistory past := by
    simp [timelineHistory, hcalls]
  have hframes : sessionFrames (past ++ [t]) = sessionFrames past := by
    rw [sessionFrames_concat hopens, hdispatched, List.append_nil]
  constructor
  · simpa [hcalls, htimeline] using h.timeline
  · simpa [hhistory, hdispatched] using h.frames
  · intro hrun
    rw [hhistory, hframes]
    exact h.current (hrunning ▸ hrun)
  · rw [hframes]
    exact h.numbered
  · simpa [hentries, hrunning] using h.callbacks

theorem numbered_nil : Numbered [] := ⟨rfl, List.Pairwise.nil⟩

/-- The frames that the timeline has issued since it was last reset. -/
theorem numbered_issued (calls : List MasterFrameTimeline.Call) :
    Numbered (MasterFrameTimeline.issued (Runs.history MasterFrameTimeline.step {} calls)) := by
  have hrun : Runs.Run MasterFrameTimeline.step {} _ _ :=
    Runs.run_exec ({} : MasterFrameTimeline) calls
  have hcounts := MasterFrameTimeline.counts_run hrun
  refine ⟨hcounts.inOrder.ids, ?_⟩
  rw [hcounts.inOrder.observed]
  exact hcounts.inOrder.ascending

theorem FollowsTimeline.started (h : FollowsTimeline past coordinator) (laggedFrames : UInt32)
    (readings : TimingReadings) (hrunning : coordinator.running = false) :
    FollowsTimeline
      (past ++ [Runs.transition step coordinator (.start laggedFrames readings)])
      (coordinator.start laggedFrames readings).2 := by
  have hstart := start_stopped laggedFrames readings hrunning
  have hrefreshed :=
    (coordinator.restarted laggedFrames).refreshTimingConfiguration_refreshed readings
  have hreport := (coordinator.restarted laggedFrames).refreshTimingConfiguration_report readings
  generalize ht : Runs.transition step coordinator (.start laggedFrames readings) = t
  have hopens : opens t = true := by
    rw [← ht]
    simp [opens, Runs.transition, hrunning]
  have hcalls : timelineCalls t = [.reset] := by
    rw [← ht]
    simp [timelineCalls, Runs.transition, hrunning]
  have hdispatched : dispatched t = [] := by
    rw [← ht]
    simp [dispatched, Runs.transition, step, hstart, hreport.frames, CoordinatorEvent.frame]
  have hentries : callbackEntries t = [.acquired ()] := by
    rw [← ht]
    simp [callbackEntries, Runs.transition, step, hstart, hreport.callbacks,
      CoordinatorEvent.callbackEntry]
  have hhistory := timelineHistory_concat past hcalls
  have hissued : MasterFrameTimeline.issued (timelineHistory (past ++ [t])) = [] := by
    rw [hhistory, MasterFrameTimeline.issued, MasterFrameTimeline.sinceReset_reset rfl]
    rfl
  rw [hstart]
  constructor
  · rw [hrefreshed.timeline, List.flatMap_append, Runs.exec_append]
    simp [hcalls, MasterFrameTimeline.step, restarted, MasterFrameTimeline.reset]
  · rw [hhistory, List.filterMap_append, List.flatMap_append, h.frames]
    simp [hdispatched, MasterFrameTimeline.acceptedFrame, Runs.transition,
      MasterFrameTimeline.step]
  · intro _
    rw [sessionFrames_opens hopens, hdispatched, hissued]
  · rw [sessionFrames_opens hopens, hdispatched]
    exact numbered_nil
  · have hcallbacks := h.callbacks
    rw [hrunning, if_neg (by simp)] at hcallbacks
    rw [hrefreshed.running, List.flatMap_append]
    refine hcallbacks.trans ?_
    simpa [hentries, restarted] using Ledger.settles_acquired () 0

theorem FollowsTimeline.stopped (h : FollowsTimeline past coordinator)
    (hrunning : coordinator.running = true) :
    FollowsTimeline (past ++ [Runs.transition step coordinator .stop]) coordinator.stop.2 := by
  have hstop := stop_running hrunning
  generalize ht : Runs.transition step coordinator .stop = t
  have hopens : opens t = false := by
    rw [← ht]
    rfl
  have hcalls : timelineCalls t = [.reset] := by
    rw [← ht]
    simp [timelineCalls, Runs.transition, hrunning]
  have hdispatched : dispatched t = [] := by
    rw [← ht]
    simp [dispatched, Runs.transition, step, hstop, CoordinatorEvent.frame]
  have hentries : callbackEntries t = [.released ()] := by
    rw [← ht]
    simp [callbackEntries, Runs.transition, step, hstop, CoordinatorEvent.callbackEntry]
  rw [hstop]
  constructor
  · rw [List.flatMap_append, Runs.exec_append]
    simp [hcalls, MasterFrameTimeline.step, MasterFrameTimeline.reset]
  · rw [timelineHistory_concat past hcalls, List.filterMap_append, List.flatMap_append, h.frames]
    simp [hdispatched, MasterFrameTimeline.acceptedFrame, Runs.transition,
      MasterFrameTimeline.step]
  · intro hrun
    cases hrun
  · rw [sessionFrames_concat hopens, hdispatched, List.append_nil]
    exact h.numbered
  · have hcallbacks := h.callbacks
    rw [hrunning, if_pos rfl] at hcallbacks
    rw [List.flatMap_append]
    refine hcallbacks.trans ?_
    simpa [hentries] using Ledger.settles_released () 0

/-- The frame that a tick dispatches is the one that the timeline issues for its time stamp. -/
theorem dispatched_tick (readings : TickReadings) (hrunning : coordinator.running = true) :
    (dispatched (Runs.transition step coordinator (.tick readings))) =
        (MasterFrameTimeline.acceptedFrame (Runs.transition MasterFrameTimeline.step
          coordinator.timeline (.observe readings.videoFrameTime none))).toList ∧
      callbackEntries (Runs.transition step coordinator (.tick readings)) = [] ∧
      (coordinator.observeObsTick readings).2.timeline =
        (coordinator.timeline.step (.observe readings.videoFrameTime none)).2 ∧
      (coordinator.observeObsTick readings).2.running = true := by
  obtain ⟨timingResult, timingEvents, refreshed, hrefresh, hcases⟩ :=
    observeObsTick_running readings hrunning
  have hrefreshed := coordinator.refreshTimingConfiguration_refreshed readings.timing
  have hreport := coordinator.refreshTimingConfiguration_report readings.timing
  rw [hrefresh] at hrefreshed hreport
  rcases hcases with ⟨result, hrefused, hobserve, htick⟩ | ⟨frame, timeline, -, hobserve, htick⟩
  · simp only [dispatched, callbackEntries, Runs.transition, step, htick, hobserve,
      MasterFrameTimeline.step, List.filterMap_append, hreport.frames, hreport.callbacks]
    refine ⟨?_, rfl, hrefreshed.timeline, hrefreshed.running.trans hrunning⟩
    cases result with
    | accepted => exact absurd rfl hrefused
    | nonMonotonicPts => rfl
    | frameIdExhausted => rfl
  · simp only [dispatched, callbackEntries, Runs.transition, step, htick, hobserve,
      MasterFrameTimeline.step, List.filterMap_append, hreport.frames, hreport.callbacks]
    have hcadence : (refreshed.cadenceEvents timingResult readings).filterMap
        CoordinatorEvent.frame = [] ∧ (refreshed.cadenceEvents timingResult readings).filterMap
          CoordinatorEvent.callbackEntry = [] := by
      unfold cadenceEvents
      split
      · dsimp only
        split_ifs <;> exact ⟨rfl, rfl⟩
      · exact ⟨rfl, rfl⟩
    have hlag : (refreshed.lagEvents readings frame).filterMap CoordinatorEvent.frame = [] ∧
        (refreshed.lagEvents readings frame).filterMap CoordinatorEvent.callbackEntry = [] := by
      unfold lagEvents
      split_ifs <;> exact ⟨rfl, rfl⟩
    rw [hcadence.1, hcadence.2, hlag.1, hlag.2]
    refine ⟨?_, ?_, trivial, hrefreshed.running.trans hrunning⟩ <;>
      cases readings.sinkThrows <;> rfl

theorem FollowsTimeline.ticked (h : FollowsTimeline past coordinator) (readings : TickReadings)
    (hrunning : coordinator.running = true) :
    FollowsTimeline (past ++ [Runs.transition step coordinator (.tick readings)])
      (coordinator.observeObsTick readings).2 := by
  obtain ⟨hdispatched, hentries, htimeline, hstill⟩ := dispatched_tick readings hrunning
  generalize ht : Runs.transition step coordinator (.tick readings) = t at hdispatched hentries ⊢
  have hopens : opens t = false := by
    rw [← ht]
    rfl
  have hcalls : timelineCalls t = [.observe readings.videoFrameTime none] := by
    rw [← ht]
    simp [timelineCalls, Runs.transition, hrunning]
  have hhistory := timelineHistory_concat past hcalls
  rw [← h.timeline] at hhistory
  have hissued : MasterFrameTimeline.issued (timelineHistory (past ++ [t])) =
      sessionFrames (past ++ [t]) := by
    rw [sessionFrames_concat hopens, h.current hrunning, hdispatched, hhistory,
      MasterFrameTimeline.issued, MasterFrameTimeline.sinceReset_observe (by simp [Runs.transition]),
      List.filterMap_append]
    cases hframe : MasterFrameTimeline.acceptedFrame (Runs.transition MasterFrameTimeline.step
      coordinator.timeline (.observe readings.videoFrameTime none)) <;>
      simp [MasterFrameTimeline.issued, hframe]
  constructor
  · rw [htimeline, List.flatMap_append, Runs.exec_append, ← h.timeline]
    simp [hcalls]
  · rw [hhistory, List.filterMap_append, List.flatMap_append, h.frames]
    cases hframe : MasterFrameTimeline.acceptedFrame (Runs.transition MasterFrameTimeline.step
      coordinator.timeline (.observe readings.videoFrameTime none)) <;>
      simp [hdispatched, hframe]
  · intro _
    exact hissued.symm
  · rw [← hissued]
    exact numbered_issued _
  · have hcallbacks := h.callbacks
    rw [List.flatMap_append, hstill]
    simpa [hentries, hrunning] using hcallbacks

theorem followsTimeline_run (hrun : Runs.Run step {} past coordinator) :
    FollowsTimeline past coordinator := by
  apply hrun.invariant (P := fun past coordinator => FollowsTimeline past coordinator)
  · exact ⟨rfl, rfl, nofun, numbered_nil, .nil 0⟩
  · intro past coordinator call _ h
    cases hrunning : coordinator.running with
    | false =>
        cases call with
        | start laggedFrames readings => exact h.started laggedFrames readings hrunning
        | stop =>
            have hstop := stop_stopped hrunning
            apply h.quiet <;> simp [step, hstop, opens, timelineCalls, dispatched,
              callbackEntries, Runs.transition, hrunning]
        | tick readings =>
            have htick := observeObsTick_stopped readings hrunning
            apply h.quiet <;> simp [step, htick, opens, timelineCalls, dispatched,
              callbackEntries, Runs.transition, hrunning]
    | true =>
        cases call with
        | start laggedFrames readings =>
            have hstart := start_running laggedFrames readings hrunning
            apply h.quiet <;> simp [step, hstart, opens, timelineCalls, dispatched,
              callbackEntries, Runs.transition, hrunning, CoordinatorEvent.frame,
              CoordinatorEvent.callbackEntry]
        | stop => exact h.stopped hrunning
        | tick readings => exact h.ticked readings hrunning

/-- In every run, whatever the intervals, the counts of lagged frames and the failures of the sink
are: the frames that go to the sink are those that a timeline issues that is reset when the
coordinator starts and stops and observes the time stamps in between; in each session they are
numbered from 0 and their time stamps ascend; and the tick callback is registered exactly while
the coordinator runs. -/
theorem coordinator_dispatches_timeline (hrun : Runs.Run step {} past coordinator) :
    coordinator.timeline = Runs.exec MasterFrameTimeline.step {} (past.flatMap timelineCalls) ∧
      past.flatMap dispatched =
        (timelineHistory past).filterMap MasterFrameTimeline.acceptedFrame ∧
      Numbered (sessionFrames past) ∧
      Ledger.Settles 0 (past.flatMap callbackEntries)
        (if coordinator.running then {()} else 0) := by
  have h := followsTimeline_run hrun
  exact ⟨h.timeline, h.frames, h.numbered, h.callbacks⟩

/-- Two ticks of a session, a change of the rate, a sink that throws, and a new session. -/
def sampleCalls : List Call :=
  let readings : TickReadings := ⟨⟨10, none⟩, 100, 0, 0, false⟩
  [.start 0 ⟨10, none⟩, .tick readings, .tick { readings with videoFrameTime := 110 },
    .tick { readings with timing := ⟨20, none⟩, videoFrameTime := 125, sinkThrows := true },
    .stop, .start 0 ⟨0, none⟩, .tick { readings with videoFrameTime := 50 }]

theorem coordinator_dispatches_timeline_sample :
    sessionFrames (Runs.history step {} sampleCalls) = [⟨0, 50⟩] ∧
      Numbered (sessionFrames (Runs.history step {} sampleCalls)) :=
  ⟨by decide, (coordinator_dispatches_timeline (Runs.run_exec _ sampleCalls)).2.2.1⟩

/-! ### Two runs on the same time stamps -/

/-- What a call shows to the timeline. -/
def Call.timelineView : Call → Call
  | .start _ _ => .start 0 ⟨0, none⟩
  | .stop => .stop
  | .tick readings => .tick ⟨⟨0, none⟩, readings.videoFrameTime, 0, 0, false⟩

/-- Coordinators that a timeline cannot tell apart. -/
structure SameTimeline (coordinator other : MasterFrameCoordinator) : Prop where
  timeline : coordinator.timeline = other.timeline
  running : coordinator.running = other.running

theorem SameTimeline.step {other : MasterFrameCoordinator} (h : SameTimeline coordinator other)
    {call call' : Call} (hview : call.timelineView = call'.timelineView) :
    dispatched (Runs.transition MasterFrameCoordinator.step coordinator call) =
        dispatched (Runs.transition MasterFrameCoordinator.step other call') ∧
      SameTimeline (coordinator.step call).2 (other.step call').2 := by
  cases hrunning : coordinator.running with
  | false =>
      have hother : other.running = false := h.running.symm.trans hrunning
      cases call <;> cases call' <;> simp only [Call.timelineView, reduceCtorEq] at hview
      case start.start laggedFrames readings laggedFrames' readings' =>
        have hleft := (coordinator.restarted laggedFrames).refreshTimingConfiguration_report readings
        have hright := (other.restarted laggedFrames').refreshTimingConfiguration_report readings'
        have hleft' :=
          (coordinator.restarted laggedFrames).refreshTimingConfiguration_refreshed readings
        have hright' :=
          (other.restarted laggedFrames').refreshTimingConfiguration_refreshed readings'
        simp only [dispatched, Runs.transition, MasterFrameCoordinator.step,
          start_stopped _ _ hrunning, start_stopped _ _ hother, List.filterMap_append,
          hleft.frames, hright.frames]
        refine ⟨trivial, ?_, ?_⟩
        · rw [hleft'.timeline, hright'.timeline]
          rfl
        · rw [hleft'.running, hright'.running]
          rfl
      case stop.stop =>
        simp only [dispatched, Runs.transition, MasterFrameCoordinator.step,
          stop_stopped hrunning, stop_stopped hother]
        exact ⟨trivial, h⟩
      case tick.tick readings readings' =>
        simp only [dispatched, Runs.transition, MasterFrameCoordinator.step,
          observeObsTick_stopped _ hrunning, observeObsTick_stopped _ hother]
        exact ⟨trivial, h⟩
  | true =>
      have hother : other.running = true := h.running.symm.trans hrunning
      cases call <;> cases call' <;> simp only [Call.timelineView, reduceCtorEq] at hview
      case start.start laggedFrames readings laggedFrames' readings' =>
        simp only [dispatched, Runs.transition, MasterFrameCoordinator.step,
          start_running _ _ hrunning, start_running _ _ hother]
        exact ⟨trivial, h⟩
      case stop.stop =>
        simp only [dispatched, Runs.transition, MasterFrameCoordinator.step,
          stop_running hrunning, stop_running hother]
        exact ⟨trivial, rfl, rfl⟩
      case tick.tick readings readings' =>
        have hpts : readings.videoFrameTime = readings'.videoFrameTime := by
          simpa using hview
        obtain ⟨hframe, -, htimeline, hstill⟩ := dispatched_tick readings hrunning
        obtain ⟨hframe', -, htimeline', hstill'⟩ := dispatched_tick readings' hother
        rw [hframe, hframe', h.timeline, hpts]
        refine ⟨rfl, ?_, hstill.trans hstill'.symm⟩
        rw [MasterFrameCoordinator.step, MasterFrameCoordinator.step, htimeline, htimeline',
          h.timeline, hpts]

/-- The frames of a run depend on when the coordinator is started and stopped and on the time
stamps, and on nothing else: no change of the rate, no lag and no failure of the sink rebases
them. -/
theorem dispatch_depends_on_timestamps {calls calls' : List Call}
    (hviews : calls.map Call.timelineView = calls'.map Call.timelineView) :
    (Runs.history step {} calls).map dispatched =
      (Runs.history step {} calls').map dispatched := by
  suffices hsame : ∀ coordinator other, SameTimeline coordinator other →
      (Runs.history step coordinator calls).map dispatched =
        (Runs.history step other calls').map dispatched from hsame {} {} ⟨rfl, rfl⟩
  induction calls generalizing calls' with
  | nil =>
      intro coordinator other _
      obtain rfl : calls' = [] := List.map_eq_nil_iff.mp hviews.symm
      rfl
  | cons call calls ih =>
      intro coordinator other h
      cases calls' with
      | nil => cases hviews
      | cons call' calls' =>
          rw [List.map_cons, List.map_cons, List.cons.injEq] at hviews
          obtain ⟨hframes, hnext⟩ := h.step hviews.1
          rw [Runs.history, Runs.history, List.map_cons, List.map_cons, hframes]
          exact congrArg _ (ih hviews.2 _ _ hnext)

theorem dispatch_depends_on_timestamps_sample :
    (Runs.history step {} sampleCalls).map dispatched =
      (Runs.history step {} (sampleCalls.map Call.timelineView)).map dispatched :=
  dispatch_depends_on_timestamps (by decide)

theorem sessionIntervals_concat (t : Transition) :
    sessionIntervals (past ++ [t]) =
      if opens t then (intervalReading t).toList
      else sessionIntervals past ++ (intervalReading t).toList := by
  unfold sessionIntervals
  rw [session_concat]
  split_ifs <;> cases hreading : intervalReading t <;> simp [hreading]

theorem sessionLags_concat (t : Transition) :
    sessionLags (past ++ [t]) =
      if opens t then (lagReading t).toList else sessionLags past ++ (lagReading t).toList := by
  unfold sessionLags
  rw [session_concat]
  split_ifs <;> cases hreading : lagReading t <;> simp [hreading]

/-- While it runs, the coordinator remembers the last readings of the session. -/
structure Remembers (past : List Transition) (coordinator : MasterFrameCoordinator) : Prop where
  lastObserved : coordinator.lastObservedPtsNs =
    (sessionFrames past).getLast?.map MasterFrame.ptsNs
  interval : coordinator.timingConfiguration.frameIntervalNs = configuredInterval past
  invalidLogged : coordinator.invalidTimingConfigurationLogged = true ↔
    (sessionIntervals past).getLast? = some 0
  lagged : (sessionLags past).getLast? = some coordinator.laggedFrames

/-- The interval that a reading leaves configured. -/
theorem configuredInterval_reading {t : Transition} {frameIntervalNs : UInt64}
    (hreading : intervalReading t = some frameIntervalNs) (hopens : opens t = false) :
    configuredInterval (past ++ [t]) =
      if frameIntervalNs = 0 then configuredInterval past else some frameIntervalNs := by
  unfold configuredInterval
  rw [sessionIntervals_concat, hopens, hreading, if_neg (by simp), List.filter_append]
  by_cases hzero : frameIntervalNs = 0 <;> simp [hzero]

theorem remembers_start (laggedFrames : UInt32) (readings : TimingReadings)
    (hrunning : coordinator.running = false) :
    Remembers (past ++ [Runs.transition step coordinator (.start laggedFrames readings)])
      (coordinator.start laggedFrames readings).2 := by
  have hstart := start_stopped laggedFrames readings hrunning
  have hrefreshed :=
    (coordinator.restarted laggedFrames).refreshTimingConfiguration_refreshed readings
  have hreport := (coordinator.restarted laggedFrames).refreshTimingConfiguration_report readings
  generalize ht : Runs.transition step coordinator (.start laggedFrames readings) = t
  have hopens : opens t = true := by
    rw [← ht]
    simp [opens, Runs.transition, hrunning]
  have hreading : intervalReading t = some readings.frameIntervalNs := by
    rw [← ht]
    simp [intervalReading, Runs.transition, hrunning]
  have hlag : lagReading t = some laggedFrames := by
    rw [← ht]
    simp [lagReading, Runs.transition, hrunning]
  have hdispatched : dispatched t = [] := by
    rw [← ht]
    simp [dispatched, Runs.transition, step, hstart, hreport.frames, CoordinatorEvent.frame]
  rw [hstart]
  constructor
  · rw [hrefreshed.lastObserved, sessionFrames_opens hopens, hdispatched]
    rfl
  · rw [hrefreshed.interval, configuredInterval, sessionIntervals_concat, hopens, hreading]
    by_cases hzero : readings.frameIntervalNs = 0 <;>
      simp [restarted, MasterFrameTimingConfiguration.reset, hzero]
  · rw [hrefreshed.invalidLogged, sessionIntervals_concat, hopens, hreading]
    simp
  · rw [hrefreshed.lagged, sessionLags_concat, hopens, hlag]
    simp [restarted]

theorem Remembers.quiet {t : Transition} (h : Remembers past coordinator)
    (hopens : opens t = false) (hdispatched : dispatched t = [])
    (hreading : intervalReading t = none) (hlag : lagReading t = none) :
    Remembers (past ++ [t]) coordinator := by
  have hframes : sessionFrames (past ++ [t]) = sessionFrames past := by
    rw [sessionFrames_concat hopens, hdispatched, List.append_nil]
  have hintervals : sessionIntervals (past ++ [t]) = sessionIntervals past := by
    simp [sessionIntervals_concat, hopens, hreading]
  have hlags : sessionLags (past ++ [t]) = sessionLags past := by
    simp [sessionLags_concat, hopens, hlag]
  constructor
  · rw [hframes]
    exact h.lastObserved
  · rw [configuredInterval, hintervals]
    exact h.interval
  · rw [hintervals]
    exact h.invalidLogged
  · rw [hlags]
    exact h.lagged

/-- A tick of a running coordinator, with what it dispatches. -/
theorem tick_cases (readings : TickReadings) (hrunning : coordinator.running = true) :
    ∃ timingResult timingEvents refreshed,
      coordinator.refreshTimingConfiguration readings.timing =
        (timingResult, timingEvents, refreshed) ∧
      ((dispatched (Runs.transition step coordinator (.tick readings)) = [] ∧
          ∃ result, coordinator.step (.tick readings) =
            (timingEvents ++ [.logged (.rejected readings.videoFrameTime result)], refreshed)) ∨
        (∃ frame timeline, frame.ptsNs = readings.videoFrameTime ∧
          dispatched (Runs.transition step coordinator (.tick readings)) = [frame] ∧
          coordinator.step (.tick readings) =
            (timingEvents ++ refreshed.cadenceEvents timingResult readings ++
                refreshed.lagEvents readings frame ++
                [.logged (.masterFrame (sampled frame) frame), .dispatched frame] ++
                (if readings.sinkThrows then [.logged (.sinkFailed frame)] else []),
              { refreshed with
                timeline := timeline
                lastObservedPtsNs := some readings.videoFrameTime
                laggedFrames := readings.laggedFrames }))) := by
  obtain ⟨timingResult, timingEvents, refreshed, hrefresh, hcases⟩ :=
    observeObsTick_running readings hrunning
  obtain ⟨hdispatched, -⟩ := dispatched_tick readings hrunning
  refine ⟨timingResult, timingEvents, refreshed, hrefresh, ?_⟩
  rcases hcases with
    ⟨result, hrefused, hobserve, htick⟩ | ⟨frame, timeline, hpts, hobserve, htick⟩
  · refine Or.inl ⟨?_, result, htick⟩
    rw [hdispatched]
    simp only [Runs.transition, MasterFrameTimeline.step, hobserve]
    cases result with
    | accepted => exact absurd rfl hrefused
    | nonMonotonicPts => rfl
    | frameIdExhausted => rfl
  · refine Or.inr ⟨frame, timeline, hpts, ?_, htick⟩
    rw [hdispatched]
    simp only [Runs.transition, MasterFrameTimeline.step, hobserve]
    rfl

theorem Remembers.tick (h : Remembers past coordinator) (readings : TickReadings)
    (hrunning : coordinator.running = true) :
    Remembers (past ++ [Runs.transition step coordinator (.tick readings)])
      (coordinator.step (.tick readings)).2 := by
  obtain ⟨timingResult, timingEvents, refreshed, hrefresh, hcases⟩ := tick_cases readings hrunning
  have hrefreshed := coordinator.refreshTimingConfiguration_refreshed readings.timing
  rw [hrefresh] at hrefreshed
  generalize ht : Runs.transition step coordinator (.tick readings) = t at hcases
  have hinput : t.input = .tick readings := by rw [← ht]; rfl
  have hopens : opens t = false := by
    rw [opens, hinput]
  have hreading : intervalReading t = some readings.timing.frameIntervalNs := by
    rw [← ht]
    simp [intervalReading, Runs.transition, hrunning]
  have hinterval : refreshed.timingConfiguration.frameIntervalNs =
      configuredInterval (past ++ [t]) := by
    rw [configuredInterval_reading hreading hopens, ← h.interval]
    exact hrefreshed.interval
  have hinvalid : refreshed.invalidTimingConfigurationLogged = true ↔
      (sessionIntervals (past ++ [t])).getLast? = some 0 := by
    rw [hrefreshed.invalidLogged, sessionIntervals_concat, hopens, hreading]
    simp
  rcases hcases with ⟨hdispatched, result, htick⟩ | ⟨frame, timeline, hpts, hdispatched, htick⟩
  · have hlag : lagReading t = none := by
      rw [lagReading, hinput]
      exact if_pos hdispatched
    rw [htick]
    refine ⟨?_, hinterval, hinvalid, ?_⟩
    · rw [sessionFrames_concat hopens, hdispatched, List.append_nil, hrefreshed.lastObserved]
      exact h.lastObserved
    · rw [sessionLags_concat, hopens, hlag, hrefreshed.lagged]
      simpa using h.lagged
  · have hlag : lagReading t = some readings.laggedFrames := by
      rw [lagReading, hinput]
      exact if_neg (by simp [hdispatched])
    rw [htick]
    refine ⟨?_, hinterval, hinvalid, ?_⟩
    · rw [sessionFrames_concat hopens, hdispatched, List.getLast?_concat, Option.map_some, hpts]
    · rw [sessionLags_concat, hopens, hlag]
      simp

theorem remembers_run (hrun : Runs.Run step {} past coordinator)
    (hrunning : coordinator.running = true) : Remembers past coordinator := by
  apply hrun.invariant (P := fun past coordinator =>
    coordinator.running = true → Remembers past coordinator) _ _ hrunning
  · intro hrun
    cases hrun
  · intro past coordinator call _ h
    cases hrunning : coordinator.running with
    | false =>
        cases call with
        | start laggedFrames readings =>
            exact fun _ => remembers_start laggedFrames readings hrunning
        | stop =>
            have hstop := stop_stopped hrunning
            simp [step, hstop, hrunning]
        | tick readings =>
            have htick := observeObsTick_stopped readings hrunning
            simp [step, htick, hrunning]
    | true =>
        cases call with
        | start laggedFrames readings =>
            intro _
            have hstart := start_running laggedFrames readings hrunning
            simp only [step, hstart]
            apply (h hrunning).quiet <;>
              simp [opens, dispatched, intervalReading, lagReading, Runs.transition, step, hstart,
                hrunning, CoordinatorEvent.frame]
        | stop =>
            have hstop := stop_running hrunning
            simp [step, hstop]
        | tick readings => exact fun _ => (h hrunning).tick readings hrunning

/-- A call that reads nothing reports nothing. -/
theorem reports_quiet {t : Transition}
    (houtput : ∀ log, .logged log ∈ t.output → log.isReport = false)
    (hdispatched : dispatched t = []) (hreading : intervalReading t = none) : Reports past t := by
  constructor
  · rw [hreading]
    exact ⟨fun hlog => (by cases houtput _ hlog), fun h => (by cases h.1)⟩
  · intro previousPtsNs ptsNs deltaNs intervalNs laggedFrames
    constructor
    · intro hlog
      cases houtput _ hlog
    · rintro ⟨readings, -, hne, -⟩
      exact absurd hdispatched hne
  · intro previousIntervalNs intervalNs
    rw [hreading]
    constructor
    · rintro ⟨fpsNum, fpsDen, hlog⟩
      cases houtput _ hlog
    · rintro ⟨-, hnone, -⟩
      cases hnone
  · intro previousLaggedFrames laggedFrames frame
    rw [hdispatched]
    constructor
    · intro hlog
      cases houtput _ hlog
    · rintro ⟨hnone, -⟩
      cases hnone

theorem reports_start (laggedFrames : UInt32) (readings : TimingReadings)
    (hrunning : coordinator.running = false) :
    Reports past (Runs.transition step coordinator (.start laggedFrames readings)) := by
  have hstart := start_stopped laggedFrames readings hrunning
  have hreport := (coordinator.restarted laggedFrames).refreshTimingConfiguration_report readings
  have hdispatched :
      dispatched (Runs.transition step coordinator (.start laggedFrames readings)) = [] := by
    simp [dispatched, Runs.transition, step, hstart, hreport.frames, CoordinatorEvent.frame]
  constructor
  · have hinvalid := hreport.invalid
    simp only [Runs.transition, step, hstart, List.mem_append, hinvalid]
    simp [intervalReading, opens, hrunning, restarted]
  · intro previousPtsNs ptsNs deltaNs intervalNs lagged
    simp [Runs.transition, step, hstart, hreport.cadence]
  · intro previousIntervalNs intervalNs
    have hnone := hreport.changed previousIntervalNs intervalNs
    simp only [restarted, MasterFrameTimingConfiguration.reset] at hnone
    simp only [Runs.transition, step, hstart, List.mem_append, List.mem_cons, reduceCtorEq,
      CoordinatorEvent.logged.injEq, List.not_mem_nil, or_false, opens, hrunning, Bool.not_false,
      Bool.true_eq_false, false_and, iff_false]
    intro hlog
    obtain ⟨-, -, hsame, hne, -⟩ := hnone.mp hlog
    exact hne hsame.symm
  · intro previousLaggedFrames lagged frame
    rw [hdispatched]
    simp [Runs.transition, step, hstart, hreport.lag]

/-- The warning about the cadence, in terms of what the coordinator remembers. -/
theorem mem_cadenceEvents_iff {timingResult : MasterFrameTimingConfigurationResult}
    {readings : TickReadings} {previousPtsNs ptsNs : MasterFramePts} {deltaNs intervalNs : UInt64}
    {laggedFrames : UInt32} :
    .logged (.cadenceDiscontinuity previousPtsNs ptsNs deltaNs intervalNs laggedFrames) ∈
        coordinator.cadenceEvents timingResult readings ↔
      timingResult = .unchanged ∧ coordinator.lastObservedPtsNs = some previousPtsNs ∧
        coordinator.timingConfiguration.frameIntervalNs = some intervalNs ∧
        readings.videoFrameTime = ptsNs ∧ deltaNs = ptsNs - previousPtsNs ∧
        deltaNs ≠ intervalNs ∧ readings.reportedLaggedFrames = laggedFrames := by
  unfold cadenceEvents
  cases hlast : coordinator.lastObservedPtsNs with
  | none => simp
  | some lastObservedPtsNs =>
      cases hinterval : coordinator.timingConfiguration.frameIntervalNs with
      | none => simp
      | some frameIntervalNs =>
          dsimp only
          split_ifs with hwarns
          · simp only [List.mem_singleton, CoordinatorEvent.logged.injEq,
              TimelineLog.cadenceDiscontinuity.injEq, Option.some.injEq]
            constructor
            · rintro ⟨rfl, rfl, rfl, rfl, rfl⟩
              exact ⟨hwarns.1, rfl, rfl, rfl, rfl, hwarns.2, rfl⟩
            · rintro ⟨-, rfl, rfl, rfl, rfl, -, rfl⟩
              exact ⟨rfl, rfl, rfl, rfl, rfl⟩
          · simp only [List.not_mem_nil, Option.some.injEq, false_iff]
            rintro ⟨hunchanged, rfl, rfl, rfl, rfl, hne, -⟩
            exact hwarns ⟨hunchanged, hne⟩

theorem mem_lagEvents_iff {readings : TickReadings} {previousLaggedFrames laggedFrames : UInt32}
    {frame other : MasterFrame} :
    .logged (.graphicsLag previousLaggedFrames laggedFrames other) ∈
        coordinator.lagEvents readings frame ↔
      frame = other ∧ coordinator.laggedFrames = previousLaggedFrames ∧
        readings.laggedFrames = laggedFrames ∧ laggedFrames ≠ previousLaggedFrames := by
  unfold lagEvents
  split_ifs with hsame
  · simp only [List.mem_singleton, CoordinatorEvent.logged.injEq, TimelineLog.graphicsLag.injEq]
    constructor
    · rintro ⟨rfl, rfl, rfl⟩
      exact ⟨rfl, rfl, rfl, hsame⟩
    · rintro ⟨rfl, rfl, rfl, -⟩
      exact ⟨rfl, rfl, rfl⟩
  · simp only [List.not_mem_nil, false_iff]
    rintro ⟨-, rfl, rfl, hne⟩
    exact hsame hne

theorem eq_cadence_of_mem {timingResult : MasterFrameTimingConfigurationResult}
    {readings : TickReadings} {event : CoordinatorEvent}
    (h : event ∈ coordinator.cadenceEvents timingResult readings) :
    ∃ previousPtsNs ptsNs deltaNs intervalNs laggedFrames, event =
      .logged (.cadenceDiscontinuity previousPtsNs ptsNs deltaNs intervalNs laggedFrames) := by
  unfold cadenceEvents at h
  split at h
  · dsimp only at h
    split_ifs at h
    · exact ⟨_, _, _, _, _, List.mem_singleton.mp h⟩
    · cases h
  · cases h

theorem eq_lag_of_mem {readings : TickReadings} {frame : MasterFrame} {event : CoordinatorEvent}
    (h : event ∈ coordinator.lagEvents readings frame) :
    event = .logged (.graphicsLag coordinator.laggedFrames readings.laggedFrames frame) := by
  unfold lagEvents at h
  split_ifs at h
  · exact List.mem_singleton.mp h
  · cases h

/-- Of what an accepted tick emits, three parts can hold a report. -/
theorem report_mem_accepted_iff {timingEvents cadence lag : List CoordinatorEvent}
    {frame : MasterFrame} {isSampled sinkThrows : Bool} {log : TimelineLog}
    (hlog : log.isReport = true) :
    .logged log ∈ timingEvents ++ cadence ++ lag ++
          [.logged (.masterFrame isSampled frame), .dispatched frame] ++
          (if sinkThrows then [.logged (.sinkFailed frame)] else []) ↔
      .logged log ∈ timingEvents ∨ .logged log ∈ cadence ∨ .logged log ∈ lag := by
  have hframe : log ≠ .masterFrame isSampled frame := by
    rintro rfl
    cases hlog
  have hsink : log ≠ .sinkFailed frame := by
    rintro rfl
    cases hlog
  cases sinkThrows <;> simp [hframe, hsink]

/-- What a tick is given by the timing it has just read, whatever becomes of its frame. -/
structure TickTiming (past : List Transition) (t : Transition)
    (timingEvents : List CoordinatorEvent) : Prop where
  invalid : .logged .invalidTimingConfiguration ∈ timingEvents ↔
    intervalReading t = some 0 ∧ (opens t ∨ (sessionIntervals past).getLast? ≠ some 0)
  changed : ∀ previousIntervalNs intervalNs,
    (∃ fpsNum fpsDen, .logged (.timingConfigurationChanged previousIntervalNs intervalNs
        fpsNum fpsDen) ∈ timingEvents) ↔
      opens t = false ∧ intervalReading t = some intervalNs ∧ intervalNs ≠ 0 ∧
        configuredInterval past = previousIntervalNs ∧ previousIntervalNs ≠ none ∧
        previousIntervalNs ≠ some intervalNs

theorem Remembers.tickTiming (h : Remembers past coordinator) (readings : TickReadings)
    (hrunning : coordinator.running = true) :
    TickTiming past (Runs.transition step coordinator (.tick readings))
      (coordinator.refreshTimingConfiguration readings.timing).2.1 := by
  have hreport := coordinator.refreshTimingConfiguration_report readings.timing
  have hopens : opens (Runs.transition step coordinator (.tick readings)) = false := rfl
  have hreading : intervalReading (Runs.transition step coordinator (.tick readings)) =
      some readings.timing.frameIntervalNs := by
    simp [intervalReading, Runs.transition, hrunning]
  constructor
  · rw [hreport.invalid, hreading, hopens, ne_eq, ← h.invalidLogged]
    simp
  · intro previousIntervalNs intervalNs
    rw [hreport.changed, hopens, hreading, h.interval]
    simp

/-- The cadence warning of an accepted frame, in terms of what the run has shown. -/
theorem Remembers.mem_cadenceEvents_iff (h : Remembers past coordinator) {readings : TickReadings}
    {timingResult : MasterFrameTimingConfigurationResult} {timingEvents : List CoordinatorEvent}
    {refreshed : MasterFrameCoordinator}
    (hrefresh : coordinator.refreshTimingConfiguration readings.timing =
      (timingResult, timingEvents, refreshed))
    {previousPtsNs ptsNs : MasterFramePts} {deltaNs intervalNs : UInt64}
    {laggedFrames : UInt32} :
    .logged (.cadenceDiscontinuity previousPtsNs ptsNs deltaNs intervalNs laggedFrames) ∈
        refreshed.cadenceEvents timingResult readings ↔
      (sessionFrames past).getLast?.map MasterFrame.ptsNs = some previousPtsNs ∧
        configuredInterval past = some intervalNs ∧
        readings.timing.frameIntervalNs = intervalNs ∧ readings.videoFrameTime = ptsNs ∧
        deltaNs = ptsNs - previousPtsNs ∧ deltaNs ≠ intervalNs ∧
        readings.reportedLaggedFrames = laggedFrames := by
  have hrefreshed := coordinator.refreshTimingConfiguration_refreshed readings.timing
  have hunchanged := @refresh_unchanged_iff coordinator readings.timing
  rw [hrefresh] at hrefreshed hunchanged
  rw [MasterFrameCoordinator.mem_cadenceEvents_iff, hunchanged, hrefreshed.lastObserved,
    h.lastObserved, hrefreshed.interval, h.interval]
  constructor
  · rintro ⟨⟨hsame, hnonzero⟩, hlast, hinterval, hrest⟩
    rw [if_neg hnonzero, Option.some.injEq] at hinterval
    refine ⟨hlast, ?_, hinterval, hrest⟩
    rw [hsame, hinterval]
  · rintro ⟨hlast, hinterval, rfl, hrest⟩
    have hnonzero : readings.timing.frameIntervalNs ≠ 0 := by
      have hmember := List.mem_of_getLast? hinterval
      simpa using (List.mem_filter.mp hmember).2
    exact ⟨⟨hinterval, hnonzero⟩, hlast, if_neg hnonzero, hrest⟩

/-- The lag report of an accepted frame, in terms of what the run has shown. -/
theorem Remembers.mem_lagEvents_iff (h : Remembers past coordinator) {readings : TickReadings}
    {timingResult : MasterFrameTimingConfigurationResult} {timingEvents : List CoordinatorEvent}
    {refreshed : MasterFrameCoordinator}
    (hrefresh : coordinator.refreshTimingConfiguration readings.timing =
      (timingResult, timingEvents, refreshed))
    {frame other : MasterFrame} {previousLaggedFrames laggedFrames : UInt32} :
    .logged (.graphicsLag previousLaggedFrames laggedFrames other) ∈
        refreshed.lagEvents readings frame ↔
      frame = other ∧ (sessionLags past).getLast? = some previousLaggedFrames ∧
        readings.laggedFrames = laggedFrames ∧ laggedFrames ≠ previousLaggedFrames := by
  have hrefreshed := coordinator.refreshTimingConfiguration_refreshed readings.timing
  rw [hrefresh] at hrefreshed
  rw [MasterFrameCoordinator.mem_lagEvents_iff, hrefreshed.lagged, h.lagged, Option.some.injEq]

/-- A tick whose frame the timeline turns down reports the timing alone. -/
theorem reports_rejected {t : Transition} {timingEvents : List CoordinatorEvent}
    {ptsNs : MasterFramePts} {result : MasterFrameObservationResult}
    (htiming : TickTiming past t timingEvents)
    (hcadence : ∀ previousPtsNs ptsNs deltaNs intervalNs laggedFrames,
      .logged (.cadenceDiscontinuity previousPtsNs ptsNs deltaNs intervalNs laggedFrames) ∉
        timingEvents)
    (hlag : ∀ previousLaggedFrames laggedFrames frame,
      .logged (.graphicsLag previousLaggedFrames laggedFrames frame) ∉ timingEvents)
    (hdispatched : dispatched t = [])
    (houtput : t.output = timingEvents ++ [.logged (.rejected ptsNs result)]) :
    Reports past t := by
  constructor
  · rw [← htiming.invalid, houtput]
    simp
  · intro previousPtsNs ptsNs deltaNs intervalNs laggedFrames
    rw [houtput]
    simp [hcadence, hdispatched]
  · intro previousIntervalNs intervalNs
    rw [← htiming.changed, houtput]
    simp
  · intro previousLaggedFrames laggedFrames frame
    rw [houtput]
    simp [hlag, hdispatched]

theorem reports_tick (h : Remembers past coordinator) (readings : TickReadings)
    (hrunning : coordinator.running = true) :
    Reports past (Runs.transition step coordinator (.tick readings)) := by
  obtain ⟨timingResult, timingEvents, refreshed, hrefresh, hcases⟩ := tick_cases readings hrunning
  have hreport := coordinator.refreshTimingConfiguration_report readings.timing
  have htiming := h.tickTiming readings hrunning
  rw [hrefresh] at hreport htiming
  generalize ht : Runs.transition step coordinator (.tick readings) = t at hcases htiming
  have hinput : t.input = .tick readings := by rw [← ht]; rfl
  have houtput : t.output = (coordinator.step (.tick readings)).1 := by rw [← ht]; rfl
  rcases hcases with ⟨hdispatched, result, htick⟩ | ⟨frame, timeline, hpts, hdispatched, htick⟩
  · rw [htick] at houtput
    exact reports_rejected htiming hreport.cadence hreport.lag hdispatched houtput
  · have hlag : lagReading t = some readings.laggedFrames := by
      rw [lagReading, hinput]
      exact if_neg (by simp [hdispatched])
    rw [htick] at houtput
    have hmem : ∀ log, log.isReport = true → (.logged log ∈ t.output ↔ .logged log ∈ timingEvents ∨
        .logged log ∈ refreshed.cadenceEvents timingResult readings ∨
        .logged log ∈ refreshed.lagEvents readings frame) := by
      intro log hlog
      rw [houtput]
      exact report_mem_accepted_iff hlog
    constructor
    · rw [← htiming.invalid, hmem _ rfl]
      constructor
      · rintro (hlog | hlog | hlog)
        · exact hlog
        · obtain ⟨_, _, _, _, _, hother⟩ := eq_cadence_of_mem hlog
          cases hother
        · cases eq_lag_of_mem hlog
      · exact Or.inl
    · intro previousPtsNs ptsNs deltaNs intervalNs laggedFrames
      have hwarns : .logged (.cadenceDiscontinuity previousPtsNs ptsNs deltaNs intervalNs
            laggedFrames) ∈ t.output ↔
          .logged (.cadenceDiscontinuity previousPtsNs ptsNs deltaNs intervalNs laggedFrames) ∈
            refreshed.cadenceEvents timingResult readings := by
        rw [hmem _ rfl]
        constructor
        · rintro (hlog | hlog | hlog)
          · exact absurd hlog (hreport.cadence _ _ _ _ _)
          · exact hlog
          · cases eq_lag_of_mem hlog
        · exact fun hlog => Or.inr (Or.inl hlog)
      rw [hwarns, h.mem_cadenceEvents_iff hrefresh]
      constructor
      · exact fun hwarned => ⟨readings, hinput, by simp [hdispatched], hwarned⟩
      · rintro ⟨readings', hinput', -, hwarned⟩
        obtain rfl : readings = readings' := by
          rw [hinput] at hinput'
          exact Call.tick.inj hinput'
        exact hwarned
    · intro previousIntervalNs intervalNs
      rw [← htiming.changed]
      constructor
      · rintro ⟨fpsNum, fpsDen, hlog⟩
        rcases (hmem _ rfl).mp hlog with hlog | hlog | hlog
        · exact ⟨fpsNum, fpsDen, hlog⟩
        · obtain ⟨_, _, _, _, _, hother⟩ := eq_cadence_of_mem hlog
          cases hother
        · cases eq_lag_of_mem hlog
      · rintro ⟨fpsNum, fpsDen, hlog⟩
        exact ⟨fpsNum, fpsDen, (hmem _ rfl).mpr (Or.inl hlog)⟩
    · intro previousLaggedFrames laggedFrames other
      have hlogs : .logged (.graphicsLag previousLaggedFrames laggedFrames other) ∈ t.output ↔
          .logged (.graphicsLag previousLaggedFrames laggedFrames other) ∈
            refreshed.lagEvents readings frame := by
        rw [hmem _ rfl]
        constructor
        · rintro (hlog | hlog | hlog)
          · exact absurd hlog (hreport.lag _ _ _)
          · obtain ⟨_, _, _, _, _, hother⟩ := eq_cadence_of_mem hlog
            cases hother
          · exact hlog
        · exact fun hlog => Or.inr (Or.inr hlog)
      rw [hlogs, h.mem_lagEvents_iff hrefresh, hdispatched, hlag]
      simp

/-- In every run each call reports exactly what there is to report: the first reading of an
interval of zero after one that is not, a change of the interval, a step between two frames of a
session that is not the interval (unless the interval has just been read anew), and a change of
the count of lagged frames. -/
theorem coordinator_reports_exactly (hrun : Runs.Run step {} past coordinator) :
    Traces.Obeys Reports past := by
  apply hrun.invariant (P := fun past _ => Traces.Obeys Reports past)
  · exact Traces.obeys_nil
  · intro past coordinator call hrun hobeys
    apply hobeys.concat
    cases hrunning : coordinator.running with
    | false =>
        cases call with
        | start laggedFrames readings => exact reports_start laggedFrames readings hrunning
        | stop =>
            have hstop := stop_stopped hrunning
            apply reports_quiet <;>
              simp [Runs.transition, step, hstop, dispatched, intervalReading]
        | tick readings =>
            have htick := observeObsTick_stopped readings hrunning
            apply reports_quiet <;>
              simp [Runs.transition, step, htick, dispatched, intervalReading, hrunning]
    | true =>
        cases call with
        | start laggedFrames readings =>
            have hstart := start_running laggedFrames readings hrunning
            apply reports_quiet <;>
              simp [Runs.transition, step, hstart, dispatched, intervalReading, hrunning,
                CoordinatorEvent.frame, TimelineLog.isReport]
        | stop =>
            have hstop := stop_running hrunning
            apply reports_quiet <;>
              simp [Runs.transition, step, hstop, dispatched, intervalReading,
                CoordinatorEvent.frame, TimelineLog.isReport]
        | tick readings => exact reports_tick (remembers_run hrun hrunning) readings hrunning

/-- Of the five intervals that the sample reads, one is a change. -/
theorem coordinator_reports_exactly_sample :
    ((Runs.history step {} sampleCalls).flatMap fun t =>
        t.output.filter fun event => event matches .logged (.timingConfigurationChanged ..)) =
      [.logged (.timingConfigurationChanged (some 10) 20 0 0)] ∧
    Traces.Obeys Reports (Runs.history step {} sampleCalls) :=
  ⟨by decide, coordinator_reports_exactly (Runs.run_exec _ sampleCalls)⟩

end MasterFrameCoordinator

end ObsSyncReplay
