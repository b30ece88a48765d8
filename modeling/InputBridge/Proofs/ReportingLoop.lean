import InputBridge.Proofs.FrameRecord
import InputBridge.Proofs.SharedReading
/-!
# The loop that only reports

What a bridge reports to its adapter is a loop of its own on the bridge without owner and cooldown:
a batch reads, sends the frame of its state and clears it. The calls to capture the devices are
answered beside it, and whatever they answer is not seen there. So the outcomes of a run, the
frames it writes and how it ends are given by what is reported of the bridge it starts from.
-/
namespace InputBridge

namespace Rig

variable {σ τ : Type}

/-- As far as `view` shows, the rig is read and written to as another; capture calls leave no
trace. -/
structure ReportsAs (rig : Rig σ) (view : σ → τ) (course : Rig τ) : Prop
    extends rig.ReadsAs view course where
  write : ∀ frame state,
    ((rig.write frame state).1, view (rig.write frame state).2) = course.write frame (view state)
  capturing : ∀ call state, view (rig.capturing call state).2 = view state

/-- The same rig without a use for notices. -/
def unreported (rig : Rig σ) : Rig σ := { rig with report := fun _ state => state }

/-- A record of the frames only adds to what is seen. -/
theorem reports_recorded (rig : Rig σ) (view : σ → τ) (course : Rig τ)
    (reports : rig.ReportsAs view course) :
    rig.recorded.ReportsAs (fun state => (view state.1, state.2)) course.recorded where
  wait state := by simp only [recorded, ← reports.wait]
  drain device state := by simp only [recorded, ← reports.drain]
  report notice state := by simp only [recorded, reports.report]
  interrupt state := by
    simp only [recorded, ← reports.interrupt, Option.map_map]
    rfl
  backlog state := reports.backlog state.1
  write frame state := by simp only [recorded, ← reports.write]
  capturing call state := by simp only [recorded, reports.capturing]

end Rig

namespace Bridge

variable {σ τ : Type}

/-- The second part of a batch without the look at the combination. -/
def reportOnly (course : Rig τ) (updated : Bool) (bridge : Bridge τ) :
    Except Halt BatchOutcome × Bridge τ :=
  if updated then
    match bridge.send course.unreported with
    | (.ok outcome, sent) => (.ok outcome, sent.finish)
    | (.error halt, sent) => (.error halt, sent)
  else (.ok .idle, bridge.finish)

/-- The loop that only reports. -/
def reporting (course : Rig τ) : Routine BatchOutcome (Bridge τ) where
  batch bridge :=
    let reading := course.read bridge.rigState
    let drained := bridge.drained reading.events reading.state
    match reading.halt with
    | some halt => (.error halt, drained)
    | none =>
      drained.reportOnly course (reading.events.any (InputEvent.isAccepted bridge.keymap))
  stop halt bridge :=
    match halt with
    | .failed error => (.failed error, bridge)
    | .never =>
      match course.interrupt bridge.rigState with
      | none => (.never, bridge)
      | some rigState => (.shutdown, { bridge with rigState })

section Reports

variable (rig : Rig σ) (view : σ → τ) (course : Rig τ) (reports : rig.ReportsAs view course)

include reports

/-- Notices do not show. -/
theorem report_reported (notice : Notice) (bridge : Bridge σ) :
    (bridge.report rig notice).reported view = bridge.reported view := by
  simp only [report, reported, hide, reports.report]

/-- The frame shows neither owner nor cooldown, so the state without them is sent alike. -/
theorem send_reported (bridge : Bridge σ) :
    ((bridge.send rig).1, (bridge.send rig).2.reported view) =
      (bridge.reported view).send course.unreported := by
  let frame := Frame.ofState bridge.state bridge.presence
  let told := rig.report (.sending frame) bridge.rigState
  have same : ((rig.write frame told).1, view (rig.write frame told).2) =
      course.write frame (view bridge.rigState) := by
    rw [← reports.report (.sending frame) bridge.rigState]
    exact reports.write frame told
  have answered : course.unreported.write
      (Frame.ofState (bridge.reported view).state (bridge.reported view).presence)
      (bridge.reported view).rigState = ((rig.write frame told).1, view (rig.write frame told).2) :=
    same.symm
  rcases answer : rig.write frame told with ⟨refusal, rigState⟩
  rw [answer] at answered
  have silent : ∀ notice, (bridge.reported view).report course.unreported notice =
      bridge.reported view := fun _ => rfl
  simp only [send, write, silent, answered]
  simp only [report, frame, told] at answer ⊢
  simp only [answer]
  cases refusal <;> rfl

/-- The second part of a batch reports as if the combination was not looked at. -/
theorem conclude_reported (updated : Bool) (bridge : Bridge σ) :
    Routine.glimpse (fun outcome => outcome) (reported view) (bridge.conclude rig updated) =
      (bridge.reported view).reportOnly course updated := by
  have looked :=
    evaluate_capture_reported rig view reports.report reports.capturing bridge
  cases updated with
  | false =>
    simp only [conclude, reportOnly, Bool.false_eq_true, if_false, ← looked]
    rfl
  | true =>
    have sent := send_reported rig view course reports (bridge.evaluateCapture rig)
    rw [looked] at sent
    simp only [conclude, reportOnly, if_true, ← sent]
    rcases (bridge.evaluateCapture rig).send rig with ⟨halt | outcome, next⟩ <;> rfl

/-- What a bridge reports is the loop that only reports. -/
theorem reporting_shadows :
    (reporting course).Shadows (routine rig) (fun outcome => outcome) (reported view) where
  batch bridge := by
    obtain ⟨rigState, seen, batch⟩ :=
      process_batch_reads rig view course reports.toReadsAs bridge
    have drained : reported view
        (bridge.drained (course.read (view bridge.rigState)).events rigState) =
        (bridge.reported view).drained (course.read (view bridge.rigState)).events
          (course.read (view bridge.rigState)).state := by
      simp only [reported, hide, Bridge.drained, InputState.absorb_all_uncaptured, seen]
    have same : (bridge.reported view).rigState = view bridge.rigState := rfl
    simp only [routine, reporting, batch, same]
    cases (course.read (view bridge.rigState)).halt with
    | some halt => exact congrArg (Prod.mk _) drained
    | none =>
      rw [← drained]
      exact conclude_reported rig view course reports _ _
  stop halt bridge := by
    have released := release_devices_reported rig view reports.report reports.capturing
    have noted := report_reported rig view course reports
    cases halt with
    | failed error => simp only [routine, reporting, stop, noted, released]
    | never =>
      have same : course.interrupt (bridge.reported view).rigState =
          (rig.interrupt bridge.rigState).map view := (reports.interrupt _).symm
      simp only [routine, reporting, stop, same]
      cases rig.interrupt bridge.rigState with
      | none => rfl
      | some rigState =>
        simp only [Option.map_some, noted, released]
        rfl

end Reports

section Runs

variable (rig : Rig σ) (limit : Nat) (bridge : Bridge σ)

/-- What the batches of a run came to, in order. -/
def outcomes : List (Except Halt BatchOutcome) :=
  ((routine rig).trail limit bridge).map Prod.fst

/-- The frames that a run wrote, in order, each with the reason if it was refused. -/
def written : List Written :=
  ((bridge.withRecord []).runFor rig.recorded limit).2.rigState.2

/-- What a run reports is given by what is reported of the bridge it starts from. -/
theorem run_for_reported (view : σ → τ) (course : Rig τ)
    (reports : rig.ReportsAs view course) :
    let start := bridge.reported view
    ((bridge.runFor rig limit).1, (bridge.runFor rig limit).2.reported view) =
        (reporting course).runFor limit start ∧
      bridge.outcomes rig limit = ((reporting course).trail limit start).map Prod.fst ∧
      bridge.written rig limit =
        ((reporting course.recorded).runFor limit (start.withRecord [])).2.rigState.2 := by
  intro start
  have shadows := reporting_shadows rig view course reports
  have recorded := reporting_shadows _ _ _ (rig.reports_recorded view course reports)
  refine ⟨?_, ?_, ?_⟩
  · rw [run_for_routine]
    exact shadows.run_alike limit bridge
  · rw [outcomes, ← shadows.trail_alike limit bridge, List.map_map]
    refine List.map_congr_left fun batch _ => ?_
    rcases batch with ⟨halt | outcome, next⟩ <;> rfl
  · rw [written, run_for_routine]
    exact congrArg (·.2.rigState.2) (recorded.run_alike limit (bridge.withRecord []))

end Runs

end Bridge

namespace Bench

/-- The bench without what capture calls depend on and without the notices. -/
def withoutCaptures (bench : Bench) : Bench :=
  { sources :=
      { bench.sources with
        acquireAnswers := []
        releaseAnswers := []
        refuseGrabs := false
        grabs := 0
        ungrabs := 0 }
    recorder := bench.recorder }

/-- Scripted devices are read and written to alike however they answer capture calls. -/
theorem reports_without_captures : rig.ReportsAs withoutCaptures rig where
  wait bench := by
    simp only [rig, ScriptedSources.wait, withoutCaptures]
    split <;> rfl
  drain device bench := by
    have same : bench.withoutCaptures.sources.readFault device = bench.sources.readFault device :=
      rfl
    cases fault : bench.sources.readFault device with
    | none =>
      simp only [rig, ScriptedSources.drain, same, fault]
      rfl
    | some reason => simp only [rig, ScriptedSources.drain, same, fault]
  report _ _ := rfl
  interrupt bench := by
    simp only [rig, withoutCaptures]
    split <;> rfl
  backlog _ := rfl
  write _ _ := rfl
  capturing call bench := by
    cases call with
    | acquire =>
      simp only [rig, ScriptedSources.capturing]
      split
      · rfl
      · split <;> rfl
    | release =>
      simp only [rig, ScriptedSources.capturing]
      split <;> rfl

end Bench

end InputBridge
