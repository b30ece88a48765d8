import InputBridge.Proofs.CapturingLoop
import InputBridge.Proofs.ReportingLoop
/-!
# Capturing and reporting keep apart

A bridge does two things with the same events. It reports them to the adapter, and it captures the
devices when the combination is held. Neither depends on the other: each is a loop of its own, and
two runs that start alike for one of the loops go through it alike.
-/
namespace InputBridge.Bridge

variable {σ τ υ : Type}

/-- Two bridges on rigs of any kind that share what `course` describes, from any state, for any
number of batches.

If they are read and written to alike, and differ in nothing but how capture calls are answered,
with what has become of owner and cooldown, then

* what the batches come to is the same, one by one;
* they write the same frames, which are answered alike and counted alike;
* they end alike.

If they are read alike and capture calls are answered alike, and their adapters refuse no frame,
then with any keymaps, presences, modes and bounds

* they make the same capture calls, which are answered alike;
* the combination is the same after every batch, with owner and cooldown;
* they end alike. -/
theorem capture_and_report_apart (one : Rig σ) (other : Rig τ) (course : Rig υ) (view : σ → υ)
    (otherView : τ → υ) (bridge : Bridge σ) (twin : Bridge τ) :
    (one.ReportsAs view course → other.ReportsAs otherView course →
      bridge.reported view = twin.reported otherView →
        (∃ limit, bridge.run one = bridge.runFor one limit ∧
          twin.run other = twin.runFor other limit) ∧
        ∀ limit,
          bridge.outcomes one limit = twin.outcomes other limit ∧
            bridge.written one limit = twin.written other limit ∧
            (bridge.runFor one limit).2.framesSent = (twin.runFor other limit).2.framesSent ∧
            (bridge.runFor one limit).1 = (twin.runFor other limit).1) ∧
      (one.CapturesAs view course → other.CapturesAs otherView course →
        one.NeverRefuses bridge.rigState → other.NeverRefuses twin.rigState →
        bridge.state.combo = twin.state.combo →
        view bridge.rigState = otherView twin.rigState →
          (∃ limit, bridge.run one = bridge.runFor one limit ∧
            twin.run other = twin.runFor other limit) ∧
          ∀ limit,
            bridge.calls one limit = twin.calls other limit ∧
              bridge.combos one limit = twin.combos other limit ∧
              (bridge.runFor one limit).1 = (twin.runFor other limit).1) := by
  have sameLimit (reads : one.ReadsAs view course) (otherReads : other.ReadsAs otherView course)
      (same : view bridge.rigState = otherView twin.rigState) :
      ∃ limit, bridge.run one = bridge.runFor one limit ∧
        twin.run other = twin.runFor other limit := by
    refine ⟨course.backlog (view bridge.rigState) + 1, ?_, ?_⟩
    · rw [run, reads.backlog]
    · rw [run, otherReads.backlog, same]
  refine ⟨?_, ?_⟩
  · intro reports otherReports alike
    refine ⟨sameLimit reports.toReadsAs otherReports.toReadsAs (congrArg (·.rigState) alike), ?_⟩
    intro limit
    obtain ⟨run, outcomes, written⟩ := run_for_reported one limit bridge view course reports
    obtain ⟨otherRun, otherOutcomes, otherWritten⟩ :=
      run_for_reported other limit twin otherView course otherReports
    rw [alike] at run outcomes written
    have sameRun := run.trans otherRun.symm
    exact ⟨outcomes.trans otherOutcomes.symm, written.trans otherWritten.symm,
      congrArg (·.2.framesSent) sameRun, congrArg (·.1) sameRun⟩
  · intro captures otherCaptures willing otherWilling sameCombo same
    refine ⟨sameLimit captures.toReadsAs otherCaptures.toReadsAs same, ?_⟩
    intro limit
    have alike : bridge.captured view = twin.captured otherView := Prod.ext sameCombo same
    obtain ⟨run, combos⟩ := run_for_captured one limit bridge view course captures willing
    obtain ⟨otherRun, otherCombos⟩ :=
      run_for_captured other limit twin otherView course otherCaptures otherWilling
    have calls := calls_captured one limit bridge view course captures willing
    have otherCalls :=
      calls_captured other limit twin otherView course otherCaptures otherWilling
    rw [alike] at run combos calls
    exact ⟨calls.trans otherCalls.symm, combos.trans otherCombos.symm,
      congrArg (·.1) (run.trans otherRun.symm)⟩

/-- Devices on which the combination is completed while the mouse moves, let go of, and completed
again. The first call that takes them may be refused. -/
def twiceHeld (acquireAnswers : List (Option String)) : Bench :=
  { sources :=
      { script :=
          [.batch
              [(.keyboard, [.key Key.leftShift 1, .key Key.leftCtrl 1, .key Key.escape 1]),
                (.mouse, [.relative Axis.x 5])] none,
            .batch [(.keyboard, [.key Key.escape 0])] none,
            .batch [(.keyboard, [.key Key.escape 1])] none]
        hang := true
        acquireAnswers } }

/-- A refused capture is not seen in the frames, and neither the keymap nor the mode in the
captures. -/
theorem refusal_unreported :
    let mapped := fresh (Keymap.set {} Key.escape 0x29) { keyboard := true } .absolute .standard
    let unmapped := fresh {} { mouse := true } .relative .standard
    let refused := twiceHeld [some "Device or resource busy"]
    (mapped (twiceHeld [])).combos Bench.rig 4 ≠ (mapped refused).combos Bench.rig 4 ∧
      (∀ limit, (mapped (twiceHeld [])).written Bench.rig limit =
        (mapped refused).written Bench.rig limit) ∧
      (mapped refused).written Bench.rig 4 ≠ (unmapped refused).written Bench.rig 4 ∧
      ∀ limit, (mapped refused).calls Bench.rig limit =
        (unmapped refused).calls Bench.rig limit := by
  intro mapped unmapped refused
  obtain ⟨_, reports⟩ := (capture_and_report_apart Bench.rig Bench.rig Bench.rig
    Bench.withoutCaptures Bench.withoutCaptures (mapped (twiceHeld [])) (mapped refused)).1
    Bench.reports_without_captures Bench.reports_without_captures rfl
  obtain ⟨_, captures⟩ := (capture_and_report_apart Bench.rig Bench.rig Bench.rig
    Bench.withoutFrames Bench.withoutFrames (mapped refused) (unmapped refused)).2
    Bench.captures_without_frames Bench.captures_without_frames (Bench.never_refuses _ rfl)
    (Bench.never_refuses _ rfl) rfl rfl
  refine ⟨by decide +kernel, fun limit => (reports limit).2.1, by decide +kernel,
    fun limit => (captures limit).1⟩

end InputBridge.Bridge
