import InputBridge.Proofs.BatchSteps
import InputBridge.Proofs.CaptureJournal
import InputBridge.Proofs.Routine
/-!
# A bridge whose devices keep a journal

To see which calls a bridge makes to its devices, they are given a journal. The rig
with a journal mirrors the rig without: every operation answers alike and leaves the
same state apart from the journal. So does then every part of the bridge, up to whole
runs, and what is found of the bridge with a journal is true of the bridge without.

No operation but a capture call writes to the journal, and a batch makes at most one.
The journal therefore stays a chain of custody that ends with the owner on record in
the state, however the batches end.
-/
namespace InputBridge

/-- A rig that remembers more than another answers alike, and what it leaves looks
alike once the surplus is hidden. -/
structure Rig.Mirrors {σ τ : Type} (large : Rig σ) (small : Rig τ) (hide : σ → τ) : Prop where
  wait : ∀ state, ((large.wait state).1, hide (large.wait state).2) = small.wait (hide state)
  drain : ∀ device state,
    ((large.drain device state).1, hide (large.drain device state).2) =
      small.drain device (hide state)
  capturing : large.capturing.Mirrors small.capturing hide
  write : ∀ frame state,
    ((large.write frame state).1, hide (large.write frame state).2) =
      small.write frame (hide state)
  report : ∀ notice state, hide (large.report notice state) = small.report notice (hide state)
  interrupt : ∀ state, (large.interrupt state).map hide = small.interrupt (hide state)
  backlog : ∀ state, large.backlog state = small.backlog (hide state)

namespace Bridge

variable {σ τ : Type}

/-- The bridge with part of the rig's state hidden. -/
def hide (hidden : σ → τ) (bridge : Bridge σ) : Bridge τ :=
  { keymap := bridge.keymap
    presence := bridge.presence
    state := bridge.state
    framesSent := bridge.framesSent
    rigState := hidden bridge.rigState }

/-- An answer with part of the rig's state hidden. -/
def hideIn {α : Type} (hidden : σ → τ) (answer : α × Bridge σ) : α × Bridge τ :=
  (answer.1, answer.2.hide hidden)

section Mirrors

variable (large : Rig σ) (small : Rig τ) (hidden : σ → τ) (mirrors : large.Mirrors small hidden)

include mirrors

/-- Reports in order leave the same on both sides. -/
theorem report_all_mirrors (notices : List Notice) (state : σ) :
    hidden (large.reportAll notices state) = small.reportAll notices (hidden state) := by
  induction notices generalizing state with
  | nil => rfl
  | cons notice rest inductionHypothesis =>
    refine (inductionHypothesis (large.report notice state)).trans ?_
    rw [mirrors.report]
    rfl

/-- Reading a device comes to the same on both sides. -/
theorem drain_mirrors (device : DeviceKind) (bridge : Bridge σ) :
    hideIn hidden (bridge.drain large device) = (bridge.hide hidden).drain small device := by
  have same := mirrors.drain device bridge.rigState
  rcases answer : large.drain device bridge.rigState with ⟨drained, rigState⟩
  rw [answer] at same
  cases drained with
  | never => simp only [drain, answer, hide, ← same, hideIn]
  | failed error => simp only [drain, answer, hide, ← same, hideIn]
  | events events =>
    simp only [drain, answer, hide, ← same, hideIn, reportAll,
      report_all_mirrors large small hidden mirrors]

/-- So does reading devices in order, up to the first that fails. -/
theorem drain_all_mirrors (devices : List DeviceKind) (updated : Bool) (bridge : Bridge σ) :
    hideIn hidden (bridge.drainAll large updated devices) =
      (bridge.hide hidden).drainAll small updated devices := by
  induction devices generalizing updated bridge with
  | nil => rfl
  | cons device rest inductionHypothesis =>
    have same := drain_mirrors large small hidden mirrors device bridge
    rcases drained : bridge.drain large device with ⟨result, after⟩
    rw [drained] at same
    cases result with
    | error halt => simp only [drainAll, drained, ← same, hideIn]
    | ok accepted =>
      simp only [drainAll, drained, ← same, hideIn]
      exact inductionHypothesis (updated || accepted) after

/-- A look at the capture combination comes to the same on both sides. -/
theorem evaluate_capture_mirrors (bridge : Bridge σ) :
    (bridge.evaluateCapture large).hide hidden = (bridge.hide hidden).evaluateCapture small := by
  have same := Capturing.evaluate_mirrors _ _ _ mirrors.capturing bridge.state.combo
    bridge.rigState
  simp only [evaluateCapture, settle, hide, ← same, Toggled.hide]
  split <;> simp only [report, report_all_mirrors large small hidden mirrors, mirrors.report]

/-- Sending the state comes to the same on both sides. -/
theorem send_mirrors (bridge : Bridge σ) :
    hideIn hidden (bridge.send large) = (bridge.hide hidden).send small := by
  have same := mirrors.write (.ofState bridge.state bridge.presence)
    (large.report (.sending (.ofState bridge.state bridge.presence)) bridge.rigState)
  rcases answer : large.write (.ofState bridge.state bridge.presence)
      (large.report (.sending (.ofState bridge.state bridge.presence)) bridge.rigState) with
    ⟨failure, rigState⟩
  rw [answer, mirrors.report] at same
  cases failure <;> simp only [send, write, report, answer, hide, ← same, hideIn]

/-- So does the part of a batch that follows the reading. -/
theorem conclude_mirrors (updated : Bool) (bridge : Bridge σ) :
    hideIn hidden (bridge.conclude large updated) =
      (bridge.hide hidden).conclude small updated := by
  cases updated with
  | false =>
    simp only [conclude, Bool.false_eq_true, if_false, hideIn,
      ← evaluate_capture_mirrors large small hidden mirrors bridge]
    rfl
  | true =>
    have same := send_mirrors large small hidden mirrors (bridge.evaluateCapture large)
    rcases sent : (bridge.evaluateCapture large).send large with ⟨result, after⟩
    rw [sent, evaluate_capture_mirrors large small hidden mirrors] at same
    cases result with
    | error halt => simp only [conclude, if_true, sent, ← same, hideIn]
    | ok outcome =>
      simp only [conclude, if_true, sent, ← same, hideIn]
      rfl

/-- A batch comes to the same on both sides. -/
theorem process_batch_mirrors (bridge : Bridge σ) :
    hideIn hidden (bridge.processBatch large) = (bridge.hide hidden).processBatch small := by
  have same := mirrors.wait bridge.rigState
  rcases answer : large.wait bridge.rigState with ⟨wakeup, rigState⟩
  rw [answer] at same
  cases wakeup with
  | never => simp only [processBatch, answer, hide, ← same, hideIn]
  | failed error => simp only [processBatch, answer, hide, ← same, hideIn]
  | ready devices =>
    have drained := drain_all_mirrors large small hidden mirrors devices false
      { bridge with rigState }
    rcases ends : drainAll large false devices { bridge with rigState } with ⟨result, after⟩
    rw [ends] at drained
    simp only [hide] at drained
    cases result with
    | error halt => simp only [processBatch, answer, ends, hide, ← same, ← drained, hideIn]
    | ok updated =>
      simp only [processBatch, answer, ends, hide, ← same, ← drained]
      exact conclude_mirrors large small hidden mirrors updated after

/-- Handing the devices back comes to the same on both sides. -/
theorem release_devices_mirrors (bridge : Bridge σ) :
    (bridge.releaseDevices large).hide hidden = (bridge.hide hidden).releaseDevices small := by
  have same := Capturing.release_mirrors _ _ _ mirrors.capturing bridge.state.combo
    bridge.rigState
  simp only [releaseDevices, hide, ← same, Toggled.hide]
  split <;> simp only [report, mirrors.report]

/-- So does the end of a run, whatever ends it. -/
theorem stop_mirrors (halt : Halt) (bridge : Bridge σ) :
    hideIn hidden (bridge.stop large halt) = (bridge.hide hidden).stop small halt := by
  cases halt with
  | failed error =>
    simp only [stop, hideIn, ← release_devices_mirrors large small hidden mirrors]
    simp only [hide, report, mirrors.report]
  | never =>
    have same := mirrors.interrupt bridge.rigState
    cases asked : large.interrupt bridge.rigState with
    | none =>
      rw [asked] at same
      simp only [stop, asked, hide, ← same, Option.map_none, hideIn]
    | some rigState =>
      rw [asked] at same
      have released := release_devices_mirrors large small hidden mirrors
        (report large (.shutdownRequested bridge.framesSent) { bridge with rigState })
      simp only [hide, report, mirrors.report] at released
      simp only [stop, asked, hide, ← same, Option.map_some, hideIn, report, released]

/-- So does the loop. -/
theorem routine_mirrors :
    (routine small).Shadows (routine large) (fun outcome => outcome) (hide hidden) where
  batch bridge := by
    refine Eq.trans ?_ (process_batch_mirrors large small hidden mirrors bridge)
    simp only [routine, Routine.glimpse, hideIn]
    rcases bridge.processBatch large with ⟨halt | outcome, next⟩ <;> rfl
  stop halt bridge := stop_mirrors large small hidden mirrors halt bridge

/-- A run of bounded length comes to the same on both sides. -/
theorem run_for_mirrors (limit : Nat) (bridge : Bridge σ) :
    hideIn hidden (bridge.runFor large limit) = (bridge.hide hidden).runFor small limit := by
  rw [run_for_routine, run_for_routine]
  exact (routine_mirrors large small hidden mirrors).run_alike limit bridge

/-- A run comes to the same on both sides. -/
theorem run_mirrors (bridge : Bridge σ) :
    hideIn hidden (bridge.run large) = (bridge.hide hidden).run small := by
  rw [run, run_for_mirrors large small hidden mirrors, mirrors.backlog]
  rfl

end Mirrors

end Bridge

namespace Rig

variable {σ : Type}

/-- The same rig, with a journal of the calls to capture the devices. -/
def journaled (rig : Rig σ) : Rig (σ × List Answer) where
  wait state := ((rig.wait state.1).1, (rig.wait state.1).2, state.2)
  drain device state := ((rig.drain device state.1).1, (rig.drain device state.1).2, state.2)
  capturing := rig.capturing.journaled
  write frame state := ((rig.write frame state.1).1, (rig.write frame state.1).2, state.2)
  report notice state := (rig.report notice state.1, state.2)
  interrupt state := (rig.interrupt state.1).map fun after => (after, state.2)
  backlog state := rig.backlog state.1

/-- Keeping the journal changes nothing else. -/
theorem journaled_mirrors (rig : Rig σ) : rig.journaled.Mirrors rig Prod.fst where
  wait _ := rfl
  drain _ _ := rfl
  capturing := rig.capturing.journaled_mirrors
  write _ _ := rfl
  report _ _ := rfl
  interrupt state := by
    simp only [journaled, Option.map_map]
    exact Option.map_id'
  backlog _ := rfl

/-- Only calls to capture the devices are entered in the journal. -/
theorem journal_undisturbed (rig : Rig σ) : rig.journaled.Undisturbed Prod.snd where
  wait _ := rfl
  drain _ _ := rfl
  write _ _ := rfl
  report _ _ := rfl
  interrupt state after asked := by
    obtain ⟨_, _, rfl⟩ := Option.map_eq_some_iff.mp asked
    rfl

end Rig

namespace Bridge

variable {σ : Type}

/-- The journal accounts for the owner on record: from the host at the start, the calls
lead to whoever owns the devices now. -/
def Accounted (bridge : Bridge (σ × List Answer)) : Prop :=
  Custody .released bridge.rigState.2 bridge.state.combo.owner

/-- A batch enters at most one call in the journal, as the next link of the chain.
Events do not change the owner, so the look at the combination starts from the owner
before the batch. -/
theorem batch_journaled (rig : Rig σ) (bridge : Bridge (σ × List Answer))
    (result : Except Halt BatchOutcome) (after : Bridge (σ × List Answer))
    (batch : BatchRun rig.journaled Prod.snd bridge result after) :
    ∃ answers, after.rigState.2 = bridge.rigState.2 ++ answers ∧ answers.length ≤ 1 ∧
      Custody bridge.state.combo.owner answers after.state.combo.owner := by
  have looked (events : List InputEvent) (devices : σ × List Answer)
      (unseen : devices.2 = bridge.rigState.2) :
      ∃ answers, (bridge.toggledAfter rig.journaled events devices).devices.2 =
          bridge.rigState.2 ++ answers ∧ answers.length ≤ 1 ∧
        Custody bridge.state.combo.owner answers
          (bridge.stateAfter rig.journaled events devices).combo.owner := by
    obtain ⟨answers, entry, handover, _⟩ := rig.capturing.evaluate_journaled
      (bridge.state.absorbAll bridge.keymap events).combo devices.1 devices.2
    have owner := (InputState.absorb_all_capture bridge.keymap bridge.state events).1
    refine ⟨answers, entry.trans (by rw [unseen]), handover.once, ?_⟩
    rw [← owner]
    exact handover.custody
  cases batch with
  | interrupted events halt rigState cause unseen =>
    refine ⟨[], ?_, Nat.zero_le 1, ?_⟩
    · rw [List.append_nil]
      exact unseen
    · exact (InputState.absorb_all_capture bridge.keymap bridge.state events).1
  | refused events devices rigState error accepted unseen seen =>
    obtain ⟨answers, entry, once, custody⟩ := looked events devices unseen
    exact ⟨answers, seen.trans entry, once, custody⟩
  | sent events devices rigState accepted unseen seen =>
    obtain ⟨answers, entry, once, custody⟩ := looked events devices unseen
    exact ⟨answers, seen.trans entry, once, custody⟩
  | idle events devices rigState accepted unseen seen =>
    obtain ⟨answers, entry, once, custody⟩ := looked events devices unseen
    exact ⟨answers, seen.trans entry, once, custody⟩

/-- However a batch ends, the journal still accounts for the owner. -/
theorem process_batch_accounted (rig : Rig σ) (bridge : Bridge (σ × List Answer))
    (accounted : bridge.Accounted) : (bridge.processBatch rig.journaled).2.Accounted := by
  obtain ⟨answers, entry, _, custody⟩ := batch_journaled rig bridge _ _
    (process_batch_run rig.journaled Prod.snd rig.journal_undisturbed bridge)
  have chain := custody_append _ _ _ _ _ accounted custody
  rw [← entry] at chain
  exact chain

end Bridge

end InputBridge
