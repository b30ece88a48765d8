import InputBridge.Bridge.Scripted
import InputBridge.Proofs.BridgeJournal
/-!
# The devices are handed back on every way out

A run returns because it was asked to or because waiting, draining or writing failed
for good; the failure may come after the same batch has captured the devices. In every
case the devices are handed back exactly if the bridge has them, and what is returned
is why the loop ended.

The chain of custody carries the argument. It holds at the start, every batch extends
it however it ends, and the way out extends it by at most the call that hands the
devices back. If that call succeeds, or was not needed, the host owns the devices and
every call that took them was made up for.

The rig is arbitrary, and so is everything about it that could end a run: when a wait,
a drain or a write fails, when the request to shut down comes, which capture calls
fail, and how many batches there are.
-/
namespace InputBridge.Bridge

variable {σ : Type}

/-- The way out makes one call if the bridge has the devices and none otherwise, and the
journal accounts for the owner afterwards. -/
theorem stop_journaled (rig : Rig σ) (bridge : Bridge (σ × List Answer)) (halt : Halt)
    (accounted : bridge.Accounted) (returned : (bridge.stop rig.journaled halt).1 ≠ .never) :
    let final := (bridge.stop rig.journaled halt).2
    final.Accounted ∧
      ∃ exit, final.rigState.2 = bridge.rigState.2 ++ exit ∧
        Handover bridge.state.combo exit final.state.combo ∧
        (bridge.state.combo.owner = .released → exit = []) ∧
        (bridge.state.combo.owner = .captured →
          ∃ failure, exit = [{ call := .release, failure }]) := by
  intro final
  obtain ⟨devices, rigState, unseen, seen, left, _⟩ :=
    stop_spec rig.journaled Prod.snd rig.journal_undisturbed bridge halt returned
  obtain ⟨exit, entry, handover, _, idle, called⟩ :=
    rig.capturing.release_journaled bridge.state.combo devices.1 devices.2
  have journal : final.rigState.2 = bridge.rigState.2 ++ exit := by
    rw [show final = _ from left, ← unseen]
    exact seen.trans entry
  have handed : Handover bridge.state.combo exit final.state.combo := by
    rw [show final = _ from left]
    exact handover
  refine ⟨?_, exit, journal, handed, idle, called⟩
  rw [Accounted, journal]
  exact custody_append _ _ _ _ _ accounted handed.custody

/-- The run of a fresh bridge with a journal, split where the loop ends: completed
batches, one that was not completed, and the way out. The journal accounts for the owner
when the way out begins. -/
theorem fresh_run_ends (rig : Rig σ) (keymap : Keymap) (presence : Presence)
    (mode : PointerMode) (bounds : ScreenBounds) (rigState : σ)
    (returned : ((fresh keymap presence mode bounds (rigState, [])).run rig.journaled).1 ≠
      .never) :
    let start := fresh keymap presence mode bounds (rigState, [])
    ∃ outcomes last halt ended, Batches rig.journaled start outcomes last ∧
      last.processBatch rig.journaled = (.error halt, ended) ∧
      start.run rig.journaled = ended.stop rig.journaled halt ∧ ended.Accounted := by
  intro start
  obtain ⟨outcomes, last, halt, ended, batches, stopped, same⟩ :=
    run_for_ends rig.journaled _ start returned
  have initial : start.Accounted := rfl
  have reached : last.Accounted := by
    refine batches_keep rig.journaled Accounted ?_ start last outcomes batches initial
    intro bridge outcome next accounted completed
    have kept := process_batch_accounted rig bridge accounted
    rw [completed] at kept
    exact kept
  have kept := process_batch_accounted rig last reached
  rw [stopped] at kept
  exact ⟨outcomes, last, halt, ended, batches, stopped, same, kept⟩

/-- Whenever the run of a fresh bridge returns, its loop ended with a batch that was not
completed, and

* the run is the one without a journal;
* it returns what ended that batch: a failure of the devices or the bus as it is, or the
  request to shut down when there was nothing left to wait for;
* on the way out the devices got exactly one more call, to hand them back, if the bridge
  had them when the loop ended, and none otherwise;
* if that call did not fail the host has the devices, and over the whole run as many
  calls took them as handed them back;
* if it failed the bridge still counts as having them. -/
theorem released_on_every_exit (rig : Rig σ) (keymap : Keymap) (presence : Presence)
    (mode : PointerMode) (bounds : ScreenBounds) (rigState : σ)
    (returned : ((fresh keymap presence mode bounds rigState).run rig).1 ≠ .never) :
    let start := fresh keymap presence mode bounds (rigState, [])
    let (ending, final) := start.run rig.journaled
    (fresh keymap presence mode bounds rigState).run rig = (ending, final.hide Prod.fst) ∧
      ∃ outcomes last halt ended, Batches rig.journaled start outcomes last ∧
        last.processBatch rig.journaled = (.error halt, ended) ∧
        ((∃ error, halt = .failed error ∧ ending = .failed error) ∨
          (halt = .never ∧ ending = .shutdown)) ∧
        ∃ exit, final.rigState.2 = ended.rigState.2 ++ exit ∧
          (ended.state.combo.owner = .released → exit = []) ∧
          (ended.state.combo.owner = .captured →
            ∃ failure, exit = [{ call := .release, failure }]) ∧
          ((∀ answer ∈ exit, answer.failure = none) →
            final.state.combo.owner = .released ∧
              (successes final.rigState.2).count .acquire =
                (successes final.rigState.2).count .release) ∧
          ((∃ answer ∈ exit, answer.failure ≠ none) → final.state.combo.owner = .captured) := by
  have plain : hideIn Prod.fst ((fresh keymap presence mode bounds (rigState, [])).run
      rig.journaled) = (fresh keymap presence mode bounds rigState).run rig :=
    run_mirrors rig.journaled rig Prod.fst rig.journaled_mirrors _
  rw [← plain] at returned
  obtain ⟨outcomes, last, halt, ended, batches, stopped, same, accounted⟩ :=
    fresh_run_ends rig keymap presence mode bounds rigState returned
  have returnedStop : (ended.stop rig.journaled halt).1 ≠ .never := same ▸ returned
  obtain ⟨_, _, _, _, _, reason⟩ :=
    stop_spec rig.journaled Prod.snd rig.journal_undisturbed ended halt returnedStop
  obtain ⟨finalAccounted, exit, journal, handover, idle, called⟩ :=
    stop_journaled rig ended halt accounted returnedStop
  simp only [← same] at reason finalAccounted journal handover
  refine ⟨plain.symm, outcomes, last, halt, ended, batches, stopped, reason, exit, journal,
    idle, called, ?_, ?_⟩
  · intro succeeded
    have handedBack : ((fresh keymap presence mode bounds (rigState, [])).run
        rig.journaled).2.state.combo.owner = .released := by
      cases owned : ended.state.combo.owner with
      | released =>
        have custody := handover.custody
        rw [idle owned, owned] at custody
        exact custody
      | captured =>
        obtain ⟨failure, rfl⟩ := called owned
        obtain rfl : failure = none := succeeded _ List.mem_cons_self
        exact handover.custody.2
    have counted := custody_count _ _ _ finalAccounted
    rw [handedBack] at counted
    exact ⟨handedBack, Nat.add_left_cancel counted⟩
  · rintro ⟨answer, present, failure⟩
    cases owned : ended.state.combo.owner with
    | released =>
      rw [idle owned] at present
      exact absurd present List.not_mem_nil
    | captured => exact (handover.failed answer present failure).trans owned

/-- Devices whose only batch completes the combination, and an adapter that takes no
frame. -/
def refusing : Bench :=
  { sources :=
      { script := [.batch [(.keyboard, [.key Key.leftShift 1, .key Key.leftCtrl 1,
          .key Key.escape 1])] none] }
    recorder := { limit := some 0 } }

/-- The batch that captures the devices is also the one whose frame is refused. The run
returns, the devices were taken once and handed back once, and the failure of the bus is
what is returned. -/
theorem refused_frame_hands_back :
    let start := fresh {} { keyboard := true } .absolute .standard (refusing, [])
    let (ending, final) := start.run Bench.rig.journaled
    ((fresh {} { keyboard := true } .absolute .standard refusing).run Bench.rig).1 ≠ .never ∧
      final.rigState.2 = [{ call := .acquire, failure := none },
        { call := .release, failure := none }] ∧
      ∃ outcomes last halt ended, Batches Bench.rig.journaled start outcomes last ∧
        last.processBatch Bench.rig.journaled = (.error halt, ended) ∧
        ((∃ error, halt = .failed error ∧ ending = .failed error) ∨
          (halt = .never ∧ ending = .shutdown)) ∧
        ∃ exit, final.rigState.2 = ended.rigState.2 ++ exit ∧
          ((∀ answer ∈ exit, answer.failure = none) → final.state.combo.owner = .released) := by
  have returned : ((fresh {} { keyboard := true } .absolute .standard refusing).run
      Bench.rig).1 ≠ .never := by decide
  obtain ⟨_, outcomes, last, halt, ended, batches, stopped, reason, exit, journal, _, _,
      handedBack, _⟩ :=
    released_on_every_exit Bench.rig {} { keyboard := true } .absolute .standard refusing returned
  exact ⟨returned, rfl, outcomes, last, halt, ended, batches, stopped, reason, exit, journal,
    fun succeeded => (handedBack succeeded).1⟩

end InputBridge.Bridge
