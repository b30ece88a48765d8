import InputBridge.Bridge.Scripted
import InputBridge.Proofs.BridgeJournal
/-!
# The combination calls the devices when it becomes held

The combination is looked at once in every batch, after the events of the batch were taken
in. Between batches the cooldown is therefore nothing but a memory of the last look: it is
armed exactly if the combination was held then. So a batch calls the devices exactly if the
combination is held at its end and was not held at the end of the batch before, and over a
run of batches there is one call for each stretch of batch ends with the combination held.

The rig is arbitrary. Calls are counted in the journal, failed ones too; a bridge goes
through the same batches with a journal and without.
-/
namespace InputBridge

/-- How many times a flag becomes true, given what it was before: each maximal stretch in
which it is true counts once, unless the flag was true before. -/
def stretches : Bool → List Bool → Nat
  | _, [] => 0
  | before, flag :: rest => (flag && !before).toNat + stretches flag rest

/-- A flag that stays true becomes true at most once. -/
theorem stretches_held (before : Bool) (flags : List Bool)
    (held : ∀ flag ∈ flags, flag = true) : stretches before flags ≤ (!before).toNat := by
  induction flags generalizing before with
  | nil => exact Nat.zero_le _
  | cons flag rest inductionHypothesis =>
    obtain rfl := held flag List.mem_cons_self
    have later := inductionHypothesis true fun flag later =>
      held flag (List.mem_cons_of_mem _ later)
    rw [stretches, Nat.le_zero.mp later]
    exact Nat.le_refl _

/-- At most one item, and that one exactly if a flag is set. -/
theorem length_once {α : Type} (items : List α) (flag : Bool) (once : items.length ≤ 1)
    (present : items ≠ [] ↔ flag = true) : items.length = flag.toNat := by
  cases flag with
  | false =>
    have missing : ¬ items ≠ [] := fun found => Bool.false_ne_true (present.mp found)
    exact List.length_eq_zero_iff.mpr (Classical.not_not.mp missing)
  | true =>
    have found : items ≠ [] := present.mpr rfl
    exact Nat.le_antisymm once (List.length_pos_iff.mpr found)

/-- A call to the devices, or the decision to make none, changes nothing about what is
held. -/
theorem Handover.all_held {before after : Combo} {answers : List Answer}
    (handover : Handover before answers after) : after.allHeld = before.allHeld := by
  simp only [Combo.allHeld, handover.leftShift, handover.leftCtrl, handover.escape]

namespace InputState

/-- Events that are not accepted leave the state alone. -/
theorem absorb_all_unaccepted (keymap : Keymap) (state : InputState) (events : List InputEvent)
    (unaccepted : events.any (InputEvent.isAccepted keymap) = false) :
    state.absorbAll keymap events = state := by
  induction events with
  | nil => rfl
  | cons event rest inductionHypothesis =>
    obtain ⟨first, later⟩ := Bool.or_eq_false_iff.mp (List.any_cons.symm.trans unaccepted)
    have refused := apply_is_ok keymap state event
    rw [first] at refused
    rw [absorb_all_cons, absorb]
    cases applied : state.apply keymap event with
    | error rejection => exact inductionHypothesis later
    | ok next => rw [applied] at refused; cases refused

end InputState

namespace Bridge

variable {σ τ : Type}

/-- A bridge whose devices have a journal. -/
def withJournal (bridge : Bridge σ) (journal : List Answer) : Bridge (σ × List Answer) :=
  { keymap := bridge.keymap
    presence := bridge.presence
    state := bridge.state
    framesSent := bridge.framesSent
    rigState := (bridge.rigState, journal) }

/-- A completed batch takes events in, looks at the combination and makes of it what the
look came to. If the batch was idle, none of its events were accepted. -/
theorem completed_looked (rig : Rig σ) (view : σ → τ) (undisturbed : rig.Undisturbed view)
    (bridge next : Bridge σ) (outcome : BatchOutcome)
    (completed : bridge.processBatch rig = (.ok outcome, next)) :
    ∃ events devices,
      view devices = view bridge.rigState ∧
        view next.rigState = view (bridge.toggledAfter rig events devices).devices ∧
        next.state.combo = (bridge.toggledAfter rig events devices).combo ∧
        (outcome = .idle → events.any (InputEvent.isAccepted bridge.keymap) = false) := by
  have run := process_batch_run rig view undisturbed bridge
  rw [completed] at run
  cases run with
  | sent events devices rigState accepted unseen seen =>
    exact ⟨events, devices, unseen, seen, rfl, nofun⟩
  | idle events devices rigState accepted unseen seen =>
    exact ⟨events, devices, unseen, seen, rfl, fun _ => accepted⟩

/-- With a journal the bridge completes the same batch. The journal gets one call if the
combination is held afterwards and the cooldown was not armed before, and none otherwise;
the cooldown then says whether the combination is held. An idle batch changes nothing about
what is held. -/
theorem completed_journaled (rig : Rig σ) (bridge next : Bridge σ) (outcome : BatchOutcome)
    (completed : bridge.processBatch rig = (.ok outcome, next)) (journal : List Answer) :
    let combo := bridge.state.combo
    let after := next.state.combo
    ∃ answers,
      (bridge.withJournal journal).processBatch rig.journaled =
          (.ok outcome, next.withJournal (journal ++ answers)) ∧
        answers.length = (after.allHeld && !combo.cooldown).toNat ∧
        after.cooldown = after.allHeld ∧
        (outcome = .idle → after.allHeld = combo.allHeld) := by
  intro combo after
  have same : hideIn Prod.fst ((bridge.withJournal journal).processBatch rig.journaled) =
      bridge.processBatch rig :=
    process_batch_mirrors rig.journaled rig Prod.fst rig.journaled_mirrors _
  rcases batch : (bridge.withJournal journal).processBatch rig.journaled with ⟨result, final⟩
  rw [batch, completed] at same
  obtain ⟨rfl, rfl⟩ := Prod.mk.inj same
  obtain ⟨events, devices, unseen, seen, combined, idle⟩ := completed_looked rig.journaled
    Prod.snd rig.journal_undisturbed _ final outcome batch
  obtain ⟨answers, entry, handover, cooldown, called⟩ := rig.capturing.evaluate_journaled
    (bridge.state.absorbAll bridge.keymap events).combo devices.1 devices.2
  have held : final.state.combo.allHeld =
      (bridge.state.absorbAll bridge.keymap events).combo.allHeld := by
    rw [combined]
    exact handover.all_held
  have armed := (InputState.absorb_all_capture bridge.keymap bridge.state events).2
  have journaled : final.rigState.2 = journal ++ answers :=
    seen.trans (entry.trans (by rw [unseen]; rfl))
  refine ⟨answers, ?_, ?_, ?_, ?_⟩
  · rw [← journaled]
    rfl
  · rw [armed, ← held] at called
    refine length_once answers _ handover.once (called.trans ?_)
    rw [Bool.and_eq_true, Bool.not_eq_true']
    exact Iff.rfl
  · exact (congrArg Combo.cooldown combined).trans (cooldown.trans held.symm)
  · intro unreported
    have untouched := InputState.absorb_all_unaccepted bridge.keymap bridge.state events
      (idle unreported)
    rw [untouched] at held
    exact held

/-- Completed batches, with whether the combination was held at the end of each. -/
inductive Watched (rig : Rig σ) : Bridge σ → List Bool → Bridge σ → Prop where
  | none (bridge : Bridge σ) : Watched rig bridge [] bridge
  | more (bridge next last : Bridge σ) (outcome : BatchOutcome) (held : List Bool)
      (completed : bridge.processBatch rig = (.ok outcome, next))
      (rest : Watched rig next held last) :
      Watched rig bridge (next.state.combo.allHeld :: held) last

/-- A batch whose answer is no failure was completed. -/
theorem completed_of_is_ok (rig : Rig σ) (bridge : Bridge σ)
    (completed : (bridge.processBatch rig).1.isOk = true) :
    ∃ outcome, bridge.processBatch rig = (.ok outcome, (bridge.processBatch rig).2) := by
  rcases batch : bridge.processBatch rig with ⟨result, next⟩
  rw [batch] at completed
  cases result with
  | error halt => cases completed
  | ok outcome => exact ⟨outcome, rfl⟩

/-- One more batch in front, if it is completed. -/
theorem watched_step (rig : Rig σ) (bridge last : Bridge σ) (flag : Bool) (held : List Bool)
    (completed : (bridge.processBatch rig).1.isOk = true)
    (ends : (bridge.processBatch rig).2.state.combo.allHeld = flag)
    (rest : Watched rig (bridge.processBatch rig).2 held last) :
    Watched rig bridge (flag :: held) last := by
  obtain ⟨outcome, batch⟩ := completed_of_is_ok rig bridge completed
  exact ends ▸ .more bridge _ last outcome held batch rest

/-- The cooldown says whether the combination is held. -/
def Settled (bridge : Bridge σ) : Prop :=
  bridge.state.combo.cooldown = bridge.state.combo.allHeld

/-- Over batches that were completed there is one call each time the combination becomes
held. The cooldown is settled before every batch, so it tells the next batch how the last
one ended. -/
theorem watched_journaled (rig : Rig σ) (bridge last : Bridge σ) (held : List Bool)
    (run : Watched rig bridge held last) (settled : bridge.Settled) (journal : List Answer) :
    last.Settled ∧ ∃ answers,
      Watched rig.journaled (bridge.withJournal journal) held
          (last.withJournal (journal ++ answers)) ∧
        answers.length = stretches bridge.state.combo.allHeld held := by
  induction run generalizing journal with
  | none bridge =>
    refine ⟨settled, [], ?_, rfl⟩
    rw [List.append_nil]
    exact .none _
  | more bridge next last outcome held completed rest inductionHypothesis =>
    obtain ⟨first, batch, once, nextSettled, _⟩ :=
      completed_journaled rig bridge next outcome completed journal
    obtain ⟨lastSettled, later, run, counted⟩ := inductionHypothesis nextSettled (journal ++ first)
    refine ⟨lastSettled, first ++ later, ?_, ?_⟩
    · rw [← List.append_assoc]
      exact .more _ (next.withJournal (journal ++ first)) _ outcome held batch run
    · rw [List.length_append, once, counted, settled]
      rfl

/-- For a fresh bridge on any rig, after any number of completed batches:

* the cooldown says whether the combination is held;
* all in all there was one call, failed ones included, each time the combination became
  held from the end of one batch to the end of the next;
* the next batch makes exactly one call if it is completed with the combination held at its
  end and not at its start, and none otherwise; in particular none if it is idle;
* over any number of further batches that all end with the combination held there is at most
  one call, whatever events they take in.

The calls are those in the journal of a bridge that goes through the same batches. -/
theorem one_call_per_edge (rig : Rig σ) (keymap : Keymap) (presence : Presence)
    (mode : PointerMode) (bounds : ScreenBounds) (rigState : σ) (held : List Bool)
    (last : Bridge σ)
    (run : Watched rig (fresh keymap presence mode bounds rigState) held last) :
    last.state.combo.cooldown = last.state.combo.allHeld ∧
      ∃ journal,
        Watched rig.journaled (fresh keymap presence mode bounds (rigState, [])) held
            (last.withJournal journal) ∧
          journal.length = stretches false held ∧
          (∀ outcome next, last.processBatch rig = (.ok outcome, next) →
            next.state.combo.cooldown = next.state.combo.allHeld ∧
              ∃ answers,
                (last.withJournal journal).processBatch rig.journaled =
                    (.ok outcome, next.withJournal (journal ++ answers)) ∧
                  answers.length =
                    (if next.state.combo.allHeld = true ∧ last.state.combo.allHeld = false
                      then 1 else 0) ∧
                  (outcome = .idle → answers = [])) ∧
          ∀ further final, Watched rig last further final → (∀ flag ∈ further, flag = true) →
            ∃ answers,
              Watched rig.journaled (last.withJournal journal) further
                  (final.withJournal (journal ++ answers)) ∧
                answers.length ≤ 1 := by
  obtain ⟨settled, journal, journaled, counted⟩ :=
    watched_journaled rig _ last held run rfl []
  rw [List.nil_append] at journaled
  refine ⟨settled, journal, journaled, counted, ?_, ?_⟩
  · intro outcome next completed
    obtain ⟨answers, batch, once, nextSettled, idle⟩ :=
      completed_journaled rig last next outcome completed journal
    refine ⟨nextSettled, answers, batch, ?_, ?_⟩
    · rw [once, settled]
      cases next.state.combo.allHeld <;> cases last.state.combo.allHeld <;> rfl
    · intro unreported
      rw [settled, idle unreported, Bool.and_not_self] at once
      exact List.eq_nil_of_length_eq_zero once
  · intro further final run stays
    obtain ⟨_, answers, journaled, counted⟩ :=
      watched_journaled rig last final further run settled journal
    refine ⟨answers, journaled, ?_⟩
    rw [counted]
    exact Nat.le_trans (stretches_held _ further stays) (Bool.toNat_le _)

/-- Devices that refuse to be taken. The combination is completed, stays held while a key
repeats, another key and the mouse are used and nothing happens, and is let go of and
completed again. -/
def insisting : Bench :=
  { sources :=
      { script :=
          [.batch [(.keyboard, [.key Key.leftShift 1, .key Key.leftCtrl 1, .key Key.escape 1])]
              none,
            .batch [(.keyboard, [.key Key.escape 2, .key 30 1]), (.mouse, [.relative Axis.x 5])]
              none,
            .batch [(.keyboard, [.other EventType.sync 0 0])] none,
            .batch [(.keyboard, [.key Key.escape 0])] none,
            .batch [(.keyboard, [.key Key.escape 1])] none]
        refuseGrabs := true } }

/-- The refused call is not repeated while the combination stays held. It is made again when
the combination is completed again. -/
theorem refused_call_waits :
    ∃ last journal answers,
      Watched Bench.rig (fresh {} {} .absolute .standard insisting) [true, true, true, false]
          last ∧
        Watched Bench.rig.journaled (fresh {} {} .absolute .standard (insisting, []))
          [true, true, true, false] (last.withJournal journal) ∧
        journal.length = 1 ∧
        ((last.withJournal journal).processBatch Bench.rig.journaled).2.rigState.2 =
          journal ++ answers ∧
        answers.length = 1 := by
  obtain ⟨last, outcome, next, run, batch, again⟩ :
      ∃ last outcome next,
        Watched Bench.rig (fresh {} {} .absolute .standard insisting) [true, true, true, false]
            last ∧
          last.processBatch Bench.rig = (.ok outcome, next) ∧
          (next.state.combo.allHeld = true ∧ last.state.combo.allHeld = false) := by
    let after (bridge : Bridge Bench) := (bridge.processBatch Bench.rig).2
    let start := fresh {} {} .absolute .standard insisting
    obtain ⟨outcome, batch⟩ := completed_of_is_ok Bench.rig (after (after (after (after start))))
      (by decide +kernel)
    refine ⟨_, outcome, _, ?_, batch, by decide +kernel⟩
    refine watched_step _ _ _ _ _ (by decide +kernel) (by decide +kernel) ?_
    refine watched_step _ _ _ _ _ (by decide +kernel) (by decide +kernel) ?_
    refine watched_step _ _ _ _ _ (by decide +kernel) (by decide +kernel) ?_
    exact watched_step _ _ _ _ _ (by decide +kernel) (by decide +kernel) (.none _)
  obtain ⟨_, journal, journaled, counted, edge, _⟩ :=
    one_call_per_edge Bench.rig {} {} .absolute .standard insisting _ last run
  obtain ⟨_, answers, journaledBatch, once, _⟩ := edge outcome next batch
  refine ⟨last, journal, answers, run, journaled, counted, ?_, ?_⟩
  · rw [journaledBatch]
    rfl
  · rw [once, if_pos again]

end Bridge

end InputBridge
