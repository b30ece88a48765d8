import InputBridge.Proofs.BatchParts
import InputBridge.Proofs.ScriptedBatch
/-!
# A bridge whose adapter keeps a record

To see which frames a bridge writes, the adapter is given a record of the frames that it gets
and of how each was answered. Keeping it changes nothing else, so a bridge goes through the
same handshake and the same batches with a record and without.

Nothing but a write is recorded. A batch that was completed has therefore written just the
frame that it says it sent, or none if it says that it was idle, and the record of a run can be
read off its outcomes.
-/
namespace InputBridge

/-- A frame as the adapter got it, with the reason if it was refused. -/
structure Written where
  frame : Frame
  refusal : Option TransportError
deriving DecidableEq, Repr

/-- What a completed batch wrote. -/
def BatchOutcome.written : BatchOutcome → List Written
  | .sent frame => [{ frame, refusal := none }]
  | .idle => []

namespace Rig

variable {σ : Type}

/-- The same rig, with a record of the frames written. -/
def recorded (rig : Rig σ) : Rig (σ × List Written) where
  wait state := ((rig.wait state.1).1, (rig.wait state.1).2, state.2)
  drain device state := ((rig.drain device state.1).1, (rig.drain device state.1).2, state.2)
  capturing call state :=
    ((rig.capturing call state.1).1, (rig.capturing call state.1).2, state.2)
  write frame state :=
    let (refusal, after) := rig.write frame state.1
    (refusal, after, state.2 ++ [{ frame, refusal }])
  report notice state := (rig.report notice state.1, state.2)
  interrupt state := (rig.interrupt state.1).map fun after => (after, state.2)
  backlog state := rig.backlog state.1

/-- Keeping the record changes nothing else. -/
theorem recorded_mirrors (rig : Rig σ) : rig.recorded.Mirrors rig Prod.fst where
  wait _ := rfl
  drain _ _ := rfl
  capturing _ _ := rfl
  write _ _ := rfl
  report _ _ := rfl
  interrupt state := by
    simp only [recorded, Option.map_map]
    exact Option.map_id'
  backlog _ := rfl

/-- Nothing is recorded while devices are read. -/
theorem recorded_reads_unseen (rig : Rig σ) : rig.recorded.ReadsUnseen Prod.snd where
  wait _ := rfl
  drain _ _ := rfl
  report _ _ := rfl

end Rig

namespace Bridge

variable {σ : Type}

/-- A bridge whose adapter has a record. -/
def withRecord (bridge : Bridge σ) (record : List Written) : Bridge (σ × List Written) :=
  { keymap := bridge.keymap
    presence := bridge.presence
    state := bridge.state
    framesSent := bridge.framesSent
    rigState := (bridge.rigState, record) }

/-- A frame that is taken is recorded. -/
theorem write_recorded (rig : Rig σ) (frame : Frame) (bridge next : Bridge (σ × List Written))
    (taken : bridge.write rig.recorded frame = (.ok (), next)) :
    next.rigState.2 = bridge.rigState.2 ++ [{ frame, refusal := none }] := by
  rcases answer : rig.write frame bridge.rigState.1 with ⟨refusal, after⟩
  have recorded : rig.recorded.write frame bridge.rigState =
      (refusal, after, bridge.rigState.2 ++ [⟨frame, refusal⟩]) := by
    simp only [Rig.recorded, answer]
  cases refusal with
  | some error => simp only [write, recorded, Prod.mk.injEq, reduceCtorEq, false_and] at taken
  | none =>
    simp only [write, recorded, Prod.mk.injEq, true_and] at taken
    exact taken ▸ rfl

/-- A state that is sent is recorded as a frame. -/
theorem send_recorded (rig : Rig σ) (bridge next : Bridge (σ × List Written))
    (outcome : BatchOutcome) (sent : bridge.send rig.recorded = (.ok outcome, next)) :
    next.rigState.2 = bridge.rigState.2 ++ outcome.written := by
  let frame := Frame.ofState bridge.state bridge.presence
  rcases answer : (bridge.report rig.recorded (.sending frame)).write rig.recorded frame with
    ⟨result, after⟩
  cases result with
  | error error =>
    simp only [send, frame, answer, Prod.mk.injEq, reduceCtorEq, false_and] at sent
  | ok taken =>
    simp only [send, frame, answer, Prod.mk.injEq, Except.ok.injEq] at sent
    obtain ⟨rfl, rfl⟩ := sent
    exact write_recorded rig frame (bridge.report rig.recorded (.sending frame)) after answer

/-- A look at the combination writes nothing. -/
theorem evaluate_capture_recorded (rig : Rig σ) (bridge : Bridge (σ × List Written)) :
    (bridge.evaluateCapture rig.recorded).rigState.2 = bridge.rigState.2 := by
  have undisturbed := undisturbed_unheard rig.recorded Prod.snd rig.recorded_reads_unseen
  obtain ⟨rigState, seen, looked⟩ :=
    evaluate_capture_spec rig.recorded.unheard Prod.snd undisturbed bridge
  have same : bridge.evaluateCapture rig.recorded.unheard =
      bridge.evaluateCapture rig.recorded := rfl
  obtain ⟨unseen, _⟩ := rig.recorded.capturing.evaluate_plain Prod.snd (fun _ _ => rfl)
    bridge.state.combo bridge.rigState
  rw [← same, looked]
  exact seen.trans unseen

/-- Once its events are in, a batch that is completed writes what it says. -/
theorem conclude_recorded (rig : Rig σ) (updated : Bool) (bridge next : Bridge (σ × List Written))
    (outcome : BatchOutcome)
    (completed : bridge.conclude rig.recorded updated = (.ok outcome, next)) :
    next.rigState.2 = bridge.rigState.2 ++ outcome.written := by
  have looked := evaluate_capture_recorded rig bridge
  cases updated with
  | false =>
    simp only [conclude, Bool.false_eq_true, if_false, Prod.mk.injEq, Except.ok.injEq] at completed
    obtain ⟨rfl, rfl⟩ := completed
    rw [BatchOutcome.written, List.append_nil]
    exact looked
  | true =>
    rcases sent : (bridge.evaluateCapture rig.recorded).send rig.recorded with ⟨result, after⟩
    cases result with
    | error halt =>
      simp only [conclude, if_true, sent, Prod.mk.injEq, reduceCtorEq, false_and] at completed
    | ok reported =>
      simp only [conclude, if_true, sent, Prod.mk.injEq, Except.ok.injEq] at completed
      obtain ⟨rfl, rfl⟩ := completed
      rw [← looked]
      exact send_recorded rig _ after reported sent

/-- A batch that is completed writes what it says, no more and no less. -/
theorem completed_recorded (rig : Rig σ) (bridge next : Bridge (σ × List Written))
    (outcome : BatchOutcome)
    (completed : bridge.processBatch rig.recorded = (.ok outcome, next)) :
    next.rigState.2 = bridge.rigState.2 ++ outcome.written := by
  obtain ⟨events, devices, unseen, concluded⟩ := completed_concludes rig.recorded Prod.snd
    rig.recorded_reads_unseen bridge next outcome completed
  rw [← unseen]
  exact conclude_recorded rig _ (bridge.drained events devices) next outcome concluded

/-- With a record the bridge completes the same batch, and what the batch wrote is recorded. -/
theorem process_batch_recorded (rig : Rig σ) (bridge next : Bridge σ) (outcome : BatchOutcome)
    (completed : bridge.processBatch rig = (.ok outcome, next)) (record : List Written) :
    (bridge.withRecord record).processBatch rig.recorded =
      (.ok outcome, next.withRecord (record ++ outcome.written)) := by
  have same : hideIn Prod.fst ((bridge.withRecord record).processBatch rig.recorded) =
      bridge.processBatch rig :=
    process_batch_mirrors rig.recorded rig Prod.fst rig.recorded_mirrors _
  rcases batch : (bridge.withRecord record).processBatch rig.recorded with ⟨result, final⟩
  rw [batch, completed] at same
  obtain ⟨rfl, rfl⟩ := Prod.mk.inj same
  have written : final.rigState.2 = record ++ outcome.written :=
    completed_recorded rig (bridge.withRecord record) final outcome batch
  rw [← written]
  rfl

/-- With a record the bridge goes through the same batches, and what they wrote is recorded in
order. -/
theorem batches_recorded (rig : Rig σ) (bridge last : Bridge σ) (outcomes : List BatchOutcome)
    (batches : Batches rig bridge outcomes last) (record : List Written) :
    Batches rig.recorded (bridge.withRecord record) outcomes
      (last.withRecord (record ++ outcomes.flatMap BatchOutcome.written)) := by
  induction batches generalizing record with
  | none bridge =>
    rw [List.flatMap_nil, List.append_nil]
    exact .none _
  | more bridge next last outcome outcomes completed rest inductionHypothesis =>
    rw [List.flatMap_cons, ← List.append_assoc]
    exact .more _ _ _ outcome outcomes
      (process_batch_recorded rig bridge next outcome completed record)
      (inductionHypothesis (record ++ outcome.written))

/-- A handshake that was sent is a frame that the adapter took. It leaves no trace in the
state. -/
theorem handshake_taken (rig : Rig σ) (bridge next : Bridge σ)
    (greeted : bridge.handshake rig = (.ok (), next)) :
    let greeting := Frame.handshake bridge.presence bridge.state.pointer.mode
    ∃ rigState,
      rig.write greeting (rig.report (.greeting greeting) bridge.rigState) = (none, rigState) ∧
        next = { bridge with rigState := rig.report .connected rigState } := by
  intro greeting
  rcases answer : rig.write greeting (rig.report (.greeting greeting) bridge.rigState) with
    ⟨refusal, rigState⟩
  cases refusal with
  | some error =>
    simp only [handshake, report, write, greeting, answer, Prod.mk.injEq, reduceCtorEq, false_and]
      at greeted
  | none =>
    simp only [handshake, report, write, greeting, answer, Prod.mk.injEq, true_and] at greeted
    exact ⟨rigState, rfl, greeted.symm⟩

/-- With a record the bridge sends the same handshake, and that is what is recorded. -/
theorem handshake_recorded (rig : Rig σ) (bridge next : Bridge σ)
    (greeted : bridge.handshake rig = (.ok (), next)) (record : List Written) :
    let greeting := Frame.handshake bridge.presence bridge.state.pointer.mode
    (bridge.withRecord record).handshake rig.recorded =
      (.ok (), next.withRecord (record ++ [{ frame := greeting, refusal := none }])) := by
  obtain ⟨rigState, answer, rfl⟩ := handshake_taken rig bridge next greeted
  simp only [handshake, report, write, withRecord, Rig.recorded, answer]

end Bridge

end InputBridge
