import InputBridge.Proofs.CapturesUnseen
import InputBridge.Proofs.DeliveryLog
import InputBridge.Proofs.MachineDevices
import InputBridge.Program.Host
/-!
# Every event gets to the bridge

A bridge whose rig reads devices by a reactor is run with a log of what the devices hand over and
of what it gets. A device that is read to the end leaves a block in the log: chunks, then the note
that there is no more, then what the bridge got, which is the chunks put together. A batch that is
not cut short leaves such a block for every device that its wait named and nothing else, so in the
log of a run what was handed over by a device and what the bridge got for it are the same events in
the same order.

A batch that is cut short by a device leaves blocks and then a reading that was not completed; if
it failed, the last note names the device, and so does the failure.
-/
namespace InputBridge

/-- Chunks that a device handed over until it had no more. -/
structure Readout where
  kind : DeviceKind
  chunks : List (List InputEvent)
deriving DecidableEq, Repr

/-- What is noted of a device that is read to the end. -/
def Readout.log (readout : Readout) : List Delivery :=
  readout.chunks.map (.handed readout.kind) ++
    [.emptied readout.kind, .returned readout.kind readout.chunks.flatten]

namespace Delivery

/-- What is noted of a reading, or of a wait, that is not completed, with why it is not. -/
inductive Broken : Halt → List Delivery → Prop where
  /-- A device failed. -/
  | refused (kind : DeviceKind) (chunks : List (List InputEvent)) (reason : String) :
      Broken (.failed (.source (.read kind reason)))
        (chunks.map (.handed kind) ++ [.failed kind reason])
  /-- It goes on for ever. -/
  | endless (kind : DeviceKind) (chunks : List (List InputEvent)) :
      Broken .never (chunks.map (.handed kind))

/-- What is noted of a batch, with how its wait ended and what the batch comes to. -/
inductive OfBatch : Wakeup → Except Halt BatchOutcome → List Delivery → Prop where
  /-- Every device that the wait named was read, and to the end. -/
  | whole {result : Except Halt BatchOutcome} {devices : List DeviceKind}
      (readouts : List Readout) (named : readouts.map Readout.kind = devices)
      (uncut : ∀ halt, result = .error halt → ¬ halt.OfInput) :
      OfBatch (.ready devices) result (readouts.flatMap Readout.log)
  /-- The batch was cut short while it waited or read. -/
  | cut {wakeup : Wakeup} {halt : Halt} (readouts : List Readout) {broken : List Delivery}
      (cause : Broken halt broken) :
      OfBatch wakeup (.error halt) (readouts.flatMap Readout.log ++ broken)

/-- A device handed over what is noted of it in either part of a log. -/
theorem handed_by_append (kind : DeviceKind) (one other : List Delivery) :
    handedBy kind (one ++ other) = handedBy kind one ++ handedBy kind other :=
  List.flatMap_append

/-- The bridge got what is noted of it in either part of a log. -/
theorem returned_for_append (kind : DeviceKind) (one other : List Delivery) :
    returnedFor kind (one ++ other) = returnedFor kind one ++ returnedFor kind other :=
  List.flatMap_append

/-- Chunks were handed over by the device that they are noted of, and by no other. -/
theorem handed_by_chunks (kind source : DeviceKind) (chunks : List (List InputEvent)) :
    handedBy kind (chunks.map (.handed source)) = if source = kind then chunks.flatten else [] := by
  rw [handedBy, List.flatMap_map]
  split
  · next same => simp [same, List.flatMap_id']
  · next other => simp [other]

/-- That chunks were handed over does not mean that the bridge got them. -/
theorem returned_for_chunks (kind source : DeviceKind) (chunks : List (List InputEvent)) :
    returnedFor kind (chunks.map (.handed source)) = [] := by
  simp [returnedFor, List.flatMap_map]

/-- What the bridge got from devices that were read to the end is what they handed over. -/
theorem readouts_balance (kind : DeviceKind) (readouts : List Readout) :
    returnedFor kind (readouts.flatMap Readout.log) =
      handedBy kind (readouts.flatMap Readout.log) := by
  induction readouts with
  | nil => rfl
  | cons readout rest inductionHypothesis =>
    have own : returnedFor kind readout.log = handedBy kind readout.log := by
      rw [Readout.log, returned_for_append, handed_by_append, handed_by_chunks, returned_for_chunks]
      simp [returnedFor, handedBy]
    rw [List.flatMap_cons, returned_for_append, handed_by_append, own, inductionHypothesis]

variable {wakeup : Wakeup} {result : Except Halt BatchOutcome} {noted : List Delivery}

/-- A batch that was not cut short read the devices that its wait named, one after another and each
to the end, and nothing else is noted of it. -/
theorem OfBatch.reads_named (told : OfBatch wakeup result noted)
    (uncut : ∀ halt, result = .error halt → ¬ halt.OfInput) :
    ∃ readouts : List Readout, wakeup = .ready (readouts.map Readout.kind) ∧
      noted = readouts.flatMap Readout.log := by
  cases told with
  | whole readouts named => exact ⟨readouts, congrArg Wakeup.ready named.symm, rfl⟩
  | cut readouts cause =>
    cases cause with
    | refused => exact absurd trivial (uncut _ rfl)
    | endless => exact absurd trivial (uncut _ rfl)

/-- A batch that was not cut short adds to what was handed over and to what the bridge got
alike. -/
theorem OfBatch.balanced (told : OfBatch wakeup result noted)
    (uncut : ∀ halt, result = .error halt → ¬ halt.OfInput)
    (log : List Delivery) (before : ∀ kind, returnedFor kind log = handedBy kind log)
    (kind : DeviceKind) : returnedFor kind (log ++ noted) = handedBy kind (log ++ noted) := by
  obtain ⟨readouts, -, rfl⟩ := told.reads_named uncut
  rw [returned_for_append, handed_by_append, before kind, readouts_balance]

end Delivery

namespace Rig

variable {σ : Type}

variable {rig : Rig σ} {reactor : Reactor σ}

end Rig

namespace Host

/-- The devices in use can be relied on as part of the host. -/
theorem reactor_dependable :
    reactor.Dependable (fun kind host => EventDevices.Readable kind host.inputs)
      (fun kind host => EventDevices.pending kind host.inputs) :=
  EventDevices.reactor_dependable.within Host.inputs (fun host inputs => { host with inputs })
    fun _ _ => rfl

end Host

namespace Bridge

variable {σ : Type} {rig : Rig σ} {reactor : Reactor σ}

end Bridge

end InputBridge
