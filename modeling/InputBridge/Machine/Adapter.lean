import InputBridge.Bridge.Error
import InputBridge.Machine.Basic
import InputBridge.Notice
/-!
# The adapter on its bus

The adapter is reached through one of the machine's buses. Opening the bus and
addressing the adapter says nothing about whether the adapter is there; only
writing does. A frame is written as a block of its bytes.
-/
namespace InputBridge

namespace Machine

/-- The path of the file of a bus. -/
def busPath (number : Nat) : String := s!"/dev/i2c-{number}"

/-- Why a bus cannot be opened, or the bus. -/
def findBus (machine : Machine) (number : Nat) : Except SystemError Bus :=
  match machine.buses.find? fun bus => bus.number == number with
  | none => .error .noEntry
  | some bus =>
    match bus.openFault with
    | some error => .error error
    | none => .ok bus

/-- Opens a bus and addresses the adapter on it. -/
def openBus (number : Nat) (machine : Machine) : Except TransportError Bus × Machine :=
  match machine.findBus number with
  | .error error =>
    (.error (.busUnavailable (busPath number) error.message),
      machine.record (.openBus number (some error)))
  | .ok bus =>
    let machine := (machine.record (.openBus number none)).record (.address bus.addressFault)
    match bus.addressFault with
    | some error => (.error (.busUnavailable (busPath number) error.busMessage), machine)
    | none => (.ok bus, machine)

end Machine

namespace Bus

/-- What is reported of a bus that was opened. -/
def openedNotice (bus : Bus) : Notice :=
  .busOpened (Machine.busPath bus.number) Frame.adapterAddress

/-- Why the next write fails, if it does. -/
def nextFault (bus : Bus) : Option SystemError :=
  match bus.limit with
  | none => none
  | some limit => if limit ≤ bus.written then some bus.writeFault else none

/-- Writes a frame to the adapter. -/
def write (frame : Frame) (bus : Bus) (machine : Machine) :
    Option TransportError × Bus × Machine :=
  let machine := machine.record (.write frame bus.nextFault)
  match bus.nextFault with
  | some error =>
    (some (.peripheralNotFound Frame.adapterAddress error.busMessage), bus, machine)
  | none => (none, { bus with written := bus.written + 1 }, machine)

end Bus

end InputBridge
