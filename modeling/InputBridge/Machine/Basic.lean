import InputBridge.Device.Kind
import InputBridge.Frame.Encoding
import InputBridge.Machine.InputNode
/-!
# The machine the program runs on

The machine has input devices and buses. What happens on it while the program
waits is laid down in a script: each time the program waits and nothing is ready,
the next batch of the script is played, and after the last the program may be
interrupted. A journal keeps what the program did to the machine and what happened
on it, in order.
-/
namespace InputBridge

/-- Something that happens on the machine. -/
inductive Act where
  /-- Events on an input device. -/
  | events (node : String) (events : List InputEvent)
  /-- An input device fails. -/
  | failure (node : String) (error : SystemError)
deriving DecidableEq, Repr

/-- The act as it concerns a device. -/
def InputNode.undergo (act : Act) (device : InputNode) : InputNode :=
  match act with
  | .events node events => if device.node = node then device.receive events else device
  | .failure node error => if device.node = node then device.fail error else device

/-- A bus. -/
structure Bus where
  number : Nat
  /-- Why it cannot be opened, if it cannot. -/
  openFault : Option SystemError := none
  /-- Why no device on it can be addressed, if none can. -/
  addressFault : Option SystemError := none
  /-- How many writes succeed, if not all do. -/
  limit : Option Nat := none
  /-- Why the others fail. -/
  writeFault : SystemError := .remote
  /-- How many writes succeeded so far. -/
  written : Nat := 0
deriving DecidableEq, Repr

/-- Something that was done or that happened. -/
inductive JournalEntry where
  /-- A batch of the script was played. -/
  | batch (index : Nat)
  /-- The program was interrupted. -/
  | interrupt
  /-- A device was to be grabbed or let go of. -/
  | capture (call : CaptureCall) (node : String) (fault : Option SystemError)
  /-- A bus was to be opened. -/
  | openBus (number : Nat) (fault : Option SystemError)
  /-- The adapter was to be addressed. -/
  | address (fault : Option SystemError)
  /-- A frame was to be written. -/
  | write (frame : Frame) (fault : Option SystemError)
deriving DecidableEq, Repr

/-- A machine. -/
structure Machine where
  /-- The input devices. -/
  nodes : List InputNode := []
  /-- Links among the files of the input devices, and where they lead. -/
  links : List (String × String) := []
  buses : List Bus := []
  /-- The batches that were not yet played. -/
  script : List (List Act) := []
  /-- An interrupt comes after the script. -/
  interrupts : Bool := false
  /-- How many batches were played. -/
  played : Nat := 0
  journal : List JournalEntry := []
deriving DecidableEq, Repr

namespace Machine

/-- The machine with one more entry in its journal. -/
def record (entry : JournalEntry) (machine : Machine) : Machine :=
  { machine with journal := machine.journal ++ [entry] }

end Machine

end InputBridge
