import InputBridge.Bridge.Basic
import InputBridge.Console
import InputBridge.Machine.Adapter
import InputBridge.Machine.EventDevices
/-!
# The bridge on a machine

On a machine the bridge reads the devices in use, writes to the adapter on its
bus, and reports on the console. Grabbing devices is itself reported, though only
when all of them were grabbed.
-/
namespace InputBridge

/-- What the bridge is connected to on a machine. -/
structure Host where
  inputs : EventDevices
  bus : Bus
  console : Console := {}
deriving DecidableEq, Repr

namespace Host

/-- Puts a notice on the console. -/
def report (notice : Notice) (host : Host) : Host :=
  { host with console := host.console.report notice }

/-- What grabbing the devices reports. -/
def grabNotices (call : CaptureCall) (failure : Option String) (inputs : EventDevices) :
    List Notice :=
  match call, failure with
  | .acquire, none => [.grabbed inputs.kinds.length]
  | _, _ => []

/-- Captures the devices or releases them, and reports it. -/
def capturing : Capturing Host := fun call host =>
  let (failure, inputs) := EventDevices.capturing call host.inputs
  (failure, { host with inputs, console := host.console.reportAll (grabNotices call failure inputs) })

/-- Writes a frame to the adapter. -/
def write (frame : Frame) (host : Host) : Option TransportError × Host :=
  let (failure, bus, machine) := host.bus.write frame host.inputs.machine
  (failure, { host with bus, inputs := { host.inputs with machine } })

/-- The interrupt that comes after the script. There is only one. -/
def interrupt (host : Host) : Option Host :=
  let machine := host.inputs.machine
  if machine.interrupts then
    let machine := ({ machine with interrupts := false } : Machine).record .interrupt
    some { host with inputs := { host.inputs with machine } }
  else none

/-- The devices in use, as part of the host. -/
def reactor : Reactor Host :=
  EventDevices.reactor.within Host.inputs (fun host inputs => { host with inputs })
    fun _ _ => rfl

/-- The rig of a machine. Every wait that finds a device ready either plays a
batch or is the first. -/
def rig : Rig Host where
  wait := reactor.wait
  drain := reactor.drain
  capturing := capturing
  write := write
  report := report
  interrupt := interrupt
  backlog host := host.inputs.machine.script.length + 1

end Host

end InputBridge
