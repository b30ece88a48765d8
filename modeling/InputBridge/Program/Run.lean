import InputBridge.Device.Choice
import InputBridge.Machine.Discovery
import InputBridge.Program.Failure
import InputBridge.Program.Host
/-!
# Running the bridge on a machine

A run finds the input devices, chooses a keyboard and a mouse, takes them into use,
opens the bus, greets the adapter, and then hands over to the bridge. Each step can
end the run. A run without a keyboard or without a mouse is possible, one without
both is not.

No device is both a keyboard and a mouse, so the two that are chosen differ; a
device that was handed out once could not be handed out again.
-/
namespace InputBridge

/-- The machine and the console, before and after a run. -/
structure Site where
  machine : Machine := {}
  console : Console := {}
deriving DecidableEq, Repr

/-- How a run ends. -/
inductive RunResult where
  /-- On request. -/
  | completed
  | failed (failure : Failure)
  /-- Not at all: the program waits for ever. -/
  | never
deriving DecidableEq, Repr

namespace Run

/-- Chooses the keyboard and then the mouse among the devices found, by their
places. -/
def choose (files : FileTree) (settings : Settings) (devices : List Descriptor)
    (console : Console) : Except SelectionError (PerDevice (Option Nat)) × Console :=
  match chooseDevice files .keyboard devices settings.keyboard console with
  | (.error error, console) => (.error error, console)
  | (.ok keyboard, console) =>
    match chooseDevice files .mouse devices settings.mouse console with
    | (.error error, console) => (.error error, console)
    | (.ok mouse, console) => (.ok { keyboard, mouse }, console)

/-- The notices about the devices that were chosen. -/
def choiceNotices (devices : List Descriptor) (choice : PerDevice (Option Nat)) : List Notice :=
  DeviceKind.all.filterMap fun kind =>
    ((choice.get kind).bind fun index => devices[index]?).map fun device =>
      .active kind device.name device.path

/-- Hands out the devices that were chosen. The keyboard goes first, and no device
goes twice. -/
def handOut (found : List Discovered) (choice : PerDevice (Option Nat)) :
    PerDevice (Option InputNode) :=
  let take (index : Option Nat) := index.bind fun index => found[index]?.map Discovered.device
  { keyboard := take choice.keyboard
    mouse := take (choice.mouse.filter fun index => choice.keyboard != some index) }

/-- The devices that a run uses. -/
def findDevices (files : FileTree) (settings : Settings) (site : Site) :
    Except Failure EventDevices × Site :=
  let found := site.machine.discover
  let devices := found.map Discovered.descriptor
  let console := site.console.report (.enumerated found.length)
  match choose (site.machine.addInputFiles files) settings devices console with
  | (.error error, console) => (.error (.selection error), { site with console })
  | (.ok choice, console) =>
    let site := { site with console := console.reportAll (choiceNotices devices choice) }
    let chosen := handOut found choice
    if chosen.keyboard.isNone && chosen.mouse.isNone then (.error .noDevice, site)
    else
      match EventDevices.register chosen site.machine with
      | .error error => (.error (.registration error), site)
      | .ok inputs => (.ok inputs, site)

/-- The bridge on its devices and its bus, or why there is none and what was left
behind. -/
def connect (settings : Settings) (keymap : Keymap) (inputs : EventDevices) (console : Console) :
    Except (Failure × Site) (Bridge Host) :=
  let console := console.report (.connecting settings.bus.toNat)
  match inputs.machine.openBus settings.bus.toNat with
  | (.error error, machine) => .error (.bus error, { machine, console })
  | (.ok bus, machine) =>
    let console := console.report bus.openedNotice
    .ok
      { keymap
        presence := inputs.presence
        state := .initial settings.mode settings.bounds
        rigState := { inputs := { inputs with machine }, bus, console } }

/-- The machine and the console under a bridge. -/
def siteOf (bridge : Bridge Host) : Site :=
  { machine := bridge.rigState.inputs.machine, console := bridge.rigState.console }

/-- Greets the adapter and runs the bridge. -/
def operate (bridge : Bridge Host) : RunResult × Site :=
  match bridge.handshake Host.rig with
  | (.error error, bridge) => (.failed (.greeting error), siteOf bridge)
  | (.ok (), bridge) =>
    match (bridge.report Host.rig .ready).run Host.rig with
    | (.shutdown, bridge) =>
      (.completed, siteOf (bridge.report Host.rig (.stopped bridge.framesSent)))
    | (.failed error, bridge) => (.failed (.bridge error), siteOf bridge)
    | (.never, bridge) => (.never, siteOf bridge)

end Run

/-- Runs the bridge with some settings and a keymap. -/
def runBridge (files : FileTree) (settings : Settings) (keymap : Keymap) (site : Site) :
    RunResult × Site :=
  match Run.findDevices files settings site with
  | (.error failure, site) => (.failed failure, site)
  | (.ok inputs, site) =>
    match Run.connect settings keymap inputs site.console with
    | .error (failure, site) => (.failed failure, site)
    | .ok bridge => Run.operate bridge

end InputBridge
