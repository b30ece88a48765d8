import InputBridge.Console
import InputBridge.Device.Selection
import InputBridge.File.Tree
/-!
# Choosing a device on the console

The devices of a kind are listed with their numbers, names and paths, and a
number is asked for. The list is shown again after a number that is not on it,
but not after a line that holds no number.

A device may be named by a link; devices are found under their own paths, so the
name is replaced by where it leads, if it leads anywhere.
-/
namespace InputBridge

namespace Console

/-- Lists devices with their numbers. -/
def list (devices : List Descriptor) (console : Console) : Console :=
  devices.zipIdx.foldl
    (fun console (device, index) => console.print s!"{index} : {device.name} ({device.path})\n")
    console

/-- Lists devices and asks for the number of one. -/
def askDevice (kind : DeviceKind) (devices : List Descriptor) (console : Console) :
    Option Nat × Console :=
  (console.list devices).askNumber s!"Select {kind.word}: "

/-- Listing devices uses up no input. -/
theorem input_list (devices : List Descriptor) (console : Console) :
    (console.list devices).input = console.input := by
  unfold list
  generalize devices.zipIdx = numbered
  induction numbered generalizing console with
  | nil => rfl
  | cons first rest ih => exact ih _

/-- Asks on the console. -/
def prompting : Prompting Console where
  ask := askDevice
  report := report
  remaining console := console.input.length
  remaining_ask_lt {_ devices console _ _} answered := by
    have shorter := length_input_ask_number_lt answered
    rwa [input_list] at shorter
  remaining_report _ _ := rfl

end Console

/-- The path by which a device is known: where the given path leads, or the path
itself if it leads nowhere. -/
def FileTree.devicePath (files : FileTree) (path : String) : String :=
  match files.canonical path with
  | .ok canonical => canonical
  | .error _ => path

/-- Chooses a device of a kind among all devices, by its place in their list. -/
def chooseDevice (files : FileTree) (kind : DeviceKind) (devices : List Descriptor)
    (preferred : Option String) (console : Console) :
    Except SelectionError (Option Nat) × Console :=
  let indices := Descriptor.indicesOf kind devices
  let candidates := indices.filterMap fun index => devices[index]?
  match Console.prompting.select kind candidates (preferred.map files.devicePath) console with
  | (.error error, console) => (.error error, console)
  | (.ok chosen, console) => (.ok (chosen.bind fun place => indices[place]?), console)

end InputBridge
