import InputBridge.Device.Descriptor
import InputBridge.File.Tree
import InputBridge.Machine.Basic
import InputBridge.Text.Encoded
/-!
# Finding the input devices

The files of the input devices lie in one directory. Every file there whose name
begins in the usual way and that leads to a device which can be opened is a device
found; two files that lead to the same device are found both. What was found is
sorted by path. A device tells its own name, but not more of it than fits.
-/
namespace InputBridge

/-- A device that was found. -/
structure Discovered where
  descriptor : Descriptor
  device : InputNode
deriving DecidableEq, Repr

namespace InputNode

/-- What a device without a name of its own is called. -/
def unnamed : String := "unnamed device"

/-- The bytes of a name that a device tells. -/
def maxNameSize : Nat := 255

/-- What a device tells as its name, if it has one. -/
def toldName (device : InputNode) : Option String :=
  (device.name.filter fun name => !name.isEmpty).map fun name =>
    String.ofList (Text.readFront maxNameSize name.toList)

/-- What is known of a device that was found under a path. Its keys are in
increasing order. -/
def describe (path : String) (device : InputNode) : Descriptor :=
  let keys := (device.keys.getD []).mergeSort fun first second => first ≤ second
  { path
    name := device.toldName.getD unnamed
    keys := keys.eraseReps }

end InputNode

namespace Machine

/-- The directory of the input devices. -/
def inputDirectory : String := "/dev/input"

/-- How the names of their files begin. -/
def eventName : String := "event"

/-- A file tree with the input devices of the machine in it. -/
def addInputFiles (machine : Machine) (files : FileTree) : FileTree :=
  let files := files.add inputDirectory .directory
  let files := machine.nodes.foldl
    (fun files device => files.add (Path.join inputDirectory device.node) (.file [])) files
  machine.links.foldl
    (fun files (name, target) => files.add (Path.join inputDirectory name) (.link target)) files

/-- The names in the directory that may be those of input devices. -/
def eventNames (machine : Machine) : List String :=
  (machine.nodes.map InputNode.node ++ machine.links.map Prod.fst).filter fun name =>
    eventName.toList.isPrefixOf name.toList && !name.toList.contains '/'

/-- The device that a path leads to. -/
def deviceAt? (machine : Machine) (path : String) : Option InputNode :=
  match (machine.addInputFiles {}).canonical path with
  | .error _ => none
  | .ok canonical =>
    machine.nodes.find? fun device => Path.join inputDirectory device.node == canonical

/-- Finds the input devices that can be opened. -/
def discover (machine : Machine) : List Discovered :=
  let found := machine.eventNames.filterMap fun name =>
    let path := Path.join inputDirectory name
    match machine.deviceAt? path with
    | none => none
    | some device =>
      if device.isHidden then none else some { descriptor := device.describe path, device }
  found.mergeSort fun first second => !(second.descriptor.path < first.descriptor.path : Bool)

end Machine

end InputBridge
