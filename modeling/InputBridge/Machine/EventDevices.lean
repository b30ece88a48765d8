import InputBridge.Bridge.Rig
import InputBridge.Machine.Basic
import InputBridge.Machine.Reactor
/-!
# The devices in use

Of the machine's input devices at most one keyboard and one mouse are in use. Only
they receive what the script brings; a batch for other devices passes unnoticed.

Time passes only while a device is waited for: the script is then played until one
that is waited for is ready. Of several that are ready the keyboard comes first.

Capturing grabs the keyboard and then the mouse. If a device refuses, those that
were already taken are let go of again, so either all devices are captured or none
was taken by the call. Releasing tries every device and reports the first that
refuses.
-/
namespace InputBridge

/-- The devices in use, on their machine. -/
structure EventDevices where
  devices : PerDevice (Option InputNode)
  machine : Machine := {}
deriving DecidableEq, Repr

namespace EventDevices

/-- The device of a kind, if there is one. -/
def get? (inputs : EventDevices) (kind : DeviceKind) : Option InputNode :=
  inputs.devices.get kind

/-- The devices with that of a kind replaced. -/
def put (kind : DeviceKind) (device : InputNode) (inputs : EventDevices) : EventDevices :=
  { inputs with devices := inputs.devices.modify kind fun _ => some device }

/-- The kinds of the devices in use, the keyboard first. -/
def kinds (inputs : EventDevices) : List DeviceKind :=
  DeviceKind.all.filter fun kind => (inputs.get? kind).isSome

/-- What keeps a device of a kind from being read, if it does. -/
def registrationFault? (devices : PerDevice (Option InputNode)) (kind : DeviceKind) :
    Option SourceError :=
  (devices.get kind).bind fun device =>
    device.registrationFault.map fun error => .read kind error.message

/-- Takes devices into use. There has to be one at least, and all have to be fit
for it; the keyboard is tried first. -/
def register (devices : PerDevice (Option InputNode)) (machine : Machine) :
    Except SourceError EventDevices :=
  if devices.keyboard.isNone && devices.mouse.isNone then .error .noSources
  else
    match DeviceKind.all.findSome? (registrationFault? devices) with
    | some error => .error error
    | none => .ok { devices, machine }

/-- Which devices are in use. -/
def presence (inputs : EventDevices) : Presence :=
  { keyboard := inputs.devices.keyboard.isSome, mouse := inputs.devices.mouse.isSome }

/-! ### Waiting and reading -/

/-- The device of a kind is in use and ready. -/
def isReady (inputs : EventDevices) (kind : DeviceKind) : Bool :=
  (inputs.get? kind).any InputNode.isReady

/-- Something happens on the machine. -/
def undergo (act : Act) (inputs : EventDevices) : EventDevices :=
  { inputs with devices := inputs.devices.map (Option.map (InputNode.undergo act)) }

/-- Everything happens that a batch holds. -/
def undergoAll (acts : List Act) (inputs : EventDevices) : EventDevices :=
  acts.foldl (fun inputs act => inputs.undergo act) inputs

/-- A batch is played, with the rest of the script to come. -/
def play (acts : List Act) (script : List (List Act)) (inputs : EventDevices) : EventDevices :=
  let machine := inputs.machine
  { inputs with
    machine :=
      ({ machine with script, played := machine.played + 1 } : Machine).record
        (.batch machine.played) }.undergoAll acts

/-- Playing a batch leaves the rest of the script. -/
theorem script_play (acts : List Act) (script : List (List Act)) (inputs : EventDevices) :
    (inputs.play acts script).machine.script = script := by
  have kept : ∀ (acts : List Act) (inputs : EventDevices),
      (inputs.undergoAll acts).machine = inputs.machine := by
    intro acts
    induction acts with
    | nil => exact fun _ => rfl
    | cons act rest ih => exact fun inputs => ih (inputs.undergo act)
  rw [play, kept]
  rfl

/-- Plays the script until a condition holds. The answer says whether it does. -/
def playUntil (condition : EventDevices → Bool) (inputs : EventDevices) : Bool × EventDevices :=
  if condition inputs then (true, inputs)
  else
    match _ : inputs.machine.script with
    | [] => (false, inputs)
    | acts :: script => (inputs.play acts script).playUntil condition
termination_by inputs.machine.script.length
decreasing_by simp_all [script_play]

/-- Whatever happens, the same devices stay in use. -/
theorem kinds_undergo (act : Act) (inputs : EventDevices) :
    (inputs.undergo act).kinds = inputs.kinds := by
  simp [kinds, DeviceKind.all, List.filter_cons, undergo, get?, PerDevice.get, PerDevice.map]

/-- Playing one batch of the script leaves the same devices in use. -/
theorem kinds_play (acts : List Act) (script : List (List Act)) (inputs : EventDevices) :
    (inputs.play acts script).kinds = inputs.kinds := by
  have kept : ∀ (acts : List Act) (inputs : EventDevices),
      (inputs.undergoAll acts).kinds = inputs.kinds := by
    intro acts
    induction acts with
    | nil => exact fun _ => rfl
    | cons act rest ih => exact fun inputs => (ih (inputs.undergo act)).trans (kinds_undergo _ _)
  exact kept _ _

/-- However far the script is played, the same devices stay in use. -/
theorem kinds_play_until (condition : EventDevices → Bool) (inputs : EventDevices) :
    (inputs.playUntil condition).2.kinds = inputs.kinds := by
  fun_induction playUntil condition inputs with
  | case1 => rfl
  | case2 => rfl
  | case3 inputs _ acts script _ ih => exact ih.trans (kinds_play acts script inputs)

/-- Putting a device in the place of another leaves the same devices in use. -/
theorem kinds_put {kind : DeviceKind} {inputs : EventDevices} {old : InputNode}
    (held : inputs.get? kind = some old) (device : InputNode) :
    (inputs.put kind device).kinds = inputs.kinds := by
  refine List.filter_congr fun asked _ => ?_
  rw [put, get?, PerDevice.get_modify]
  split
  · next same => rw [same, held]; rfl
  · rfl

/-- Plays the script until one of some devices is ready, and names the first that is. -/
def select (kinds : List DeviceKind) (inputs : EventDevices) :
    Option (DeviceKind × Option String) × EventDevices :=
  let (_, inputs) := inputs.playUntil fun inputs => kinds.any inputs.isReady
  ((kinds.find? inputs.isReady).map fun kind => (kind, none), inputs)

/-- Reads the device of a kind. -/
def fetch (kind : DeviceKind) (inputs : EventDevices) : Fetched × EventDevices :=
  match inputs.get? kind with
  | none => (.wouldBlock, inputs)
  | some device =>
    let (fetched, device) := device.fetch
    (fetched, inputs.put kind device)

/-- The devices in use and what tells when they are ready. A device hands over all its whole
packets at once. -/
def reactor : Reactor EventDevices where
  inUse := kinds
  select := select
  probe kind inputs := (if inputs.isReady kind then .readable else .pending, inputs)
  fetch := fetch
  backlog _ _ := 1
  mem_of_select named := by
    obtain ⟨kind, found, same⟩ := Option.map_eq_some_iff.mp (Prod.mk.inj named).1
    cases same
    exact List.mem_of_find?_eq_some found
  in_use_select _ inputs := kinds_play_until _ inputs
  in_use_probe _ _ := rfl
  in_use_fetch kind inputs := by
    rw [fetch]
    split
    · rfl
    · next held => exact kinds_put held _

/-- Waits until a device is ready. -/
def wait (inputs : EventDevices) : Wakeup × EventDevices :=
  reactor.wait inputs

/-- Reads a device to the end. -/
def drain (kind : DeviceKind) (inputs : EventDevices) : Drained × EventDevices :=
  reactor.drain kind inputs

/-! ### Capturing -/

/-- Grabs the device of a kind or lets go of it. The answer is why it refused, if
it did. -/
def callOn (call : CaptureCall) (kind : DeviceKind) (inputs : EventDevices) :
    Option SystemError × EventDevices :=
  match inputs.get? kind with
  | none => (none, inputs)
  | some device =>
    let (answer, after) := device.perform call
    let inputs := inputs.put kind after
    match answer with
    | .unneeded => (none, inputs)
    | .done =>
      (none, { inputs with machine := inputs.machine.record (.capture call device.node none) })
    | .refused error =>
      (some error,
        { inputs with machine := inputs.machine.record (.capture call device.node (some error)) })

/-- Lets go of devices in order. The answer is why the first refused that did. -/
def releaseEach : List DeviceKind → EventDevices → Option SystemError × EventDevices
  | [], inputs => (none, inputs)
  | kind :: rest, inputs =>
    let (fault, inputs) := inputs.callOn .release kind
    let (later, inputs) := inputs.releaseEach rest
    (fault.or later, inputs)

/-- Grabs devices in order. If one refuses, those taken by then, which come with
those in `taken`, are let go of, and the answer is why it refused. -/
def acquireEach (taken : List DeviceKind) :
    List DeviceKind → EventDevices → Option SystemError × EventDevices
  | [], inputs => (none, inputs)
  | kind :: rest, inputs =>
    match inputs.callOn .acquire kind with
    | (none, inputs) => inputs.acquireEach (taken ++ [kind]) rest
    | (some error, inputs) => (some error, (inputs.releaseEach taken).2)

/-- Captures the devices or releases them. -/
def capturing : Capturing EventDevices
  | .acquire, inputs =>
    let (fault, inputs) := inputs.acquireEach [] inputs.kinds
    (fault.map SystemError.message, inputs)
  | .release, inputs =>
    let (fault, inputs) := inputs.releaseEach inputs.kinds
    (fault.map SystemError.message, inputs)

end EventDevices

end InputBridge
