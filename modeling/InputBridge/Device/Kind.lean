/-!
# The two kinds of input device

The bridge serves at most one keyboard and one mouse. The kind names a device's
part throughout: in what is registered, in what became ready, and in messages.
What is kept for each kind is kept as a pair and reached by the kind.
-/
namespace InputBridge

/-- The part an input device plays. -/
inductive DeviceKind where
  | keyboard
  | mouse
deriving DecidableEq, Repr, Inhabited

namespace DeviceKind

/-- Both kinds, the keyboard first. -/
def all : List DeviceKind := [keyboard, mouse]

/-- The word for a kind in messages. -/
def word : DeviceKind → String
  | keyboard => "keyboard"
  | mouse => "mouse"

/-- The other kind. -/
def other : DeviceKind → DeviceKind
  | keyboard => mouse
  | mouse => keyboard

end DeviceKind

/-- Something for each kind of device. -/
structure PerDevice (α : Type) where
  keyboard : α
  mouse : α
deriving DecidableEq, Repr

namespace PerDevice

variable {α : Type}

/-- What is held for a kind. -/
def get (all : PerDevice α) : DeviceKind → α
  | .keyboard => all.keyboard
  | .mouse => all.mouse

/-- Changes everything that is held. -/
def map {β : Type} (change : α → β) (all : PerDevice α) : PerDevice β :=
  { keyboard := change all.keyboard, mouse := change all.mouse }

/-- Changes what is held for a kind. -/
def modify (all : PerDevice α) (kind : DeviceKind) (change : α → α) : PerDevice α :=
  match kind with
  | .keyboard => { all with keyboard := change all.keyboard }
  | .mouse => { all with mouse := change all.mouse }

/-- A change for one kind shows there and leaves the other kind alone. -/
theorem get_modify (all : PerDevice α) (changed asked : DeviceKind) (change : α → α) :
    (all.modify changed change).get asked =
      if asked = changed then change (all.get asked) else all.get asked := by
  cases changed <;> cases asked <;> rfl

end PerDevice

end InputBridge
