import InputBridge.Device.Descriptor
import InputBridge.File.Path
import InputBridge.Notice
/-!
# Choosing a device

Of the devices of a kind one is used. A device named in the settings has to be
among them. Without such a name a single device is taken as it is, and of several
the user chooses one by its number in a list; a number that is not on the list is
asked for again.

The user is reached through an interface that makes every answer use something
up, so the asking ends.
-/
namespace InputBridge

/-- Why no device was chosen although one should have been. -/
inductive SelectionError where
  /-- The device named in the settings is not among the devices. -/
  | preferredMissing (kind : DeviceKind) (path : String)
  /-- The user did not answer. -/
  | noSelection (kind : DeviceKind)
deriving DecidableEq, Repr

/-- The wording of a selection error. -/
def SelectionError.message : SelectionError → String
  | .preferredMissing kind path =>
    s!"configured {kind.word} {path} is not an attached {kind.word}"
  | .noSelection kind => s!"no {kind.word} was selected"

/-- A way to reach the user, over states `σ`. -/
structure Prompting (σ : Type) where
  /-- Shows the devices of a kind and asks for a number. -/
  ask : DeviceKind → List Descriptor → σ → Option Nat × σ
  /-- Reports a notice. -/
  report : Notice → σ → σ
  /-- How many answers can still come, at most. -/
  remaining : σ → Nat
  /-- An answer leaves fewer answers to come. -/
  remaining_ask_lt : ∀ {kind devices state index after},
    ask kind devices state = (some index, after) → remaining after < remaining state
  /-- A notice takes no answer away. -/
  remaining_report : ∀ notice state, remaining (report notice state) = remaining state

namespace Prompting

variable {σ : Type}

/-- Asks until the answer is on the list or there is none. -/
def askListed (prompting : Prompting σ) (kind : DeviceKind) (devices : List Descriptor)
    (state : σ) : Option Nat × σ :=
  match _asked : prompting.ask kind devices state with
  | (none, after) => (none, after)
  | (some index, after) =>
    if index < devices.length then (some index, after)
    else prompting.askListed kind devices (prompting.report (.notListed kind index) after)
termination_by prompting.remaining state
decreasing_by
  rw [prompting.remaining_report]
  exact prompting.remaining_ask_lt ‹_›

/-- Chooses one of the devices of a kind by its place in the list, or none if
there is none to choose from. -/
def select (prompting : Prompting σ) (kind : DeviceKind) (devices : List Descriptor)
    (preferred : Option String) (state : σ) : Except SelectionError (Option Nat) × σ :=
  match preferred with
  | some path =>
    match devices.findIdx? fun device => Path.same device.path path with
    | some index => (.ok (some index), prompting.report (.preferredUsed kind path) state)
    | none => (.error (.preferredMissing kind path), state)
  | none =>
    match devices with
    | [] => (.ok none, prompting.report (.noneAttached kind) state)
    | [_] => (.ok (some 0), state)
    | devices =>
      match prompting.askListed kind devices (prompting.report (.severalDetected kind) state) with
      | (some index, after) => (.ok (some index), after)
      | (none, after) => (.error (.noSelection kind), after)

end Prompting

/-- A user whose answers are known beforehand. No answer means that the user
gives up. -/
structure ScriptedUser where
  answers : List (Option Nat) := []
  /-- How often the user was asked. -/
  asked : Nat := 0
  notices : List Notice := []
deriving DecidableEq, Repr

/-- Takes the next of the prepared answers. -/
def ScriptedUser.answer (user : ScriptedUser) : Option Nat × ScriptedUser :=
  (user.answers.head?.join, { user with answers := user.answers.tail, asked := user.asked + 1 })

/-- Asks a user whose answers are known beforehand. -/
def ScriptedUser.prompting : Prompting ScriptedUser where
  ask _ _ user := user.answer
  report notice user := { user with notices := user.notices ++ [notice] }
  remaining user := user.answers.length
  remaining_ask_lt {_ _ user _ after} answered := by
    obtain ⟨first, rfl⟩ := Prod.mk.inj answered
    cases held : user.answers with
    | nil => simp [held] at first
    | cons => simp
  remaining_report _ _ := rfl

end InputBridge
