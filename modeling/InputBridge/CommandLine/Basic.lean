import InputBridge.Settings.Basic
/-!
# What the user asks for

What is given on the command line, or through the variables that stand in for it,
overrides the settings file. Nothing has to be given. Two shorthands name one
choice each; the option they abbreviate goes first if both are there, though no
command line that is accepted gives both.

Each setting depends on its own option and shorthand alone, so applying the same
command line again changes nothing.
-/
namespace InputBridge

/-- What was asked for. -/
structure CommandLine where
  /-- The path of the settings file. -/
  config : Option String := none
  bus : Option UInt8 := none
  standard : Option VideoStandard := none
  /-- Short for the PAL standard. -/
  pal : Bool := false
  mode : Option PointerMode := none
  /-- Short for the relative mode. -/
  relative : Bool := false
  width : Option UInt16 := none
  keymap : Option String := none
  keyboard : Option String := none
  mouse : Option String := none
deriving DecidableEq, Repr

namespace CommandLine

/-- The standard that was asked for in either way. -/
def chosenStandard (line : CommandLine) : Option VideoStandard :=
  line.standard.or (if line.pal then some .pal else none)

/-- The mode that was asked for in either way. -/
def chosenMode (line : CommandLine) : Option PointerMode :=
  line.mode.or (if line.relative then some .relative else none)

/-- The settings with everything that was asked for in place. What to report is
not among it. -/
def applyTo (line : CommandLine) (settings : Settings) : Settings :=
  { bus := line.bus.getD settings.bus
    standard := line.chosenStandard.getD settings.standard
    width := line.width.getD settings.width
    mode := line.chosenMode.getD settings.mode
    keymap := line.keymap.or settings.keymap
    keyboard := line.keyboard.or settings.keyboard
    mouse := line.mouse.or settings.mouse
    level := settings.level }

/-- No setting is asked for in two ways. -/
def IsConsistent (line : CommandLine) : Prop :=
  (line.standard.isSome → line.pal = false) ∧ (line.mode.isSome → line.relative = false)

end CommandLine

end InputBridge
