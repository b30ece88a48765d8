import InputBridge.LogLevel
import InputBridge.Screen
import InputBridge.Text.Blank
import InputBridge.Text.Quoted
/-!
# Settings

The settings say which bus the adapter is on, how wide the screen is and under
which video standard, how motion is reported, which keymap to use, which devices
to use instead of looking for them, and how much to report. Each has a default,
so no setting is required.

Not all values that can be written down make sense. A width has to fit into the
byte that carries a position. What is reported is a list of directives separated
by commas; one with an equals sign names a part of the program, and any other has
to be a threshold, since a mistyped word would silently report nothing.
-/
namespace InputBridge

/-- The settings of the program. -/
structure Settings where
  /-- The number of the bus that the adapter is on. -/
  bus : UInt8 := 0
  standard : VideoStandard := .ntsc
  /-- The width of the screen in pixels. -/
  width : UInt16 := fullWidth
  mode : PointerMode := .absolute
  /-- The path of the keymap file. -/
  keymap : Option String := none
  /-- The path of the keyboard to use. -/
  keyboard : Option String := none
  /-- The path of the mouse to use. -/
  mouse : Option String := none
  /-- What to report. -/
  level : String := "info"
deriving DecidableEq, Repr

namespace Settings

/-- What is wrong with settings that could be read. -/
inductive Invalid where
  /-- The width does not fit. -/
  | width (given : UInt16)
  /-- A directive is no threshold. -/
  | level (directive : String)
deriving DecidableEq, Repr

/-- The wording of what is wrong. -/
def Invalid.message : Invalid → String
  | .width given => s!"display width must be between 1 and {fullWidth}, got {given}"
  | .level directive =>
    s!"unknown log level {Text.quoted directive}, " ++
      "expected off, error, warn, info, debug or trace"

/-- The directives that say what to report, without white space around them. -/
def directives (settings : Settings) : List (List Char) :=
  (Text.pieces ',' settings.level.toList).map Text.trim

/-- A directive that is empty, names a part of the program or is a threshold. -/
def isDirective (directive : List Char) : Bool :=
  directive.isEmpty || directive.contains '=' || (Threshold.ofText? directive).isSome

/-- Checks that the values make sense. The width is checked first, then the
directives in order. -/
def validate (settings : Settings) : Except Invalid Unit :=
  if settings.width = 0 ∨ fullWidth < settings.width then .error (.width settings.width)
  else
    match settings.directives.find? fun directive => !isDirective directive with
    | some directive => .error (.level (String.ofList directive))
    | none => .ok ()

/-- The range of the pointer on the configured screen. -/
def bounds (settings : Settings) : ScreenBounds :=
  .ofScreen settings.width settings.standard

end Settings

end InputBridge
