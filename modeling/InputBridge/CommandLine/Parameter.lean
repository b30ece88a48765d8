import InputBridge.CommandLine.Basic
import InputBridge.Text.Number
/-!
# Options and flags

An option takes a value, a flag does not. Both have a word for the command line
and a variable that may stand in for it. The value of a flag's variable is spelt
out, since a variable that is there has one.

A value is checked by itself: a number has to fit its field, a choice has to be
one of its words, and a path may be anything but empty.
-/
namespace InputBridge.CommandLine

/-- Why a command line does not start the program. -/
inductive Refusal where
  /-- Help was asked for. -/
  | help
  /-- The version was asked for. -/
  | version
  /-- Something was given twice or in two ways. -/
  | conflict
  /-- A number is none, or does not fit. -/
  | badNumber
  /-- A value is missing, or is not one of the choices. -/
  | badValue
  /-- A value was given where none is taken. -/
  | unexpectedValue
  /-- A word means nothing. -/
  | unknown
deriving DecidableEq, Repr

/-- The options and flags. -/
inductive Parameter where
  | config
  | bus
  | standard
  | pal
  | mode
  | relative
  | width
  | keymap
  | keyboard
  | mouse
deriving DecidableEq, Repr

namespace Parameter

/-- All options and flags, in the order in which their variables are read. -/
def all : List Parameter :=
  [config, bus, standard, pal, mode, relative, width, keymap, keyboard, mouse]

/-- The name on the command line. -/
def word : Parameter → String
  | config => "config"
  | bus => "bus"
  | standard => "standard"
  | pal => "pal"
  | mode => "mode"
  | relative => "relative"
  | width => "width"
  | keymap => "keymap"
  | keyboard => "keyboard"
  | mouse => "mouse"

/-- The variable that stands in for it. -/
def variableName (parameter : Parameter) : String :=
  "FAMIKB_" ++ parameter.word.toUpper

/-- The parameter takes no value on the command line. -/
def isFlag : Parameter → Bool
  | pal | relative => true
  | _ => false

/-- The option or flag of a name. -/
def ofWord? (word : String) : Option Parameter :=
  all.find? fun parameter => parameter.word == word

/-- A number that fits a field. A minus sign is allowed in front of nought. -/
def readNumber (limit : Nat) (text : String) : Except Refusal Nat :=
  let number :=
    match text.toList with
    | '-' :: digits => (Text.readDigits 10 digits).filter (· == 0)
    | digits => Text.readUnsigned 10 limit digits
  number.elim (.error .badNumber) .ok

/-- One of a few choices. -/
def readChoice {α : Type} (ofWord? : String → Option α) (text : String) : Except Refusal α :=
  (ofWord? text).elim (.error .badValue) .ok

/-- A path. -/
def readPath (text : String) : Except Refusal String :=
  if text.isEmpty then .error .badValue else .ok text

/-- Whether a flag is set, spelt out. -/
def truth? : String → Option Bool
  | "true" => some true
  | "false" => some false
  | _ => none

/-- What was asked for, with the value of one more parameter. -/
def store (parameter : Parameter) (value : String) (line : CommandLine) :
    Except Refusal CommandLine :=
  match parameter with
  | config => (readPath value).map fun path => { line with config := some path }
  | bus => (readNumber 255 value).map fun number => { line with bus := some (UInt8.ofNat number) }
  | standard =>
    (readChoice VideoStandard.ofWord? value).map fun choice => { line with standard := some choice }
  | pal => (readChoice truth? value).map fun choice => { line with pal := choice }
  | mode => (readChoice PointerMode.ofWord? value).map fun choice => { line with mode := some choice }
  | relative => (readChoice truth? value).map fun choice => { line with relative := choice }
  | width =>
    (readNumber 65535 value).map fun number => { line with width := some (UInt16.ofNat number) }
  | keymap => (readPath value).map fun path => { line with keymap := some path }
  | keyboard => (readPath value).map fun path => { line with keyboard := some path }
  | mouse => (readPath value).map fun path => { line with mouse := some path }

end Parameter

end InputBridge.CommandLine
