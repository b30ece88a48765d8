import InputBridge.Bridge.Error
import InputBridge.Device.Selection
import InputBridge.Keymap.File
import InputBridge.LogFilter
import InputBridge.Settings.Load
/-!
# Why the program fails

A failure says at which step the program gave up and what made it do so. It is
reported as a sentence about the step, followed by the causes that lie behind it,
outermost first. Some steps add no sentence of their own.
-/
namespace InputBridge

/-- Why the program gave up. -/
inductive Failure where
  /-- The settings could not be read. -/
  | settings (error : SettingsError)
  /-- The settings make no sense. -/
  | invalidSettings (error : SettingsError)
  /-- The settings do not say properly what to report. -/
  | filter (level : String) (error : FilterError)
  | keymap (error : KeymapFileError)
  | selection (error : SelectionError)
  /-- There is neither a keyboard nor a mouse. -/
  | noDevice
  /-- The devices could not be taken into use. -/
  | registration (error : SourceError)
  /-- The bus could not be opened. -/
  | bus (error : TransportError)
  /-- The adapter did not answer when it was greeted. -/
  | greeting (error : BridgeError)
  /-- The bridge ended on a failure. -/
  | bridge (error : BridgeError)
deriving DecidableEq, Repr

namespace Failure

/-- What is reported of a failure: it and what lies behind it, outermost first.
There is always something. -/
def chain : Failure → List String
  | settings error => "failed to load configuration" :: error.chain
  | invalidSettings error => "invalid configuration" :: error.chain
  | filter level error => s!"invalid log level {Text.quoted level}" :: error.chain
  | keymap error => ["failed to load keymap", error.message, error.cause]
  | selection error => [error.message]
  | noDevice => ["no input device attached; can't continue without a keyboard or mouse"]
  | registration error => "failed to register input devices" :: (BridgeError.source error).chain
  | bus error => ["failed to open I2C bus", error.message]
  | greeting error => Notice.adapterMissing :: error.chain
  | bridge error => error.chain

/-- A text with every line after the first moved in by some blanks. -/
def indentRest (blanks : Nat) (text : String) : String :=
  ("\n" ++ String.ofList (List.replicate blanks ' ')).intercalate
    ((Text.pieces '\n' text.toList).map String.ofList)

/-- The causes in a report. They are numbered if there are several. -/
def renderCauses : List String → List String
  | [] => []
  | [cause] => ["    " ++ indentRest 4 cause]
  | causes =>
    causes.zipIdx.map fun (cause, index) =>
      let number := toString index
      String.ofList (List.replicate (5 - number.length) ' ') ++ number ++ ": " ++
        indentRest 7 cause

/-- The report of a failure. -/
def report (failure : Failure) : String :=
  match failure.chain with
  | [] => "Error: \n"
  | first :: causes =>
    let rest :=
      if causes.isEmpty then "" else "\n\nCaused by:\n" ++ "\n".intercalate (renderCauses causes)
    s!"Error: {first}{rest}\n"

end Failure

end InputBridge
