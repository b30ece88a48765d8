import InputBridge.CommandLine.Parameter
/-!
# Help

The help text names every option and flag with the variable that stands in for it.
A command line that was refused is reported in one sentence.
-/
namespace InputBridge.CommandLine

/-- The version of the program. -/
def versionNumber : String := "0.1.0"

/-- The line that tells the version. -/
def versionLine : String := s!"famikb-host {versionNumber}\n"

namespace Parameter

/-- What the value of an option is, or nothing for a flag. -/
def valueName : Parameter → String
  | config | keymap | keyboard | mouse => " <PATH>"
  | bus | width => " <NUMBER>"
  | standard => " <ntsc|pal>"
  | mode => " <absolute|relative>"
  | pal | relative => ""

/-- What an option or flag does. -/
def purpose : Parameter → String
  | config => "Settings file to read"
  | bus => "Number of the bus that the adapter is on"
  | standard => "Video standard of the console"
  | pal => "Short for --standard pal"
  | mode => "How pointer motion is reported"
  | relative => "Short for --mode relative"
  | width => "Width of the screen, 1 to 256"
  | keymap => "Keymap file to read"
  | keyboard => "Keyboard to use"
  | mouse => "Mouse to use"

/-- The line about an option or flag. -/
def helpLine (parameter : Parameter) : String :=
  s!"  --{parameter.word}{parameter.valueName}\n" ++
    s!"          {parameter.purpose} [env: {parameter.variableName}]\n"

end Parameter

/-- The help text. -/
def helpText : String :=
  "Bridges a USB keyboard and mouse to a pico-ps2famikb adapter over I2C\n\n" ++
    "Usage: famikb-host [OPTIONS]\n\nOptions:\n" ++
    String.join (Parameter.all.map Parameter.helpLine) ++
    "  -h, --help\n          Print help\n  -V, --version\n          Print version\n"

/-- The wording of a refusal. -/
def Refusal.message : Refusal → String
  | help => "help was asked for"
  | version => "the version was asked for"
  | conflict => "an option was given twice, or together with one that excludes it"
  | badNumber => "a number is malformed or out of range"
  | badValue => "a value is missing or not one of the choices"
  | unexpectedValue => "a value was given to an option that takes none"
  | unknown => "an argument was not expected"

end InputBridge.CommandLine
