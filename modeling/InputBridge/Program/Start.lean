import InputBridge.CommandLine.Help
import InputBridge.CommandLine.Parser
import InputBridge.Program.Run
import InputBridge.Program.Transcript
/-!
# Starting the program

The program reads its command line, loads the settings and lets the command line
override them, checks them, sets up the log filter, loads the keymap, and runs the
bridge. Each step can end it. What the user asked for in another way, such as the
version, and a command line that makes no sense end it before anything else.

Which notices are shown is a matter of the settings, unless a variable holds a log
filter. That filter goes first even if it is empty, but not if it is malformed.
-/
namespace InputBridge

/-- What a program is started with. -/
structure Invocation where
  arguments : List String := []
  environment : Environment := []
  files : FileTree := {}
  machine : Machine := {}
  /-- What is typed. -/
  input : Text.Bytes := []
deriving DecidableEq, Repr

/-- How a program ends. -/
inductive ProgramResult where
  /-- It was not to run, or the command line makes no sense. -/
  | refused (refusal : CommandLine.Refusal)
  /-- As intended, with what was reported. -/
  | completed (filter : LogFilter) (site : Site)
  /-- On a failure, with what was reported until then. -/
  | failed (failure : Failure) (filter : LogFilter) (site : Site)
  /-- Not at all. -/
  | never (filter : LogFilter) (site : Site)
deriving DecidableEq, Repr

namespace Program

/-- The variable that holds a log filter. -/
def filterVariable : String := "RUST_LOG"

/-- The log filter of a program. -/
def chooseFilter (environment : Environment) (settings : Settings) :
    Except Failure LogFilter :=
  match (environment.get? filterVariable).map LogFilter.parse with
  | some (.ok filter) => .ok filter
  | _ => (LogFilter.parse settings.level).mapError (.filter settings.level)

/-- The settings of a program, checked, and what it reports of itself. -/
def prepare (line : CommandLine) (environment : Environment) (files : FileTree) :
    Except Failure (Settings × LogFilter) := do
  let loaded ← (Settings.load files environment line.config).mapError Failure.settings
  let settings := line.applyTo loaded
  settings.check.mapError Failure.invalidSettings
  let filter ← chooseFilter environment settings
  return (settings, filter)

/-- Loads the keymap and runs the bridge. -/
def operate (files : FileTree) (settings : Settings) (site : Site) : RunResult × Site :=
  let console := site.console.report (.starting CommandLine.versionNumber)
  let (keymap, notices) := Keymap.load files settings.keymap
  let site := { site with console := console.reportAll notices }
  match keymap with
  | .error error => (.failed (.keymap error), site)
  | .ok keymap => runBridge files settings keymap site

/-- The path of the settings file that the program would read. -/
def settingsPath (arguments : List String) (environment : Environment) : Option String :=
  match CommandLine.parse arguments environment with
  | .error _ => none
  | .ok line => line.config.or (Settings.defaultPath environment).toOption

/-- The path of the keymap file that the program would read. -/
def keymapPath (arguments : List String) (environment : Environment) (files : FileTree) :
    Option String :=
  match CommandLine.parse arguments environment with
  | .error _ => none
  | .ok line =>
    match prepare line environment files with
    | .error _ => none
    | .ok (settings, _) => settings.keymap

/-- The variables that the program looks at. -/
def variableNames : List String :=
  CommandLine.Parameter.all.map CommandLine.Parameter.variableName ++
    ["XDG_CONFIG_HOME", "HOME", filterVariable]

/-- Runs the program. -/
def start (invocation : Invocation) : ProgramResult :=
  let site : Site := { machine := invocation.machine, console := { input := invocation.input } }
  match CommandLine.parse invocation.arguments invocation.environment with
  | .error refusal => .refused refusal
  | .ok line =>
    match prepare line invocation.environment invocation.files with
    | .error failure => .failed failure {} site
    | .ok (settings, filter) =>
      match operate invocation.files settings site with
      | (.completed, site) => .completed filter site
      | (.failed failure, site) => .failed failure filter site
      | (.never, site) => .never filter site

end Program

namespace ProgramResult

/-- The code that the program ends with. -/
def exitCode : ProgramResult → Nat
  | refused .help | refused .version => 0
  | refused _ => 2
  | completed .. | never .. => 0
  | failed .. => 1

/-- What the program prints. -/
def output (heading : Notice → String) : ProgramResult → String
  | refused .help => CommandLine.helpText
  | refused .version => CommandLine.versionLine
  | refused _ => ""
  | completed filter site | failed _ filter site | never filter site =>
    site.console.transcript filter heading

/-- What the program reports as an error. -/
def errorOutput : ProgramResult → String
  | refused .help | refused .version => ""
  | refused refusal => s!"error: {refusal.message}\n"
  | failed failure .. => failure.report
  | completed .. | never .. => ""

/-- What the program did to the machine. -/
def journal : ProgramResult → List JournalEntry
  | refused _ => []
  | completed _ site | failed _ _ site | never _ site => site.machine.journal

end ProgramResult

end InputBridge
