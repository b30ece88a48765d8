import InputBridge.Environment
import InputBridge.File.Tree
import InputBridge.Settings.Document
/-!
# Finding and reading the settings file

A settings file named by the user has to exist. Otherwise the file is looked for
in the directory for settings, given by its own variable or else below the home
directory; if it does not exist there, or there is no such directory, all settings
keep their defaults. Any other failure to read it is an error.
-/
namespace InputBridge

/-- Why there are no settings. -/
inductive SettingsError where
  /-- Nothing says where the settings file would be. -/
  | noDirectory
  /-- The file could not be read. -/
  | unreadable (path : String) (error : FileError)
  /-- The file is not a document with settings. -/
  | malformed
  /-- The values make no sense. -/
  | invalid (text : String)
deriving DecidableEq, Repr

namespace SettingsError

/-- What is known of a malformed document. -/
def malformedDetail : String := "the document is not well formed"

/-- The wording of a settings error. -/
def message : SettingsError → String
  | .noDirectory =>
    "could not determine config directory (neither XDG_CONFIG_HOME nor HOME is set)"
  | .unreadable path error => s!"I/O error accessing config at {path}: {error.message}"
  | .malformed => s!"failed to parse config TOML: {malformedDetail}"
  | .invalid text => s!"invalid config: {text}"

/-- The error and what lies behind it, outermost first. -/
def chain (error : SettingsError) : List String :=
  error.message ::
    match error with
    | .unreadable _ cause => [cause.message]
    | .malformed => [malformedDetail]
    | _ => []

end SettingsError

namespace Settings

/-- The path of the settings file, given the variables for the directory of
settings and for the home directory. An empty variable for the former counts as
unset. -/
def filePath (directory home : Option String) : Except SettingsError String :=
  match directory.filter fun directory => !directory.isEmpty, home with
  | some directory, _ => .ok (Path.join (Path.join directory "famikb") "config.toml")
  | none, some home =>
    .ok (Path.join (Path.join (Path.join home ".config") "famikb") "config.toml")
  | none, none => .error .noDirectory

/-- The path of the settings file in an environment. -/
def defaultPath (environment : Environment) : Except SettingsError String :=
  filePath (environment.get? "XDG_CONFIG_HOME") (environment.get? "HOME")

/-- Reads a settings file. -/
def readFile (files : FileTree) (path : String) : Except SettingsError Settings :=
  match files.readText path with
  | .error error => .error (.unreadable path error)
  | .ok text =>
    match parse text with
    | none => .error .malformed
    | some settings => .ok settings

/-- Loads the settings from the file named by the user or from where they are
kept. -/
def load (files : FileTree) (environment : Environment) (explicit : Option String) :
    Except SettingsError Settings :=
  match explicit with
  | some path => readFile files path
  | none =>
    match defaultPath environment with
    | .error _ => .ok {}
    | .ok path =>
      match readFile files path with
      | .error (.unreadable _ .notFound) => .ok {}
      | result => result

/-- Checks that the values make sense. -/
def check (settings : Settings) : Except SettingsError Unit :=
  match settings.validate with
  | .ok () => .ok ()
  | .error wrong => .error (.invalid wrong.message)

end Settings

end InputBridge
