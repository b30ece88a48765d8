import InputBridge.CommandLine.Parameter
import InputBridge.Environment
/-!
# Reading the command line

The words are taken from left to right. An option's value is attached to it by an
equals sign or is the next word; a separate value may not start with a hyphen,
unless it is a single one. Everything may be given once.

An option whose value is a word of its own stays open until the next option or
flag, or the end, shows that no more belongs to it; only then is its value looked
at. A word that means nothing is refused where it stands, so it goes before a
faulty value of an option that is still open.

Variables stand in for what the command line did not give. Last comes the check
that nothing was given in two ways; for it a flag's variable counts even if it
leaves the flag unset.
-/
namespace InputBridge.CommandLine

/-- What a word on the command line is by its look. -/
inductive Word where
  /-- An option or flag, perhaps with a value attached. -/
  | setting (parameter : Parameter) (attached : Option String)
  | help
  | version
  /-- The mark behind which nothing is an option any more. -/
  | terminator
  /-- A word that may be a value. -/
  | plain (text : String)
  /-- A word that takes no value has one attached. -/
  | overfull
  | unknown
deriving DecidableEq, Repr

/-- The text before the first equals sign, and the text after it if there is
one. -/
def splitValue : List Char → List Char × Option (List Char)
  | [] => ([], none)
  | c :: rest =>
    if c = '=' then ([], some rest)
    else
      let (name, value) := splitValue rest
      (c :: name, value)

namespace Word

/-- A word of two hyphens, a name and perhaps a value. -/
def ofLong (name : String) (attached : Option String) : Word :=
  match Parameter.ofWord? name, attached with
  | some parameter, attached =>
    if parameter.isFlag && attached.isSome then overfull else setting parameter attached
  | none, attached =>
    if name = "help" then (if attached.isSome then overfull else help)
    else if name = "version" then (if attached.isSome then overfull else version)
    else unknown

/-- What a word is. -/
def ofText (text : String) : Word :=
  match text.toList with
  | ['-', '-'] => terminator
  | '-' :: '-' :: rest =>
    let (name, attached) := splitValue rest
    ofLong (String.ofList name) (attached.map String.ofList)
  | '-' :: 'h' :: _ => help
  | '-' :: 'V' :: _ => version
  | '-' :: _ :: _ => unknown
  | _ => plain text

end Word

/-- How far the reading has come. -/
structure Progress where
  line : CommandLine := {}
  /-- What was given so far. -/
  given : List Parameter := []
  /-- The option that is still open, with its value if that was there. -/
  pending : Option (Parameter × Option String) := none
deriving DecidableEq, Repr

namespace Progress

/-- Gives a parameter its value. -/
def give (parameter : Parameter) (value : String) (progress : Progress) :
    Except Refusal Progress :=
  if parameter ∈ progress.given then .error .conflict
  else
    (parameter.store value progress.line).map fun line =>
      { line, given := parameter :: progress.given }

/-- Closes the open option, if there is one. -/
def settle (progress : Progress) : Except Refusal Progress :=
  match progress.pending with
  | none => .ok progress
  | some (_, none) => .error .badValue
  | some (parameter, some value) => progress.give parameter value

/-- Takes the words in order. -/
def read : List String → Progress → Except Refusal Progress
  | [], progress => progress.settle
  | text :: rest, progress =>
    match Word.ofText text with
    | .help => progress.settle.bind fun _ => .error .help
    | .version => progress.settle.bind fun _ => .error .version
    | .unknown => .error .unknown
    | .overfull => .error .unexpectedValue
    | .terminator => if rest.isEmpty then progress.settle else .error .unknown
    | .plain value =>
      match progress.pending with
      | some (parameter, none) =>
        { progress with pending := some (parameter, some value) }.read rest
      | _ => .error .unknown
    | .setting parameter (some value) =>
      (progress.settle.bind fun progress => progress.give parameter value).bind (read rest)
    | .setting parameter none =>
      progress.settle.bind fun progress =>
        if parameter.isFlag then (progress.give parameter "true").bind (read rest)
        else { progress with pending := some (parameter, none) }.read rest

/-- Lets variables stand in for what was not given. -/
def readVariables (environment : Environment) (progress : Progress) : Except Refusal Progress :=
  Parameter.all.foldlM
    (fun progress parameter =>
      match environment.get? parameter.variableName with
      | none => .ok progress
      | some value =>
        if parameter ∈ progress.given then .ok progress else progress.give parameter value)
    progress

/-- Two parameters that ask for one thing were both given. -/
def hasConflict (progress : Progress) : Bool :=
  (progress.given.contains .standard && progress.given.contains .pal) ||
    (progress.given.contains .mode && progress.given.contains .relative)

end Progress

/-- What the words of a command line and the variables ask for. -/
def parse (words : List String) (environment : Environment) : Except Refusal CommandLine := do
  let progress ← Progress.read words {}
  let progress ← progress.readVariables environment
  if progress.hasConflict then .error .conflict else .ok progress.line

end InputBridge.CommandLine
