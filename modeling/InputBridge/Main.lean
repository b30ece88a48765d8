import InputBridge.Program.Start
/-!
# The program from outside

This layer collects what the program is started with: its arguments, the variables
it looks at, and the files it would read. It prints what the program has to say
and passes on its exit code. It has no way to open input devices or buses, so the
machine it offers has none.
-/
open InputBridge

/-- The variables that are set among those the program looks at. -/
def readVariables : IO Environment :=
  Program.variableNames.filterMapM fun name => do
    return (← IO.getEnv name).map fun value => (name, value)

/-- Files with what is at a path, if anything is. -/
def readEntry (files : FileTree) : Option String → IO FileTree
  | none => return files
  | some path => do
    try
      return files.add path (.file (← IO.FS.readBinFile path).toList)
    catch
      | .inappropriateType .. => return files.add path .directory
      | _ => return files

/-- Starts the program. -/
def main (arguments : List String) : IO UInt32 := do
  let environment ← readVariables
  let files ← readEntry {} (Program.settingsPath arguments environment)
  let files ← readEntry files (Program.keymapPath arguments environment files)
  let result := Program.start { arguments, environment, files }
  IO.print (result.output Notice.heading)
  IO.eprint result.errorOutput
  return UInt32.ofNat result.exitCode
