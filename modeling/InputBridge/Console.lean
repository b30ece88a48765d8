import InputBridge.Notice
import InputBridge.Text.Blank
import InputBridge.Text.Encoded
/-!
# The console

The program reports on the console and asks its questions there. What it printed
is kept in order, notices and questions in one sequence, and what was typed is
used up from the front, a line at a time.

A question for a number is asked again after every line that holds none. It goes
unanswered once the input ends or a line is not text; that line is used up too.
-/
namespace InputBridge

/-- Something that was put on the console. -/
inductive Output where
  /-- Text, as it is. -/
  | text (text : String)
  /-- A notice, which a log filter may hold back. -/
  | notice (notice : Notice)
deriving DecidableEq, Repr

/-- What was put on the console, and what was typed and not yet used. -/
structure Console where
  input : Text.Bytes := []
  output : List Output := []
deriving DecidableEq, Repr

namespace Console

/-- Puts text on the console. -/
def print (text : String) (console : Console) : Console :=
  { console with output := console.output ++ [.text text] }

/-- Puts a notice on the console. -/
def report (notice : Notice) (console : Console) : Console :=
  { console with output := console.output ++ [.notice notice] }

/-- Puts notices on the console in order. -/
def reportAll (notices : List Notice) (console : Console) : Console :=
  { console with output := console.output ++ notices.map .notice }

/-- The notices put on the console, in order. -/
def notices (console : Console) : List Notice :=
  console.output.filterMap fun output =>
    match output with
    | .notice notice => some notice
    | .text _ => none

/-- The text put on the console, without the notices. -/
def printed (console : Console) : String :=
  String.join <| console.output.filterMap fun output =>
    match output with
    | .text text => some text
    | .notice _ => none

/-- The number that a line of input holds, white space aside. -/
def numberOf (line : String) : Option Nat :=
  Text.readUnsigned 10 Text.maxIndex (Text.trim line.toList)

/-- Asks for a number until a line holds one. -/
def askNumber (question : String) (console : Console) : Option Nat × Console :=
  let asked := console.print question
  if _ : console.input = [] then (none, asked)
  else
    let rest := { asked with input := (Text.takeLine console.input).2 }
    match Text.decode (Text.takeLine console.input).1 with
    | none => (none, rest)
    | some line =>
      match numberOf line with
      | some number => (some number, rest)
      | none => rest.askNumber question
termination_by console.input.length
decreasing_by exact Text.length_take_line_lt ‹_›

/-- An answer uses up input. -/
theorem length_input_ask_number_lt {question : String} {console after : Console} {number : Nat}
    (answered : console.askNumber question = (some number, after)) :
    after.input.length < console.input.length := by
  fun_induction askNumber question console with
  | case1 => simp_all
  | case2 => simp_all
  | case3 console _ ended rest _ _ _ _ =>
    have shorter := Text.length_take_line_lt ended
    obtain ⟨_, rfl⟩ := Prod.mk.inj answered
    exact shorter
  | case4 console _ ended rest _ _ _ further =>
    have shorter := Text.length_take_line_lt ended
    have later : after.input.length < (Text.takeLine console.input).2.length := further answered
    omega

end Console

end InputBridge
