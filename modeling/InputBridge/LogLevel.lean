import InputBridge.Notice
import InputBridge.Text.Number
/-!
# How much is reported

A threshold lets the notices through whose level needs no more detail than it
allows; the lowest threshold lets nothing through. It is written as a word in any
mix of ASCII cases or as a number from nought to five.
-/
namespace InputBridge

/-- How much is reported. -/
inductive Threshold where
  | off
  | error
  | warn
  | info
  | debug
  | trace
deriving DecidableEq, Repr, Inhabited

namespace Threshold

/-- All thresholds, from the least to the most detailed. -/
def all : List Threshold := [off, error, warn, info, debug, trace]

/-- The word for a threshold. -/
def word : Threshold → String
  | off => "off"
  | error => "error"
  | warn => "warn"
  | info => "info"
  | debug => "debug"
  | trace => "trace"

/-- How much detail a threshold allows. -/
def detail : Threshold → Nat
  | off => 0
  | error => 1
  | warn => 2
  | info => 3
  | debug => 4
  | trace => 5

/-- Notices of a level get through. -/
def admits (threshold : Threshold) (level : LogLevel) : Bool :=
  level.detail ≤ threshold.detail

/-- The threshold that a text stands for: its number if the text is a number,
else its word. Thresholds are read by the library that filters notices, tracing;
that it reads these texts and no others is assumed of it. -/
def ofText? (text : List Char) : Option Threshold :=
  match Text.readUnsigned 10 Text.maxIndex text with
  | some number => all[number]?
  | none => all.find? fun threshold => threshold.word.toList == text.map Char.toLower

end Threshold

end InputBridge
