import InputBridge.Pattern.Place
/-!
# What can be wrong with a pattern

Each fault has a wording and lies in a part of the pattern; some come with an
earlier part that they clash with.
-/
namespace InputBridge

/-- What is wrong with a pattern. -/
inductive PatternFault where
  /-- Its parts are nested too deep. -/
  | tooDeep
  /-- An escape in a class stands for no characters. -/
  | classEscape
  /-- A range ends before it starts. -/
  | rangeReversed
  /-- A range starts or ends with something other than a character. -/
  | rangeEnd
  /-- A class does not end. -/
  | classUnclosed
  /-- A count is too large. -/
  | countTooLarge
  /-- There is no count. -/
  | countMissing
  /-- A count does not end. -/
  | countUnclosed
  /-- A number stands for no character. -/
  | noCharacter
  /-- A digit of base sixteen is expected. -/
  | noHexDigit
  /-- The pattern ends within an escape. -/
  | escapeUnfinished
  /-- An escape has no meaning. -/
  | escapeUnknown
  /-- A minus sign among flags has no flag behind it. -/
  | flagMissing
  /-- A flag is given twice. -/
  | flagRepeated
  /-- Flags are lowered twice. -/
  | negationRepeated
  /-- The pattern ends within flags. -/
  | flagsUnclosed
  /-- A flag has no meaning. -/
  | flagUnknown
  /-- Two groups have the same name. -/
  | nameRepeated
  /-- A group has an empty name. -/
  | nameEmpty
  /-- A name has a character that no name may have. -/
  | nameCharacter
  /-- The pattern ends within a name. -/
  | nameUnclosed
  /-- A group does not end. -/
  | groupUnclosed
  /-- A group ends that did not begin. -/
  | groupUnopened
  /-- There is nothing to repeat. -/
  | nothingRepeated
  /-- The name of a kind of word boundary does not end. -/
  | boundaryUnclosed
  /-- The pattern ends where a kind of word boundary or a count begins. -/
  | boundaryUnfinished
  /-- A property has no proper name. -/
  | propertyInvalid
  /-- A property is not known. -/
  | propertyUnknown
  /-- What a group matched cannot be asked for again. -/
  | backreference
  /-- What stands around a match cannot be asked for. -/
  | lookAround
  /-- Characters are matched where only bytes can be. -/
  | notBytes
  /-- Bytes are matched that are not text. -/
  | notText
deriving DecidableEq, Repr

namespace PatternFault

/-- How deep the parts of a pattern may be nested. -/
def maxNesting : Nat := 250

/-- The wording of a fault. -/
def message : PatternFault → String
  | .tooDeep => s!"exceed the maximum number of nested parentheses/brackets ({maxNesting})"
  | .classEscape => "invalid escape sequence found in character class"
  | .rangeReversed => "invalid character class range, the start must be <= the end"
  | .rangeEnd => "invalid range boundary, must be a literal"
  | .classUnclosed => "unclosed character class"
  | .countTooLarge => "decimal literal invalid"
  | .countMissing => "repetition quantifier expects a valid decimal"
  | .countUnclosed => "unclosed counted repetition"
  | .noCharacter => "hexadecimal literal is not a Unicode scalar value"
  | .noHexDigit => "invalid hexadecimal digit"
  | .escapeUnfinished => "incomplete escape sequence, reached end of pattern prematurely"
  | .escapeUnknown => "unrecognized escape sequence"
  | .flagMissing => "dangling flag negation operator"
  | .flagRepeated => "duplicate flag"
  | .negationRepeated => "flag negation operator repeated"
  | .flagsUnclosed => "expected flag but got end of regex"
  | .flagUnknown => "unrecognized flag"
  | .nameRepeated => "duplicate capture group name"
  | .nameEmpty => "empty capture group name"
  | .nameCharacter => "invalid capture group character"
  | .nameUnclosed => "unclosed capture group name"
  | .groupUnclosed => "unclosed group"
  | .groupUnopened => "unopened group"
  | .nothingRepeated => "repetition operator missing expression"
  | .boundaryUnclosed =>
    "special word boundary assertion is either unclosed or contains an invalid character"
  | .boundaryUnfinished =>
    "found either the beginning of a special word boundary or a bounded repetition on a \\b " ++
      "with an opening brace, but no closing brace"
  | .propertyInvalid => "invalid Unicode character class"
  | .propertyUnknown => "Unicode property not found"
  | .backreference => "backreferences are not supported"
  | .lookAround => "look-around, including look-ahead and look-behind, is not supported"
  | .notBytes => "Unicode not allowed here"
  | .notText => "pattern can match invalid UTF-8"

end PatternFault

/-- A fault and where it is. -/
structure PatternError where
  fault : PatternFault
  extent : Extent
  /-- The earlier part that the part at fault clashes with. -/
  clash : Option Extent := none
deriving DecidableEq, Repr

namespace PatternError

/-- The report of a fault in a pattern, with the pattern. -/
def report (pattern : String) (error : PatternError) : String :=
  "regex parse error:\n" ++ Text.annotate pattern (error.extent :: error.clash.toList) ++
    s!"error: {error.fault.message}"

end PatternError

end InputBridge
