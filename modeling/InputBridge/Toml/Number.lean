import InputBridge.Text.Number
import InputBridge.Toml.Character
import InputBridge.Toml.Value
/-!
# Numbers in a TOML document

An integer is written in decimal with an optional sign and without leading zeros,
or in base sixteen, eight or two behind its mark. A single underscore may stand
between two digits. Integers are signed sixty-four-bit numbers. A floating-point
number has a fraction, an exponent or both behind a decimal integer, or is one of
the words for infinity and for what is not a number; it must not be so large that
it rounds to positive infinity.

Every reader takes the text from where the number starts and gives what it read
and what follows.
-/
namespace InputBridge.Toml

/-- The digits in front of a text, with single underscores between them left
out. `digit` tells digits, and `started` that a digit came directly before. -/
def digitRun (digit : Char → Bool) (started : Bool) : List Char → Option (List Char × List Char)
  | [] => if started then some ([], []) else none
  | c :: rest =>
    if digit c then
      (digitRun digit true rest).map fun (digits, after) => (c :: digits, after)
    else if started then
      if c == '_' then digitRun digit false rest else some ([], c :: rest)
    else none

/-- The sign in front of a number: whether it is a minus, and what follows. -/
def takeSign : List Char → Bool × List Char
  | '-' :: rest => (true, rest)
  | '+' :: rest => (false, rest)
  | text => (false, text)

/-- The digits of a decimal integer: a zero stands alone. -/
def decimalDigits : List Char → Option (List Char × List Char)
  | '0' :: rest => some (['0'], rest)
  | text => digitRun isDigit false text

/-- The value of a run of digits that is known to hold nothing else. -/
def valueOf (base : Nat) (digits : List Char) : Nat :=
  (Text.readDigitsFrom base 0 digits).getD 0

/-- The signed number, if it fits into sixty-four bits. -/
def integerOf (negative : Bool) (magnitude : Nat) : Option Value :=
  let value : Int := if negative then -magnitude else magnitude
  if -9223372036854775808 ≤ value ∧ value ≤ 9223372036854775807 then some (.integer value) else none

/-- An integer behind the mark of its base. -/
def basedInteger (base : Nat) (text : List Char) : Option (Value × List Char) :=
  match digitRun (fun c => (Text.digitValue base c).isSome) false text with
  | none => none
  | some (digits, rest) => (integerOf false (valueOf base digits)).map fun value => (value, rest)

/-- The number `mantissa * 10 ^ exponent` rounds to infinity as a
double-precision number: it is at least half a unit above the largest one. -/
def overflows (mantissa : List Char) (exponent : Int) : Bool :=
  let significant := mantissa.dropWhile (· == '0')
  let magnitude : Int := significant.length + exponent
  let threshold := Nat.pow 2 1024 - Nat.pow 2 970
  if significant.isEmpty || magnitude < 300 then false
  else if magnitude > 400 then true
  else if 0 ≤ exponent then valueOf 10 significant * Nat.pow 10 exponent.toNat ≥ threshold
  else valueOf 10 significant ≥ threshold * Nat.pow 10 (-exponent).toNat

/-- The digits of a fraction, if a point comes first. Without a point there are
none. -/
def fraction : List Char → Option (List Char × List Char)
  | '.' :: rest => digitRun isDigit false rest
  | text => some ([], text)

/-- The exponent, if its letter comes first, and zero otherwise. -/
def exponent : List Char → Option (Int × List Char)
  | [] => some (0, [])
  | c :: rest =>
    if c == 'e' || c == 'E' then
      let (negative, digits) := takeSign rest
      (digitRun isDigit false digits).map fun (digits, after) =>
        ((if negative then -(valueOf 10 digits : Int) else valueOf 10 digits), after)
    else some (0, c :: rest)

/-- What a text holds in front of another that it ends with. -/
def written (text rest : List Char) : String :=
  String.ofList (text.take (text.length - rest.length))

/-- A word for a floating-point number, behind its sign. -/
def floatWord? : List Char → Option (List Char)
  | 'i' :: 'n' :: 'f' :: rest => some rest
  | 'n' :: 'a' :: 'n' :: rest => some rest
  | _ => none

/-- A decimal number with an optional sign. -/
def decimal (text : List Char) : Option (Value × List Char) :=
  let (negative, unsigned) := takeSign text
  match floatWord? unsigned with
  | some rest => some (.float (written text rest), rest)
  | none =>
    match decimalDigits unsigned with
    | none => none
    | some (digits, behindDigits) =>
      match fraction behindDigits with
      | none => none
      | some (places, behindFraction) =>
        match exponent behindFraction with
        | none => none
        | some (power, rest) =>
          if rest.length = behindDigits.length then
            (integerOf negative (valueOf 10 digits)).map fun value => (value, rest)
          else if !negative && overflows (digits ++ places) (power - places.length) then none
          else some (.float (written text rest), rest)

/-- A number in any notation. -/
def number : List Char → Option (Value × List Char)
  | '0' :: 'x' :: rest => basedInteger 16 rest
  | '0' :: 'o' :: rest => basedInteger 8 rest
  | '0' :: 'b' :: rest => basedInteger 2 rest
  | text => decimal text

end InputBridge.Toml
