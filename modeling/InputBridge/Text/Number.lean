/-!
# Reading and writing numbers

Numbers in files, on the command line and in typed answers are unsigned and
bounded: a run of digits, with one plus sign allowed in front, whose value does
not exceed what the receiving field can hold. Nothing else is accepted: no white
space, no separator, no minus sign, no empty run.
-/
namespace InputBridge.Text

/-- The value of a digit in bases up to sixteen; letters count in either case. -/
def digitValue (base : Nat) (c : Char) : Option Nat :=
  let value :=
    if '0' ≤ c ∧ c ≤ '9' then some (c.toNat - '0'.toNat)
    else if 'a' ≤ c ∧ c ≤ 'f' then some (c.toNat - 'a'.toNat + 10)
    else if 'A' ≤ c ∧ c ≤ 'F' then some (c.toNat - 'A'.toNat + 10)
    else none
  value.filter (· < base)

/-- The value of a run of digits that continues a number already read. -/
def readDigitsFrom (base value : Nat) : List Char → Option Nat
  | [] => some value
  | c :: rest =>
    match digitValue base c with
    | some digit => readDigitsFrom base (value * base + digit) rest
    | none => none

/-- The value of a run of at least one digit. -/
def readDigits (base : Nat) (text : List Char) : Option Nat :=
  if text.isEmpty then none else readDigitsFrom base 0 text

/-- The text without one plus sign in front. -/
def dropPlus : List Char → List Char
  | '+' :: rest => rest
  | text => text

/-- An unsigned number of at most `limit`, with one plus sign allowed in front. -/
def readUnsigned (base limit : Nat) (text : List Char) : Option Nat :=
  (readDigits base (dropPlus text)).filter (· ≤ limit)

/-- The largest index that sixty-four bits can hold. -/
def maxIndex : Nat := UInt64.size - 1

/-- A number in base sixteen with letters in upper case, in at least two
digits. -/
def hexPadded (number : Nat) : String :=
  let digits := (Nat.toDigits 16 number).map Char.toUpper
  String.ofList (if digits.length < 2 then '0' :: digits else digits)

/-- A byte in base sixteen, in two digits. -/
def hexByte (byte : UInt8) : String := hexPadded byte.toNat

end InputBridge.Text
