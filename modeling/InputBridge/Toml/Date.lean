import InputBridge.Toml.Number
/-!
# Dates and times in a TOML document

A date is a year of four digits, a month and a day that exists in that month; a
time is an hour, a minute and a second, which may be a leap second, with an
optional fraction. A date may be followed by a time and an offset from universal
time, and a time may stand alone. Only well-formedness is checked here: every
reader gives what follows.
-/
namespace InputBridge.Toml

/-- A number of exactly `count` digits, and what follows it. -/
def fixedDigits (count : Nat) (text : List Char) : Option (Nat × List Char) :=
  let digits := text.take count
  if digits.length = count && digits.all isDigit then
    some (valueOf 10 digits, text.drop count)
  else none

/-- A number of two digits between two limits, and what follows it. -/
def twoDigits (low high : Nat) (text : List Char) : Option (Nat × List Char) :=
  (fixedDigits 2 text).filter fun (value, _) => low ≤ value && value ≤ high

/-- What follows a character that has to come first. -/
def expect (c : Char) : List Char → Option (List Char)
  | [] => none
  | first :: rest => if first == c then some rest else none

/-- The number of days in a month. -/
def daysIn (year month : Nat) : Nat :=
  let leap := year % 4 == 0 && (year % 100 != 0 || year % 400 == 0)
  if month == 2 then (if leap then 29 else 28)
  else if month == 4 || month == 6 || month == 9 || month == 11 then 30
  else 31

/-- What follows a date. -/
def skipDate (text : List Char) : Option (List Char) := do
  let (year, text) ← fixedDigits 4 text
  let (month, text) ← twoDigits 1 12 (← expect '-' text)
  let (day, text) ← twoDigits 1 31 (← expect '-' text)
  if day ≤ daysIn year month then some text else none

/-- What follows the fraction of a second, if there is one. -/
def skipSecondFraction : List Char → Option (List Char)
  | '.' :: rest =>
    match rest.takeWhile isDigit with
    | [] => none
    | _ => some (rest.dropWhile isDigit)
  | text => some text

/-- What follows a time. -/
def skipTime (text : List Char) : Option (List Char) := do
  let (_, text) ← twoDigits 0 23 text
  let (_, text) ← twoDigits 0 59 (← expect ':' text)
  let (_, text) ← twoDigits 0 60 (← expect ':' text)
  skipSecondFraction text

/-- What follows the offset from universal time, if there is one. -/
def skipOffset : List Char → Option (List Char)
  | [] => some []
  | c :: rest =>
    if c == 'Z' || c == 'z' then some rest
    else if c == '+' || c == '-' then do
      let (_, text) ← twoDigits 0 23 rest
      let (_, text) ← twoDigits 0 59 (← expect ':' text)
      some text
    else some (c :: rest)

/-- A time starts here, as far as its hour shows. -/
def startsTime (text : List Char) : Bool :=
  match twoDigits 0 23 text with
  | some (_, ':' :: _) => true
  | _ => false

/-- What follows the time and offset behind a date. Without a time nothing
follows the date, and a blank behind it is not part of it. -/
def skipTimeOfDay : List Char → Option (List Char)
  | [] => some []
  | c :: rest =>
    if (c == 'T' || c == 't' || c == ' ') && startsTime rest then
      (skipTime rest).bind skipOffset
    else some (c :: rest)

/-- A date starts here, as far as its year shows. -/
def startsDate (text : List Char) : Bool :=
  match fixedDigits 4 text with
  | some (_, '-' :: _) => true
  | _ => false

/-- A date, a time, or a date with a time. -/
def dateTime (text : List Char) : Option (Value × List Char) := do
  let rest ← if startsDate text then (skipDate text).bind skipTimeOfDay else skipTime text
  some (.dateTime (written text rest), rest)

end InputBridge.Toml
