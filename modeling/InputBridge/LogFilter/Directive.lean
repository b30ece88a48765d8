import InputBridge.LogLevel
import InputBridge.Pattern.Check
import InputBridge.Text.Blank
import InputBridge.Text.Encoded
/-!
# Directives of a log filter

A directive says how much is shown of the notices it speaks of. In full it is the
name of a part of the program, brackets with the name of a span and in them braces
with the name of a field and a value, and behind an equals sign a threshold. Almost
everything may be left out: without a name the whole program is meant, and without a
threshold everything is shown. A word alone is a threshold if it can be one and a
name otherwise.

A name stands for every part whose name it begins. A field restricts the directive
to what has a field of that name; notices have one field, their message. The program
reports nothing from within spans, and the values of fields are looked at for spans
only, so a directive with a span or a value is well formed but speaks of no notice.
A value is a number or a pattern, and the pattern has to be of use.
-/
namespace InputBridge

/-- Why a text is no log filter. -/
inductive FilterError where
  /-- A threshold is expected where there is none. -/
  | notAThreshold
  /-- A directive is not of the form of one. -/
  | malformed
  /-- The value of a field is of no use. -/
  | value (refusal : PatternRefusal)
deriving DecidableEq, Repr

namespace FilterError

/-- The wording for a pattern that asks for word boundaries in the sense of all
scripts. -/
def boundaryMessage : String :=
  "unsupported regex feature for DFAs: cannot build DFAs for regexes with Unicode word " ++
    "boundaries; switch to ASCII word boundaries, or heuristically enable Unicode word " ++
    "boundaries or use a different regex engine"

/-- What lies behind the refusal of a value, outermost first. -/
def valueChain : PatternRefusal → List String
  | .unsound text error => ["error building NFA", "error parsing regex", error.report text]
  | .wordBoundary => [boundaryMessage]

/-- The error and what lies behind it, outermost first. -/
def chain : FilterError → List String
  | .notAThreshold =>
    let message :=
      "error parsing level filter: expected one of \"off\", \"error\", \"warn\", \"info\", " ++
        "\"debug\", \"trace\", or a number 0-5"
    [message, message]
  | .malformed => ["invalid filter directive"]
  | .value refusal =>
    let causes := valueChain refusal
    ("invalid field filter: " ++ causes.headD "") :: causes

end FilterError

/-- What a directive asks of a field. -/
structure FieldDemand where
  name : List Char
  /-- It asks for a value. -/
  isValued : Bool := false
deriving DecidableEq, Repr

namespace FieldDemand

/-- Digits with at most one point among them, and at least one digit. -/
def isDecimal (text : List Char) : Bool :=
  let digits := text.filter (· != '.')
  !digits.isEmpty && digits.all Char.isDigit && text.length ≤ digits.length + 1

/-- Digits, perhaps behind a sign. -/
def isExponent (text : List Char) : Bool :=
  let digits :=
    match text with
    | '+' :: rest | '-' :: rest => rest
    | rest => rest
  !digits.isEmpty && digits.all Char.isDigit

/-- A number: a decimal, perhaps with an exponent, or a word for what is no finite
number, in any mix of cases; perhaps behind a sign. -/
def isNumber (text : List Char) : Bool :=
  let unsigned :=
    match text with
    | '+' :: rest | '-' :: rest => rest
    | rest => rest
  let word := String.ofList (unsigned.map Char.toLower)
  let mantissa := unsigned.takeWhile fun c => c != 'e' && c != 'E'
  let exponent := unsigned.drop (mantissa.length + 1)
  word == "inf" || word == "infinity" || word == "nan" ||
    (isDecimal mantissa && (mantissa.length == unsigned.length || isExponent exponent))

/-- What the text in braces asks for: a field, and its value between the first two
equals signs. -/
def parse (text : List Char) : Except FilterError FieldDemand :=
  let name := text.takeWhile (· != '=')
  match text.dropWhile (· != '=') with
  | [] => .ok { name }
  | _ :: rest =>
    let value := rest.takeWhile (· != '=')
    if isNumber value then .ok { name, isValued := true }
    else
      match Pattern.validate (String.ofList value) with
      | .error refusal => .error (.value refusal)
      | .ok () => .ok { name, isValued := true }

end FieldDemand

/-- What one directive asks for. -/
structure Directive where
  /-- How the names of the parts begin that it speaks of. -/
  target : List Char := []
  /-- The name of a span. -/
  span : Option (List Char) := none
  field : Option FieldDemand := none
  threshold : Threshold := .trace
deriving DecidableEq, Repr

namespace Directive

/-- The threshold in a directive. None shows everything. -/
def readThreshold (text : List Char) : Except FilterError Threshold :=
  if text.isEmpty then .ok .trace
  else (Threshold.ofText? text).elim (.error .notAThreshold) .ok

/-- A piece of a filter. Its form is that of the piece without white space around
it, but the parts are cut out of the piece as it stands; so white space in front of
it moves the cuts and white space behind it belongs to the last part. -/
structure Source where
  piece : List Char

namespace Source

/-- The piece without white space around it. -/
def form (source : Source) : List Char := Text.trim source.piece

/-- How many bytes of the form are in front of what is left of it. -/
def offset (source : Source) (rest : List Char) : Nat :=
  Text.size source.form - Text.size rest

/-- The part of the piece between two places of the form, each given by what is
behind it. -/
def cut (source : Source) (start stop : List Char) : List Char :=
  Text.takeBytes (source.offset stop - source.offset start)
    (Text.dropBytes (source.offset start) source.piece)

/-- The end of the piece, from a place of the form on. -/
def cutFrom (source : Source) (start : List Char) : List Char :=
  Text.dropBytes (source.offset start) source.piece

/-- Reads what comes behind the brackets. -/
def readEnd (source : Source) (directive : Directive) : List Char → Except FilterError Directive
  | [] => .ok directive
  | '=' :: rest =>
    (readThreshold (source.cutFrom rest)).map fun threshold => { directive with threshold }
  | _ => .error .malformed

/-- Reads what comes behind an opening brace within brackets. There has to be
something. -/
def readField (source : Source) (directive : Directive) (start : List Char) :
    Except FilterError Directive :=
  match start.dropWhile (· != '\x7d') with
  | [] => .error .malformed
  | stop@(_ :: rest) =>
    let text := source.cut start stop
    if text.isEmpty then .error .malformed
    else
      match FieldDemand.parse text, rest with
      | .error error, _ => .error error
      | .ok demand, ']' :: rest => source.readEnd { directive with field := some demand } rest
      | .ok _, _ => .error .malformed

/-- Reads what comes behind an opening bracket. Nothing in front of a brace is no
span, but nothing between brackets is one without a name. -/
def readBrackets (source : Source) (directive : Directive) (start : List Char) :
    Except FilterError Directive :=
  match start.dropWhile fun c => c != ']' && c != '\x7b' with
  | stop@(']' :: rest) => source.readEnd { directive with span := some (source.cut start stop) } rest
  | stop@('\x7b' :: rest) =>
    let name := source.cut start stop
    source.readField { directive with span := if name.isEmpty then none else some name } rest
  | _ => .error .malformed

end Source

/-- A directive may begin with a letter or digit or one of three marks. -/
def beginsName (c : Char) : Bool :=
  c == '-' || c == ':' || c == '_' || Text.isAlphanumeric c

/-- What a piece of a filter asks for. -/
def parse (piece : List Char) : Except FilterError Directive :=
  let source : Source := ⟨piece⟩
  match source.form with
  | [] => .error .malformed
  | '[' :: rest => source.readBrackets {} rest
  | c :: rest =>
    if !beginsName c then .error .malformed
    else
      let stop := (c :: rest).dropWhile fun c => c != '=' && c != '['
      match stop with
      | [] =>
        match Threshold.ofText? piece with
        | some threshold => .ok { threshold }
        | none => .ok { target := piece }
      | '[' :: rest => source.readBrackets { target := source.cut source.form stop } rest
      | _ => source.readEnd { target := source.cut source.form stop } stop

/-- The directive speaks of notices at all. -/
def isOfNotices (directive : Directive) : Bool :=
  directive.span.isNone && !directive.field.any FieldDemand.isValued

/-- The directive speaks of the notices of a part of the program. -/
def speaksOf (target : String) (directive : Directive) : Bool :=
  directive.isOfNotices && directive.target.isPrefixOf target.toList &&
    directive.field.all fun demand => String.ofList demand.name == Notice.fieldName

/-- How closely a directive describes what it speaks of: by so many bytes of a name
and so many fields. -/
def closeness (directive : Directive) : Nat × Nat :=
  (Text.size directive.target, directive.field.toList.length)

/-- The directive describes what it speaks of no more closely than another does. -/
def noCloserThan (first second : Directive) : Bool :=
  let (bytes, fields) := first.closeness
  let (otherBytes, otherFields) := second.closeness
  bytes < otherBytes || (bytes == otherBytes && fields ≤ otherFields)

end Directive

end InputBridge
