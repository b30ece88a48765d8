import InputBridge.Pattern.Parser
/-!
# Sound patterns

A pattern that can be read may still be unsound. Its parts may be nested too deep.
Where pieces stand for bytes it may match bytes that are no text: a byte beyond
ASCII, any byte, or everything outside a set of bytes. No set of bytes that is sound
holds one beyond ASCII, so everything outside such a set always does. A pattern may
ask for a property that is not known. And it may ask for word boundaries where pieces
stand for characters of all scripts, which is more than patterns here can do.
-/
namespace InputBridge

/-! ### Nesting -/

mutual

/-- The first part of a set that is nested deeper than a number of further
levels. -/
def CharacterSet.tooDeep? (levels : Nat) : CharacterSet → Option Extent
  | .empty _ | .single _ | .range .. | .named .. => none
  | .bracketed extent _ content =>
    match levels with
    | 0 => some extent
    | levels + 1 => content.tooDeep? levels
  | .union extent parts =>
    match levels with
    | 0 => some extent
    | levels + 1 => CharacterSet.anyTooDeep? levels parts
  | .operation extent _ left right =>
    match levels with
    | 0 => some extent
    | levels + 1 => (left.tooDeep? levels).or (right.tooDeep? levels)

/-- The first part of some sets that is nested deeper. -/
def CharacterSet.anyTooDeep? (levels : Nat) : List CharacterSet → Option Extent
  | [] => none
  | part :: rest => (part.tooDeep? levels).or (CharacterSet.anyTooDeep? levels rest)

end

mutual

/-- The first part of a pattern that is nested deeper than a number of further
levels. -/
def Pattern.tooDeep? (levels : Nat) : Pattern → Option Extent
  | .empty _ | .piece _ | .flags .. => none
  | .set extent _ content =>
    match levels with
    | 0 => some extent
    | levels + 1 => content.tooDeep? levels
  | .repetition extent body | .group extent _ body =>
    match levels with
    | 0 => some extent
    | levels + 1 => body.tooDeep? levels
  | .alternatives extent parts | .sequence extent parts =>
    match levels with
    | 0 => some extent
    | levels + 1 => Pattern.anyTooDeep? levels parts

/-- The first part of some patterns that is nested deeper. -/
def Pattern.anyTooDeep? (levels : Nat) : List Pattern → Option Extent
  | [] => none
  | part :: rest => (part.tooDeep? levels).or (Pattern.anyTooDeep? levels rest)

end

/-! ### Characters and bytes -/

/-- The letters that name a property: those of the general categories. -/
def isProperty (letter : Char) : Bool :=
  "clmnpsz".toList.contains letter.toLower

/-- Checks a property where pieces stand for characters. -/
def checkProperty (letter : Char) (extent : Extent) : Except PatternError Unit :=
  if isProperty letter then .ok () else faulty .propertyUnknown extent

/-- Checks a piece. The flag says whether pieces stand for characters of all
scripts. -/
def Piece.check (allScripts : Bool) (piece : Piece) : Except PatternError Unit :=
  match piece.atom, allScripts with
  | .property letter, true => checkProperty letter piece.extent
  | .property _, false => faulty .notBytes piece.extent
  | .any, false | .shorthand true, false => faulty .notText piece.extent
  | .character c true, false =>
    if c.toNat < 0x80 then .ok () else faulty .notText piece.extent
  | _, _ => .ok ()

/-- Checks a piece of a set. A character in a set of bytes has to be a byte. -/
def Piece.checkInSet (allScripts : Bool) (piece : Piece) : Except PatternError Unit :=
  match piece.atom, allScripts with
  | .character c false, false => if c.toNat < 0x80 then .ok () else faulty .notBytes piece.extent
  | _, _ => piece.check allScripts

/-- Checks that a set is not one of everything outside another, unless pieces stand
for characters of all scripts. -/
def checkNegation (allScripts isNegated : Bool) (extent : Extent) : Except PatternError Unit :=
  if isNegated && !allScripts then faulty .notText extent else .ok ()

mutual

/-- Checks a set. -/
def CharacterSet.check (allScripts : Bool) : CharacterSet → Except PatternError Unit
  | .empty _ => .ok ()
  | .single piece => piece.checkInSet allScripts
  | .range first last => do first.checkInSet allScripts; last.checkInSet allScripts
  | .named extent isNegated => checkNegation allScripts isNegated extent
  | .bracketed extent isNegated content => do
    content.check allScripts
    checkNegation allScripts isNegated extent
  | .union _ parts => CharacterSet.checkAll allScripts parts
  | .operation _ _ left right => do left.check allScripts; right.check allScripts

/-- Checks sets one after the other. -/
def CharacterSet.checkAll (allScripts : Bool) : List CharacterSet → Except PatternError Unit
  | [] => .ok ()
  | part :: rest => do part.check allScripts; CharacterSet.checkAll allScripts rest

end

/-- What is known at a place of a pattern. -/
structure PatternState where
  /-- Pieces stand for characters of all scripts. -/
  allScripts : Bool := true
  /-- Word boundaries in the sense of all scripts were asked for. -/
  asksBoundary : Bool := false
deriving DecidableEq, Repr

namespace PatternState

/-- The state behind a change of flags. -/
def change (items : List FlagItem) (state : PatternState) : PatternState :=
  { state with allScripts := ((Flag.allScripts).setBy? items).getD state.allScripts }

/-- The state behind a piece. -/
def pass (piece : Piece) (state : PatternState) : PatternState :=
  match piece.atom with
  | .wordBoundary => { state with asksBoundary := state.asksBoundary || state.allScripts }
  | _ => state

end PatternState

mutual

/-- Checks a pattern from a state on. The answer is the state behind it. -/
def Pattern.check (state : PatternState) : Pattern → Except PatternError PatternState
  | .empty _ => .ok state
  | .piece part => do part.check state.allScripts; return state.pass part
  | .flags _ items => .ok (state.change items)
  | .set extent isNegated content => do
    content.check state.allScripts
    checkNegation state.allScripts isNegated extent
    return state
  | .repetition _ body => body.check state
  | .group _ items body => do
    let inside ← body.check (state.change items)
    return { inside with allScripts := state.allScripts }
  | .alternatives _ parts | .sequence _ parts => Pattern.checkAll state parts

/-- Checks patterns one after the other. -/
def Pattern.checkAll (state : PatternState) : List Pattern → Except PatternError PatternState
  | [] => .ok state
  | part :: rest => do Pattern.checkAll (← part.check state) rest

end

/-- Why a text is of no use as a pattern. -/
inductive PatternRefusal where
  /-- Something is wrong with it. -/
  | unsound (text : String) (error : PatternError)
  /-- It asks for word boundaries in the sense of all scripts. -/
  | wordBoundary
deriving DecidableEq, Repr

/-- Checks that a text is of use as a pattern. -/
def Pattern.validate (text : String) : Except PatternRefusal Unit :=
  let checked := do
    let pattern ← Pattern.parse text
    match pattern.tooDeep? PatternFault.maxNesting with
    | some extent => faulty .tooDeep extent
    | none => pattern.check {}
  match checked with
  | .error error => .error (.unsound text error)
  | .ok state => if state.asksBoundary then .error .wordBoundary else .ok ()

end InputBridge
