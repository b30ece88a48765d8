import InputBridge.Pattern.Escape
/-!
# Classes in a pattern

A class is a set of characters in brackets. It lists characters, ranges, escapes,
sets with names, and further classes; two marks in a row stand for an operation on
what was listed before and what follows. An accent in front means all characters
that are not in the set. Minus signs and a closing bracket at the very front stand
for themselves.

Classes that are being read lie on a stack, the innermost apart. The operations of a
class go from left to right, so one operand is all that has to be kept.
-/
namespace InputBridge.Pattern

/-- What was listed since the class began or its last operation. -/
structure Listing where
  extent : Extent
  /-- The parts, the last first. -/
  parts : List CharacterSet := []
deriving Repr

namespace Listing

/-- The listing with one more part. -/
def add (part : CharacterSet) (listing : Listing) : Listing :=
  { extent :=
      { start := if listing.parts.isEmpty then part.extent.start else listing.extent.start
        stop := part.extent.stop }
    parts := part :: listing.parts }

/-- The set of everything listed. -/
def close (listing : Listing) : CharacterSet :=
  match listing.parts with
  | [] => .empty listing.extent
  | [part] => part
  | parts => .union listing.extent parts.reverse

end Listing

/-- A class that is being read. -/
structure OpenClass where
  /-- What opened it. -/
  opening : Extent
  isNegated : Bool
  /-- What stands before the last operation, and that operation. -/
  left : Option (CharacterSet × SetOperation) := none
  listing : Listing
deriving Repr

namespace OpenClass

/-- The class with one more part. -/
def add (part : CharacterSet) (level : OpenClass) : OpenClass :=
  { level with listing := level.listing.add part }

/-- The set that was read so far. -/
def close (level : OpenClass) : CharacterSet :=
  let right := level.listing.close
  match level.left with
  | none => right
  | some (left, operation) =>
    .operation ⟨left.extent.start, right.extent.stop⟩ operation left right

/-- The class with an operation on what was read so far. -/
def operate (operation : SetOperation) (cursor : Cursor) (level : OpenClass) : OpenClass :=
  { level with left := some (level.close, operation), listing := { extent := cursor.here } }

end OpenClass

/-- A character that stands for itself. -/
def verbatim (c : Char) (cursor : Cursor) : Piece := ⟨.character c false, cursor.next⟩

/-- Minus signs at the front of a class, at most `limit` of them, each with
something behind it. The fault is that the class does not end. -/
def leadingDashes (start : Place) : Nat → Listing → Cursor → Read Listing
  | 0, listing, cursor => .ok (listing, cursor)
  | limit + 1, listing, cursor =>
    match cursor.rest with
    | '-' :: _ =>
      let after := cursor.advance
      if after.rest.isEmpty then faulty .classUnclosed (.empty start)
      else leadingDashes start limit (listing.add (.single (verbatim '-' cursor))) after
    | _ => .ok (listing, cursor)

/-- The class that a bracket opens. -/
def openClass (cursor : Cursor) : Except PatternError (OpenClass × Cursor) := do
  let start := cursor.place
  let inside := cursor.advance
  let isNegated := inside.rest.head? == some '^'
  let inside := if isNegated then inside.advance else inside
  if inside.rest.isEmpty then faulty .classUnclosed (inside.since start)
  else
    let (listing, inside) ←
      leadingDashes start inside.rest.length { extent := inside.here } inside
    if listing.parts.isEmpty && inside.rest.head? == some ']' then
      let after := inside.advance
      if after.rest.isEmpty then faulty .classUnclosed (after.since start)
      else
        return ({ opening := after.since start, isNegated
                  listing := listing.add (.single (verbatim ']' inside)) }, after)
    else return ({ opening := inside.since start, isNegated, listing }, inside)

/-- The sets of ASCII characters that have a name. -/
def setNames : List String :=
  ["alnum", "alpha", "ascii", "blank", "cntrl", "digit", "graph", "lower", "print", "punct",
    "space", "upper", "word", "xdigit"]

/-- A set with a name, between brackets and colons, if one comes next. -/
def namedSet? (cursor : Cursor) : Option (CharacterSet × Cursor) := do
  let inside ← cursor.pass? "[:"
  let isNegated := inside.rest.head? == some '^'
  let inside := if isNegated then inside.step else inside
  let name := inside.rest.takeWhile (· != ':')
  let after ← (inside.steps name.length).pass? ":]"
  if setNames.contains (String.ofList name) then
    some (.named (after.since cursor.place) isNegated, after)
  else none

/-- A character or an escape in a class. -/
def classPiece (cursor : Cursor) : Read Piece :=
  match cursor.rest with
  | '\\' :: _ => escape cursor
  | c :: _ => .ok (verbatim c cursor, cursor.step)
  | [] => faulty .classUnclosed cursor.here

/-- The character that a piece stands for, if it is an end of a range. -/
def rangeEnd (piece : Piece) : Except PatternError Char :=
  match piece.atom with
  | .character c _ => .ok c
  | _ => faulty .rangeEnd piece.extent

/-- The set that a piece of a class stands for. -/
def inClass (piece : Piece) : Except PatternError CharacterSet :=
  match piece.atom with
  | .any | .edge | .wordBoundary => faulty .classEscape piece.extent
  | _ => .ok (.single piece)

/-- A piece of a class, or a range if a minus sign follows that has something other
than a closing bracket or a minus sign behind it. -/
def pieceOrRange (level : OpenClass) (cursor : Cursor) :
    Except PatternError (CharacterSet × Cursor) := do
  let (first, after) ← classPiece cursor
  let after := after.skipSpace
  if after.rest.isEmpty then faulty .classUnclosed level.opening
  else if after.rest.head? != some '-' || after.second? == some ']' || after.second? == some '-' then
    return (← inClass first, after)
  else
    let behind := after.advance
    if behind.rest.isEmpty then faulty .classUnclosed level.opening
    else
      let (last, behind) ← classPiece behind
      let low ← rangeEnd first
      let high ← rangeEnd last
      if high < low then faulty .rangeReversed ⟨first.extent.start, last.extent.stop⟩
      else return (.range first last, behind)

/-- Reads a class to its end, through at most `limit` parts. The classes around it
are given from the inside out. -/
def classFrom : Nat → OpenClass → List OpenClass → Cursor → Read Pattern
  | 0, level, _, _ => faulty .classUnclosed level.opening
  | limit + 1, level, outer, cursor =>
    let cursor := cursor.skipSpace
    let operate operation :=
      let after := cursor.steps 2
      classFrom limit (level.operate operation after) outer after
    match cursor.rest with
    | [] => faulty .classUnclosed level.opening
    | '[' :: _ =>
      match namedSet? cursor with
      | some (part, after) => classFrom limit (level.add part) outer after
      | none =>
        match openClass cursor with
        | .error error => .error error
        | .ok (inner, after) => classFrom limit inner (level :: outer) after
    | ']' :: _ =>
      let after := cursor.step
      let extent := after.since level.opening.start
      match outer with
      | [] => .ok (.set extent level.isNegated level.close, after)
      | parent :: outer =>
        classFrom limit (parent.add (.bracketed extent level.isNegated level.close)) outer after
    | '&' :: '&' :: _ => operate .intersection
    | '-' :: '-' :: _ => operate .difference
    | '~' :: '~' :: _ => operate .symmetricDifference
    | _ =>
      match pieceOrRange level cursor with
      | .error error => .error error
      | .ok (part, after) => classFrom limit (level.add part) outer after

/-- A class, from its opening bracket on. -/
def readClass (cursor : Cursor) : Read Pattern :=
  match openClass cursor with
  | .error error => .error error
  | .ok (level, after) => classFrom (after.rest.length + 1) level [] after

end InputBridge.Pattern
