import InputBridge.Pattern.Fault
import InputBridge.Text.Alphanumeric
import InputBridge.Text.Number
/-!
# Going through a pattern

A cursor is in front of what is left of a pattern and knows its place. A step takes
it behind the next character. Where a pattern is spaced, white space between its
characters stands for nothing, as does everything from a number sign to the end of
its line; an advance is a step that also passes those.
-/
namespace InputBridge

/-- A place in a pattern and what is behind it. -/
structure Cursor where
  rest : List Char
  place : Place := {}
  /-- White space and comments stand for nothing. -/
  isSpaced : Bool := false
deriving DecidableEq, Repr, Inhabited

namespace Cursor

/-- The empty part of the pattern at the cursor. -/
def here (cursor : Cursor) : Extent := .empty cursor.place

/-- The part of the pattern from a place to the cursor. -/
def since (start : Place) (cursor : Cursor) : Extent := ⟨start, cursor.place⟩

/-- The cursor behind the next character. -/
def step (cursor : Cursor) : Cursor :=
  match cursor.rest with
  | [] => cursor
  | c :: rest => { cursor with rest, place := cursor.place.after c }

/-- The cursor behind so many characters. -/
def steps : Nat → Cursor → Cursor
  | 0, cursor => cursor
  | count + 1, cursor => cursor.step.steps count

/-- The part of the pattern that the next character is. -/
def next (cursor : Cursor) : Extent := cursor.step.since cursor.place

/-- The cursor behind a text, if the text comes next. -/
def pass? (text : String) (cursor : Cursor) : Option Cursor :=
  if text.toList.isPrefixOf cursor.rest then some (cursor.steps text.length) else none

/-- A place and what is behind it, with white space and comments passed. The flag
says whether the place is within a comment. -/
def passSpace (comment : Bool) (place : Place) : List Char → Place × List Char
  | [] => (place, [])
  | c :: rest =>
    if comment then passSpace (c != '\n') (place.after c) rest
    else if Text.isBlank c then passSpace false (place.after c) rest
    else if c == '#' then passSpace true (place.after c) rest
    else (place, c :: rest)

/-- The cursor behind what stands for nothing. -/
def skipSpace (cursor : Cursor) : Cursor :=
  if cursor.isSpaced then
    let (place, rest) := passSpace false cursor.place cursor.rest
    { cursor with rest, place }
  else cursor

/-- The cursor behind the next character and what stands for nothing behind it. -/
def advance (cursor : Cursor) : Cursor := cursor.step.skipSpace

/-- The character that counts behind the next one. In a spaced pattern white space
is passed, and one number sign, but not the comment it opens; if nothing comes then,
it is the character directly behind the next one. -/
def second? (cursor : Cursor) : Option Char :=
  let rest := cursor.rest.tail
  if cursor.isSpaced then
    let passed :=
      match rest.dropWhile Text.isBlank with
      | '#' :: comment => comment.dropWhile Text.isBlank
      | text => text
    passed.head?.or rest.head?
  else rest.head?

/-- Advances over characters of a class, at most `limit` of them: the characters and
the cursor behind them. -/
def collect (isWanted : Char → Bool) : Nat → Cursor → List Char × Cursor
  | 0, cursor => ([], cursor)
  | limit + 1, cursor =>
    match cursor.rest with
    | [] => ([], cursor)
    | c :: _ =>
      if isWanted c then
        let (chars, after) := cursor.advance.collect isWanted limit
        (c :: chars, after)
      else ([], cursor)

/-- Advances over all characters of a class that come next. -/
def collectAll (isWanted : Char → Bool) (cursor : Cursor) : List Char × Cursor :=
  cursor.collect isWanted cursor.rest.length

/-- The end of the pattern. -/
def finish (cursor : Cursor) : Cursor := cursor.steps cursor.rest.length

end Cursor

/-- What a reader has read and where it stopped, or what is wrong. -/
abbrev Read (α : Type) := Except PatternError (α × Cursor)

/-- A fault in a part of a pattern. -/
def faulty {α : Type} (fault : PatternFault) (extent : Extent) : Except PatternError α :=
  .error { fault, extent }

end InputBridge
