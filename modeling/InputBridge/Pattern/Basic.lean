import InputBridge.Pattern.Fault
/-!
# Patterns

A pattern describes texts. It is made of pieces, each of which stands for some
characters or asks something of the place it is at; of classes, which are sets of
characters in brackets; and of groups, repetitions, sequences and alternatives of
patterns. Flags change what the pieces behind them mean, up to the end of the group
they are in.

Patterns are only checked here and never matched, so what a piece stands for is kept
as far as it decides whether the pattern is sound: a pattern may only match text,
and may not ask for word boundaries in the sense of all scripts.
-/
namespace InputBridge

/-- What a piece of a pattern stands for. -/
inductive Atom where
  /-- A character. It may have been written as the byte with its number. -/
  | character (c : Char) (isByte : Bool)
  /-- Any character of a line. -/
  | any
  /-- The place where a line or the text begins or ends. -/
  | edge
  /-- A place where a word begins or ends, or one where none does. -/
  | wordBoundary
  /-- Digits, white space or the characters of words, or all others. -/
  | shorthand (isNegated : Bool)
  /-- The characters with a property that has a name of one letter, or all
  others. -/
  | property (letter : Char)
deriving DecidableEq, Repr

/-- A piece of a pattern. -/
structure Piece where
  atom : Atom
  extent : Extent
deriving DecidableEq, Repr

/-- What can be done with two sets of characters. -/
inductive SetOperation where
  | intersection
  | difference
  | symmetricDifference
deriving DecidableEq, Repr

/-- A set of characters within brackets. -/
inductive CharacterSet where
  | empty (extent : Extent)
  | single (piece : Piece)
  | range (first last : Piece)
  /-- A set of ASCII characters with a name, or all others. -/
  | named (extent : Extent) (isNegated : Bool)
  /-- A set in brackets of its own, or all characters outside it. -/
  | bracketed (extent : Extent) (isNegated : Bool) (content : CharacterSet)
  | union (extent : Extent) (parts : List CharacterSet)
  | operation (extent : Extent) (operation : SetOperation) (left right : CharacterSet)
deriving Repr

/-- The part of the pattern that a set is written in. -/
def CharacterSet.extent : CharacterSet → Extent
  | empty extent | named extent _ | bracketed extent .. | union extent _
  | operation extent .. => extent
  | single piece => piece.extent
  | range first last => ⟨first.extent.start, last.extent.stop⟩

/-- A flag of a pattern. -/
inductive Flag where
  | ignoreCase
  | severalLines
  | anyLineEnd
  | swapGreed
  /-- Pieces stand for characters of all scripts, and not for bytes. -/
  | allScripts
  | carriageReturns
  /-- White space and comments in the pattern stand for nothing. -/
  | spaced
deriving DecidableEq, Repr

/-- One item in a list of flags: a flag, or the sign that the flags behind it are
lowered. -/
inductive FlagItem where
  | flag (flag : Flag)
  | negation
deriving DecidableEq, Repr

/-- What a list of flags does to a flag: raises it, lowers it, or nothing. -/
def Flag.setBy? (flag : Flag) (items : List FlagItem) : Option Bool :=
  if items.contains (.flag flag) then
    some !((items.takeWhile (· != .flag flag)).contains .negation)
  else none

/-- A pattern. -/
inductive Pattern where
  | empty (extent : Extent)
  | piece (piece : Piece)
  /-- Flags are changed up to the end of the group. -/
  | flags (extent : Extent) (items : List FlagItem)
  /-- A character of a set, or one outside it. -/
  | set (extent : Extent) (isNegated : Bool) (content : CharacterSet)
  | repetition (extent : Extent) (body : Pattern)
  /-- A group, in which flags may be changed. -/
  | group (extent : Extent) (items : List FlagItem) (body : Pattern)
  | alternatives (extent : Extent) (branches : List Pattern)
  | sequence (extent : Extent) (parts : List Pattern)
deriving Repr

/-- The part of the pattern that a pattern within it is written in. -/
def Pattern.extent : Pattern → Extent
  | empty extent | flags extent _ | set extent .. | repetition extent _ | group extent ..
  | alternatives extent _ | sequence extent _ => extent
  | piece part => part.extent

end InputBridge
