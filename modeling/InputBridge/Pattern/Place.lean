import InputBridge.Text.Blank
/-!
# Places in a text

A fault in a pattern is shown to its author: the line it is in is written out, and
the characters at fault are pointed at on a line of their own below. So every part
of a pattern remembers from where to where it goes.

A text of several lines is shown between two rules, each line behind its number. An
extent that begins in one line and ends in another is not pointed at; it is
described in words below the second rule.
-/
namespace InputBridge

/-- A place between two characters of a text. Lines and columns count from one. -/
structure Place where
  line : Nat := 1
  column : Nat := 1
deriving DecidableEq, Repr, Inhabited

namespace Place

/-- The place behind a character. -/
def after (place : Place) (c : Char) : Place :=
  if c = '\n' then { line := place.line + 1 } else { place with column := place.column + 1 }

/-- The place does not lie behind another. -/
def le (first second : Place) : Bool :=
  first.line < second.line || (first.line == second.line && first.column ≤ second.column)

end Place

/-- A part of a text, from one place to another. -/
structure Extent where
  start : Place := {}
  stop : Place := {}
deriving DecidableEq, Repr, Inhabited

namespace Extent

/-- The part that is empty and lies at a place. -/
def empty (place : Place) : Extent := ⟨place, place⟩

/-- The part lies within one line. -/
def isWithinLine (extent : Extent) : Bool := extent.start.line == extent.stop.line

/-- The part begins before another or, if they begin together, does not end behind
it. -/
def le (first second : Extent) : Bool :=
  if first.start = second.start then first.stop.le second.stop else first.start.le second.start

/-- Where the part goes, in words. -/
def description (extent : Extent) : String :=
  s!"on line {extent.start.line} (column {extent.start.column}) through line " ++
    s!"{extent.stop.line} (column {extent.stop.column - 1})"

/-- Points at parts of one line, in order, from a column on. A part that is empty is
pointed at like a single character. -/
def pointers : Nat → List Extent → List Char
  | _, [] => []
  | column, extent :: rest =>
    let blanks := extent.start.column - column
    let marks := max 1 (extent.stop.column - extent.start.column)
    List.replicate blanks ' ' ++ List.replicate marks '^' ++
      pointers (column + blanks + marks) rest

end Extent

namespace Text

/-- A text with some of its parts pointed at, and the parts described that cannot
be. -/
def annotate (text : String) (extents : List Extent) : String :=
  let extents := extents.mergeSort Extent.le
  let lines := Text.lines text.toList
  let isLong := text.toList.contains '\n'
  let count := lines.length + if text.toList.getLast? = some '\n' then 1 else 0
  let width := (toString count).length
  let shown := lines.zipIdx.map fun (line, index) =>
    let number := toString (index + 1)
    let heading :=
      if count ≤ 1 then "    "
      else String.ofList (List.replicate (width - number.length) ' ') ++ number ++ ": "
    let here := extents.filter fun extent => extent.isWithinLine && extent.start.line == index + 1
    let below :=
      if here.isEmpty then ""
      else
        String.ofList (List.replicate heading.length ' ' ++ Extent.pointers 1 here) ++ "\n"
    heading ++ String.ofList line ++ "\n" ++ below
  let across := (extents.filter fun extent => !extent.isWithinLine).map Extent.description
  let rule := String.ofList (List.replicate 79 '~') ++ "\n"
  if isLong then
    rule ++ String.join shown ++ rule ++
      (if across.isEmpty then "" else "\n".intercalate across ++ "\n")
  else String.join shown

end Text

end InputBridge
