import InputBridge.Pattern.Class
/-!
# Reading a pattern

A pattern is read from front to back. What was read of a group is a level: the
alternatives that are complete and the parts of the one being read. The levels
around it lie on a stack with what opened their groups. A group ends at its closing
mark, the pattern at its end, where no group may be open.

A mark for repetition applies to the part in front of it and has to have one; a
change of flags is none. Counts stand in braces and cannot be completed, since a
pattern has no closing brace. Names of groups begin with a letter or an underscore
and are given only once.
-/
namespace InputBridge.Pattern

/-- What was read of a group, or of the whole pattern outside all groups. -/
structure Level where
  /-- Where the first alternative starts. -/
  start : Place := {}
  /-- The alternatives that are complete, the last first. -/
  branches : List Pattern := []
  /-- Where the alternative that is being read starts. -/
  branchStart : Place := {}
  /-- Its parts, the last first. -/
  parts : List Pattern := []
deriving Repr

namespace Level

/-- The level of a group from behind what opens it. -/
def begin (place : Place) : Level := { start := place, branchStart := place }

/-- The level with one more part. -/
def add (part : Pattern) (level : Level) : Level := { level with parts := part :: level.parts }

/-- The alternative that was being read, up to a place. -/
def branch (stop : Place) (level : Level) : Pattern :=
  match level.parts with
  | [] => .empty ⟨level.branchStart, stop⟩
  | [part] => part
  | parts => .sequence ⟨level.branchStart, stop⟩ parts.reverse

/-- The level with the alternative that was being read complete, and another begun
behind the mark between them. -/
def alternate (stop next : Place) (level : Level) : Level :=
  { level with
    branches := level.branch stop :: level.branches
    branchStart := next
    parts := [] }

/-- Everything that was read, up to a place. -/
def close (stop : Place) (level : Level) : Pattern :=
  let last := level.branch stop
  if level.branches.isEmpty then last
  else .alternatives ⟨level.start, stop⟩ (last :: level.branches).reverse

end Level

/-- A group that is open. -/
structure OpenGroup where
  /-- What opened it. -/
  opening : Extent
  /-- The flags it changes. -/
  items : List FlagItem := []
  /-- What stands before it. -/
  outside : Level
  /-- The pattern outside it is spaced. -/
  isSpacedOutside : Bool
deriving Repr

/-- How far a pattern was read. -/
structure Progress where
  cursor : Cursor
  level : Level := {}
  /-- The open groups, the innermost first. -/
  groups : List OpenGroup := []
  /-- The names of groups, and where they were given. -/
  names : List (String × Extent) := []
deriving Repr

/-! ### Flags and names -/

/-- The flag that a letter stands for. -/
def flag? (c : Char) : Option Flag :=
  match c with
  | 'i' => some .ignoreCase
  | 'm' => some .severalLines
  | 's' => some .anyLineEnd
  | 'U' => some .swapGreed
  | 'u' => some .allScripts
  | 'R' => some .carriageReturns
  | 'x' => some .spaced
  | _ => none

/-- Reads flags up to a colon or closing mark, at most `limit` of them, after flags
that were already read with the parts they are in, the last first. -/
def flagsFrom : Nat → List (FlagItem × Extent) → Cursor →
    Except PatternError (List FlagItem × Cursor)
  | 0, _, cursor => faulty .flagsUnclosed cursor.here
  | limit + 1, items, cursor =>
    match cursor.rest with
    | [] => faulty .flagsUnclosed cursor.here
    | c :: _ =>
      if c == ':' || c == ')' then
        match items with
        | (.negation, extent) :: _ => faulty .flagMissing extent
        | _ => .ok ((items.map Prod.fst).reverse, cursor)
      else
        let item? := if c == '-' then some FlagItem.negation else (flag? c).map FlagItem.flag
        match item? with
        | none => faulty .flagUnknown cursor.next
        | some item =>
          match items.find? fun (known, _) => known = item with
          | some (_, clash) =>
            let fault := if item = .negation then .negationRepeated else .flagRepeated
            .error { fault, extent := cursor.next, clash := some clash }
          | none => flagsFrom limit ((item, cursor.next) :: items) cursor.step

/-- A character that a name may begin with. -/
def beginsName (c : Char) : Bool := c == '_' || Text.isAlphabetic c

/-- A character that a name may go on with. -/
def continuesName (c : Char) : Bool :=
  c == '_' || c == '.' || c == '[' || c == ']' || Text.isAlphanumeric c

/-- The name of a group, and the cursor behind the mark that closes it. No group may
have it yet. -/
def groupName (names : List (String × Extent)) (cursor : Cursor) :
    Except PatternError ((String × Extent) × Cursor) :=
  let text := cursor.rest.takeWhile (· != '>')
  let proper := (text.take 1).takeWhile beginsName ++ (text.drop 1).takeWhile continuesName
  let isProper := text.take 1 |>.all beginsName
  let fault? :=
    if !isProper then some cursor.next
    else if proper.length < text.length then some (cursor.steps proper.length).next
    else none
  match fault? with
  | some extent => faulty .nameCharacter extent
  | none =>
    let stop := cursor.steps text.length
    if stop.rest.isEmpty then faulty .nameUnclosed stop.here
    else if text.isEmpty then faulty .nameEmpty cursor.here
    else
      let name := String.ofList text
      let extent := stop.since cursor.place
      match names.find? fun (known, _) => known == name with
      | some (_, clash) => .error { fault := .nameRepeated, extent, clash := some clash }
      | none => .ok ((name, extent), stop.step)

/-! ### Groups -/

/-- What comes between an opening mark and what a group asks about its
surroundings. -/
def lookAroundMarks : List String := ["?=", "?!", "?<=", "?<!"]

/-- The pattern with a group open, from behind what opens it. -/
def Progress.enter (opening : Extent) (items : List FlagItem) (inside : Cursor) (progress : Progress) :
    Progress :=
  let isSpaced := ((Flag.spaced).setBy? items).getD inside.isSpaced
  { progress with
    cursor := { inside with isSpaced }
    level := .begin inside.place
    groups :=
      { opening, items, outside := progress.level, isSpacedOutside := inside.isSpaced } ::
        progress.groups }

/-- Flags behind the opening mark and question mark of a group: those of the group,
or of everything that follows. -/
def Progress.flagGroup (opening : Extent) (question : Cursor) (progress : Progress) :
    Except PatternError Progress := do
  let first := question.step
  if first.rest.isEmpty then faulty .groupUnclosed opening
  else
    let (items, stop) ← flagsFrom (first.rest.length + 1) [] first
    let after := stop.step
    if stop.rest.head? == some ':' then return progress.enter opening items after
    else if items.isEmpty then faulty .nothingRepeated question.here
    else
      let isSpaced := ((Flag.spaced).setBy? items).getD after.isSpaced
      return { progress with
        cursor := { after with isSpaced }
        level := progress.level.add (.flags (after.since opening.start) items) }

/-- A group, from its opening mark on. -/
def Progress.openGroup (progress : Progress) : Except PatternError Progress :=
  let opening := progress.cursor.next
  let inside := progress.cursor.advance
  match lookAroundMarks.findSome? inside.pass? with
  | some after => faulty .lookAround (after.since opening.start)
  | none =>
    match (inside.pass? "?P<").or (inside.pass? "?<") with
    | some name =>
      match groupName progress.names name with
      | .error error => .error error
      | .ok (known, after) =>
        .ok ({ progress with names := known :: progress.names }.enter opening [] after)
    | none =>
      if inside.rest.head? == some '?' then progress.flagGroup opening inside
      else .ok (progress.enter opening [] inside)

/-- The end of a group, from its closing mark on. -/
def Progress.closeGroup (progress : Progress) : Except PatternError Progress :=
  match progress.groups with
  | [] => faulty .groupUnopened progress.cursor.next
  | opened :: groups =>
    let body := progress.level.close progress.cursor.place
    let after := { progress.cursor.step with isSpaced := opened.isSpacedOutside }
    .ok { progress with
      cursor := after
      level := opened.outside.add (.group (after.since opened.opening.start) opened.items body)
      groups }

/-! ### Repetitions -/

/-- The part that can be repeated, and the level without it. -/
def Level.repeated? (level : Level) : Option (Pattern × Level) :=
  match level.parts with
  | [] | .empty _ :: _ | .flags .. :: _ => none
  | part :: parts => some (part, { level with parts })

/-- A mark for repetition. A question mark behind it belongs to it. -/
def Progress.repetitionMark (progress : Progress) : Except PatternError Progress :=
  match progress.level.repeated? with
  | none => faulty .nothingRepeated progress.cursor.here
  | some (body, level) =>
    let mark := progress.cursor.step
    let after := if mark.rest.head? == some '?' then mark.step else mark
    .ok { progress with
      cursor := after
      level := level.add (.repetition (after.since body.extent.start) body) }

/-- The largest count. -/
def maxCount : Nat := UInt32.size - 1

/-- The cursor behind white space, whether or not the pattern is spaced. -/
def skipBlanks (cursor : Cursor) : Cursor :=
  cursor.steps (cursor.rest.takeWhile Text.isBlank).length

/-- What is wrong with a count in braces, of which the opening one comes next. -/
def Progress.countFault {α : Type} (progress : Progress) : Except PatternError α :=
  let brace := progress.cursor
  let inside := brace.advance
  if progress.level.repeated?.isNone then faulty .nothingRepeated brace.here
  else if inside.rest.isEmpty then faulty .countUnclosed (inside.since brace.place)
  else
    let start := skipBlanks inside
    let (digits, stop) := start.collectAll Char.isDigit
    let (_, after) := stop.collectAll Text.isBlank
    if after.rest.isEmpty then faulty .countUnclosed (after.since brace.place)
    else
      match Text.readDigits 10 digits with
      | none => faulty .countMissing (stop.since start.place)
      | some count =>
        if maxCount < count then faulty .countTooLarge (stop.since start.place)
        else faulty .countUnclosed (after.since brace.place)

/-! ### The whole pattern -/

/-- Adds a piece that was read. -/
def Progress.addPiece (progress : Progress) : Piece × Cursor → Progress
  | (part, cursor) => { progress with cursor, level := progress.level.add (.piece part) }

/-- Reads what comes next, given its first character. -/
def Progress.readNext (c : Char) (progress : Progress) : Except PatternError Progress :=
  let cursor := progress.cursor
  match c with
  | '(' => progress.openGroup
  | ')' => progress.closeGroup
  | '|' =>
    let after := cursor.step
    .ok { progress with
      cursor := after
      level := progress.level.alternate cursor.place after.place }
  | '[' =>
    (readClass cursor).map fun (part, cursor) =>
      { progress with cursor, level := progress.level.add part }
  | '?' | '*' | '+' => progress.repetitionMark
  | '\x7b' => progress.countFault
  | '\\' => (escape cursor).map progress.addPiece
  | '.' => .ok (progress.addPiece (⟨.any, cursor.next⟩, cursor.step))
  | '^' | '$' => .ok (progress.addPiece (⟨.edge, cursor.next⟩, cursor.step))
  | c => .ok (progress.addPiece (verbatim c cursor, cursor.step))

/-- Reads a pattern to its end, through at most `limit` parts. -/
def readFrom : Nat → Progress → Except PatternError Pattern
  | 0, progress => .ok (progress.level.close progress.cursor.place)
  | limit + 1, progress =>
    let progress := { progress with cursor := progress.cursor.skipSpace }
    match progress.cursor.rest with
    | [] =>
      match progress.groups with
      | opened :: _ => faulty .groupUnclosed opened.opening
      | [] => .ok (progress.level.close progress.cursor.place)
    | c :: _ =>
      match progress.readNext c with
      | .error error => .error error
      | .ok progress => readFrom limit progress

/-- The pattern that a text describes. -/
def parse (text : String) : Except PatternError Pattern :=
  let rest := text.toList
  readFrom (rest.length + 1) { cursor := { rest } }

end InputBridge.Pattern
