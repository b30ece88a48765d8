import InputBridge.File.Path
import InputBridge.SystemError
import InputBridge.Text.Encoded
/-!
# A file system

The program reads a settings file and a keymap, and finds out where links lead.
A file tree is what it sees of the file system: the entries below the root, by
their place. Whatever lies on the way to an entry is a directory.

A path is followed piece by piece. Every step needs a directory to start from,
also one that stays where it is, so a separator behind a file's name is an error.
Links are followed where they occur, up to a fixed number, beyond which a path is
taken to lead in circles. Names have a greatest length, in bytes. So has a path by
which something is opened; only where a path leads can be told of any path, because
it is found name by name.
-/
namespace InputBridge

/-- Why a file could not be read or found. -/
inductive FileError where
  | notFound
  | notADirectory
  | isADirectory
  | tooManyLinks
  /-- The path, or a name in it, is longer than a file system takes. -/
  | nameTooLong
  /-- The path holds a character that no path may hold. -/
  | invalidName
  /-- The content is not text. -/
  | invalidData
  /-- Any other failure, in the words of the system. -/
  | other (reason : String)
deriving DecidableEq, Repr

namespace FileError

/-- The wording of a file error. -/
def message : FileError → String
  | .notFound => SystemError.noEntry.message
  | .notADirectory => SystemError.notADirectory.message
  | .isADirectory => SystemError.isADirectory.message
  | .tooManyLinks => SystemError.tooManyLinks.message
  | .nameTooLong => SystemError.nameTooLong.message
  | .invalidName => "file name contained an unexpected NUL byte"
  | .invalidData => "stream did not contain valid UTF-8"
  | .other reason => reason

end FileError

/-- Something in a file system. -/
inductive FileEntry where
  | file (content : Text.Bytes)
  | directory
  | link (target : String)
deriving DecidableEq, Repr

/-- Entries by the names that lead to them from the root. -/
structure FileTree where
  entries : List (List String × FileEntry) := []
  /-- Where relative paths start. -/
  workingDirectory : List String := []
deriving DecidableEq, Repr

namespace FileTree

/-- Links that are followed on the way to one entry. -/
def maxLinks : Nat := 40

/-- The bytes that a name may have. -/
def maxNameSize : Nat := 255

/-- The bytes of a path by which something can be opened. -/
def maxPathSize : Nat := 4095

/-- The absolute path to a place. -/
def pathTo (place : List String) : String :=
  "/" ++ "/".intercalate place

/-- The place that one piece of a path leads to. -/
def stepTo (place : List String) (piece : String) : List String :=
  if piece = "" || piece = "." then place
  else if piece = ".." then place.dropLast
  else place ++ [piece]

/-- The places that the pieces of a path pass, and the one they end at. -/
def wayFrom (place : List String) : List String → List (List String) × List String
  | [] => ([], place)
  | piece :: rest =>
    let (passed, last) := wayFrom (stepTo place piece) rest
    (place :: passed, last)

/-- The place that a path starts from. -/
def startOf (tree : FileTree) (path : String) : List String :=
  if Path.isAbsolute path then [] else tree.workingDirectory

/-- The tree with an entry where a path leads, and directories wherever it
passes. -/
def add (tree : FileTree) (path : String) (entry : FileEntry) : FileTree :=
  let (passed, last) := wayFrom (tree.startOf path) (Path.pieces path)
  { tree with
    entries := tree.entries ++ (last, entry) :: passed.map fun place => (place, .directory) }

/-- What is at a place. -/
def find? (tree : FileTree) (place : List String) : Option FileEntry :=
  if place = [] then some .directory
  else
    match tree.entries.find? fun (known, _) => known = place with
    | some (_, entry) => some entry
    | none =>
      if tree.entries.any fun (known, _) => place.isPrefixOf known then some .directory
      else none

/-- Follows the pieces of a path from a place, through at most `links` links. -/
def follow (tree : FileTree) (links : Nat) (place : List String) :
    List String → Except FileError (List String × FileEntry)
  | [] =>
    match tree.find? place with
    | none => .error .notFound
    | some entry => .ok (place, entry)
  | piece :: rest =>
    match tree.find? place with
    | none => .error .notFound
    | some (.file _) | some (.link _) => .error .notADirectory
    | some .directory =>
      if piece = "" || piece = "." then tree.follow links place rest
      else if piece = ".." then tree.follow links place.dropLast rest
      else if maxNameSize < piece.utf8ByteSize then .error .nameTooLong
      else
        match tree.find? (place ++ [piece]) with
        | none => .error .notFound
        | some (.link target) =>
          match links with
          | 0 => .error .tooManyLinks
          | links + 1 =>
            tree.follow links (if Path.isAbsolute target then [] else place)
              (Path.pieces target ++ rest)
        | some _ => tree.follow links (place ++ [piece]) rest
termination_by pieces => (links, pieces.length)

/-- What a path leads to, and at what place that is. -/
def resolve (tree : FileTree) (path : String) : Except FileError (List String × FileEntry) :=
  if path.toList.contains '\x00' then .error .invalidName
  else if path.isEmpty then .error .notFound
  else tree.follow maxLinks (tree.startOf path) (Path.pieces path)

/-- The absolute path without links that leads where a path leads. -/
def canonical (tree : FileTree) (path : String) : Except FileError String :=
  (tree.resolve path).map fun (place, _) => pathTo place

/-- What a path opens, and at what place that is. A path with a forbidden character
is refused before its length is looked at. -/
def openPath (tree : FileTree) (path : String) : Except FileError (List String × FileEntry) :=
  if maxPathSize < path.utf8ByteSize && !path.toList.contains '\x00' then .error .nameTooLong
  else tree.resolve path

/-- The text of a file. -/
def readText (tree : FileTree) (path : String) : Except FileError String :=
  match tree.openPath path with
  | .error error => .error error
  | .ok (_, .file content) =>
    match Text.decode content with
    | some text => .ok text
    | none => .error .invalidData
  | .ok (_, _) => .error .isADirectory

end FileTree

end InputBridge
