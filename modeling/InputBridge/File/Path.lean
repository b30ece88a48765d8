import InputBridge.Text.Blank
/-!
# Paths

A path is a text; what it names is the sequence of its components. Repeated and
trailing separators carry no meaning, nor does a single dot, except in front,
where it is what makes a path differ from the bare name. Two dots always count.
Two paths are the same if their components are.
-/
namespace InputBridge.Path

/-- A component of a path. -/
inductive Component where
  /-- The separator in front of an absolute path. -/
  | root
  /-- A dot in front of a relative path. -/
  | here
  /-- Two dots. -/
  | up
  /-- Anything else. -/
  | name (text : String)
deriving DecidableEq, Repr

/-- The texts between the separators of a path, empty ones included. -/
def pieces (path : String) : List String :=
  (Text.pieces '/' path.toList).map String.ofList

/-- The component that a piece stands for behind the front, if it counts
there. -/
def component? (piece : String) : Option Component :=
  if piece = "" || piece = "." then none
  else if piece = ".." then some .up
  else some (.name piece)

/-- A path that starts at the root. -/
def isAbsolute (path : String) : Bool :=
  path.toList.head? == some '/'

/-- The components of a path. -/
def components (path : String) : List Component :=
  let front :=
    if isAbsolute path then [.root]
    else if (pieces path).head? = some "." then [.here]
    else []
  front ++ (pieces path).filterMap component?

/-- Two texts name the same path. -/
def same (first second : String) : Bool :=
  components first == components second

/-- The path `relative` as seen from `base`. An absolute path is not affected by
the base, and no second separator follows a base that ends in one. -/
def join (base relative : String) : String :=
  if isAbsolute relative || base.isEmpty then relative
  else if base.toList.getLast? == some '/' then base ++ relative
  else base ++ "/" ++ relative

end InputBridge.Path
