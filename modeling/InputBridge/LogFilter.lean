import InputBridge.LogFilter.Directive
/-!
# Log filters

A log filter says which notices are shown. It is a list of directives with commas
between them, empty ones aside. Of the directives that speak of a notice the one
counts that describes it most closely: by the longest name, then by a field. Of
several that describe it equally closely the last counts. A notice of which no
directive speaks is not shown. A filter without any directive shows errors.
-/
namespace InputBridge

/-- The directives of a log filter, in order. -/
structure LogFilter where
  directives : List Directive := []
deriving DecidableEq, Repr

namespace LogFilter

/-- The filter that a text describes. -/
def parse (text : String) : Except FilterError LogFilter :=
  (((Text.pieces ',' text.toList).filter fun piece => !piece.isEmpty).mapM Directive.parse).map
    fun directives => { directives }

/-- The later of two directives that speak of a notice, unless the earlier describes
it more closely. -/
def prefer (best : Option Directive) (next : Directive) : Option Directive :=
  match best with
  | none => some next
  | some best => some (if best.noCloserThan next then next else best)

/-- The threshold for the notices of a part of the program. -/
def threshold (filter : LogFilter) (target : String) : Threshold :=
  if filter.directives.isEmpty then .error
  else
    match (filter.directives.filter (Directive.speaksOf target)).foldl prefer none with
    | some directive => directive.threshold
    | none => .off

/-- The filter shows a notice. -/
def admits (filter : LogFilter) (notice : Notice) : Bool :=
  (filter.threshold notice.origin.target).admits notice.level

end LogFilter

end InputBridge
