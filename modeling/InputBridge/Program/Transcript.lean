import InputBridge.Console
import InputBridge.LogFilter
import InputBridge.Text.Terminal
/-!
# What is seen on the console

Of what was put on the console, text is seen as it is, and notices are seen if the
log filter admits them, each on a line of its own behind a heading. A question does
not end its line, so a notice may follow it there.
-/
namespace InputBridge

namespace Console

/-- What is seen of one thing put on the console. -/
def show? (filter : LogFilter) (heading : Notice → String) : Output → Option String
  | .text text => some text
  | .notice notice =>
    if filter.admits notice then
      some (heading notice ++ Text.forTerminal notice.message ++ "\n")
    else none

/-- What is seen on the console. -/
def transcript (filter : LogFilter) (heading : Notice → String) (console : Console) : String :=
  String.join (console.output.filterMap (show? filter heading))

end Console

/-- The heading of a notice: its level and the part it comes from. -/
def Notice.heading (notice : Notice) : String :=
  let label := notice.level.label
  String.ofList (List.replicate (5 - label.length) ' ') ++ s!"{label} {notice.origin.target}: "

end InputBridge
