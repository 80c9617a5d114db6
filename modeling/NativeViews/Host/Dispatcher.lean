import NativeViews.Host.Building
import NativeViews.Schema.Basic
import NativeViews.Script.Syntax

/-!
Dispatchers: functions that send the commands of a component to one of its views.
-/

namespace NativeViews

open Script (Expr Member Stmt)

/-- The name under which a module exports its dispatchers. -/
def dispatchersName : String := "Commands"

/-- The first parameter of every dispatcher, which is the view. -/
def targetParam : String := "ref"

/-- The dispatcher of a command: it passes on the view, the name of the command and the list of
its arguments. -/
def Command.dispatcher (command : Command) : Member :=
  .method command.name (targetParam :: command.params) [
    .eval (.call Import.dispatchCommand.binding [
      .name targetParam,
      .text command.name,
      .array (command.params.map Expr.name)])]

/-- The export of the dispatchers; none without commands. -/
def exportDispatchers (commands : List Command) : Building (Option Stmt) := do
  if commands.isEmpty then
    pure none
  else
    Building.need .dispatchCommand
    pure (some (.exportConst dispatchersName (.object (commands.map Command.dispatcher))))

end NativeViews
