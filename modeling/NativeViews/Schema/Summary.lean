import NativeViews.Json.Printer
import NativeViews.Schema.Writer

/-!
Summaries: the modules and components of a schema with their names and counts.
-/

namespace NativeViews

/-- What a summary tells of a component. -/
structure ComponentSummary where
  name : String
  nativeName : String
  legacyName : Option String
  props : Nat
  bubblingEvents : Nat
  directEvents : Nat
  commands : Nat
  deriving DecidableEq, Repr

/-- What a summary tells of a module; nothing of the components if it is of another kind. -/
structure ModuleSummary where
  name : String
  components : Option (List ComponentSummary)
  deriving DecidableEq, Repr

def Component.summary (name : String) (component : Component) : ComponentSummary where
  name
  nativeName := component.nativeName name
  legacyName := component.legacyName?
  props := component.props.length
  bubblingEvents := component.events.countP (·.travel = .bubble)
  directEvents := component.events.length - component.events.countP (·.travel = .bubble)
  commands := component.commands.length

def Schema.summary (schema : Schema) : List ModuleSummary :=
  schema.modules.entries.map fun (name, module) =>
    ⟨name, module.components?.map fun parts =>
      parts.entries.map fun (name, component) => component.summary name⟩

namespace ComponentSummary

/-- The lines of a component. -/
def render (summary : ComponentSummary) : String :=
  "  " ++ summary.name
    ++ (if summary.nativeName = summary.name then "" else " -> " ++ summary.nativeName)
    ++ summary.legacyName.elim "" (fun legacy => " (deprecated: " ++ legacy ++ ")")
    ++ "\n    props: " ++ toString summary.props
    ++ ", events: " ++ toString summary.bubblingEvents ++ " bubbling / "
    ++ toString summary.directEvents ++ " direct, commands: " ++ toString summary.commands ++ "\n"

def toJson (summary : ComponentSummary) : Json :=
  .record (
    [("name", .text summary.name), ("native_name", .text summary.nativeName)]
      ++ optionalMember "deprecated_name" summary.legacyName
      ++ [("props", .int summary.props),
        ("bubbling_events", .int summary.bubblingEvents),
        ("direct_events", .int summary.directEvents),
        ("commands", .int summary.commands)])

end ComponentSummary

namespace ModuleSummary

/-- The lines of a module, with a blank line before. -/
def render (summary : ModuleSummary) : String :=
  "\n" ++ summary.name ++
    match summary.components with
    | none => " (skipped: not a component module)\n"
    | some components =>
      " (" ++ toString components.length ++ " components)\n"
        ++ String.join (components.map ComponentSummary.render)

def toJson (summary : ModuleSummary) : Json :=
  .record [
    ("name", .text summary.name),
    ("components", summary.components.elim .null fun components =>
      .array (components.map ComponentSummary.toJson))]

end ModuleSummary

/-- A summary for reading. -/
def renderSummary (modules : List ModuleSummary) : String :=
  "=== Schema ===\n" ++ String.join (modules.map ModuleSummary.render)

/-- A summary as a document. -/
def renderSummaryJson (modules : List ModuleSummary) : String :=
  Json.renderPretty (.record [("modules", .array (modules.map ModuleSummary.toJson))])

end NativeViews
