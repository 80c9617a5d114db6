import NativeViews.Json.Printer
import NativeViews.Schema.Wire

/-!
Writing schemas as JSON. Lists are always written, names that are not set are left out.
-/

namespace NativeViews

/-- The members for a name that may be absent. -/
def optionalMember (key : String) (value : Option String) : List (String × Json) :=
  value.toList.map fun text => (key, .text text)

namespace Wire

def PropType.toJson : PropType → Json
  | .leaf kind name => .record (("type", .text kind) :: optionalMember "name" name)
  | .node kind name element =>
    .record (("type", .text kind) :: optionalMember "name" name
      ++ [("elementType", element.toJson)])

def Base.toJson (base : Base) : Json :=
  .record [("type", .text base.kind), ("knownTypeName", .text base.known)]

end Wire

def PropType.toJson (type : PropType) : Json :=
  (Wire.PropType.ofTyped type).toJson

def Base.toJson (base : Base) : Json :=
  (Wire.Base.ofTyped base).toJson

def Property.toJson (prop : Property) : Json :=
  .record [("name", .text prop.name), ("typeAnnotation", prop.type.toJson)]

def Event.toJson (event : Event) : Json :=
  .record ([("name", .text event.name), ("bubblingType", .text event.travel.name)]
    ++ optionalMember "paperTopLevelNameDeprecated" event.legacyName)

def Command.toJson (command : Command) : Json :=
  .record [
    ("name", .text command.name),
    ("typeAnnotation", .record [
      ("params", .array (command.params.map fun param => .record [("name", .text param)]))])]

def Component.toJson (component : Component) : Json :=
  .record ([
    ("props", .array (component.props.map Property.toJson)),
    ("events", .array (component.events.map Event.toJson)),
    ("commands", .array (component.commands.map Command.toJson)),
    ("extendsProps", .array (component.bases.map Base.toJson))]
    ++ optionalMember "paperComponentName" component.paperName
    ++ optionalMember "paperComponentNameDeprecated" component.legacyName)

def OrderedMap.toJson {α : Type} (write : α → Json) (map : OrderedMap α) : Json :=
  .record (map.entries.map fun (key, value) => (key, write value))

def Module.toJson : Module → Json
  | .components parts =>
    .record [("type", .text "Component"), ("components", parts.toJson Component.toJson)]
  | .other => .record [("type", .text "Other")]

def Schema.toJson (schema : Schema) : Json :=
  .record [("modules", schema.modules.toJson Module.toJson)]

end NativeViews
