import NativeViews.Failure
import NativeViews.Schema.Basic

/-!
Schemas as documents spell them, before their tags are understood, and the conversion to the
schemas proper. Main rule: a document is converted only once it has been read as a whole, in the
order of the document, and the first tag without a meaning is the failure.
-/

namespace NativeViews.Wire

/-- A type with any tag, and perhaps an element type. -/
inductive PropType where
  | leaf (kind : String) (name : Option String)
  | node (kind : String) (name : Option String) (element : PropType)
  deriving DecidableEq, Repr

namespace PropType

def kind : PropType → String
  | leaf kind _ => kind
  | node kind _ _ => kind

def name : PropType → Option String
  | leaf _ name => name
  | node _ name _ => name

/-- The type with the parts that a document gives. -/
def ofParts (kind : String) (name : Option String) : Option PropType → PropType
  | none => leaf kind name
  | some element => node kind name element

/-- The meaning of a type that is no array. -/
def convertFlat (kind : String) (name : Option String) :
    Except Failure NativeViews.PropType :=
  match ScalarKind.ofTag? kind with
  | some scalar => .ok (.scalar scalar)
  | none =>
    if kind = NativeViews.PropType.reservedTag then
      match name with
      | none => .error (.missingField "ReservedPropTypeAnnotation.name")
      | some name =>
        match Primitive.ofName? name with
        | some primitive => .ok (.reserved primitive)
        | none => .error (.unknownType name)
    else if kind = NativeViews.PropType.arrayTag then
      .error (.missingField "ArrayTypeAnnotation.elementType")
    else
      .error (.unknownType kind)

/-- The meaning of a type. Only arrays look at their element type. -/
def convert : PropType → Except Failure NativeViews.PropType
  | leaf kind name => convertFlat kind name
  | node kind name element =>
    if kind = NativeViews.PropType.arrayTag then
      element.convert.map .array
    else
      convertFlat kind name

/-- How a document spells a type. -/
def ofTyped : NativeViews.PropType → PropType
  | .scalar kind => leaf kind.tag none
  | .reserved primitive => leaf NativeViews.PropType.reservedTag (some primitive.name)
  | .array element => node NativeViews.PropType.arrayTag none (ofTyped element)

end PropType

/-- A base with any tag. -/
structure Base where
  kind : String
  known : String := ""
  deriving DecidableEq, Repr

def Base.convert (base : Base) : Except Failure NativeViews.Base :=
  if base.kind = NativeViews.Base.coreViewProps.kind ∧
      base.known = NativeViews.Base.coreViewProps.name then
    .ok .coreViewProps
  else
    .error (.invalidInheritance base.kind base.known)

def Base.ofTyped (base : NativeViews.Base) : Base :=
  ⟨base.kind, base.name⟩

/-- A prop with any type. -/
structure Property where
  name : String
  type : PropType
  deriving DecidableEq, Repr

def Property.convert (prop : Property) : Except Failure NativeViews.Property :=
  prop.type.convert.map fun type => ⟨prop.name, type⟩

/-- A component whose prop types and bases may have any tags. -/
structure Component where
  props : List Property := []
  events : List Event := []
  commands : List Command := []
  bases : List Base := []
  paperName : Option String := none
  legacyName : Option String := none
  deriving DecidableEq, Repr

/-- The meaning of a component: all props come before all bases. -/
def Component.convert (component : Component) : Except Failure NativeViews.Component := do
  let props ← component.props.mapM Property.convert
  let bases ← component.bases.mapM Base.convert
  pure {
    props
    events := component.events
    commands := component.commands
    bases
    paperName := component.paperName
    legacyName := component.legacyName }

/-- A module as a document spells it. -/
inductive Module where
  | components (parts : OrderedMap Component)
  | other
  deriving DecidableEq

def Module.convert : Module → Except Failure NativeViews.Module
  | .components parts => NativeViews.Module.components <$> parts.mapM Component.convert
  | .other => pure .other

/-- A schema as a document spells it. -/
structure Schema where
  modules : OrderedMap Module
  deriving DecidableEq

def Schema.convert (schema : Schema) : Except Failure NativeViews.Schema :=
  NativeViews.Schema.mk <$> schema.modules.mapM Module.convert

/-- A module as a document lists it, with a component wherever its name stands. -/
inductive ListedModule where
  | components (parts : List (String × Component))
  | other

/-- A schema as a document lists it, with a module wherever its name stands. -/
abbrev Listing := List (String × ListedModule)

/-- The module in which every name stands once. -/
def ListedModule.toModule : ListedModule → Module
  | components parts => .components (.ofList parts)
  | other => .other

/-- The schema in which every name stands once. -/
def Listing.toSchema (listing : Listing) : Schema :=
  ⟨.ofList (listing.map fun entry => (entry.1, entry.2.toModule))⟩

end NativeViews.Wire
