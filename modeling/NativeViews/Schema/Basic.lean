import NativeViews.OrderedMap

/-!
Component schemas: what the components of a library look like from outside. Every tag of a
schema that a generator has to tell apart is a constructor here.
-/

namespace NativeViews

/-- The reserved kinds of prop values that the host processes or compares in its own way. -/
inductive Primitive where
  | color
  | imageSource
  | point
  | edgeInsets
  deriving DecidableEq, Repr

def Primitive.name : Primitive → String
  | color => "ColorPrimitive"
  | imageSource => "ImageSourcePrimitive"
  | point => "PointPrimitive"
  | edgeInsets => "EdgeInsetsPrimitive"

def Primitive.all : List Primitive := [color, imageSource, point, edgeInsets]

def Primitive.ofName? (name : String) : Option Primitive :=
  all.find? (·.name == name)

/-- The kinds of prop values that the host takes as they come. -/
inductive ScalarKind where
  | boolean
  | string
  | int32
  | double
  | float
  | object
  | stringEnum
  | int32Enum
  deriving DecidableEq, Repr

def ScalarKind.tag : ScalarKind → String
  | boolean => "BooleanTypeAnnotation"
  | string => "StringTypeAnnotation"
  | int32 => "Int32TypeAnnotation"
  | double => "DoubleTypeAnnotation"
  | float => "FloatTypeAnnotation"
  | object => "ObjectTypeAnnotation"
  | stringEnum => "StringEnumTypeAnnotation"
  | int32Enum => "Int32EnumTypeAnnotation"

def ScalarKind.all : List ScalarKind :=
  [boolean, string, int32, double, float, object, stringEnum, int32Enum]

def ScalarKind.ofTag? (tag : String) : Option ScalarKind :=
  all.find? (·.tag == tag)

inductive PropType where
  | scalar (kind : ScalarKind)
  | reserved (primitive : Primitive)
  | array (element : PropType)
  deriving DecidableEq, Repr

def PropType.reservedTag : String := "ReservedPropTypeAnnotation"

def PropType.arrayTag : String := "ArrayTypeAnnotation"

def PropType.tag : PropType → String
  | scalar kind => kind.tag
  | reserved _ => reservedTag
  | array _ => arrayTag

structure Property where
  name : String
  type : PropType
  deriving DecidableEq, Repr

/-- How an event travels. -/
inductive Travel where
  /-- From the view up through its ancestors, which may also capture it on the way down. -/
  | bubble
  /-- To the view alone. -/
  | direct
  deriving DecidableEq, Repr

def Travel.name : Travel → String
  | bubble => "bubble"
  | direct => "direct"

def Travel.ofName? (name : String) : Option Travel :=
  [bubble, direct].find? (·.name == name)

structure Event where
  name : String
  travel : Travel
  /-- A top-level name of older hosts, as the schema gives it. -/
  legacyName : Option String := none
  deriving DecidableEq, Repr

/-- A name that is set: an empty one counts as absent. -/
def setName? (name : Option String) : Option String :=
  name.filter (· ≠ "")

/-- The top-level name of older hosts, if it is set and not empty. -/
def Event.legacyName? (event : Event) : Option String :=
  setName? event.legacyName

/-- A command that a component takes, with the names of its parameters. -/
structure Command where
  name : String
  params : List String := []
  deriving DecidableEq, Repr

/-- A built-in set of props that a component may extend. -/
inductive Base where
  | coreViewProps
  deriving DecidableEq, Repr

def Base.kind : Base → String
  | coreViewProps => "ReactNativeBuiltInType"

def Base.name : Base → String
  | coreViewProps => "ReactNativeCoreViewProps"

structure Component where
  props : List Property := []
  events : List Event := []
  commands : List Command := []
  bases : List Base := []
  /-- The name under which older hosts register the component. -/
  paperName : Option String := none
  /-- A yet older name, as the schema gives it. -/
  legacyName : Option String := none
  deriving DecidableEq, Repr

/-- The name under which the host registers a component that the schema calls `name`. -/
def Component.nativeName (component : Component) (name : String) : String :=
  component.paperName.getD name

/-- The older name to fall back on, if it is set and not empty. -/
def Component.legacyName? (component : Component) : Option String :=
  setName? component.legacyName

/-- A module of a library: components, or something that has no views. -/
inductive Module where
  | components (parts : OrderedMap Component)
  | other
  deriving DecidableEq

def Module.components? : Module → Option (OrderedMap Component)
  | .components parts => some parts
  | .other => none

structure Schema where
  modules : OrderedMap Module
  deriving DecidableEq

/-- A component with its name and the name of its module. -/
structure Schema.Entry where
  module : String
  name : String
  component : Component
  deriving DecidableEq

/-- The components of a schema in the order of the document. -/
def Schema.components (schema : Schema) : List Schema.Entry :=
  schema.modules.entries.flatMap fun (moduleName, module) =>
    match module.components? with
    | none => []
    | some parts => parts.entries.map fun (name, component) =>
      ⟨moduleName, name, component⟩

theorem Schema.mem_components {schema : Schema} {entry : Schema.Entry} :
    entry ∈ schema.components ↔ ∃ module ∈ schema.modules.entries, ∃ parts,
      module.2 = .components parts ∧ ∃ part ∈ parts.entries,
        entry = ⟨module.1, part.1, part.2⟩ := by
  rw [components, List.mem_flatMap]
  refine exists_congr fun module => and_congr_right fun _ => ?_
  obtain ⟨name, module⟩ := module
  cases module with
  | components parts => simp [Module.components?, eq_comm]
  | other => simp [Module.components?]

end NativeViews
