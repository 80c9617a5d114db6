import NativeViews.Host.Registration
import NativeViews.Host.Validator

/-!
Descriptors: what the host needs to know to validate the props of a component, to compare them
and to dispatch its events.
-/

namespace NativeViews

open Script (Expr Member)

structure Descriptor where
  className : String
  bubbling : List Registration
  direct : List Registration
  attributes : List (String × Validator)
  /-- The entry for the listeners of events, where there are events. -/
  eventAttributes : Option Member

namespace Descriptor

/-- The entry for events of one kind; none without such events. -/
def eventTypes (name : String) (registrations : List Registration) : List Member :=
  if registrations.isEmpty then []
  else [.property name (.object (registrations.map Registration.toMember))]

/-- The object that describes the component: class, bubbling and direct events, attributes. -/
def toExpr (descriptor : Descriptor) : Expr :=
  let attributes :=
    descriptor.attributes.map (fun (name, validator) => Member.property name validator.toExpr)
      ++ descriptor.eventAttributes.toList
  .object (
    [.property "uiViewClassName" (.text descriptor.className)]
      ++ eventTypes "bubblingEventTypes" descriptor.bubbling
      ++ eventTypes "directEventTypes" descriptor.direct
      ++ [.property "validAttributes" (.object attributes)])

/-- Notes the imports of the bases that a component extends. -/
def extendBases (bases : List Base) : Building Unit :=
  bases.forM fun
    | .coreViewProps => Building.need .componentRegistry

/-- The descriptor of a component under a class name. -/
def build (className : String) (component : Component) : Building Descriptor := do
  extendBases component.bases
  let attributes ← component.props.mapM fun prop => do
    let validator ← Validator.build prop.type
    pure (prop.name, validator)
  let (bubbling, direct) :=
    (component.events.map Registration.ofEvent).partition Registration.isBubbling
  let listeners ← NativeViews.eventAttributes component.events
  pure ⟨className, bubbling, direct, attributes, listeners⟩

end Descriptor

end NativeViews
