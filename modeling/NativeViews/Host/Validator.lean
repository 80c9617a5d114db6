import NativeViews.Host.Building
import NativeViews.Schema.Basic
import NativeViews.Script.Syntax

/-!
Validators: what the host does with the value of a prop before it uses it.
-/

namespace NativeViews

open Script (Expr)

/-- Functions of the host that turn a value into the form it works with. -/
inductive Processor where
  | color
  | colorArray
  | imageSource
  deriving DecidableEq, Repr

/-- Functions of the host that tell whether a value has changed. -/
inductive Differ where
  | point
  | edgeInsets
  deriving DecidableEq, Repr

/-- What happens to the value of a prop. -/
inductive Validator where
  /-- It is taken as it is. -/
  | passThrough
  | process (processor : Processor)
  | diff (differ : Differ)
  deriving DecidableEq, Repr

def Processor.needed : Processor → Import
  | color => .processColor
  | colorArray => .processColorArray
  | imageSource => .resolveAssetSource

def Differ.needed : Differ → Import
  | point => .pointsDiffer
  | edgeInsets => .insetsDiffer

namespace Validator

def needed? : Validator → Option Import
  | passThrough => none
  | process processor => some processor.needed
  | diff differ => some differ.needed

/-- The value that describes a validator to the host. -/
def toExpr : Validator → Expr
  | passThrough => .bool true
  | process processor => .object [.property "process" (.name processor.needed.binding)]
  | diff differ => .object [.property "diff" (.name differ.needed.binding)]

def ofPrimitive : Primitive → Validator
  | .color => process .color
  | .imageSource => process .imageSource
  | .point => diff .point
  | .edgeInsets => diff .edgeInsets

/-- The validator of an array of primitives. There is none for edge insets. -/
def ofPrimitives : Primitive → Except Failure Validator
  | .color => .ok (process .colorArray)
  | .imageSource | .point => .ok passThrough
  | .edgeInsets =>
    .error (.unknownType
      (PropType.arrayTag ++ "<" ++ Primitive.edgeInsets.name ++ ">"))

def ofType : PropType → Except Failure Validator
  | .scalar _ => .ok passThrough
  | .reserved primitive => .ok (ofPrimitive primitive)
  | .array (.reserved primitive) => ofPrimitives primitive
  | .array _ => .ok passThrough

/-- The validator of a type, noting the import it refers to. -/
def build (type : PropType) : Building Validator :=
  match ofType type with
  | .error failure => .fail failure
  | .ok validator => ⟨validator.needed?.toList, .ok validator⟩

end Validator

end NativeViews
