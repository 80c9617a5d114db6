/-!
What generated modules import from the host, and sets of such imports.
-/

namespace NativeViews

/-- A capability of the host that a generated module binds when it is loaded. -/
inductive Import where
  | componentRegistry
  | viewManager
  | dispatchCommand
  | ignoredEventHandlers
  | processColor
  | processColorArray
  | resolveAssetSource
  | pointsDiffer
  | insetsDiffer
  deriving DecidableEq, Repr

namespace Import

def all : List Import :=
  [componentRegistry, viewManager, dispatchCommand, ignoredEventHandlers, processColor,
    processColorArray, resolveAssetSource, pointsDiffer, insetsDiffer]

theorem mem_all (needed : Import) : needed ∈ all := by
  cases needed <;> decide

def binding : Import → String
  | componentRegistry => "NativeComponentRegistry"
  | viewManager => "UIManager"
  | dispatchCommand => "dispatchCommand"
  | ignoredEventHandlers => "ConditionallyIgnoredEventHandlers"
  | processColor => "processColor"
  | processColorArray => "processColorArray"
  | resolveAssetSource => "resolveAssetSource"
  | pointsDiffer => "pointsDiffer"
  | insetsDiffer => "insetsDiffer"

def path : Import → String
  | componentRegistry => "react-native/Libraries/NativeComponent/NativeComponentRegistry"
  | viewManager => "react-native"
  | dispatchCommand => "react-native/Libraries/ReactNative/RendererProxy"
  | ignoredEventHandlers => "react-native/Libraries/NativeComponent/ViewConfigIgnore"
  | processColor => "react-native/Libraries/StyleSheet/processColor"
  | processColorArray => "react-native/Libraries/StyleSheet/processColorArray"
  | resolveAssetSource => "react-native/Libraries/Image/resolveAssetSource"
  | pointsDiffer => "react-native/Libraries/Utilities/differ/pointsDiffer"
  | insetsDiffer => "react-native/Libraries/Utilities/differ/insetsDiffer"

/-- Whether an import is one export among others of its place. -/
def isNamed : Import → Bool
  | viewManager | dispatchCommand | ignoredEventHandlers => true
  | _ => false

def statement (needed : Import) : String :=
  let pattern := if needed.isNamed then "\x7b" ++ needed.binding ++ "\x7d" else needed.binding
  "const " ++ pattern ++ " = require('" ++ needed.path ++ "');"

end Import

/-- A set of imports, listed in the order of `Import.all`. -/
structure Imports where
  held : List Import
  canonical : Import.all.filter (held.contains ·) = held
  deriving DecidableEq

namespace Imports

theorem canonical_filter (p : Import → Bool) :
    Import.all.filter ((Import.all.filter p).contains ·) = Import.all.filter p := by
  apply List.filter_congr
  intro needed _
  rw [Bool.eq_iff_iff]
  simp [Import.mem_all]

def ofPred (p : Import → Bool) : Imports :=
  ⟨Import.all.filter p, canonical_filter p⟩

def ofList (needed : List Import) : Imports :=
  ofPred (needed.contains ·)

def empty : Imports := ofList []

instance : Inhabited Imports := ⟨empty⟩

def contains (imports : Imports) (needed : Import) : Bool :=
  imports.held.contains needed

def add (imports : Imports) (needed : Import) : Imports :=
  ofPred fun other => other = needed || imports.contains other

def addAll (imports : Imports) (needed : List Import) : Imports :=
  needed.foldl add imports

def size (imports : Imports) : Nat := imports.held.length

def isEmpty (imports : Imports) : Bool := imports.held.isEmpty

/-- The statements of the imports, in the order of their texts. -/
def statements (imports : Imports) : List String :=
  (imports.held.map Import.statement).mergeSort fun left right => decide (left ≤ right)

@[simp] theorem contains_ofPred (p : Import → Bool) (needed : Import) :
    (ofPred p).contains needed = p needed := by
  rw [Bool.eq_iff_iff]
  simp [contains, ofPred, Import.mem_all]

@[simp] theorem contains_add (imports : Imports) (needed other : Import) :
    (imports.add needed).contains other = (other = needed || imports.contains other) := by
  simp [add]

end Imports

end NativeViews
