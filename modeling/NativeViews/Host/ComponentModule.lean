import NativeViews.Host.Descriptor
import NativeViews.Host.Dispatcher

/-!
The module of one component: it settles the name of the component, describes it, registers it
and exports its dispatchers.
-/

namespace NativeViews

open Script (Expr Stmt Program)

/-- The binding that holds the name under which the component is registered. -/
def nativeNameBinding : String := "nativeComponentName"

/-- The export that holds the descriptor. -/
def descriptorBinding : String := "__INTERNAL_VIEW_CONFIG"

def knowsName (name : String) : Expr :=
  .call (Import.viewManager.binding ++ ".hasViewManagerConfig") [.text name]

def adoptName (name : String) : Stmt :=
  .assign nativeNameBinding (.text name)

/-- Takes the name of the component if the host knows it, else the older name if the host knows
that, and else fails with both. -/
def chooseName (name legacy : String) : Stmt :=
  .choose (knowsName name) [adoptName name] (some [
    .choose (knowsName legacy) [adoptName legacy] (some [
      .throw (.construct "Error" [.text (
        "Failed to find native component for either \"" ++ name ++ "\" or \"" ++ legacy
          ++ "\"")])])])

/-- The choice of a name, where a component has an older one. -/
def nameGuard (name : String) (component : Component) : Building (List Stmt) := do
  match component.legacyName? with
  | none => pure []
  | some legacy =>
    Building.need .viewManager
    pure [chooseName name legacy]

/-- The statements of the module of a component. -/
def Component.toModule (name : String) (component : Component) : Building Program := do
  let nativeName := component.nativeName name
  let choice ← nameGuard name component
  let descriptor ← Descriptor.build nativeName component
  Building.need .componentRegistry
  let dispatchers ← exportDispatchers component.commands
  pure (
    [.declare nativeNameBinding (.text nativeName)]
      ++ choice
      ++ [.exportConst descriptorBinding descriptor.toExpr,
        .exportDefault (.call (Import.componentRegistry.binding ++ ".get") [
          .name nativeNameBinding,
          .arrow [] (.name descriptorBinding)])]
      ++ dispatchers.toList)

end NativeViews
