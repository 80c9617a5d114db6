import Mathlib.Data.List.Nodup
import NativeViews.Proofs.Host.Content
import NativeViews.Proofs.Script.Uses

/-!
What modules use: the bindings of the imports that their content needs, and two bindings of
their own.
-/

namespace NativeViews

open Script (Expr Member Stmt Program)

/-! ## Bindings -/

theorem Import.isIdentifier_binding (needed : Import) : Script.isIdentifier needed.binding := by
  cases needed <;> simp [binding, Script.isIdentifier]

/-- What is called on an import begins with the binding of the import. -/
theorem Import.firstSegment_method (needed : Import) (path : String) {suffix : String}
    (joined : suffix = "." ++ path) :
    Script.firstSegment (needed.binding ++ suffix) = needed.binding := by
  rw [joined]
  exact Script.firstSegment_append needed.isIdentifier_binding path

theorem Import.firstSegment_binding (needed : Import) :
    Script.firstSegment needed.binding = needed.binding :=
  Script.firstSegment_of_isIdentifier needed.isIdentifier_binding

theorem Import.binding_injective {first second : Import} (same : first.binding = second.binding) :
    first = second := by
  have distinct : (all.map binding).Nodup := by simp [all, binding]
  exact List.inj_on_of_nodup_map distinct (mem_all first) (mem_all second) same

/-- No import binds what a module binds. -/
theorem Import.binding_ne_own (needed : Import) :
    needed.binding ≠ nativeNameBinding ∧ needed.binding ≠ descriptorBinding := by
  cases needed <;> simp [binding, nativeNameBinding, descriptorBinding]

namespace Content

/-! ## Descriptors -/

theorem uses_toExpr (validator : Validator) :
    validator.toExpr.uses [] = validator.needed?.toList.map Import.binding := by
  cases validator <;> rfl

theorem uses_attributeMember (entry : String × Validator) :
    (attributeMember entry).uses [] = entry.2.needed?.toList.map Import.binding :=
  uses_toExpr entry.2

theorem uses_bubblingMember (entry : String × String) : (bubblingMember entry).uses [] = [] :=
  rfl

theorem uses_directMember (entry : String × String) : (directMember entry).uses [] = [] :=
  rfl

theorem uses_eventMembers (name : String) {entries : List Member}
    (none : ∀ entry ∈ entries, entry.uses [] = []) :
    (eventMembers name entries).flatMap (Member.uses []) = [] := by
  unfold eventMembers
  split
  · rfl
  · simpa using none

theorem uses_listenerMembers (events : List String) :
    (listenerMembers events).flatMap (Member.uses [])
      = if events.isEmpty then [] else [Import.ignoredEventHandlers.binding] := by
  unfold listenerMembers
  split
  · rfl
  · simp [Import.firstSegment_binding]

/-- A descriptor uses what its validators refer to, and the filter for listeners. -/
theorem uses_descriptor (content : Content) (name : String) :
    name ∈ content.descriptor.uses [] ↔
      name ∈ (content.attributes.flatMap (·.2.needed?.toList)).map Import.binding ∨
        name ∈ (if content.events.isEmpty then []
          else [Import.ignoredEventHandlers]).map Import.binding := by
  have bubbling := uses_eventMembers "bubblingEventTypes"
    (List.forall_mem_map.mpr fun entry (_ : entry ∈ content.bubbling) => uses_bubblingMember entry)
  have direct := uses_eventMembers "directEventTypes"
    (List.forall_mem_map.mpr fun entry (_ : entry ∈ content.direct) => uses_directMember entry)
  have attributes : (content.attributes.map attributeMember).flatMap (Member.uses [])
      = (content.attributes.flatMap (·.2.needed?.toList)).map Import.binding := by
    rw [List.flatMap_map, List.map_flatMap]
    exact List.flatMap_congr fun entry _ => uses_attributeMember entry
  simp only [descriptor, Expr.uses_object, List.flatMap_append, List.flatMap_singleton,
    Member.uses_property, Expr.uses_text, bubbling, direct, attributes, uses_listenerMembers,
    List.nil_append, List.mem_append]
  split <;> rfl

/-! ## Choices and dispatchers -/

theorem uses_choice (content : Content) (name : String) :
    name ∈ content.choice.flatMap (Stmt.uses []) ↔
      name ∈ (if content.legacyNames.isSome then [Import.viewManager] else []).map
        Import.binding := by
  have called : Script.firstSegment (Import.viewManager.binding ++ ".hasViewManagerConfig")
      = Import.viewManager.binding :=
    Import.viewManager.firstSegment_method "hasViewManagerConfig" (by simp)
  cases names : content.legacyNames with
  | none => simp [choice, names]
  | some pair => simp [choice, names, chooseName, knowsName, adoptName, called]

/-- A dispatcher uses the function that dispatches: all it passes on are its own parameters. -/
theorem uses_dispatcherMember (command : String × List String) :
    (dispatcherMember command).uses [] = [Import.dispatchCommand.binding] := by
  obtain ⟨name, params⟩ := command
  have passed := Script.uses_params (List.subset_cons_self targetParam params)
  simp [dispatcherMember, Command.dispatcher, Import.firstSegment_binding, passed]

theorem uses_dispatchers (content : Content) (name : String) :
    name ∈ content.dispatchers.flatMap (Stmt.uses []) ↔
      name ∈ (if content.commands.isEmpty then [] else [Import.dispatchCommand]).map
        Import.binding := by
  unfold dispatchers
  split
  · rfl
  · next some =>
    have member : ∃ command, command ∈ content.commands :=
      List.exists_mem_of_ne_nil _ (by simpa using some)
    simp [List.flatMap_map, uses_dispatcherMember, member]

/-! ## Modules -/

theorem uses_frame (content : Content) (name : String) :
    name ∈ content.frame.flatMap (Stmt.uses []) ↔
      name ∈ content.choice.flatMap (Stmt.uses []) ∨ name ∈ content.descriptor.uses [] ∨
        name = Import.componentRegistry.binding ∨ name ∈ [nativeNameBinding, descriptorBinding] := by
  have called : Script.firstSegment (Import.componentRegistry.binding ++ ".get")
      = Import.componentRegistry.binding :=
    Import.componentRegistry.firstSegment_method "get" (by simp)
  simp only [frame, List.flatMap_append, List.flatMap_cons, List.flatMap_nil, List.nil_append,
    Stmt.uses_declare, Expr.uses_text, Stmt.uses_exportConst, Stmt.uses_exportDefault,
    Expr.uses_call, called, Expr.uses_name, Expr.uses_arrow, List.append_nil, List.mem_append,
    List.not_mem_nil, if_false, List.singleton_append, List.mem_cons]

/-- A module uses the bindings of the imports that its content needs, and its own two. -/
theorem uses_program (content : Content) (name : String) :
    name ∈ content.program.flatMap (Stmt.uses []) ↔
      name ∈ content.needs.map Import.binding ∨ name ∈ [nativeNameBinding, descriptorBinding] := by
  rw [program, List.flatMap_append, List.mem_append, uses_frame, uses_choice, uses_descriptor,
    uses_dispatchers]
  simp only [needs, List.map_append, List.mem_append, List.map_singleton, List.mem_singleton]
  constructor
  · rintro ((choice | (attributes | events) | registry | own) | commands)
    · exact .inl (.inl (.inl (.inl (.inl choice))))
    · exact .inl (.inl (.inl (.inl (.inr attributes))))
    · exact .inl (.inl (.inl (.inr events)))
    · exact .inl (.inl (.inr registry))
    · exact .inr own
    · exact .inl (.inr commands)
  · rintro (((((choice | attributes) | events) | registry) | commands) | own)
    · exact .inl (.inl choice)
    · exact .inl (.inr (.inl (.inl attributes)))
    · exact .inl (.inr (.inl (.inr events)))
    · exact .inl (.inr (.inr (.inl registry)))
    · exact .inr commands
    · exact .inl (.inr (.inr (.inr own)))

/-- A module uses the binding of an import exactly if its content needs the import. -/
theorem binding_mem_uses (content : Content) (needed : Import) :
    needed.binding ∈ content.program.flatMap (Stmt.uses []) ↔ needed ∈ content.needs := by
  obtain ⟨notName, notDescriptor⟩ := needed.binding_ne_own
  rw [uses_program, List.mem_map_of_injective fun _ _ => Import.binding_injective]
  simp [notName, notDescriptor]

end Content

end NativeViews
