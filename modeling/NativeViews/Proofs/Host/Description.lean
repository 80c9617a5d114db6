import NativeViews.Proofs.Host.Dispatch
import NativeViews.Proofs.Host.Uses
import NativeViews.Proofs.Script.Execution

/-!
What descriptors are when a module runs: objects with the class of the component, whatever its
events and props are called. Only where there are listeners to be ignored is the host called for
one.
-/

namespace NativeViews

open Script (Expr Member Value Call Host Run Running isBindable)

/-! ## Imports -/

theorem Import.isBindable_binding (needed : Import) : isBindable needed.binding := by
  cases needed <;> simp [binding, isBindable, Script.isIdentifier, Script.keywords]

theorem isBindable_nativeNameBinding : isBindable nativeNameBinding := by
  simp [nativeNameBinding, isBindable, Script.isIdentifier, Script.keywords]

theorem isBindable_descriptorBinding : isBindable descriptorBinding := by
  simp [descriptorBinding, isBindable, Script.isIdentifier, Script.keywords]

theorem Import.binding_ne_error (needed : Import) : needed.binding ≠ "Error" := by
  cases needed <;> decide

/-! ## Modules at their beginning -/

/-- Whether imports are bound. -/
def Script.Running.Imported (running : Running) (needs : List Import) : Prop :=
  ∀ needed ∈ needs,
    running.bindings.lookup needed.binding = some ⟨.foreign [needed.binding], true⟩

/-- Whether a module may begin to run: its imports and the constructor of errors are bound, and what
it binds is not. -/
structure Script.Running.Ready (running : Running) (needs : List Import) : Prop where
  imported : running.Imported needs
  errors : running.bindings.lookup "Error" = some ⟨.foreign ["Error"], false⟩
  nameless : running.bindings.lookup nativeNameBinding = none
  undescribed : running.bindings.lookup descriptorBinding = none

namespace Script.Running

/-- A module that has bound its imports, where errors can be made. -/
def starting (needs : List Import) : Running :=
  { bindings := ("Error", ⟨.foreign ["Error"], false⟩) :: (importing needs).bindings }

theorem lookup_importing {needs : List Import} {needed : Import} (member : needed ∈ needs) :
    (importing needs).bindings.lookup needed.binding
      = some ⟨.foreign [needed.binding], true⟩ := by
  induction needs with
  | nil => exact nomatch member
  | cons first needs ih =>
    change List.lookup _ ((_, _) :: (importing needs).bindings) = _
    rw [OrderedMap.lookup_entry_cons]
    by_cases same : needed.binding = first.binding
    · rw [if_pos same, same]
    · have later := (List.mem_cons.mp member).resolve_left fun equal => same (congrArg _ equal)
      rw [if_neg same, ih later]

theorem lookup_importing_of_ne {name : String} (other : ∀ needed : Import, needed.binding ≠ name)
    (needs : List Import) : (importing needs).bindings.lookup name = none := by
  rw [List.lookup_eq_none_iff]
  intro entry member
  obtain ⟨needed, _, rfl⟩ := List.mem_map.mp member
  simpa using (other needed).symm

theorem lookup_starting {name : String} (other : name ≠ "Error") (needs : List Import) :
    (starting needs).bindings.lookup name = (importing needs).bindings.lookup name := by
  change List.lookup name (_ :: (importing needs).bindings) = _
  rw [OrderedMap.lookup_entry_cons, if_neg other]

/-- A module may begin to run once its imports are bound. -/
theorem ready_starting (needs : List Import) : (starting needs).Ready needs where
  imported := by
    intro needed member
    rw [lookup_starting needed.binding_ne_error, lookup_importing member]
  errors := List.lookup_cons_self
  nameless := by
    rw [lookup_starting (by decide), lookup_importing_of_ne fun needed => needed.binding_ne_own.1]
  undescribed := by
    rw [lookup_starting (by decide), lookup_importing_of_ne fun needed => needed.binding_ne_own.2]

end Script.Running

/-! ## Names -/

section Evaluation

variable {host : Host} {call : Value → List Value → Run Value} {depth : Nat} {running : Running}
  {needs : List Import} {needed : Import} {content : Content}

theorem onward_import (imported : running.Imported needs) (member : needed ∈ needs) :
    (Script.lookUp [] needed.binding).onward running
      = (.ok (.foreign [needed.binding]), running) :=
  Script.onward_lookUp_binding rfl (imported needed member)

theorem onward_method (imported : running.Imported needs) (member : needed ∈ needs)
    {method suffix : String} (identifier : Script.isIdentifier method)
    (joined : suffix = "." ++ method) :
    (Script.follow [] (needed.binding ++ suffix)).onward running
      = (.ok (.foreign [needed.binding, method]), running) := by
  rw [joined]
  exact Script.onward_follow_method needed.isBindable_binding identifier
    (onward_import imported member)

/-! ## Descriptors -/

/-- Whether a call marks listeners as ones to be ignored. -/
def IsIgnoring (call : Call) : Prop :=
  call.callee = .foreign [Import.ignoredEventHandlers.binding]

theorem still_import (imported : running.Imported needs) (member : needed ∈ needs) (key : String) :
    (Expr.object [.property key (.name needed.binding)]).Still host call [] running := by
  apply Expr.still_object
  intro only single
  obtain rfl := List.mem_singleton.mp single
  apply Member.still_property
  exact Expr.still_name needed.isBindable_binding (onward_import imported member)

theorem still_toExpr (imported : running.Imported needs) {validator : Validator}
    (held : ∀ needed ∈ validator.needed?, needed ∈ needs) :
    validator.toExpr.Still host call [] running := by
  cases validator with
  | passThrough => exact Expr.still_bool true
  | process processor => exact still_import imported (held _ rfl) "process"
  | diff differ => exact still_import imported (held _ rfl) "diff"

theorem still_toMember (registration : Registration) :
    registration.toMember.Still host call [] running := by
  cases registration with
  | bubbling key captured bubbled => exact Member.still_property ⟨_, rfl⟩
  | direct key listener => exact Member.still_property ⟨_, rfl⟩

/-- The events of one kind change no entry but their own. -/
theorem onward_eventMembers (name : String) (proper : name ≠ "__proto__") {members : List Member}
    (still : ∀ member ∈ members, member.Still host call [] running)
    (entries : List (String × Value)) :
    ∃ others, (Member.evaluateAll host call [] (Content.eventMembers name members)
        entries).onward running = (.ok others, running) ∧
      ∀ key, key ≠ name → others.lookup key = entries.lookup key := by
  rw [Content.eventMembers]
  split
  · exact ⟨entries, rfl, fun _ _ => rfl⟩
  · obtain ⟨value, given⟩ := Expr.still_object still
    refine ⟨OrderedMap.putEntry name value entries, ?_, ?_⟩
    · rw [Member.evaluateAll, Run.onward_bind_of_ok (Script.onward_property proper given entries)]
      rfl
    · intro key other
      rw [OrderedMap.lookup_putEntry, if_neg other]

/-- The listeners are marked by one call, where there are any. -/
theorem onward_listenerMembers (depth : Nat)
    (ignores : ∀ call, IsIgnoring call → ∃ value, host.answer call = .ok value)
    (imported : running.Imported needs) (events : List String)
    (held : events ≠ [] → .ignoredEventHandlers ∈ needs)
    (entries : List (String × Value)) :
    ∃ others ignoring, (Member.evaluateAll host (Value.call host depth) []
        (Content.listenerMembers events) entries).onward running
        = (.ok others, { running with calls := running.calls ++ ignoring }) ∧
      ∀ call ∈ ignoring, IsIgnoring call := by
  rw [Content.listenerMembers]
  split
  · refine ⟨entries, [], ?_, List.forall_mem_nil _⟩
    rw [List.append_nil]
    rfl
  · next some =>
    have member := held fun none => some (List.isEmpty_iff.mpr none)
    have handlers : ∀ member ∈ events.map fun name => Member.property name (.bool true),
        member.Still host (Value.call host depth) [] running := by
      intro member inside
      obtain ⟨name, _, rfl⟩ := List.mem_map.mp inside
      exact Member.still_property (Expr.still_bool true)
    obtain ⟨listeners, given⟩ := Expr.still_object handlers
    let ignoring : Call := ⟨.foreign [Import.ignoredEventHandlers.binding], [listeners]⟩
    obtain ⟨value, answered⟩ := ignores ignoring rfl
    have called : (Script.follow [] Import.ignoredEventHandlers.binding).onward running
        = (.ok (.foreign [Import.ignoredEventHandlers.binding]), running) := by
      rw [Script.follow_name (Import.isBindable_binding _), onward_import imported member]
    have marked := Script.onward_call called (Script.onward_evaluateAll (.cons given .nil))
    rw [Script.onward_callHost_of_ok answered] at marked
    refine ⟨(host.own value).foldl (fun entries entry =>
      OrderedMap.putEntry entry.1 entry.2 entries) entries, [ignoring], ?_, ?_⟩
    · rw [Member.evaluateAll, Member.evaluate, bind_assoc, Run.onward_bind_of_ok marked]
      rfl
    · exact List.forall_mem_singleton.mpr rfl

/-- What is valid for a component is told by one object. -/
theorem onward_validAttributes (depth : Nat)
    (ignores : ∀ call, IsIgnoring call → ∃ value, host.answer call = .ok value)
    (imported : running.Imported content.needs) :
    ∃ value ignoring, (Expr.evaluate host (Value.call host depth) [] (.object
        (content.attributes.map Content.attributeMember
          ++ Content.listenerMembers content.events))).onward running
        = (.ok value, { running with calls := running.calls ++ ignoring }) ∧
      ∀ call ∈ ignoring, IsIgnoring call := by
  have attributes : ∀ member ∈ content.attributes.map Content.attributeMember,
      member.Still host (Value.call host depth) [] running := by
    intro member inside
    obtain ⟨entry, listed, rfl⟩ := List.mem_map.mp inside
    apply Member.still_property
    apply still_toExpr imported
    intro needed validates
    have used : needed ∈ content.attributes.flatMap (·.2.needed?.toList) :=
      List.mem_flatMap.mpr ⟨entry, listed, Option.mem_toList.mpr validates⟩
    simp [Content.needs, used]
  have listened : content.events ≠ [] → .ignoredEventHandlers ∈ content.needs := by
    intro some
    simp [Content.needs, some]
  obtain ⟨validated, valid⟩ := Member.exists_evaluateAll_of_still attributes []
  obtain ⟨all, ignoring, marked, only⟩ :=
    onward_listenerMembers depth ignores imported content.events listened validated
  refine ⟨.object all, ignoring, ?_, only⟩
  apply Script.onward_object
  rw [Member.onward_append_of_ok valid, marked]

/-- A descriptor is an object with the class under its key. Nothing but the listeners makes it call
the host. -/
theorem onward_descriptor (depth : Nat)
    (ignores : ∀ call, IsIgnoring call → ∃ value, host.answer call = .ok value)
    (imported : running.Imported content.needs) :
    ∃ entries ignoring, (content.descriptor.evaluate host (Value.call host depth) []).onward running
        = (.ok (.object entries), { running with calls := running.calls ++ ignoring }) ∧
      (∀ call ∈ ignoring, IsIgnoring call) ∧
      entries.lookup "uiViewClassName" = some (.text content.nativeName) := by
  have bubbling : ∀ member ∈ content.bubbling.map Content.bubblingMember,
      member.Still host (Value.call host depth) [] running := by
    intro member inside
    obtain ⟨⟨key, name⟩, _, rfl⟩ := List.mem_map.mp inside
    exact still_toMember (.bubbling key (name ++ "Capture") name)
  have direct : ∀ member ∈ content.direct.map Content.directMember,
      member.Still host (Value.call host depth) [] running := by
    intro member inside
    obtain ⟨⟨key, name⟩, _, rfl⟩ := List.mem_map.mp inside
    exact still_toMember (.direct key name)
  -- The class comes first; the members after it have other keys.
  let first : List (String × Value) := [("uiViewClassName", .text content.nativeName)]
  have start : (Member.evaluateAll host (Value.call host depth) []
      [.property "uiViewClassName" (.text content.nativeName)] []).onward running
      = (.ok first, running) := rfl
  obtain ⟨second, bubbled, keptBubbling⟩ :=
    onward_eventMembers "bubblingEventTypes" (by decide) bubbling first
  obtain ⟨third, directed, keptDirect⟩ :=
    onward_eventMembers "directEventTypes" (by decide) direct second
  obtain ⟨attributes, ignoring, valid, only⟩ := onward_validAttributes depth ignores imported
  refine ⟨OrderedMap.putEntry "validAttributes" attributes third, ignoring, ?_, only, ?_⟩
  · apply Script.onward_object
    rw [List.append_assoc, List.append_assoc, Member.onward_append_of_ok start,
      Member.onward_append_of_ok bubbled, Member.onward_append_of_ok directed,
      Member.evaluateAll, Run.onward_bind_of_ok (Script.onward_property (by decide) valid third)]
    rfl
  · rw [OrderedMap.lookup_putEntry, if_neg (by decide), keptDirect _ (by decide),
      keptBubbling _ (by decide), List.lookup_cons_self]

end Evaluation

end NativeViews
