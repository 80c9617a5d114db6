import NativeViews.Proofs.Host.Reading

/-!
Recovering contents. The statements of the modules of a library tell the contents of its
components, also when they are known only as they are read back.
-/

namespace NativeViews

open Script (Expr Member Stmt Program)

namespace Content

/-! ## Entries -/

/-- A list is split in one way only where a condition first fails. -/
theorem split_eq {α : Type} {holds : α → Bool} {first second rest others : List α}
    (inside : ∀ item ∈ first, holds item) (insideSecond : ∀ item ∈ second, holds item)
    (stops : ∀ item ∈ rest.head?, holds item = false)
    (stopsOthers : ∀ item ∈ others.head?, holds item = false)
    (same : first ++ rest = second ++ others) : first = second ∧ rest = others := by
  have taken {items after : List α} (inside : ∀ item ∈ items, holds item)
      (stops : ∀ item ∈ after.head?, holds item = false) :
      (items ++ after).takeWhile holds = items := by
    rw [List.takeWhile_append_of_pos inside]
    cases after with
    | nil => simp
    | cons item after => simp [stops item (by simp)]
  have whole := congrArg (List.takeWhile holds) same
  rw [taken inside stops, taken insideSecond stopsOthers] at whole
  subst whole
  exact ⟨rfl, List.append_cancel_left same⟩

theorem toExpr_injective {first second : Validator} (same : first.toExpr = second.toExpr) :
    first = second := by
  cases first with
  | passThrough => cases second <;> simp [Validator.toExpr] at same ⊢
  | process processor =>
    cases second with
    | process other =>
      cases processor <;> cases other <;>
        simp [Validator.toExpr, Processor.needed, Import.binding] at same ⊢
    | _ => simp [Validator.toExpr] at same
  | diff differ =>
    cases second with
    | diff other =>
      cases differ <;> cases other <;>
        simp [Validator.toExpr, Differ.needed, Import.binding] at same ⊢
    | _ => simp [Validator.toExpr] at same

theorem attributeMember_injective (first second : String × Validator)
    (same : attributeMember first = attributeMember second) : first = second := by
  simp only [attributeMember, Member.property.injEq] at same
  exact Prod.ext same.1 (toExpr_injective same.2)

theorem bubblingMember_injective (first second : String × String)
    (same : bubblingMember first = bubblingMember second) : first = second := by
  simp only [bubblingMember, Registration.toMember, Member.property.injEq, Expr.object.injEq,
    List.cons.injEq, Expr.text.injEq] at same
  exact Prod.ext same.1 (by simpa using same.2)

theorem directMember_injective (first second : String × String)
    (same : directMember first = directMember second) : first = second := by
  simp only [directMember, Registration.toMember, Member.property.injEq, Expr.object.injEq,
    List.cons.injEq, Expr.text.injEq] at same
  exact Prod.ext same.1 (by simpa using same.2)

theorem readDispatcher_injective (first second : String × List String)
    (same : readDispatcher first = readDispatcher second) : first = second := by
  simp only [readDispatcher, Member.method.injEq, List.cons.injEq, true_and] at same
  exact Prod.ext same.1 same.2.1

theorem listenerMembers_injective {first second : List String}
    (same : listenerMembers first = listenerMembers second) : first = second := by
  have entries : (first.map fun name => Member.property name (.bool true))
      = second.map fun name => Member.property name (.bool true) := by
    cases first <;> cases second <;> simp_all [listenerMembers]
  exact (List.map_inj_right fun one other alike => by simpa using alike).mp entries

/-- Whether a member is a property with a key. -/
def isKeyed (key : String) : Member → Bool
  | .property other _ => other = key
  | _ => false

/-- Whether a member is a property. -/
def isProperty : Member → Bool
  | .property .. => true
  | _ => false

theorem eventMembers_injective {name : String} {first second : List Member}
    (same : eventMembers name first = eventMembers name second) : first = second := by
  cases first <;> cases second <;> simp_all [eventMembers]

theorem isKeyed_eventMembers (name : String) (entries : List Member) :
    ∀ member ∈ eventMembers name entries, isKeyed name member := by
  unfold eventMembers
  split <;> simp [isKeyed]

/-- The entries for events of one kind are found by their key. -/
theorem eventMembers_append_injective {name : String} {first second rest others : List Member}
    (stops : ∀ member ∈ rest.head?, isKeyed name member = false)
    (stopsOthers : ∀ member ∈ others.head?, isKeyed name member = false)
    (same : eventMembers name first ++ rest = eventMembers name second ++ others) :
    first = second ∧ rest = others := by
  obtain ⟨entries, later⟩ := split_eq (isKeyed_eventMembers name first)
    (isKeyed_eventMembers name second) stops stopsOthers same
  exact ⟨eventMembers_injective entries, later⟩

/-- The attributes of a descriptor tell the props with their validators, and the events. -/
theorem attributes_injective {first second : List (String × Validator)} {events others : List String}
    (same : first.map attributeMember ++ listenerMembers events
      = second.map attributeMember ++ listenerMembers others) :
    first = second ∧ events = others := by
  have inside (attributes : List (String × Validator)) :
      ∀ member ∈ attributes.map attributeMember, isProperty member :=
    List.forall_mem_map.mpr fun entry _ => rfl
  have stops (events : List String) :
      ∀ member ∈ (listenerMembers events).head?, isProperty member = false := by
    unfold listenerMembers
    split <;> simp [isProperty]
  obtain ⟨props, listeners⟩ :=
    split_eq (inside first) (inside second) (stops events) (stops others) same
  exact ⟨(List.map_inj_right attributeMember_injective).mp props,
    listenerMembers_injective listeners⟩

/-- What a descriptor tells. -/
theorem descriptor_injective {first second : Content} (same : first.descriptor = second.descriptor) :
    first.nativeName = second.nativeName ∧ first.bubbling = second.bubbling ∧
      first.direct = second.direct ∧ first.attributes = second.attributes ∧
      first.events = second.events := by
  simp only [descriptor, Expr.object.injEq, List.append_assoc, List.cons_append, List.nil_append,
    List.cons.injEq, Member.property.injEq, Expr.text.injEq, true_and] at same
  obtain ⟨names, entries⟩ := same
  have stopsDirect (content : Content) : ∀ member ∈ [Member.property "validAttributes" (.object (
      content.attributes.map attributeMember ++ listenerMembers content.events))].head?,
      isKeyed "directEventTypes" member = false := by
    simp [isKeyed]
  have stopsBubbling (content : Content) :
      ∀ member ∈ (eventMembers "directEventTypes" (content.direct.map directMember)
        ++ [Member.property "validAttributes" (.object (
          content.attributes.map attributeMember ++ listenerMembers content.events))]).head?,
      isKeyed "bubblingEventTypes" member = false := by
    unfold eventMembers
    split <;> simp [isKeyed]
  obtain ⟨bubbling, later⟩ :=
    eventMembers_append_injective (stopsBubbling first) (stopsBubbling second) entries
  obtain ⟨direct, last⟩ :=
    eventMembers_append_injective (stopsDirect first) (stopsDirect second) later
  simp only [List.cons.injEq, Member.property.injEq, Expr.object.injEq, true_and, and_true] at last
  obtain ⟨attributes, events⟩ := attributes_injective last
  exact ⟨names, (List.map_inj_right bubblingMember_injective).mp bubbling,
    (List.map_inj_right directMember_injective).mp direct, attributes, events⟩

theorem choice_injective {first second : Content} (same : first.choice = second.choice) :
    first.legacyNames = second.legacyNames := by
  cases one : first.legacyNames with
  | none => cases other : second.legacyNames <;> simp_all [choice]
  | some names =>
    cases other : second.legacyNames with
    | none => simp_all [choice]
    | some others =>
      simp only [choice, one, other, Option.map_some, Option.toList_some, List.cons.injEq,
        chooseName, knowsName, Stmt.choose.injEq, Expr.call.injEq, Expr.text.injEq,
        Option.some.injEq, true_and, and_true] at same
      exact congrArg some (Prod.ext same.1 same.2.2.1)

theorem readDispatchers_injective {first second : Content}
    (same : first.readDispatchers = second.readDispatchers) : first.commands = second.commands := by
  have members : first.commands.map readDispatcher = second.commands.map readDispatcher := by
    cases one : first.commands <;> cases other : second.commands <;>
      simp_all [readDispatchers]
  exact (List.map_inj_right readDispatcher_injective).mp members

/-- What follows the binding of the name of a component. -/
def readBody (content : Content) : Program :=
  content.choice ++ (.exportConst descriptorBinding content.descriptor
    :: .exportDefault (.call (Import.componentRegistry.binding ++ ".get") [
        .name nativeNameBinding,
        .arrow [] (.name descriptorBinding)])
    :: content.readDispatchers)

theorem readProgram_eq (content : Content) :
    content.readProgram = .declare nativeNameBinding (.text content.nativeName) :: content.readBody := by
  simp [readProgram, frame, readBody]

/-- The statements of a module tell its content. -/
theorem readBody_injective {first second : Content} (same : first.readBody = second.readBody) :
    first = second := by
  have chooses (content : Content) : ∀ stmt ∈ content.choice, stmt.isChoice := by
    unfold choice
    cases content.legacyNames <;> simp [chooseName, Stmt.isChoice]
  obtain ⟨choices, later⟩ :=
    split_eq (chooses first) (chooses second) (by simp [Stmt.isChoice]) (by simp [Stmt.isChoice])
      same
  simp only [List.cons.injEq, Stmt.exportConst.injEq, true_and] at later
  obtain ⟨descriptors, commands⟩ := later
  obtain ⟨nativeName, bubbling, direct, attributes, events⟩ := descriptor_injective descriptors
  have legacyNames := choice_injective choices
  have commands := readDispatchers_injective commands
  cases first
  cases second
  simp_all

/-- Whether a statement binds the name of a component. -/
def declares : Stmt → Bool
  | .declare .. => true
  | _ => false

theorem declares_readBody (content : Content) :
    ∀ stmt ∈ content.readBody, !declares stmt := by
  have chooses : ∀ stmt ∈ content.choice, !declares stmt := by
    unfold choice
    cases content.legacyNames <;> simp [chooseName, declares]
  have exports : ∀ stmt ∈ content.readDispatchers, !declares stmt := by
    unfold readDispatchers
    split <;> simp [declares]
  rw [readBody]
  refine List.forall_mem_append.mpr ⟨chooses, ?_⟩
  simpa [declares] using exports

/-- The statements of a library tell the contents of its components: each module begins with a
binding, and holds no other. -/
theorem flatMap_readProgram_injective {first second : List Content}
    (same : first.flatMap readProgram = second.flatMap readProgram) : first = second := by
  have begins (contents : List Content) :
      ∀ stmt ∈ (contents.flatMap readProgram).head?, (!declares stmt) = false := by
    cases contents with
    | nil => simp
    | cons content contents => simp [readProgram_eq, declares]
  induction first generalizing second with
  | nil =>
    cases second with
    | nil => rfl
    | cons content others => simp [readProgram_eq] at same
  | cons content contents ih =>
    cases second with
    | nil => simp [readProgram_eq] at same
    | cons other others =>
      simp only [List.flatMap_cons, readProgram_eq, List.cons_append, List.cons.injEq] at same
      obtain ⟨body, later⟩ := split_eq (declares_readBody content) (declares_readBody other)
        (begins contents) (begins others) same.2
      rw [readBody_injective body, ih later]

end Content

end NativeViews
