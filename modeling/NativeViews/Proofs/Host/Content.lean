import NativeViews.Host.Library
import NativeViews.Proofs.Host.Building

/-!
The content of a library: what its modules tell the host. Everything that is generated is
determined by it.
-/

namespace NativeViews

open Script (Expr Member Stmt Program)

/-- What the module of a component tells the host. -/
structure Content where
  nativeName : String
  /-- The name of the component and its older name, where one is set. -/
  legacyNames : Option (String × String)
  attributes : List (String × Validator)
  events : List String
  /-- The keys of the bubbling events, with their names. -/
  bubbling : List (String × String)
  /-- The keys of the other events, with their names. -/
  direct : List (String × String)
  /-- The names of the commands, with their parameters. -/
  commands : List (String × List String)
  deriving DecidableEq, Repr

/-- The key under which an event is registered. -/
def Event.key (event : Event) : String :=
  event.legacyName?.getD (topLevelName event.name)

/-- The keys of the events that travel in a way, with their names. -/
def keyedEvents (travel : Travel) (events : List Event) : List (String × String) :=
  (events.filter (·.travel = travel)).map fun event => (event.key, event.name)

/-- A prop with the validator of its type. -/
def Property.validated (prop : Property) : Except Failure (String × Validator) :=
  (Validator.ofType prop.type).map (prop.name, ·)

/-- The content of a component; none if the type of a prop has no validator. -/
def Component.content (name : String) (component : Component) : Except Failure Content := do
  let attributes ← component.props.mapM Property.validated
  pure {
    nativeName := component.nativeName name
    legacyNames := component.legacyName?.map (name, ·)
    attributes
    events := component.events.map Event.name
    bubbling := keyedEvents .bubble component.events
    direct := keyedEvents .direct component.events
    commands := component.commands.map fun command => (command.name, command.params) }

/-- The contents of the components of a schema in order. -/
def Schema.content (schema : Schema) : Except Failure (List Content) :=
  schema.components.mapM fun entry => entry.component.content entry.name

namespace Content

/-! ## The module of a content -/

/-- The entry of a bubbling event in a descriptor. -/
def bubblingMember : String × String → Member
  | (key, name) => (Registration.bubbling key (name ++ "Capture") name).toMember

/-- The entry of an event that does not bubble in a descriptor. -/
def directMember : String × String → Member
  | (key, name) => (Registration.direct key name).toMember

/-- The entry of a prop among the attributes. -/
def attributeMember : String × Validator → Member
  | (name, validator) => .property name validator.toExpr

/-- The entry of the listeners among the attributes, where there are events. -/
def listenerMembers (events : List String) : List Member :=
  if events.isEmpty then []
  else [.spread (.call Import.ignoredEventHandlers.binding [
    .object (events.map fun name => .property name (.bool true))])]

/-- The entry for events of one kind; none without such events. -/
def eventMembers (name : String) (entries : List Member) : List Member :=
  if entries.isEmpty then [] else [.property name (.object entries)]

/-- The descriptor. -/
def descriptor (content : Content) : Expr :=
  .object (
    [.property "uiViewClassName" (.text content.nativeName)]
      ++ eventMembers "bubblingEventTypes" (content.bubbling.map bubblingMember)
      ++ eventMembers "directEventTypes" (content.direct.map directMember)
      ++ [.property "validAttributes" (.object (
        content.attributes.map attributeMember ++ listenerMembers content.events))])

/-- The choice of a name, where there is an older one. -/
def choice (content : Content) : List Stmt :=
  (content.legacyNames.map fun (name, legacy) => chooseName name legacy).toList

/-- The dispatcher of a command. -/
def dispatcherMember : String × List String → Member
  | (name, params) => (Command.dispatcher ⟨name, params⟩)

/-- The export of the dispatchers; none without commands. -/
def dispatchers (content : Content) : List Stmt :=
  if content.commands.isEmpty then []
  else [.exportConst dispatchersName (.object (content.commands.map dispatcherMember))]

/-- The statements before the dispatchers. -/
def frame (content : Content) : Program :=
  [.declare nativeNameBinding (.text content.nativeName)]
    ++ content.choice
    ++ [.exportConst descriptorBinding content.descriptor,
      .exportDefault (.call (Import.componentRegistry.binding ++ ".get") [
        .name nativeNameBinding,
        .arrow [] (.name descriptorBinding)])]

/-- The statements of the module. -/
def program (content : Content) : Program :=
  content.frame ++ content.dispatchers

theorem program_ne_nil (content : Content) : content.program ≠ [] := by
  simp [program, frame]

/-- The imports of the module. -/
def needs (content : Content) : List Import :=
  (if content.legacyNames.isSome then [Import.viewManager] else [])
    ++ content.attributes.flatMap (·.2.needed?.toList)
    ++ (if content.events.isEmpty then [] else [.ignoredEventHandlers])
    ++ [.componentRegistry]
    ++ (if content.commands.isEmpty then [] else [.dispatchCommand])

end Content

/-! ## Building from the content -/

theorem isBubbling_ofEvent (event : Event) :
    (Registration.ofEvent event).isBubbling = decide (event.travel = .bubble) := by
  cases travel : event.travel <;> simp [Registration.ofEvent, travel, Registration.isBubbling]

theorem bubbling_registrations (events : List Event) :
    (events.map Registration.ofEvent).filter Registration.isBubbling
      = (keyedEvents .bubble events).map fun (key, name) =>
          .bubbling key (name ++ "Capture") name := by
  have bubbles : Registration.isBubbling ∘ Registration.ofEvent = fun event =>
      decide (event.travel = .bubble) := funext isBubbling_ofEvent
  rw [List.filter_map, bubbles, keyedEvents, List.map_map]
  refine List.map_congr_left fun event member => ?_
  have travel : event.travel = .bubble := by simpa using (List.mem_filter.mp member).2
  simp [Registration.ofEvent, Event.key, travel]

theorem direct_registrations (events : List Event) :
    (events.map Registration.ofEvent).filter (not ∘ Registration.isBubbling)
      = (keyedEvents .direct events).map fun (key, name) => .direct key name := by
  have goesDirect : (not ∘ Registration.isBubbling) ∘ Registration.ofEvent = fun event =>
      decide (event.travel = .direct) := by
    funext event
    cases travel : event.travel <;> simp [isBubbling_ofEvent, travel]
  rw [List.filter_map, goesDirect, keyedEvents, List.map_map]
  refine List.map_congr_left fun event member => ?_
  have travel : event.travel = .direct := by simpa using (List.mem_filter.mp member).2
  simp [Registration.ofEvent, Event.key, travel]

theorem Validator.outcome_build (type : PropType) :
    (Validator.build type).outcome = ofType type := by
  unfold build
  cases ofType type <;> rfl

theorem Descriptor.extendBases_cons (base : Base) (bases : List Base) :
    extendBases (base :: bases)
      = Building.need .componentRegistry >>= fun _ => extendBases bases := by
  cases base
  rfl

theorem Descriptor.outcome_extendBases (bases : List Base) :
    (extendBases bases).outcome = .ok () := by
  induction bases with
  | nil => rfl
  | cons base bases ih =>
    rw [extendBases_cons, Building.outcome_bind, ih]
    rfl

theorem outcome_nameGuard (name : String) (component : Component) :
    (nameGuard name component).outcome
      = .ok (component.legacyName?.map fun legacy => chooseName name legacy).toList := by
  unfold nameGuard
  cases component.legacyName? <;> rfl

theorem outcome_exportDispatchers (commands : List Command) :
    (exportDispatchers commands).outcome = .ok (if commands.isEmpty then none
      else some (.exportConst dispatchersName (.object (commands.map Command.dispatcher)))) := by
  unfold exportDispatchers
  split <;> rfl

theorem outcome_eventAttributes (events : List Event) :
    (eventAttributes events).outcome = .ok (if events.isEmpty then none
      else some (.spread (.call Import.ignoredEventHandlers.binding [
        .object (events.map fun event => .property event.name (.bool true))]))) := by
  unfold eventAttributes
  split <;> rfl

theorem outcome_attributes (props : List Property) :
    (props.mapM fun (prop : Property) => (do
      let validator ← Validator.build prop.type
      pure (prop.name, validator) : Building (String × Validator))).outcome
      = props.mapM Property.validated := by
  rw [Building.outcome_mapM]
  congr 1
  funext prop
  rw [Building.outcome_bind, Validator.outcome_build, Property.validated]
  cases Validator.ofType prop.type <;> rfl

theorem Descriptor.outcome_build (className : String) (component : Component) :
    (build className component).outcome
      = (component.props.mapM Property.validated).map fun attributes =>
        ⟨className,
          (keyedEvents .bubble component.events).map fun (key, name) =>
            .bubbling key (name ++ "Capture") name,
          (keyedEvents .direct component.events).map fun (key, name) => .direct key name,
          attributes,
          if component.events.isEmpty then none
          else some (.spread (.call Import.ignoredEventHandlers.binding [
            .object (component.events.map fun event => .property event.name (.bool true))]))⟩ := by
  simp only [build, Building.outcome_bind, outcome_extendBases, outcome_attributes,
    List.partition_eq_filter_filter, bubbling_registrations, direct_registrations,
    outcome_eventAttributes, Building.outcome_pure]
  cases component.props.mapM Property.validated <;> rfl

theorem eventTypes_bubbling (name : String) (entries : List (String × String)) :
    Descriptor.eventTypes name (entries.map fun (key, name) =>
        .bubbling key (name ++ "Capture") name)
      = Content.eventMembers name (entries.map Content.bubblingMember) := by
  simp only [Descriptor.eventTypes, Content.eventMembers, List.isEmpty_map, List.map_map]
  rfl

theorem eventTypes_direct (name : String) (entries : List (String × String)) :
    Descriptor.eventTypes name (entries.map fun (key, name) => .direct key name)
      = Content.eventMembers name (entries.map Content.directMember) := by
  simp only [Descriptor.eventTypes, Content.eventMembers, List.isEmpty_map, List.map_map]
  rfl

theorem toList_listeners (events : List Event) :
    (if events.isEmpty then none
      else some (Member.spread (.call Import.ignoredEventHandlers.binding [
        .object (events.map fun event => .property event.name (.bool true))]))).toList
      = Content.listenerMembers (events.map Event.name) := by
  rw [Content.listenerMembers, List.isEmpty_map, List.map_map]
  split <;> rfl

theorem toList_dispatchers (commands : List Command) :
    (if commands.isEmpty then none
      else some (Stmt.exportConst dispatchersName
        (.object (commands.map Command.dispatcher)))).toList
      = if (commands.map fun command => (command.name, command.params)).isEmpty then []
        else [.exportConst dispatchersName (.object
          ((commands.map fun command => (command.name, command.params)).map
            Content.dispatcherMember))] := by
  rw [List.isEmpty_map, List.map_map]
  split <;> rfl

theorem toList_choice (name : String) (legacyName : Option String) :
    (legacyName.map fun legacy => chooseName name legacy).toList
      = ((legacyName.map (name, ·)).map fun (name, legacy) => chooseName name legacy).toList := by
  cases legacyName <;> rfl

/-- What is built for a component is the module of its content. -/
theorem Component.outcome_toModule (name : String) (component : Component) :
    (component.toModule name).outcome = (component.content name).map Content.program := by
  simp only [toModule, Building.outcome_bind, outcome_nameGuard, Descriptor.outcome_build,
    outcome_exportDispatchers, content, Building.outcome_pure]
  cases component.props.mapM Property.validated with
  | error failure => rfl
  | ok attributes =>
    simp only [Except.map, Except.bind, bind, pure, Except.pure, Descriptor.toExpr,
      eventTypes_bubbling, eventTypes_direct, toList_listeners, toList_dispatchers, toList_choice]
    rfl

/-- A module that is built is that of a content. -/
theorem Component.exists_content {name : String} {component : Component} {program : Program}
    (built : (component.toModule name).outcome = .ok program) :
    ∃ content, component.content name = .ok content ∧ program = content.program := by
  rw [outcome_toModule] at built
  cases valid : component.content name with
  | error failure =>
    rw [valid] at built
    exact nomatch built
  | ok content =>
    rw [valid] at built
    exact ⟨content, rfl, (Except.ok.inj built).symm⟩

theorem Content.names_of_content {name : String} {component : Component} {content : Content}
    (valid : component.content name = .ok content) :
    content.nativeName = component.paperName.getD name ∧
      content.legacyNames = component.legacyName?.map (name, ·) := by
  obtain ⟨attributes, _, same⟩ := exists_of_bind_ok valid
  obtain rfl := Except.ok.inj same
  exact ⟨rfl, rfl⟩

/-! ## Imports -/

theorem Descriptor.mem_needs_extendBases {bases : List Base} {needed : Import}
    (member : needed ∈ (extendBases bases).needs) : needed = .componentRegistry := by
  induction bases with
  | nil => exact nomatch member
  | cons base bases ih =>
    rw [extendBases_cons, Building.needs_bind_of_ok rfl] at member
    rcases List.mem_append.mp member with here | later
    · exact List.mem_singleton.mp here
    · exact ih later

theorem needs_attributes {props : List Property} {attributes : List (String × Validator)}
    (valid : props.mapM Property.validated = .ok attributes) :
    (props.mapM fun (prop : Property) => (do
      let validator ← Validator.build prop.type
      pure (prop.name, validator) : Building (String × Validator))).needs
      = attributes.flatMap (·.2.needed?.toList) := by
  rw [Building.needs_mapM_of_ok ((outcome_attributes props).trans valid)]
  induction props generalizing attributes with
  | nil =>
    obtain rfl := Except.ok.inj valid
    rfl
  | cons prop props ih =>
    rw [List.mapM_cons] at valid
    obtain ⟨entry, first, later⟩ := exists_of_bind_ok valid
    obtain ⟨others, rest, same⟩ := exists_of_bind_ok later
    obtain rfl := Except.ok.inj same
    rw [List.flatMap_cons, List.flatMap_cons, ih rest]
    congr 1
    cases typed : Validator.ofType prop.type with
    | error failure => rw [Property.validated, typed] at first; exact nomatch first
    | ok validator =>
      rw [Property.validated, typed] at first
      obtain rfl := Except.ok.inj first
      have built : Validator.build prop.type = ⟨validator.needed?.toList, .ok validator⟩ := by
        rw [Validator.build, typed]
      rw [built, Building.needs_bind_of_ok rfl, Building.needs_pure, List.append_nil]

theorem needs_nameGuard (name : String) (component : Component) :
    (nameGuard name component).needs
      = if (component.legacyName?.map (name, ·)).isSome then [.viewManager] else [] := by
  unfold nameGuard
  cases component.legacyName? <;> rfl

theorem needs_eventAttributes (events : List Event) :
    (eventAttributes events).needs
      = if (events.map Event.name).isEmpty then [] else [.ignoredEventHandlers] := by
  rw [eventAttributes, List.isEmpty_map]
  split <;> rfl

theorem needs_exportDispatchers (commands : List Command) :
    (exportDispatchers commands).needs
      = if (commands.map fun command => (command.name, command.params)).isEmpty then []
        else [.dispatchCommand] := by
  rw [exportDispatchers, List.isEmpty_map]
  split <;> rfl

theorem Descriptor.needs_build {component : Component} {attributes : List (String × Validator)}
    (valid : component.props.mapM Property.validated = .ok attributes) (className : String) :
    (build className component).needs
      = (extendBases component.bases).needs ++ (attributes.flatMap (·.2.needed?.toList)
        ++ (NativeViews.eventAttributes component.events).needs) := by
  have typed := (outcome_attributes component.props).trans valid
  rw [build, Building.needs_bind_of_ok (outcome_extendBases _), Building.needs_bind_of_ok typed,
    needs_attributes valid]
  cases (component.events.map Registration.ofEvent).partition Registration.isBubbling with
  | mk bubbling direct =>
    rw [Building.needs_bind_of_ok (outcome_eventAttributes _), Building.needs_pure,
      List.append_nil]

/-- A component that can be built needs the imports of its content. -/
theorem Component.mem_needs_toModule {name : String} {component : Component} {content : Content}
    (valid : component.content name = .ok content) (needed : Import) :
    needed ∈ (component.toModule name).needs ↔ needed ∈ content.needs := by
  obtain ⟨attributes, typed, same⟩ := exists_of_bind_ok valid
  obtain rfl := Except.ok.inj same
  have described := Descriptor.outcome_build (component.nativeName name) component
  rw [typed] at described
  rw [toModule, Building.needs_bind_of_ok (outcome_nameGuard name component),
    Building.needs_bind_of_ok described, Descriptor.needs_build typed,
    Building.needs_bind_of_ok rfl, Building.needs_bind_of_ok (outcome_exportDispatchers _),
    Building.needs_pure, needs_nameGuard, needs_eventAttributes, needs_exportDispatchers]
  simp only [Content.needs, List.mem_append, List.append_nil, Building.need]
  constructor
  · rintro (guard | (bases | props | events) | registry | commands)
    · exact .inl (.inl (.inl (.inl guard)))
    · exact .inl (.inr (List.mem_singleton.mpr (Descriptor.mem_needs_extendBases bases)))
    · exact .inl (.inl (.inl (.inr props)))
    · exact .inl (.inl (.inr events))
    · exact .inl (.inr registry)
    · exact .inr commands
  · rintro ((((guard | props) | events) | registry) | commands)
    · exact .inl guard
    · exact .inr (.inl (.inr (.inl props)))
    · exact .inr (.inl (.inr (.inr events)))
    · exact .inr (.inr (.inl registry))
    · exact .inr (.inr (.inr commands))

/-! ## The file of a library -/

/-- The text of the file for the contents of the components of a library. -/
def contentsText (contents : List Content) : String :=
  renderFile (.ofList (contents.flatMap Content.needs))
    (renderModules (contents.map Content.program))

/-- Going through the modules of a schema and through the components of each is going through the
components of the schema. -/
theorem Schema.toModules_eq (schema : Schema) :
    schema.toModules
      = schema.components.mapM fun entry => entry.component.toModule entry.name := by
  rw [components, mapM_flatMap, toModules, map_eq_pure_bind]
  congr 2
  funext entry
  obtain ⟨moduleName, module⟩ := entry
  cases module with
  | components parts => simp only [Module.toModules, Module.components?, List.mapM_map]; rfl
  | other => rfl

/-- The modules of a library are those of the contents of its components. -/
theorem Schema.outcome_toModules (schema : Schema) :
    schema.toModules.outcome = schema.content.map (·.map Content.program) := by
  rw [toModules_eq, Building.outcome_mapM, content]
  refine Eq.trans ?_ (mapM_map_map _ Content.program schema.components)
  congr 1
  funext entry
  exact entry.component.outcome_toModule entry.name

theorem mem_needs_of_contents {entries : List Schema.Entry} {contents : List Content}
    (valid : entries.mapM (fun entry => entry.component.content entry.name) = .ok contents)
    (needed : Import) :
    needed ∈ (entries.flatMap fun entry => (entry.component.toModule entry.name).needs) ↔
      needed ∈ contents.flatMap Content.needs := by
  induction entries generalizing contents with
  | nil =>
    obtain rfl := Except.ok.inj valid
    rfl
  | cons entry entries ih =>
    rw [List.mapM_cons] at valid
    obtain ⟨content, first, later⟩ := exists_of_bind_ok valid
    obtain ⟨others, rest, same⟩ := exists_of_bind_ok later
    obtain rfl := Except.ok.inj same
    rw [List.flatMap_cons, List.flatMap_cons, List.mem_append, List.mem_append, ih rest,
      Component.mem_needs_toModule first]

/-- A library needs the imports that the contents of its components need. -/
theorem Schema.imports_toModules {schema : Schema} {contents : List Content}
    (valid : schema.content = .ok contents) :
    schema.toModules.imports = .ofList (contents.flatMap Content.needs) := by
  have built : schema.toModules.outcome = .ok (contents.map Content.program) := by
    rw [outcome_toModules, valid]
    rfl
  refine Imports.ofList_congr fun needed => ?_
  rw [toModules_eq] at built ⊢
  rw [Building.needs_mapM_of_ok built]
  exact mem_needs_of_contents valid needed

/-- What is generated for a library is settled by the contents of its components. -/
theorem Schema.toFileText_eq (schema : Schema) :
    schema.toFileText = schema.content.map contentsText := by
  rw [toFileText, outcome_toModules]
  cases valid : schema.content with
  | error failure => rfl
  | ok contents =>
    rw [imports_toModules valid]
    rfl

theorem Schema.generate_eq (extension library : String) (schema : Schema) :
    schema.generate extension library
      = schema.content.map fun contents => [(fileName extension library, contentsText contents)] := by
  rw [generate, toFileText_eq]
  cases schema.content <;> rfl

/-- What is generated comes from contents. -/
theorem Schema.exists_content_of_generate {extension library : String} {schema : Schema}
    {files : GeneratedFiles} (built : schema.generate extension library = .ok files) :
    ∃ contents, schema.content = .ok contents ∧
      files = [(fileName extension library, contentsText contents)] := by
  rw [generate_eq] at built
  cases valid : schema.content with
  | error failure => rw [valid] at built; exact nomatch built
  | ok contents =>
    rw [valid] at built
    exact ⟨contents, rfl, (Except.ok.inj built).symm⟩

end NativeViews
