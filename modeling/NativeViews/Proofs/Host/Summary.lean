import NativeViews.Proofs.Host.Assembly
import NativeViews.Schema.Summary

/-!
Summaries tell what is generated. A summary counts and classifies for itself, without building
anything; here it is compared with the modules that are built, as their statements show them.
-/

namespace NativeViews

open Script (Expr Member Stmt Program)

/-! ## What a module shows -/

namespace Script

/-- What a statement exports under a name. -/
def Stmt.exported? (name : String) : Stmt → Option Expr
  | .exportConst binding value => if binding = name then some value else none
  | _ => none

/-- What a program exports under a name, once for each export. -/
def Program.exports (program : Program) (name : String) : List Expr :=
  program.filterMap (Stmt.exported? name)

/-- The members of an object literal. -/
def Expr.members : Expr → List Member
  | .object members => members
  | _ => []

/-- The name that an expression asks the host for. -/
def Expr.asked? : Expr → Option String
  | .call callee [.text known] =>
    if callee = Import.viewManager.binding ++ ".hasViewManagerConfig" then some known else none
  | _ => none

/-- The names that a chain of choices tries, in their order. -/
def Stmt.tried : Stmt → List String
  | .choose test _ (some [next]) => test.asked?.toList ++ next.tried
  | .choose test _ _ => test.asked?.toList
  | _ => []

/-- The names that the choices of a program try, choice by choice. -/
def Program.tried (program : Program) : List (List String) :=
  (program.filter Stmt.isChoice).map Stmt.tried

theorem Program.exports_append (first second : Program) (name : String) :
    Program.exports (first ++ second) name = first.exports name ++ second.exports name :=
  List.filterMap_append

theorem Program.tried_append (first second : Program) :
    Program.tried (first ++ second) = first.tried ++ second.tried := by
  simp [tried]

end Script

theorem tried_chooseName (name legacy : String) : (chooseName name legacy).tried = [name, legacy] := by
  simp [chooseName, knowsName, Stmt.tried, Expr.asked?]

namespace Content

variable (content : Content)

theorem exports_choice (exported : String) : Program.exports content.choice exported = [] := by
  unfold choice
  cases content.legacyNames <;> rfl

/-- A module chooses between names only where there is an older one, and tries that second. -/
theorem tried_program :
    content.program.tried = (content.legacyNames.map fun (name, legacy) => [name, legacy]).toList := by
  have dispatchers : Program.tried content.dispatchers = [] := by
    unfold dispatchers
    split <;> rfl
  have choice : Program.tried content.choice
      = (content.legacyNames.map fun (name, legacy) => [name, legacy]).toList := by
    unfold choice
    cases content.legacyNames with
    | none => rfl
    | some names => exact congrArg List.singleton (tried_chooseName names.1 names.2)
  simp only [program, frame, Program.tried_append, dispatchers, choice]
  exact (List.append_nil _).trans (List.append_nil _)

theorem exports_descriptor : content.program.exports descriptorBinding = [content.descriptor] := by
  have dispatchers : Program.exports content.dispatchers descriptorBinding = [] := by
    unfold dispatchers
    split <;> rfl
  simp only [program, frame, Program.exports_append, exports_choice, dispatchers]
  rfl

/-- The dispatchers that a module exports are as many as the commands, and none are exported without
commands. -/
theorem exports_dispatchers : (content.program.exports dispatchersName).map (·.members.length)
    = if content.commands.length = 0 then [] else [content.commands.length] := by
  have frame : Program.exports content.frame dispatchersName = [] := by
    simp only [frame, Program.exports_append, exports_choice]
    rfl
  rw [program, Program.exports_append, frame, dispatchers]
  cases content.commands with
  | nil => rfl
  | cons command commands => simp [Program.exports, Stmt.exported?, Expr.members]

end Content

/-! ## Counting -/

/-- The events of a component are divided into those that bubble and the others. -/
theorem length_keyedEvents (events : List Event) :
    (keyedEvents .bubble events).length = events.countP (·.travel = .bubble) ∧
      (keyedEvents .bubble events).length + (keyedEvents .direct events).length
        = events.length := by
  have others : (fun event : Event => decide (event.travel = .direct))
      = fun event => decide ¬decide (event.travel = .bubble) = true := by
    funext event
    cases travel : event.travel <;> simp
  simp only [keyedEvents, List.length_map, ← List.countP_eq_length_filter, others, true_and]
  exact (List.length_eq_countP_add_countP _).symm

/-- The events counted as bubbling are never more than all events, so that the others are what is
left of these. -/
theorem Component.events_summary (name : String) (component : Component) :
    (component.summary name).bubblingEvents ≤ component.events.length ∧
      (component.summary name).bubblingEvents + (component.summary name).directEvents
        = component.events.length := by
  have bounded : component.events.countP (·.travel = .bubble) ≤ component.events.length :=
    List.countP_le_length
  exact ⟨bounded, Nat.add_sub_cancel' bounded⟩

/-! ## Components -/

/-- Whether a summary tells what a component is described as: its class, and the numbers of its
attributes and registrations. -/
structure ComponentSummary.Describes (summary : ComponentSummary) (descriptor : Descriptor) :
    Prop where
  className : summary.nativeName = descriptor.className
  attributes : summary.props = descriptor.attributes.length
  bubbling : summary.bubblingEvents = descriptor.bubbling.length
  direct : summary.directEvents = descriptor.direct.length

/-- Whether a summary tells what is generated for a component. -/
structure ComponentSummary.Tells (summary : ComponentSummary) (name : String)
    (component : Component) (program : Program) : Prop where
  generated : (component.toModule name).outcome = .ok program
  named : summary.name = name
  /-- The module exports one descriptor, the one that is built for the component. -/
  described : ∃ descriptor, program.exports descriptorBinding = [descriptor.toExpr] ∧
    (Descriptor.build (component.nativeName name) component).outcome = .ok descriptor ∧
    summary.Describes descriptor
  /-- The class in the descriptor is the name that the summary gives. -/
  classed : (program.exports descriptorBinding).map (·.members.head?)
    = [some (.property "uiViewClassName" (.text summary.nativeName))]
  /-- The module chooses between names exactly if there is an older one, which it tries second. -/
  guarded : program.tried = (summary.legacyName.map fun legacy => [name, legacy]).toList
  /-- The module exports dispatchers exactly if there are commands, one for each. -/
  dispatched : (program.exports dispatchersName).map (·.members.length)
    = if summary.commands = 0 then [] else [summary.commands]

theorem Component.describes_summary {name : String} {component : Component}
    {descriptor : Descriptor}
    (built : (Descriptor.build (component.nativeName name) component).outcome = .ok descriptor) :
    (component.summary name).Describes descriptor := by
  rw [Descriptor.outcome_build] at built
  obtain ⟨attributes, valid, rfl⟩ := exists_of_map_ok built
  obtain ⟨bubbling, all⟩ := length_keyedEvents component.events
  have bubbles : (component.summary name).bubblingEvents
      = (keyedEvents .bubble component.events).length := bubbling.symm
  have counted := (component.events_summary name).2
  refine ⟨rfl, (mapM_ok_iff.mp valid).length_eq, ?_, ?_⟩
  · rw [bubbles, List.length_map]
  · rw [List.length_map]
    omega

/-- The descriptor in the module of a component is the one that is built for it. -/
theorem Component.exists_descriptor_of_content {name : String} {component : Component}
    {content : Content} (valid : component.content name = .ok content) :
    ∃ descriptor, (Descriptor.build (component.nativeName name) component).outcome = .ok descriptor ∧
      descriptor.toExpr = content.descriptor := by
  obtain ⟨attributes, validated, same⟩ := exists_of_bind_ok valid
  obtain rfl := Except.ok.inj same
  rw [Descriptor.outcome_build, validated]
  refine ⟨_, rfl, ?_⟩
  simp only [Descriptor.toExpr, eventTypes_bubbling, eventTypes_direct, toList_listeners]
  rfl

theorem Content.length_commands {name : String} {component : Component} {content : Content}
    (valid : component.content name = .ok content) :
    content.commands.length = component.commands.length := by
  obtain ⟨_, _, same⟩ := exists_of_bind_ok valid
  obtain rfl := Except.ok.inj same
  exact List.length_map _

theorem Component.tells_summary {name : String} {component : Component} {program : Program}
    (built : (component.toModule name).outcome = .ok program) :
    (component.summary name).Tells name component program := by
  obtain ⟨content, valid, rfl⟩ := exists_content built
  obtain ⟨descriptor, described, same⟩ := exists_descriptor_of_content valid
  have describes := describes_summary described
  refine ⟨built, rfl, ⟨descriptor, ?_, described, describes⟩, ?_, ?_, ?_⟩
  · rw [content.exports_descriptor, same]
  · rw [content.exports_descriptor, ← same, describes.className]
    rfl
  · rw [content.tried_program, (Content.names_of_content valid).2, Option.map_map]
    rfl
  · rw [content.exports_dispatchers, Content.length_commands valid]
    rfl

/-! ## Schemas -/

/-- Whether summaries tell what is generated for components, each in its place. -/
inductive ComponentsTold : List ComponentSummary → List (String × Component) → List Program → Prop
  | nil : ComponentsTold [] [] []
  | cons {summary : ComponentSummary} {name : String} {component : Component} {program : Program}
      {summaries : List ComponentSummary} {components : List (String × Component)}
      {programs : List Program} (here : summary.Tells name component program)
      (others : ComponentsTold summaries components programs) :
      ComponentsTold (summary :: summaries) ((name, component) :: components) (program :: programs)

/-- Whether summaries tell what is generated for the modules of a schema, each in its place: for a
module that is skipped nothing, and for each other one the modules of its components. -/
inductive ModulesTold : List ModuleSummary → List (String × Module) → List Program → Prop
  | nil : ModulesTold [] [] []
  | skipped {name : String} {summaries : List ModuleSummary} {modules : List (String × Module)}
      {programs : List Program} (others : ModulesTold summaries modules programs) :
      ModulesTold (⟨name, none⟩ :: summaries) ((name, .other) :: modules) programs
  | generated {name : String} {parts : OrderedMap Component} {components : List ComponentSummary}
      {own : List Program} {summaries : List ModuleSummary} {modules : List (String × Module)}
      {programs : List Program} (here : ComponentsTold components parts.entries own)
      (others : ModulesTold summaries modules programs) :
      ModulesTold (⟨name, some components⟩ :: summaries) ((name, .components parts) :: modules)
        (own ++ programs)

theorem componentsTold_of_mapM {components : List (String × Component)} {programs : List Program}
    (built : components.mapM (fun ((name, component) : String × Component) =>
      (component.toModule name).outcome) = .ok programs) :
    ComponentsTold (components.map fun (name, component) => component.summary name) components
      programs := by
  replace built := mapM_ok_iff.mp built
  induction built with
  | nil => exact .nil
  | cons here _ ih => exact .cons (Component.tells_summary here) ih

theorem modulesTold_of_mapM {modules : List (String × Module)} {sections : List (List Program)}
    (built : modules.mapM (fun ((_, module) : String × Module) => module.toModules.outcome)
      = .ok sections) :
    ModulesTold (modules.map fun (name, module) => ⟨name, module.components?.map fun parts =>
      parts.entries.map fun (name, component) => component.summary name⟩) modules
      sections.flatten := by
  replace built := mapM_ok_iff.mp built
  induction built with
  | nil => exact .nil
  | @cons entry own modules sections here _ ih =>
    obtain ⟨name, module⟩ := entry
    cases module with
    | other =>
      obtain rfl := Except.ok.inj here
      exact .skipped ih
    | components parts =>
      simp only [Module.toModules, Module.components?, Building.outcome_mapM] at here
      exact .generated (componentsTold_of_mapM here) ih

/-- The summary of a schema tells what is generated from it, module by module and component by
component. In no summary are there more bubbling events than events, so that the others can be
counted as the rest. -/
theorem Schema.summary_tells (schema : Schema) :
    (∀ (name : String) (component : Component),
      (component.summary name).bubblingEvents ≤ component.events.length ∧
        (component.summary name).bubblingEvents + (component.summary name).directEvents
          = component.events.length) ∧
      ∀ (extension library : String) (files : GeneratedFiles),
        schema.generate extension library = .ok files →
        ∃ programs, schema.toModules.outcome = .ok programs ∧
          files = [(fileName extension library,
            renderFile schema.toModules.imports (renderModules programs))] ∧
          ModulesTold schema.summary schema.modules.entries programs := by
  refine ⟨Component.events_summary, ?_⟩
  intro extension library files built
  rw [generate_eq_bind] at built
  obtain ⟨text, written, same⟩ := exists_of_bind_ok built
  obtain ⟨programs, done, rfl⟩ := toFileText_ok_iff.mp written
  refine ⟨programs, done, (Except.ok.inj same).symm, ?_⟩
  rw [outcome_toModules_nested] at done
  obtain ⟨sections, each, rfl⟩ := exists_of_map_ok done
  exact modulesTold_of_mapM each

theorem Schema.summary_tells_slider :
    ∃ (schema : Schema) (files : GeneratedFiles) (programs : List Program),
      schema.generate "js" "Kit" = .ok files ∧
        schema.summary = [⟨"Timers", none⟩,
          ⟨"Controls", some [⟨"Slider", "RCTSlider", some "RCTOldSlider", 1, 1, 2, 1⟩]⟩] ∧
        files = [(fileName "js" "Kit",
          renderFile schema.toModules.imports (renderModules programs))] ∧
        ModulesTold schema.summary schema.modules.entries programs := by
  let slider : Component := {
    props := [⟨"tint", .reserved .color⟩]
    events := [⟨"onSlide", .direct, none⟩, ⟨"onChange", .bubble, none⟩, ⟨"onStop", .direct, none⟩]
    commands := [⟨"focus", ["view"]⟩]
    paperName := some "RCTSlider"
    legacyName := some "RCTOldSlider" }
  let schema : Schema :=
    ⟨[("Timers", .other), ("Controls", .components ⟨[("Slider", slider)], by simp⟩)], by simp⟩
  have built : schema.generate "js" "Kit" = .ok _ := rfl
  obtain ⟨programs, _, written, told⟩ := schema.summary_tells.2 "js" "Kit" _ built
  exact ⟨schema, _, programs, built, rfl, written, told⟩

end NativeViews
