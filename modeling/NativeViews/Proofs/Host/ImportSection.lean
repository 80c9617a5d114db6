import NativeViews.Proofs.Host.Observation
import NativeViews.Proofs.Host.Uses

/-!
The imports of a generated file: those that its modules use, each once, in the order of their
texts. How components, props and events are ordered makes no difference to them.
-/

namespace NativeViews

open Script (Program Stmt)

/-! ## Statements in order -/

theorem Import.nodup_statements : (all.map statement).Nodup := by
  simp [all, statement, isNamed, binding, path]

theorem Import.statement_injective {first second : Import}
    (same : first.statement = second.statement) : first = second :=
  List.inj_on_of_nodup_map nodup_statements (mem_all first) (mem_all second) same

namespace Imports

theorem statement_mem_statements {imports : Imports} {needed : Import} :
    needed.statement ∈ imports.statements ↔ imports.contains needed := by
  rw [mem_statements]
  constructor
  · rintro ⟨other, inside, same⟩
    rwa [← Import.statement_injective same]
  · intro inside
    exact ⟨needed, inside, rfl⟩

theorem nodup_statements (imports : Imports) : imports.statements.Nodup := by
  have listed : imports.held.Sublist Import.all := by
    rw [← imports.canonical]
    exact List.filter_sublist
  have distinct : (imports.held.map Import.statement).Nodup :=
    Import.nodup_statements.sublist (listed.map Import.statement)
  exact (List.mergeSort_perm _ _).nodup_iff.mpr distinct

/-- The statements are in strict order: sorted, and no two of them alike. -/
theorem ascending_statements (imports : Imports) : imports.statements.Pairwise (· < ·) := by
  have sorted : imports.statements.Pairwise fun left right => decide (left ≤ right) := by
    apply List.pairwise_mergeSort
    · intro first second third before after
      simp only [decide_eq_true_eq] at before after ⊢
      exact String.le_trans before after
    · intro first second
      simpa using String.le_total first second
  refine (sorted.and imports.nodup_statements).imp fun {first second} ⟨before, other⟩ => ?_
  by_contra late
  exact other (String.le_antisymm (of_decide_eq_true before) (String.not_lt.mp late))

end Imports

/-! ## What a schema uses -/

/-- Whether a statement that is built for a component of a schema uses a name. -/
def Schema.Uses (schema : Schema) (name : String) : Prop :=
  ∃ entry ∈ schema.components, ∃ program,
    (entry.component.toModule entry.name).outcome = .ok program ∧
      ∃ stmt ∈ program, name ∈ stmt.uses []

/-- What is built for the components of a schema are the modules of their contents. -/
theorem Schema.uses_iff {schema : Schema} {contents : List Content}
    (valid : schema.content = .ok contents) (name : String) :
    schema.Uses name ↔ ∃ content ∈ contents, name ∈ content.program.flatMap (Stmt.uses []) := by
  constructor
  · rintro ⟨entry, inside, program, built, stmt, member, used⟩
    obtain ⟨content, listed, described⟩ := exists_result_of_mapM_ok valid entry inside
    rw [Component.outcome_toModule, described] at built
    obtain rfl := Except.ok.inj built
    exact ⟨content, listed, List.mem_flatMap.mpr ⟨stmt, member, used⟩⟩
  · rintro ⟨content, listed, used⟩
    obtain ⟨entry, inside, described⟩ := exists_of_mapM_ok valid content listed
    obtain ⟨stmt, member, used⟩ := List.mem_flatMap.mp used
    refine ⟨entry, inside, content.program, ?_, stmt, member, used⟩
    rw [Component.outcome_toModule, described]
    rfl

/-- A schema uses the binding of an import exactly if its contents need the import. -/
theorem Schema.uses_binding_iff {schema : Schema} {contents : List Content}
    (valid : schema.content = .ok contents) (needed : Import) :
    schema.Uses needed.binding ↔ needed ∈ contents.flatMap Content.needs := by
  rw [uses_iff valid, List.mem_flatMap]
  simp only [Content.binding_mem_uses]

/-! ## Orders -/

/-- Whether two components are the same but for the order of their props and of their events. -/
structure Component.Reordered (first second : Component) : Prop where
  props : first.props.Perm second.props
  events : first.events.Perm second.events
  others : second = { first with props := second.props, events := second.events }

/-- Whether two schemas have the same components but for their order, and for the order of the
props and of the events of each. -/
def Schema.Reordered (first second : Schema) : Prop :=
  ∃ between, first.components.Perm between ∧
    List.Forall₂ (fun entry other =>
      entry.name = other.name ∧ entry.component.Reordered other.component)
      between second.components

/-- Which imports the content of a component needs, by what the component has. -/
theorem Component.exists_needs {component : Component} {attributes : List (String × Validator)}
    (typed : component.props.mapM Property.validated = .ok attributes) (name : String) :
    ∃ content, component.content name = .ok content ∧ content.needs =
      (if component.legacyName?.isSome then [Import.viewManager] else [])
        ++ attributes.flatMap (·.2.needed?.toList)
        ++ (if component.events.isEmpty then [] else [.ignoredEventHandlers])
        ++ [.componentRegistry]
        ++ (if component.commands.isEmpty then [] else [.dispatchCommand]) := by
  refine ⟨_, congrArg (· >>= _) typed, ?_⟩
  simp only [Content.needs, Option.isSome_map, List.isEmpty_map]

theorem Component.Reordered.exists_content {first second : Component}
    (same : first.Reordered second) {name : String} {content : Content}
    (valid : first.content name = .ok content) :
    ∃ other, second.content name = .ok other ∧ content.needs.Perm other.needs := by
  obtain ⟨attributes, typed, _⟩ := exists_of_bind_ok valid
  obtain ⟨others, later, order⟩ := exists_mapM_ok_of_perm same.props typed
  obtain ⟨content, described, needs⟩ := exists_needs typed name
  obtain ⟨other, describedOther, needsOther⟩ := exists_needs later name
  obtain rfl := Except.ok.inj (valid.symm.trans described)
  have legacy : second.legacyName? = first.legacyName? := by
    rw [same.others]
    rfl
  have commands : second.commands = first.commands := by rw [same.others]
  refine ⟨other, describedOther, ?_⟩
  rw [needs, needsOther, legacy, commands, same.events.isEmpty_eq]
  refine (((List.Perm.append_left _ ?_).append_right _).append_right _).append_right _
  exact order.flatMap_right _

theorem Schema.exists_contents_of_reordered {entries others : List Schema.Entry}
    (same : List.Forall₂ (fun entry other =>
      entry.name = other.name ∧ entry.component.Reordered other.component) entries others)
    {contents : List Content}
    (valid : entries.mapM (fun entry => entry.component.content entry.name) = .ok contents) :
    ∃ later, others.mapM (fun entry => entry.component.content entry.name) = .ok later ∧
      (contents.flatMap Content.needs).Perm (later.flatMap Content.needs) := by
  induction same generalizing contents with
  | nil => exact ⟨contents, valid, .refl _⟩
  | cons here _ ih =>
    obtain ⟨named, reordered⟩ := here
    rw [mapM_ok_iff] at valid
    cases valid with
    | cons first rest =>
      obtain ⟨content, described, order⟩ := reordered.exists_content first
      obtain ⟨later, built, orders⟩ := ih (mapM_ok_iff.mpr rest)
      rw [named] at described
      exact ⟨content :: later, mapM_ok_iff.mpr (.cons described (mapM_ok_iff.mp built)),
        order.append orders⟩

/-- In another order the components of a schema have contents too, and need the same imports. -/
theorem Schema.Reordered.exists_content {first second : Schema} (same : first.Reordered second)
    {contents : List Content} (valid : first.content = .ok contents) :
    ∃ others, second.content = .ok others ∧
      (contents.flatMap Content.needs).Perm (others.flatMap Content.needs) := by
  obtain ⟨between, order, pairwise⟩ := same
  obtain ⟨middle, built, moved⟩ := exists_mapM_ok_of_perm order valid
  obtain ⟨others, later, orders⟩ := exists_contents_of_reordered pairwise built
  exact ⟨others, later, (moved.flatMap_right Content.needs).trans orders⟩

/-! ## The section of imports -/

/-- The section of imports of a generated file holds the statement of an import exactly if what is
built for some component uses its binding, holds it once, holds nothing else, and holds all of
them in strict order. In another order of components, props and events a file is generated too,
with the same section. -/
theorem Schema.importSection_generate {extension library : String} {schema : Schema}
    {files : GeneratedFiles} (built : schema.generate extension library = .ok files) :
    ∃ text, files = [(fileName extension library, text)] ∧
      (∀ needed : Import,
        needed.statement ∈ importSection text ↔ schema.Uses needed.binding) ∧
      (∀ line ∈ importSection text, (∃ needed : Import, needed.statement = line) ∧
        (importSection text).count line = 1) ∧
      (importSection text).Pairwise (· < ·) ∧
      ∀ other, schema.Reordered other → ∃ otherText,
        other.generate extension library = .ok [(fileName extension library, otherText)] ∧
          importSection otherText = importSection text := by
  obtain ⟨contents, valid, rfl⟩ := exists_content_of_generate built
  refine ⟨contentsText contents, rfl, ?_⟩
  simp only [importSection_contentsText]
  refine ⟨fun needed => ?_, fun line member => ⟨?_, ?_⟩, Imports.ascending_statements _,
    fun other same => ?_⟩
  · rw [Imports.statement_mem_statements, uses_binding_iff valid]
    simp [Imports.ofList]
  · obtain ⟨needed, _, spelled⟩ := Imports.mem_statements.mp member
    exact ⟨needed, spelled⟩
  · exact List.count_eq_one_of_mem (Imports.nodup_statements _) member
  · obtain ⟨others, later, order⟩ := same.exists_content valid
    refine ⟨contentsText others, ?_, ?_⟩
    · rw [generate_eq, later]
      rfl
    · rw [importSection_contentsText, Imports.ofList_congr fun _ => order.mem_iff]

theorem Schema.importSection_generate_commands :
    ∃ (schema : Schema) (text : String),
      schema.generate "js" "Kit" = .ok [(fileName "js" "Kit", text)] ∧
        Import.dispatchCommand.statement ∈ importSection text ∧
        Import.processColor.statement ∉ importSection text ∧
        (importSection text).Pairwise (· < ·) := by
  let picker : Component := { commands := [⟨"pick", ["processColor"]⟩] }
  let schema : Schema :=
    ⟨[("Pickers", .components ⟨[("Picker", picker)], by simp⟩)], by simp⟩
  have built : schema.generate "js" "Kit" = .ok _ := rfl
  obtain ⟨text, same, held, _, ascending, _⟩ := Schema.importSection_generate built
  have valid : schema.content = .ok _ := rfl
  rw [same] at built
  refine ⟨schema, text, built, (held _).mpr ?_, fun present => ?_, ascending⟩
  · exact (uses_binding_iff valid _).mpr (by decide)
  · exact absurd ((uses_binding_iff valid _).mp ((held _).mp present)) (by decide)

end NativeViews
