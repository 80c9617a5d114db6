import NativeViews.Proofs.Host.Content
import NativeViews.Proofs.Host.Layout

/-!
The file of a library as one program. Components are built and written one by one, and their texts
are joined; the file is the same as if all statements were written at once, under the imports that
any component needs.
-/

namespace NativeViews

open Script (Program)

/-! ## Imports -/

/-- The imports that are in any of some sets. -/
def Imports.union (sets : List Imports) : Imports :=
  ofPred fun needed => sets.any (·.contains needed)

theorem Imports.contains_ofList (list : List Import) (needed : Import) :
    (ofList list).contains needed = list.contains needed := by
  rw [ofList, contains_ofPred]

/-- Imports noted one after another are those noted for each part alone. -/
theorem Imports.ofList_flatMap {α : Type} (needs : α → List Import) (parts : List α) :
    ofList (parts.flatMap needs) = union (parts.map fun part => ofList (needs part)) := by
  have agree : ∀ needed, (parts.flatMap needs).contains needed
      = (parts.map fun part => ofList (needs part)).any (·.contains needed) := by
    intro needed
    rw [Bool.eq_iff_iff]
    simp [contains_ofList]
  rw [ofList, union, funext agree]

theorem Building.imports_mapM_of_ok {α β : Type} {build : α → Building β} {parts : List α}
    {results : List β} (built : (parts.mapM build).outcome = .ok results) :
    (parts.mapM build).imports = .union (parts.map fun part => (build part).imports) := by
  rw [imports, needs_mapM_of_ok built]
  exact Imports.ofList_flatMap _ parts

/-! ## Components module by module -/

/-- A library comes out as its modules do, one after another. -/
theorem Schema.outcome_toModules_nested (schema : Schema) :
    schema.toModules.outcome
      = (schema.modules.entries.mapM fun ((_, module) : String × Module) =>
          module.toModules.outcome).map List.flatten := by
  rw [toModules, Building.outcome_bind, Building.outcome_mapM]
  rfl

/-! ## The text of a file -/

theorem Component.ne_nil_of_toModule {name : String} {component : Component} {program : Program}
    (built : (component.toModule name).outcome = .ok program) : program ≠ [] := by
  rw [outcome_toModule] at built
  cases described : component.content name with
  | error failure => rw [described] at built; exact nomatch built
  | ok content =>
    rw [described] at built
    obtain rfl := Except.ok.inj built
    exact content.program_ne_nil

/-- Joining the texts of modules leaves only line ends that are trimmed again to the program of
all of them. -/
theorem trimLineEnds_render_flatten {modules : List Program}
    (inside : ∀ module ∈ modules, module ≠ []) :
    trimLineEnds (Program.render modules.flatten) = renderModules modules := by
  by_cases none : modules = []
  · subst none
    rfl
  · obtain ⟨ends, joined⟩ := renderModules_eq_line none inside
    rw [← joined, ends.trimLineEnds_line]

theorem trimLineEnds_renderModules {modules : List Program}
    (inside : ∀ module ∈ modules, module ≠ []) :
    trimLineEnds (renderModules modules) = renderModules modules := by
  by_cases none : modules = []
  · subst none
    rfl
  · exact (renderModules_eq_line none inside).1.trimLineEnds_eq

theorem renderFile_of_trimmed (imports : Imports) {body other : String}
    (same : trimLineEnds body = trimLineEnds other) :
    renderFile imports body = renderFile imports other := by
  simp only [renderFile, same]

theorem fileBanner_eq_line : ∃ line, EndsInLine line ∧ fileBanner = line ++ "\n" := by
  have last (before : String) :
      before ++ "'use strict';\n" = before ++ "'use strict'" ++ ";" ++ "\n" := by
    simp [String.append_assoc]
  exact ⟨_, endsInLine_semicolon.append _, last _⟩

/-- A file ends in one line end. -/
theorem renderFile_eq_line {modules : List Program} (inside : ∀ module ∈ modules, module ≠ [])
    {imports : Imports} (needed : modules = [] → imports.statements = []) :
    ∃ line, EndsInLine line ∧ renderFile imports (renderModules modules) = line ++ "\n" := by
  by_cases none : modules = []
  · subst none
    obtain ⟨line, ends, same⟩ := fileBanner_eq_line
    refine ⟨line, ends, ?_⟩
    rw [renderFile_eq, importHead, needed rfl, ← same]
    simp [moduleTail, renderModules, trimLineEnds]
  · obtain ⟨ends, _⟩ := renderModules_eq_line none inside
    have solid : (renderModules modules).isEmpty = false := by simpa using ends.ne_empty
    refine ⟨fileBanner ++ importHead imports ++ "\n" ++ renderModules modules, ends.append _, ?_⟩
    rw [renderFile_eq, moduleTail, ends.trimLineEnds_eq, solid]
    simp [String.append_assoc]

theorem Schema.generate_eq_bind (extension library : String) (schema : Schema) :
    schema.generate extension library
      = schema.toFileText >>= fun text => .ok [(fileName extension library, text)] := by
  rw [generate]
  cases schema.toFileText <;> rfl

theorem Schema.toFileText_ok_iff {schema : Schema} {text : String} :
    schema.toFileText = .ok text ↔ ∃ modules, schema.toModules.outcome = .ok modules ∧
      text = renderFile schema.toModules.imports (renderModules modules) := by
  rw [toFileText]
  cases schema.toModules.outcome with
  | error failure => simp [Except.map]
  | ok modules => simp [Except.map, eq_comm]

/-- The modules are those of the components. -/
theorem Schema.outcome_toModules_ok_iff {schema : Schema} {modules : List Program} :
    schema.toModules.outcome = .ok modules ↔
      schema.components.mapM (fun entry => (entry.component.toModule entry.name).outcome)
        = .ok modules := by
  rw [toModules_eq, Building.outcome_mapM]

theorem Schema.ne_nil_of_toModules {schema : Schema} {modules : List Program}
    (built : schema.toModules.outcome = .ok modules) : ∀ module ∈ modules, module ≠ [] := by
  intro module member
  obtain ⟨entry, _, single⟩ := exists_of_mapM_ok (outcome_toModules_ok_iff.mp built) module member
  exact Component.ne_nil_of_toModule single

/-- There is a module for each component. -/
theorem Schema.length_of_toModules {schema : Schema} {modules : List Program}
    (built : schema.toModules.outcome = .ok modules) :
    modules.length = schema.components.length :=
  (mapM_ok_iff.mp (outcome_toModules_ok_iff.mp built)).length_eq.symm

/-- After the banner and the imports come the modules, each behind a blank line. -/
theorem Schema.renderFile_toModules {schema : Schema} {modules : List Program}
    (built : schema.toModules.outcome = .ok modules) :
    renderFile schema.toModules.imports (renderModules modules)
      = fileBanner ++ importHead schema.toModules.imports
        ++ String.join (modules.map fun module => "\n" ++ Program.render module) := by
  rw [renderFile_eq, moduleTail_eq_join (ne_nil_of_toModules built)]

/-- The file of a library is written as its statements would be if they were one program: those
that are built for its components, each alone, in their order, under the imports that any of them
needs. Of the text of each component one line end is trimmed, and no more; the file itself ends in
one. -/
theorem Schema.generate_eq_renderFile_program {extension library : String} {schema : Schema}
    {files : GeneratedFiles} (built : schema.generate extension library = .ok files) :
    ∃ (modules : List Program) (imports : Imports) (text : String),
      schema.components.mapM (fun entry => (entry.component.toModule entry.name).outcome)
        = .ok modules ∧
      imports = .union (schema.components.map fun entry =>
        (entry.component.toModule entry.name).imports) ∧
      files = [(fileName extension library, text)] ∧
      text = renderFile imports (Program.render modules.flatten) ∧
      (schema.modules.entries.mapM fun ((_, module) : String × Module) =>
        module.toModules.outcome).map List.flatten = .ok modules ∧
      modules.length = schema.components.length ∧
      (∀ module ∈ modules, EndsInLine (trimLineEnds module.render) ∧
        module.render = trimLineEnds module.render ++ "\n") ∧
      trimLineEnds (renderModules modules) = renderModules modules ∧
      trimLineEnds (Program.render modules.flatten) = renderModules modules ∧
      ∃ line, EndsInLine line ∧ text = line ++ "\n" := by
  rw [generate_eq_bind] at built
  obtain ⟨text, written, same⟩ := exists_of_bind_ok built
  obtain ⟨modules, done, rendered⟩ := toFileText_ok_iff.mp written
  have inside := ne_nil_of_toModules done
  have joined := trimLineEnds_render_flatten inside
  have trimmed := trimLineEnds_renderModules inside
  have union := toModules_eq schema ▸ Building.imports_mapM_of_ok (toModules_eq schema ▸ done)
  refine ⟨modules, schema.toModules.imports, text, outcome_toModules_ok_iff.mp done, union,
    (Except.ok.inj same).symm, rendered.trans (renderFile_of_trimmed _ (trimmed.trans joined.symm)),
    ?_, length_of_toModules done, ?_, trimmed, joined, rendered ▸ renderFile_eq_line inside ?_⟩
  · rw [← outcome_toModules_nested, done]
  · intro module member
    obtain ⟨text, ends, same⟩ := Script.Program.render_eq_line (inside module member)
    rw [same, ends.trimLineEnds_line]
    exact ⟨ends, rfl⟩
  · rintro rfl
    have none : schema.components = [] :=
      List.length_eq_zero_iff.mp (length_of_toModules done).symm
    simp [toModules_eq, none, Building.imports, Imports.ofList, Imports.ofPred, Imports.statements]

theorem Schema.generate_eq_renderFile_program_grouped :
    ∃ (schema : Schema) (files : GeneratedFiles) (modules : List Program) (text : String),
      schema.generate "js" "Kit" = .ok files ∧ files = [(fileName "js" "Kit", text)] ∧
        modules.length = 3 ∧ schema.modules.size = 3 ∧
        text = renderFile (.ofList [.processColor, .componentRegistry, .dispatchCommand])
          (Program.render modules.flatten) := by
  let slider : Component := { props := [⟨"tint", .reserved .color⟩] }
  let picker : Component := { commands := [⟨"pick", ["index"]⟩] }
  let schema : Schema := ⟨[
    ("Controls", .components ⟨[("Slider", slider), ("Plain", {})], by simp⟩),
    ("Timers", .other),
    ("Pickers", .components ⟨[("Picker", picker)], by simp⟩)], by simp⟩
  have built : schema.generate "js" "Kit" = .ok _ := rfl
  obtain ⟨modules, imports, text, _, union, same, written, _, count, _⟩ :=
    Schema.generate_eq_renderFile_program built
  have needed : imports = .ofList [.processColor, .componentRegistry, .dispatchCommand] :=
    union.trans (by decide)
  exact ⟨schema, _, modules, text, built, same, count, rfl, needed ▸ written⟩

end NativeViews
