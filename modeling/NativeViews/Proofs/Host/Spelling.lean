import NativeViews.Proofs.Host.Reading
import NativeViews.Proofs.Script.Provenance

/-!
How the names of generated modules are spelled. All of them are the generator's own, but for the
parameters of commands, which are taken as the schema has them.
-/

namespace NativeViews

open Script (Expr Member Stmt Program Occurrence isPath MadeOf)

theorem Script.isPath_of_isFree {occurrence : Occurrence} (free : occurrence.isFree) :
    isPath occurrence.text := by
  have spelled := isSpelled_of_isFree free
  cases occurrence with
  | binds name => exact isPath_of_isIdentifier spelled
  | refers path => exact spelled

namespace Content

/-- The names of a module satisfy what free names do, if the parameters do. -/
theorem named_program_iff (fits : Occurrence → Bool) (content : Content)
    (own : ∀ occurrence : Occurrence, occurrence.isFree → fits occurrence) :
    (∀ occurrence ∈ Stmt.allNames content.program, fits occurrence) ↔
      ∀ param ∈ content.params, fits (.binds param) ∧ fits (.refers param) := by
  rw [← named_dispatchers_iff fits content own, program, Stmt.allNames_eq, List.forall_mem_flatMap,
    List.forall_mem_append]
  exact and_iff_right fun stmt inside occurrence named =>
    own occurrence (content.named_frame stmt inside occurrence named)

theorem params_of_content {name : String} {component : Component} {content : Content}
    (valid : component.content name = .ok content) :
    content.params = component.commands.flatMap Command.params := by
  obtain ⟨attributes, _, same⟩ := exists_of_bind_ok valid
  obtain rfl := Except.ok.inj same
  rw [params, List.flatMap_map]

end Content

/-- What of a schema is written into a module as it is. The text of a module is made of fixed
marks, blanks, literals, keys and names; the names are paths of identifiers, but for parameters of
commands, and so all of them are exactly if the parameters are. -/
theorem madeOf_toModule {name : String} {component : Component} {program : Program}
    (built : (component.toModule name).outcome = .ok program) :
    MadeOf (Stmt.allNames program) (Program.render program) ∧
    (∀ occurrence ∈ Stmt.allNames program, isPath occurrence.text ∨
      ∃ command ∈ component.commands, occurrence.text ∈ command.params) ∧
    ((∀ occurrence ∈ Stmt.allNames program, isPath occurrence.text) ↔
      ∀ command ∈ component.commands, ∀ param ∈ command.params, isPath param) := by
  obtain ⟨content, valid, rfl⟩ := Component.exists_content built
  have params := Content.params_of_content valid
  refine ⟨Program.madeOf_render _, fun occurrence member => ?_, ?_⟩
  · let fits (occurrence : Occurrence) : Bool :=
      isPath occurrence.text || content.params.contains occurrence.text
    have own (occurrence : Occurrence) (free : occurrence.isFree) : fits occurrence := by
      simp [fits, Script.isPath_of_isFree free]
    have named := (Content.named_program_iff fits content own).mpr fun param inside => by
      simp [fits, Occurrence.text, inside]
    simpa [fits, params] using named occurrence member
  · have spelled := Content.named_program_iff (fun occurrence => isPath occurrence.text) content
      fun occurrence free => Script.isPath_of_isFree free
    rw [params, List.forall_mem_flatMap] at spelled
    simpa [Occurrence.text] using spelled

theorem madeOf_toModule_focus :
    ∃ (component : Component) (program : Program),
      (component.toModule "Slider").outcome = .ok program ∧
      (∃ command ∈ component.commands, command.params ≠ []) ∧
      ∀ occurrence ∈ Stmt.allNames program, isPath occurrence.text := by
  let component : Component := { commands := [⟨"focus", ["view"]⟩] }
  have built : (component.toModule "Slider").outcome = .ok _ := rfl
  have view : isPath "view" := Script.isPath_of_isIdentifier (by simp [Script.isIdentifier])
  obtain ⟨_, _, spelled⟩ := madeOf_toModule built
  exact ⟨component, _, built, by simp [component], spelled.mpr (by simp [component, view])⟩

/-- A parameter that holds a blank is written as it is. -/
theorem not_isPath_blank :
    ∃ (component : Component) (program : Program),
      (component.toModule "Slider").outcome = .ok program ∧
      ∃ occurrence ∈ Stmt.allNames program, ¬ isPath occurrence.text := by
  let component : Component := { commands := [⟨"focus", ["a b"]⟩] }
  have built : (component.toModule "Slider").outcome = .ok _ := rfl
  exact ⟨component, _, built, .binds "a b", List.mem_of_getElem? (i := 7) rfl, by decide +kernel⟩

end NativeViews
