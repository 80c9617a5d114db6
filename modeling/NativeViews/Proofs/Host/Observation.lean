import NativeViews.Proofs.Host.Recovery

/-!
What a generated file tells. Two libraries are written alike exactly if their components have
the same contents in the same order.
-/

namespace NativeViews

open Script (Program)

theorem Content.componentRegistry_mem_needs (content : Content) :
    .componentRegistry ∈ content.needs := by
  simp [Content.needs]

/-- The modules of a file are the program of all its statements, a blank line after the imports. -/
theorem moduleTail_contents {contents : List Content} (some : contents ≠ []) :
    moduleTail (renderModules (contents.map Content.program))
      = "\n" ++ Program.render (contents.flatMap Content.program) := by
  have inside : ∀ module ∈ contents.map Content.program, module ≠ [] :=
    List.forall_mem_map.mpr fun content _ => content.program_ne_nil
  rw [moduleTail_renderModules (by simpa using some) inside, List.flatMap_def]

/-- The section of imports of a file holds the statements of the imports of its contents. -/
theorem importSection_contentsText (contents : List Content) :
    importSection (contentsText contents)
      = (Imports.ofList (contents.flatMap Content.needs)).statements := by
  refine importSection_renderFile fun none => ?_
  cases contents with
  | nil => rfl
  | cons content contents =>
    have needed : (Imports.ofList ((content :: contents).flatMap Content.needs)).contains
        .componentRegistry := by
      simp [Imports.ofList, content.componentRegistry_mem_needs]
    have member := Imports.mem_statements.mpr ⟨_, needed, rfl⟩
    rw [none] at member
    exact absurd member List.not_mem_nil

/-- Files that are alike have the same modules. -/
theorem moduleTail_of_contentsText {first second : List Content}
    (same : contentsText first = contentsText second) :
    moduleTail (renderModules (first.map Content.program))
      = moduleTail (renderModules (second.map Content.program)) := by
  have statements := congrArg importSection same
  rw [importSection_contentsText, importSection_contentsText] at statements
  have heads : importHead (.ofList (first.flatMap Content.needs))
      = importHead (.ofList (second.flatMap Content.needs)) := by
    rw [importHead, importHead, statements]
  rw [contentsText, contentsText, renderFile_eq, renderFile_eq, heads] at same
  exact String.append_right_inj _ |>.mp same

theorem moduleTail_ne_empty {contents : List Content} (some : contents ≠ []) :
    moduleTail (renderModules (contents.map Content.program)) ≠ "" := by
  rw [moduleTail_contents some]
  intro empty
  have chars := congrArg String.toList empty
  simp at chars

/-- The text of a file tells the contents of its components, where the parameters of commands are
identifiers. -/
theorem contentsText_injective {first second : List Content}
    (callable : ∀ content ∈ first, content.Callable)
    (callableOther : ∀ content ∈ second, content.Callable)
    (same : contentsText first = contentsText second) : first = second := by
  have tails := moduleTail_of_contentsText same
  by_cases none : first = []
  · subst none
    by_cases noneOther : second = []
    · exact noneOther.symm
    · exact absurd tails.symm (moduleTail_ne_empty noneOther)
  · by_cases noneOther : second = []
    · subst noneOther
      exact absurd tails (moduleTail_ne_empty none)
    · rw [moduleTail_contents none, moduleTail_contents noneOther] at tails
      have rendered := (String.append_right_inj _).mp tails
      have read := Content.ofTokens_render callable
      rw [rendered, Content.ofTokens_render callableOther] at read
      exact Content.flatMap_readProgram_injective (Option.some.inj read).symm

/-! ## Schemas -/

/-- Whether the parameters of all commands of a schema are identifiers. -/
def Schema.Callable (schema : Schema) : Prop :=
  ∀ entry ∈ schema.components, ∀ command ∈ entry.component.commands, ∀ param ∈ command.params,
    Script.isIdentifier param

theorem Component.callable_content {name : String} {component : Component} {content : Content}
    (valid : component.content name = .ok content)
    (callable : ∀ command ∈ component.commands, ∀ param ∈ command.params,
      Script.isIdentifier param) : content.Callable := by
  obtain ⟨attributes, _, same⟩ := exists_of_bind_ok valid
  obtain rfl := Except.ok.inj same
  exact List.forall_mem_map.mpr callable

theorem Schema.callable_content {schema : Schema} {contents : List Content}
    (valid : schema.content = .ok contents) (callable : schema.Callable) :
    ∀ content ∈ contents, content.Callable := by
  intro content member
  obtain ⟨entry, inside, built⟩ := exists_of_mapM_ok valid content member
  exact Component.callable_content built (callable entry inside)

/-- Two schemas for which files are generated have the same files if they have the same content,
whatever else they hold; and they have the same content if they have the same files and the
parameters of their commands are identifiers. -/
theorem Schema.generate_eq_iff_content {extension library : String} {first second : Schema}
    {files others : GeneratedFiles} (built : first.generate extension library = .ok files)
    (builtOther : second.generate extension library = .ok others) :
    (first.content = second.content → files = others) ∧
      (first.Callable → second.Callable → files = others → first.content = second.content) := by
  obtain ⟨contents, valid, rfl⟩ := exists_content_of_generate built
  obtain ⟨otherContents, validOther, rfl⟩ := exists_content_of_generate builtOther
  rw [valid, validOther]
  constructor
  · intro same
    rw [Except.ok.inj same]
  · intro callable callableOther same
    simp only [List.cons.injEq, Prod.mk.injEq, true_and, and_true] at same
    rw [contentsText_injective (callable_content valid callable)
      (callable_content validOther callableOther) same]

theorem Schema.generate_eq_iff_content_regrouped :
    ∃ first second : Schema, ∃ files others, first ≠ second ∧
      first.generate "js" "Kit" = .ok files ∧ second.generate "js" "Kit" = .ok others ∧
      first.Callable ∧ second.Callable ∧ files = others ∧ first.content = second.content := by
  let slider : Component :=
    { props := [⟨"tint", .reserved .color⟩], commands := [⟨"focus", ["view"]⟩] }
  let first : Schema := ⟨[("Controls", .components ⟨[("Slider",
    { slider with bases := [.coreViewProps] })], by simp⟩)], by simp⟩
  let second : Schema :=
    ⟨[("Timers", .other), ("Slider", .components ⟨[("Slider", slider)], by simp⟩)], by simp⟩
  have built : first.generate "js" "Kit" = .ok _ := rfl
  have builtOther : second.generate "js" "Kit" = .ok _ := rfl
  have view : Script.isIdentifier "view" := by simp [Script.isIdentifier]
  have callable : first.Callable := by simp [Callable, components, first, slider, Module.components?, view]
  have callableOther : second.Callable := by
    simp [Callable, components, second, slider, Module.components?, view]
  obtain ⟨forward, backward⟩ := Schema.generate_eq_iff_content built builtOther
  have same := forward rfl
  exact ⟨first, second, _, _, by simp [first, second], built, builtOther, callable, callableOther,
    same, backward callable callableOther same⟩

end NativeViews
