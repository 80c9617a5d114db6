import NativeViews.Host.Library
import NativeViews.Proofs.Script.Induction

/-!
The layout of a file: a banner, a section of imports, and the modules of all components as one
program. Nothing of a program but its last line end is trimmed.
-/

namespace NativeViews

open Script (Expr Member Stmt Program)

/-! ## Texts that end inside a line -/

/-- Whether the last character of a text is there and is no line end. -/
def EndsInLine (text : String) : Prop :=
  ∃ before c, text = before ++ String.singleton c ∧ c ≠ '\n'

theorem EndsInLine.append {text : String} (ends : EndsInLine text) (before : String) :
    EndsInLine (before ++ text) := by
  obtain ⟨inside, c, rfl, solid⟩ := ends
  exact ⟨before ++ inside, c, by rw [String.append_assoc], solid⟩

theorem endsInLine_semicolon : EndsInLine ";" :=
  ⟨"", ';', rfl, by decide⟩

theorem endsInLine_brace : EndsInLine "\x7d" :=
  ⟨"", '\x7d', rfl, by decide⟩

theorem EndsInLine.ne_empty {text : String} (ends : EndsInLine text) : text ≠ "" := by
  obtain ⟨before, c, rfl, _⟩ := ends
  intro empty
  have chars := congrArg String.toList empty
  simp at chars

/-- Without its line end a line is left as it is. -/
theorem EndsInLine.trimLineEnds_eq {text : String} (ends : EndsInLine text) :
    trimLineEnds text = text := by
  obtain ⟨before, c, rfl, solid⟩ := ends
  simp [trimLineEnds, solid]

theorem EndsInLine.trimLineEnds_line {text : String} (ends : EndsInLine text) :
    trimLineEnds (text ++ "\n") = text := by
  obtain ⟨before, c, rfl, solid⟩ := ends
  simp [trimLineEnds, solid]

/-! ## Statements and programs -/

theorem endsInLine_braced (level : Nat) (lines : String) :
    EndsInLine (Script.braced level lines) := by
  rw [Script.braced]
  exact endsInLine_brace.append _

theorem endsInLine_renderElse {stmts : List Stmt}
    (ends : ∀ stmt ∈ stmts, ∀ level, EndsInLine (stmt.render level)) (level : Nat) :
    EndsInLine (Stmt.renderElse level stmts) := by
  cases stmts with
  | nil => exact endsInLine_braced level _
  | cons stmt more =>
    cases more with
    | nil =>
      rw [Stmt.renderElse]
      split
      · exact ends stmt (by simp) level
      · exact endsInLine_braced level _
    | cons next more => exact endsInLine_braced level _

theorem endsInLine_inductive :
    Script.Inductive (fun _ => True) (fun _ => True)
      (fun stmt => ∀ level, EndsInLine (stmt.render level)) where
  bool _ := trivial
  text _ := trivial
  name _ := trivial
  object _ _ := trivial
  array _ _ := trivial
  call _ _ _ := trivial
  construct _ _ _ := trivial
  arrow _ _ _ := trivial
  property _ _ _ := trivial
  spread _ _ := trivial
  method _ _ _ _ := trivial
  declare _ _ _ _ := endsInLine_semicolon.append _
  exportConst _ _ _ _ := endsInLine_semicolon.append _
  exportDefault _ _ _ := endsInLine_semicolon.append _
  assign _ _ _ _ := endsInLine_semicolon.append _
  eval _ _ _ := endsInLine_semicolon.append _
  throw _ _ _ := endsInLine_semicolon.append _
  choose test body alternate _ _ otherwise level := by
    cases alternate with
    | none =>
      show EndsInLine (_ ++ Script.braced level _ ++ "")
      rw [String.append_empty]
      exact (endsInLine_braced level _).append _
    | some stmts =>
      exact ((endsInLine_renderElse (otherwise stmts rfl) level).append _).append _

/-- A program with statements is a text that ends inside a line, and a line end. -/
theorem Script.Program.render_eq_line {program : Program} (some : program ≠ []) :
    ∃ text, EndsInLine text ∧ Program.render program = text ++ "\n" := by
  have ends (stmt : Stmt) : EndsInLine (stmt.render 0) := endsInLine_inductive.stmt stmt 0
  induction program with
  | nil => exact absurd rfl some
  | cons stmt program ih =>
    cases program with
    | nil =>
      refine ⟨Script.indentation 0 ++ stmt.render 0, (ends stmt).append _, ?_⟩
      simp [Script.Program.render, Stmt.line]
    | cons next program =>
      obtain ⟨text, inside, same⟩ := ih (by simp)
      refine ⟨stmt.line 0 ++ "\n" ++ text, inside.append _, ?_⟩
      rw [Script.Program.render] at same
      rw [Script.Program.render, List.map_cons, String.intercalate_cons_of_ne_nil (by simp), same]
      simp only [String.append_assoc]

theorem Script.Program.render_append {first second : Program} (some : first ≠ [])
    (others : second ≠ []) :
    Program.render (first ++ second) = Program.render first ++ "\n" ++ Program.render second := by
  rw [Script.Program.render, List.map_append,
    String.intercalate_append_of_ne_nil (by simpa using some) (by simpa using others)]
  rfl

/-! ## The modules of a file -/

/-- The modules of a file are written as one program would be, but for its last line end. -/
theorem renderModules_eq_line {modules : List Program} (some : modules ≠ [])
    (inside : ∀ module ∈ modules, module ≠ []) :
    EndsInLine (renderModules modules) ∧
      renderModules modules ++ "\n" = Program.render modules.flatten := by
  induction modules with
  | nil => exact absurd rfl some
  | cons module modules ih =>
    obtain ⟨first, others⟩ := List.forall_mem_cons.mp inside
    obtain ⟨text, ends, same⟩ := Script.Program.render_eq_line first
    have trimmed : trimLineEnds (Program.render module) = text := by
      rw [same, ends.trimLineEnds_line]
    cases modules with
    | nil =>
      have single : renderModules [module] = text := by simp [renderModules, trimmed]
      rw [single, List.flatten_cons, List.flatten_nil, List.append_nil, same]
      exact ⟨ends, rfl⟩
    | cons next modules =>
      obtain ⟨later, joined⟩ := ih (by simp) others
      have split : renderModules (module :: next :: modules)
          = text ++ "\n\n" ++ renderModules (next :: modules) := by
        rw [renderModules, List.map_cons, String.intercalate_cons_of_ne_nil (by simp), trimmed]
        rfl
      have rest : (next :: modules).flatten ≠ [] := by
        have some := others next (by simp)
        simp [some]
      refine ⟨split ▸ later.append _, ?_⟩
      rw [split, List.flatten_cons, Script.Program.render_append first rest, same, ← joined]
      simp [String.append_assoc]

/-! ## The section of imports -/

/-- The section of imports of a file: the lines after the blank line that follows the banner, up
to the next blank line. -/
def importSection (text : String) : List String :=
  ((((text.toList.drop fileBanner.toList.length).splitOn '\n').drop 1).takeWhile (· ≠ [])).map
    String.ofList

/-- What stands between the banner and the modules. -/
def importHead (imports : Imports) : String :=
  if imports.statements.isEmpty then ""
  else "\n" ++ String.join (imports.statements.map (· ++ "\n"))

theorem splitOn_lines {lines : List (List Char)} (inside : ∀ line ∈ lines, '\n' ∉ line)
    (rest : List Char) :
    ((lines.flatMap (· ++ ['\n'])) ++ rest).splitOn '\n' = lines ++ rest.splitOn '\n' := by
  induction lines with
  | nil => rfl
  | cons line lines ih =>
    obtain ⟨first, others⟩ := List.forall_mem_cons.mp inside
    rw [List.flatMap_cons, List.append_assoc, List.append_assoc, List.singleton_append,
      List.splitOn_append_cons_self_of_not_mem first, ih others, List.cons_append]

theorem not_mem_toList {c : Char} {chars : List Char} {text : String}
    (same : String.ofList chars = text) (absent : c ∉ chars) : c ∉ text.toList := by
  subst same
  simpa using absent

theorem Import.binding_inLine (needed : Import) : '\n' ∉ needed.binding.toList := by
  cases needed <;> exact not_mem_toList rfl (by decide)

theorem Import.path_inLine (needed : Import) : '\n' ∉ needed.path.toList := by
  cases needed <;> exact not_mem_toList rfl (by decide)

/-- The statement of an import is one line, and not a blank one. -/
theorem Import.statement_inLine (needed : Import) :
    '\n' ∉ needed.statement.toList ∧ needed.statement.toList ≠ [] := by
  constructor
  · unfold statement
    split <;> simp [needed.binding_inLine, needed.path_inLine]
  · simp [statement]

theorem Imports.mem_statements {imports : Imports} {line : String} :
    line ∈ imports.statements ↔ ∃ needed, imports.contains needed ∧ needed.statement = line := by
  rw [statements, List.mem_mergeSort, List.mem_map]
  simp [contains]

theorem takeWhile_lines {lines : List (List Char)} (solid : ∀ line ∈ lines, line ≠ [])
    (rest : List (List Char)) :
    (lines ++ [] :: rest).takeWhile (· ≠ []) = lines := by
  rw [List.takeWhile_append_of_pos (by simpa using solid)]
  simp

/-- What follows the statements of the imports begins with a line end, or is nothing. -/
def moduleTail (body : String) : String :=
  if (trimLineEnds body).isEmpty then "" else "\n" ++ trimLineEnds body ++ "\n"

theorem renderFile_eq (imports : Imports) (body : String) :
    renderFile imports body = fileBanner ++ importHead imports ++ moduleTail body :=
  rfl

/-- The modules of a file are the program of all their statements, a blank line after the
imports. -/
theorem moduleTail_renderModules {modules : List Program} (some : modules ≠ [])
    (inside : ∀ module ∈ modules, module ≠ []) :
    moduleTail (renderModules modules) = "\n" ++ Program.render modules.flatten := by
  obtain ⟨ends, joined⟩ := renderModules_eq_line some inside
  have solid : (trimLineEnds (renderModules modules)).isEmpty = false := by
    rw [ends.trimLineEnds_eq]
    simpa using ends.ne_empty
  rw [moduleTail, solid, ends.trimLineEnds_eq, String.append_assoc, joined]
  rfl

theorem join_render {modules : List Program} (some : modules ≠ [])
    (inside : ∀ module ∈ modules, module ≠ []) :
    String.join (modules.map fun module => "\n" ++ Program.render module)
      = "\n" ++ Program.render modules.flatten := by
  induction modules with
  | nil => exact absurd rfl some
  | cons module modules ih =>
    obtain ⟨first, others⟩ := List.forall_mem_cons.mp inside
    rw [List.map_cons, String.join_cons]
    cases modules with
    | nil => simp
    | cons next modules =>
      have rest : (next :: modules).flatten ≠ [] := by
        have some := others next (by simp)
        simp [some]
      have split : (module :: next :: modules).flatten = module ++ (next :: modules).flatten :=
        List.flatten_cons
      rw [ih (by simp) others, split, Script.Program.render_append first rest]
      simp only [String.append_assoc]

/-- Each module of a file follows a blank line. -/
theorem moduleTail_eq_join {modules : List Program} (inside : ∀ module ∈ modules, module ≠ []) :
    moduleTail (renderModules modules)
      = String.join (modules.map fun module => "\n" ++ Program.render module) := by
  by_cases none : modules = []
  · subst none
    rfl
  · rw [moduleTail_renderModules none inside, join_render none inside]

theorem splitOn_moduleTail (body : String) :
    ∃ lines, (moduleTail body).toList.splitOn '\n' = [] :: lines := by
  rw [moduleTail]
  split
  · exact ⟨[], rfl⟩
  · refine ⟨(trimLineEnds body ++ "\n").toList.splitOn '\n', ?_⟩
    have opened : ("\n" ++ trimLineEnds body ++ "\n").toList
        = [] ++ '\n' :: (trimLineEnds body ++ "\n").toList := by
      simp
    rw [opened, List.splitOn_append_cons_self_of_not_mem (by simp)]

/-- The section of imports holds the statements of the imports, unless modules follow and there
are none. -/
theorem importSection_renderFile {imports : Imports} {body : String}
    (needed : imports.statements = [] → trimLineEnds body = "") :
    importSection (renderFile imports body) = imports.statements := by
  have dropped : (renderFile imports body).toList.drop fileBanner.toList.length
      = (importHead imports).toList ++ (moduleTail body).toList := by
    rw [renderFile_eq, String.toList_append, String.toList_append, List.append_assoc,
      List.drop_left]
  obtain ⟨later, tail⟩ := splitOn_moduleTail body
  rw [importSection, dropped]
  cases statements : imports.statements with
  | nil =>
    simp [importHead, statements, moduleTail, needed statements]
  | cons statement others =>
    have members : ∀ line ∈ imports.statements, '\n' ∉ line.toList ∧ line.toList ≠ [] := by
      intro line member
      obtain ⟨held, _, rfl⟩ := Imports.mem_statements.mp member
      exact held.statement_inLine
    have lines : (importHead imports).toList
        = ([] :: imports.statements.map String.toList).flatMap (· ++ ['\n']) := by
      simp [importHead, statements, String.toList_join, List.flatMap_map]
    have inside : ∀ line ∈ [] :: imports.statements.map String.toList, '\n' ∉ line := by
      simp only [List.forall_mem_cons, List.forall_mem_map]
      exact ⟨by simp, fun line member => (members line member).1⟩
    have solid : ∀ line ∈ imports.statements.map String.toList, line ≠ [] := by
      simp only [List.forall_mem_map]
      exact fun line member => (members line member).2
    rw [lines, splitOn_lines inside, tail, List.cons_append, List.drop_succ_cons, List.drop_zero,
      takeWhile_lines solid, List.map_map, ← statements]
    simp

end NativeViews
