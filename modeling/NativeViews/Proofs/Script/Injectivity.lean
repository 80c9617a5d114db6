import NativeViews.Proofs.Script.Reader
import NativeViews.Proofs.Script.Scanning

/-!
Printing loses nothing. A script whose names are spelled as they should be, and do not begin with
a reserved word, is read back from its written form, so two scripts are never written alike.
-/

namespace NativeViews.Script

/-- Whether the names of an expression are spelled as they should be and not reserved. -/
def Expr.WellFormed (expr : Expr) : Prop :=
  expr.Named Occurrence.isFree

/-- Whether the names of a program are spelled as they should be and not reserved. -/
def Program.WellFormed (program : Program) : Prop :=
  ∀ stmt ∈ program, stmt.Named Occurrence.isFree

/-- A well-formed expression is read back from its written form. -/
theorem Expr.ofTokens_render {expr : Expr} (formed : expr.WellFormed) :
    Expr.ofTokens (scan (expr.render 0).toList) = some expr := by
  have spelled : expr.Named Occurrence.isSpelled := fun occurrence member =>
    isSpelled_of_isFree (formed occurrence member)
  rw [Expr.scan_render spelled]
  exact (readAs_inductive.expr expr formed).ofTokens_eq

/-- A well-formed program is read back from its written form. -/
theorem Program.ofTokens_render {program : Program} (formed : Program.WellFormed program) :
    Program.ofTokens (scan (Program.render program).toList) = some program := by
  have spelled : ∀ stmt ∈ program, stmt.Named Occurrence.isSpelled :=
    fun stmt inside occurrence member => isSpelled_of_isFree (formed stmt inside occurrence member)
  rw [Program.scan_render spelled]
  exact Stmt.ofTokens_allTokens <| List.forall₂_same.mpr fun stmt inside =>
    readAs_inductive.stmt stmt (formed stmt inside)

/-- Two well-formed expressions that are written alike are the same, and so are two well-formed
programs, whatever the texts and keys inside and however deep objects, functions and choices
nest. -/
theorem render_injective :
    (∀ first second : Expr, first.WellFormed → second.WellFormed →
      first.render 0 = second.render 0 → first = second) ∧
    (∀ first second : Program, Program.WellFormed first → Program.WellFormed second →
      Program.render first = Program.render second → first = second) := by
  constructor
  · intro first second formed other alike
    have read := Expr.ofTokens_render formed
    rw [alike, Expr.ofTokens_render other] at read
    exact (Option.some.inj read).symm
  · intro first second formed other alike
    have read := Program.ofTokens_render formed
    rw [alike, Program.ofTokens_render other] at read
    exact (Option.some.inj read).symm

theorem render_injective_chain :
    Program.WellFormed [.choose (.name "host.ready") [] (some [.throw (.text "it\'s late")])] ∧
      Program.WellFormed
        ([.choose (.name "host.ready") [] (some [.throw (.text ("it" ++ "\'s late"))])]) ∧
      ([.choose (.name "host.ready") [] (some [.throw (.text "it\'s late")])] : Program)
        = [.choose (.name "host.ready") [] (some [.throw (.text ("it" ++ "\'s late"))])] := by
  have formed (value : String) :
      Program.WellFormed [.choose (.name "host.ready") [] (some [.throw (.text value)])] := by
    have joined : "host.ready" = "host" ++ ("." ++ "ready") := by simp
    have host : isIdentifier "host" := by simp [isIdentifier]
    have ready : isIdentifier "ready" := by simp [isIdentifier]
    have path : Occurrence.isFree (.refers "host.ready") :=
      joined ▸ isFree_append host (by simp [reservedWords]) (isPath_of_isIdentifier ready)
    simp [Program.WellFormed, path]
  exact ⟨formed _, formed _, render_injective.2 _ _ (formed _) (formed _) rfl⟩

end NativeViews.Script
