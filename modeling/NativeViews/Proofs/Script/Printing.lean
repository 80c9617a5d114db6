import NativeViews.Proofs.Script.Indentation
import NativeViews.Script.Printing

/-!
What printing does to a printer: it appends and leaves the level as it is. What is appended depends
on the part and the level alone and is the written form of the part, so parts in turn append their
written forms one after the other.
-/

namespace NativeViews.Script

/-- A printer that has written a text more. -/
def Printer.wrote (printer : Printer) (text : String) : Printer :=
  { printer with written := printer.written ++ text }

@[simp] theorem Printer.level_wrote (printer : Printer) (text : String) :
    (printer.wrote text).level = printer.level :=
  rfl

@[simp] theorem Printer.wrote_wrote (printer : Printer) (first second : String) :
    (printer.wrote first).wrote second = printer.wrote (first ++ second) := by
  simp only [wrote, String.append_assoc]

@[simp] theorem Printer.wrote_empty (printer : Printer) : printer.wrote "" = printer := by
  simp only [wrote, String.append_empty]

namespace Printing

/-- Whether printing succeeds, appends a text that depends on the level alone, and leaves the level
as it is. -/
def Writes (printing : Printing) (text : Nat → String) : Prop :=
  ∀ printer : Printer, printing.run printer = some ((), printer.wrote (text printer.level))

section Steps

variable {printing next : Printing} {text other : Nat → String}

theorem writes_nothing : Writes (pure ()) fun _ => "" := by
  intro printer
  rw [Printer.wrote_empty]
  rfl

theorem writes_put (text : String) : Writes (put text) fun _ => text := by
  intro printer
  rfl

theorem writes_pad : Writes pad indentation := by
  intro printer
  rfl

theorem Writes.andThen (first : Writes printing text) (second : Writes next other) :
    Writes (do printing; next) fun level => text level ++ other level := by
  intro printer
  have later := second (printer.wrote (text printer.level))
  rw [Printer.level_wrote, Printer.wrote_wrote] at later
  rw [StateT.run_bind, first printer]
  exact later

theorem Writes.congr (writes : Writes printing text) (same : ∀ level, text level = other level) :
    Writes printing other := by
  intro printer
  rw [← same]
  exact writes printer

theorem Writes.enclosed (inside : Writes printing text) (opening closing : String) :
    Writes (enclosed opening printing closing) fun level => opening ++ text level ++ closing :=
  ((writes_put opening).andThen (inside.andThen (writes_put closing))).congr fun _ =>
    String.append_assoc.symm

theorem Writes.line (entry : Writes printing text) (ending : String) :
    Writes (line printing ending) fun level => indentation level ++ text level ++ ending :=
  (writes_pad.andThen (entry.andThen (writes_put ending))).congr fun _ =>
    String.append_assoc.symm

/-- A block goes one level in for its lines. It comes back from there, and not from the outermost
level, since its lines have left the level as it was. -/
theorem Writes.block (lines : Writes printing text) :
    Writes (block printing) fun level => braced level (text (level + 1)) := by
  intro printer
  let entered : Printer := { printer.wrote "\x7b\n" with level := printer.level + 1 }
  let inside : Printer := entered.wrote (text (printer.level + 1))
  let outside : Printer := (printer.wrote "\x7b\n").wrote (text (printer.level + 1))
  have within : printing.run entered = some ((), inside) := lines entered
  have back : leave.run inside = some ((), outside) := rfl
  have closing := (writes_pad.andThen (writes_put "\x7d")) outside
  calc
    (Printing.block printing).run printer
      = printing.run entered >>= fun after => leave.run after.2 >>= fun after =>
          (do pad; put "\x7d" : Printing).run after.2 := rfl
    _ = leave.run inside >>= fun after => (do pad; put "\x7d" : Printing).run after.2 := by
      rw [within]
      rfl
    _ = (do pad; put "\x7d" : Printing).run outside := by
      rw [back]
      rfl
    _ = some ((), printer.wrote (braced printer.level (text (printer.level + 1)))) := by
      rw [closing]
      simp only [outside, Printer.wrote_wrote, Printer.level_wrote, braced, String.append_assoc]

/-- Leaving alone may fail. -/
example : leave.run {} = none :=
  rfl

end Steps

end Printing

open Printing

/-! ## Parts of a script -/

/-- Whether printing an expression writes its written form. -/
def Expr.PrintsForm (expr : Expr) : Prop :=
  Writes expr.print fun level => expr.render level

/-- Whether printing a member writes its written form. -/
def Member.PrintsForm (member : Member) : Prop :=
  Writes member.print fun level => member.render level

/-- Whether printing a statement writes its written form. -/
def Stmt.PrintsForm (stmt : Stmt) : Prop :=
  Writes stmt.print fun level => stmt.render level

theorem writes_printRest {exprs : List Expr} (prints : ∀ expr ∈ exprs, expr.PrintsForm) :
    Writes (Expr.printRest exprs) fun level => Expr.renderRest level exprs := by
  induction exprs with
  | nil => exact writes_nothing
  | cons expr exprs ih =>
    obtain ⟨first, others⟩ := List.forall_mem_cons.mp prints
    have writes := (writes_put ", ").andThen (first.andThen (ih others))
    exact writes.congr fun _ => String.append_assoc.symm

theorem writes_printList {exprs : List Expr} (prints : ∀ expr ∈ exprs, expr.PrintsForm) :
    Writes (Expr.printList exprs) fun level => Expr.renderList level exprs := by
  cases exprs with
  | nil => exact writes_nothing
  | cons expr exprs =>
    obtain ⟨first, others⟩ := List.forall_mem_cons.mp prints
    exact first.andThen (writes_printRest others)

theorem writes_memberLines {members : List Member}
    (prints : ∀ member ∈ members, member.PrintsForm) :
    Writes (Member.printLines members) fun level => Member.renderLines level members := by
  induction members with
  | nil => exact writes_nothing
  | cons member members ih =>
    obtain ⟨first, others⟩ := List.forall_mem_cons.mp prints
    exact (first.line ",\n").andThen (ih others)

theorem writes_printObject {members : List Member}
    (prints : ∀ member ∈ members, member.PrintsForm) :
    Writes (Member.printObject members) fun level => Member.renderObject level members := by
  cases members with
  | nil => exact writes_put "\x7b\x7d"
  | cons member members => exact (writes_memberLines prints).block

theorem writes_stmtLines {stmts : List Stmt} (prints : ∀ stmt ∈ stmts, stmt.PrintsForm) :
    Writes (Stmt.printLines stmts) fun level => Stmt.renderLines level stmts := by
  induction stmts with
  | nil => exact writes_nothing
  | cons stmt stmts ih =>
    obtain ⟨first, others⟩ := List.forall_mem_cons.mp prints
    exact (first.line "\n").andThen (ih others)

theorem writes_printElse {stmts : List Stmt} (prints : ∀ stmt ∈ stmts, stmt.PrintsForm) :
    Writes (Stmt.printElse stmts) fun level => Stmt.renderElse level stmts := by
  cases stmts with
  | nil => exact writes_nothing.block
  | cons stmt stmts =>
    have lines := (writes_stmtLines prints).block
    cases stmts with
    | nil =>
      obtain ⟨single, _⟩ := List.forall_mem_cons.mp prints
      by_cases chained : stmt.isChoice
      · simpa [Stmt.printElse, Stmt.renderElse, Stmt.PrintsForm, chained] using single
      · simpa [Stmt.printElse, Stmt.renderElse, Stmt.printLines, Stmt.renderLines, chained]
          using lines
    | cons next stmts => exact lines

theorem writes_printAlternate {alternate : Option (List Stmt)}
    (prints : ∀ stmts ∈ alternate, ∀ stmt ∈ stmts, stmt.PrintsForm) :
    Writes (Stmt.printAlternate alternate) fun level => Stmt.renderAlternate level alternate := by
  cases alternate with
  | none => exact writes_nothing
  | some stmts => exact (writes_put " else ").andThen (writes_printElse (prints stmts rfl))

theorem printsForm_inductive :
    Inductive Expr.PrintsForm Member.PrintsForm Stmt.PrintsForm where
  bool value := writes_put (if value then "true" else "false")
  text value := writes_put (quote value)
  name path := writes_put path
  object _ inside := writes_printObject inside
  array _ inside := (writes_printList inside).enclosed "[" "]"
  call callee _ inside := (writes_printList inside).enclosed (callee ++ "(") ")"
  construct callee _ inside := (writes_printList inside).enclosed ("new " ++ callee ++ "(") ")"
  arrow params _ inside := (writes_put (writtenParams params ++ " => ")).andThen inside
  property key _ inside := (writes_put (writtenKey key ++ ": ")).andThen inside
  spread _ inside := (writes_put "...").andThen inside
  method key params _ inside :=
    (writes_put (writtenKey key ++ writtenParams params ++ " ")).andThen
      (writes_stmtLines inside).block
  declare name _ inside := inside.enclosed ("let " ++ name ++ " = ") ";"
  exportConst name _ inside := inside.enclosed ("export const " ++ name ++ " = ") ";"
  exportDefault _ inside := inside.enclosed "export default " ";"
  assign target _ inside := inside.enclosed (target ++ " = ") ";"
  eval _ inside := inside.andThen (writes_put ";")
  throw _ inside := inside.enclosed "throw " ";"
  choose _ _ _ condition inside otherwise := by
    have opening := condition.enclosed "if (" ") "
    have writes := opening.andThen
      ((writes_stmtLines inside).block.andThen (writes_printAlternate otherwise))
    exact writes.congr fun _ => String.append_assoc.symm

/-! ## Parts in turn -/

namespace Part

/-- The written form of a part on a level. -/
def text (level : Nat) : Part → String
  | fragment expr => expr.render level
  | statement stmt => stmt.line level

/-- Whether every name in a part satisfies a condition. -/
def Named (fits : Occurrence → Bool) : Part → Prop
  | fragment expr => expr.Named fits
  | statement stmt => stmt.Named fits

/-- A text with the blanks of a level at the start of every line that a part begins itself. A
statement begins all its lines, an expression all but the first. -/
def shifted (level : Nat) (text : String) : Part → String
  | fragment _ => hung level text
  | statement _ => inset level text

theorem writes_print (part : Part) : Writes part.print fun level => part.text level := by
  cases part with
  | fragment expr => exact printsForm_inductive.expr expr
  | statement stmt => exact Writes.line (printsForm_inductive.stmt stmt) "\n"

theorem text_eq_shifted {part : Part} (named : part.Named Occurrence.isInLine) (level : Nat) :
    part.text level = part.shifted level (part.text 0) := by
  cases part with
  | fragment expr => exact Expr.render_eq_hung named level
  | statement stmt => exact Stmt.line_eq_inset named level

end Part

namespace Printer

theorem print_eq (printer : Printer) (part : Part) :
    printer.print part = some (printer.wrote (part.text printer.level)) := by
  rw [print, part.writes_print printer]
  rfl

theorem printAll_eq (printer : Printer) (parts : List Part) :
    printer.printAll parts
      = some (printer.wrote (String.join (parts.map (Part.text printer.level)))) := by
  induction parts generalizing printer with
  | nil => exact congrArg some printer.wrote_empty.symm
  | cons part parts ih =>
    have later := ih (printer.wrote (part.text printer.level))
    rw [level_wrote, wrote_wrote] at later
    rw [printAll, List.foldlM_cons, print_eq, List.map_cons, String.join_cons]
    exact later

/-- Printing a part succeeds, appends the written form of the part, which depends on the level and
on nothing else that the printer holds, and leaves the level as it is. If no name in the part ends
a line, the written form is the one on the outermost level with the blanks of the level at the
start of every line, for an expression of every line but the first. Parts in turn append their
written forms one after the other. -/
theorem print_shifted (printer : Printer) :
    (∀ part : Part, printer.print part
      = some ⟨printer.written ++ part.text printer.level, printer.level⟩) ∧
    (∀ part : Part, part.Named Occurrence.isInLine →
      part.text printer.level = part.shifted printer.level (part.text 0)) ∧
    ∀ parts : List Part, printer.printAll parts
      = some ⟨printer.written ++ String.join (parts.map (Part.text printer.level)),
          printer.level⟩ := by
  refine ⟨printer.print_eq, ?_, printer.printAll_eq⟩
  intro part named
  exact Part.text_eq_shifted named printer.level

/-- What stands behind a line end in a name is not put deeper. -/
example : (Part.fragment (.name "a\nb")).text 1
    ≠ (Part.fragment (.name "a\nb")).shifted 1 ((Part.fragment (.name "a\nb")).text 0) := by
  decide

end Printer

end NativeViews.Script
