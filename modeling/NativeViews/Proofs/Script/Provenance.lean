import NativeViews.Proofs.Script.Induction
import NativeViews.Proofs.Script.Names
import NativeViews.Proofs.Script.Scanning

/-!
What the text of a script is made of: fixed marks, blanks, literals, keys, and the names of the
script as they are. No other text of a script is written without quotes.
-/

namespace NativeViews.Script

/-- The fixed words and the punctuation of a script, with the blanks and line ends around them. -/
def marks : List String :=
  ["true", "false", "[", "]", "(", ")", ", ", "new ", " => ", "\x7b\x7d", "\x7b\n", "\x7d", ",\n",
    ": ", "...", " ", "let ", " = ", ";", "export const ", "export default ", "throw ", "if (",
    ") ", " else ", "\n"]

/-- A piece of the text of a script. -/
inductive Fragment where
  | mark (text : String) (fixed : text ∈ marks)
  | blanks (level : Nat)
  | literal (value : String)
  | label (key : String)
  | name (occurrence : Occurrence)

namespace Fragment

/-- The text of a piece. Only a name is written whatever it is. -/
def text : Fragment → String
  | mark text _ => text
  | blanks level => indentation level
  | literal value => quote value
  | label key => writtenKey key
  | name occurrence => occurrence.text

/-- The name that a piece is. -/
def name? : Fragment → Option Occurrence
  | name occurrence => some occurrence
  | _ => none

end Fragment

/-- Whether a text is made of pieces, of which some names in order are all that are names. -/
def MadeOf (names : List Occurrence) (text : String) : Prop :=
  ∃ fragments : List Fragment, text = String.join (fragments.map Fragment.text) ∧
    fragments.filterMap Fragment.name? = names

/-! ## Pieces -/

section Pieces

variable {text other : String} {names others : List Occurrence}

theorem madeOf_fragment (fragment : Fragment) :
    MadeOf fragment.name?.toList fragment.text := by
  refine ⟨[fragment], by simp, ?_⟩
  cases fragment <;> rfl

theorem madeOf_empty : MadeOf [] "" := ⟨[], rfl, rfl⟩

theorem madeOf_mark (fixed : text ∈ marks) : MadeOf [] text :=
  madeOf_fragment (.mark text fixed)

theorem madeOf_blanks (level : Nat) : MadeOf [] (indentation level) :=
  madeOf_fragment (.blanks level)

theorem madeOf_key (key : String) : MadeOf [] (writtenKey key) :=
  madeOf_fragment (.label key)

theorem madeOf_name (occurrence : Occurrence) : MadeOf [occurrence] occurrence.text :=
  madeOf_fragment (.name occurrence)

theorem MadeOf.append (first : MadeOf names text) (second : MadeOf others other) :
    MadeOf (names ++ others) (text ++ other) := by
  obtain ⟨fragments, rfl, rfl⟩ := first
  obtain ⟨more, rfl, rfl⟩ := second
  exact ⟨fragments ++ more, by simp, List.filterMap_append⟩

/-- A piece without names behind a text. -/
theorem MadeOf.then (first : MadeOf names text) (second : MadeOf [] other) :
    MadeOf names (text ++ other) := by
  simpa using first.append second

/-- A piece without names before a text. -/
theorem MadeOf.after (second : MadeOf names text) (first : MadeOf [] other) :
    MadeOf names (other ++ text) :=
  first.append second

theorem MadeOf.ended (inside : MadeOf names text) (fixed : other ∈ marks) :
    MadeOf names (text ++ other) :=
  inside.then (madeOf_mark fixed)

theorem MadeOf.opened (inside : MadeOf names text) (fixed : other ∈ marks) :
    MadeOf names (other ++ text) :=
  inside.after (madeOf_mark fixed)

theorem MadeOf.braced (inside : MadeOf names text) (level : Nat) :
    MadeOf names (Script.braced level text) :=
  ((inside.opened (by decide)).then (madeOf_blanks level)).ended (by decide)

theorem madeOf_params (params : List String) :
    MadeOf (params.map .binds) (writtenParams params) := by
  have inside : MadeOf (params.map .binds) (", ".intercalate params) := by
    induction params with
    | nil => exact madeOf_empty
    | cons param params ih =>
      have first := madeOf_name (.binds param)
      cases params with
      | nil => simpa [Occurrence.text] using first
      | cons next params =>
        rw [String.intercalate_cons_of_ne_nil (by simp)]
        exact (first.ended (by decide)).append ih
  exact (inside.opened (by decide)).ended (by decide)

end Pieces

/-! ## Parts -/

/-- Whether an expression is written in pieces, its names as they are. -/
def Expr.Pieced (expr : Expr) : Prop :=
  ∀ level, MadeOf expr.names (expr.render level)

/-- Whether a member is written in pieces, its names as they are. -/
def Member.Pieced (member : Member) : Prop :=
  ∀ level, MadeOf member.names (member.render level)

/-- Whether a statement is written in pieces, its names as they are. -/
def Stmt.Pieced (stmt : Stmt) : Prop :=
  ∀ level, MadeOf stmt.names (stmt.render level)

theorem madeOf_renderRest {exprs : List Expr} (pieced : ∀ expr ∈ exprs, expr.Pieced)
    (level : Nat) : MadeOf (exprs.flatMap Expr.names) (Expr.renderRest level exprs) := by
  induction exprs with
  | nil => exact madeOf_empty
  | cons expr exprs ih =>
    obtain ⟨first, others⟩ := List.forall_mem_cons.mp pieced
    exact ((first level).opened (by decide)).append (ih others)

theorem madeOf_renderList {exprs : List Expr} (pieced : ∀ expr ∈ exprs, expr.Pieced)
    (level : Nat) : MadeOf (Expr.allNames exprs) (Expr.renderList level exprs) := by
  rw [Expr.allNames_eq]
  cases exprs with
  | nil => exact madeOf_empty
  | cons expr exprs =>
    obtain ⟨first, others⟩ := List.forall_mem_cons.mp pieced
    exact (first level).append (madeOf_renderRest others level)

theorem madeOf_memberLine {member : Member} (pieced : member.Pieced) (level : Nat) :
    MadeOf member.names (indentation level ++ member.render level ++ ",\n") :=
  ((pieced level).after (madeOf_blanks level)).ended (by decide)

theorem madeOf_memberLines {members : List Member} (pieced : ∀ member ∈ members, member.Pieced)
    (level : Nat) : MadeOf (Member.allNames members) (Member.renderLines level members) := by
  induction members with
  | nil => exact madeOf_empty
  | cons member members ih =>
    obtain ⟨first, others⟩ := List.forall_mem_cons.mp pieced
    exact (madeOf_memberLine first level).append (ih others)

theorem Expr.pieced_object {members : List Member} (pieced : ∀ member ∈ members, member.Pieced) :
    (object members).Pieced := by
  intro level
  cases members with
  | nil => exact madeOf_mark (show "\x7b\x7d" ∈ marks by decide)
  | cons member members =>
    obtain ⟨first, others⟩ := List.forall_mem_cons.mp pieced
    exact ((madeOf_memberLine first (level + 1)).append
      (madeOf_memberLines others (level + 1))).braced level

theorem Stmt.madeOf_line {stmt : Stmt} (pieced : stmt.Pieced) (level : Nat) :
    MadeOf stmt.names (stmt.line level) :=
  ((pieced level).after (madeOf_blanks level)).ended (by decide)

theorem madeOf_stmtLines {stmts : List Stmt} (pieced : ∀ stmt ∈ stmts, stmt.Pieced)
    (level : Nat) : MadeOf (Stmt.allNames stmts) (Stmt.renderLines level stmts) := by
  induction stmts with
  | nil => exact madeOf_empty
  | cons stmt stmts ih =>
    obtain ⟨first, others⟩ := List.forall_mem_cons.mp pieced
    exact (Stmt.madeOf_line first level).append (ih others)

theorem madeOf_renderElse {stmts : List Stmt} (pieced : ∀ stmt ∈ stmts, stmt.Pieced)
    (level : Nat) : MadeOf (Stmt.allNames stmts) (Stmt.renderElse level stmts) := by
  cases stmts with
  | nil => exact madeOf_empty.braced level
  | cons stmt stmts =>
    obtain ⟨first, others⟩ := List.forall_mem_cons.mp pieced
    cases stmts with
    | nil =>
      rw [Stmt.renderElse, Stmt.allNames_eq, List.flatMap_singleton]
      split
      · exact first level
      · exact (Stmt.madeOf_line first (level + 1)).braced level
    | cons next stmts =>
      exact ((Stmt.madeOf_line first (level + 1)).append
        (madeOf_stmtLines others (level + 1))).braced level

theorem madeOf_renderAlternate {alternate : Option (List Stmt)}
    (pieced : ∀ stmts ∈ alternate, ∀ stmt ∈ stmts, stmt.Pieced) (level : Nat) :
    MadeOf (Stmt.alternateNames alternate) (Stmt.renderAlternate level alternate) := by
  cases alternate with
  | none => exact madeOf_empty
  | some stmts => exact (madeOf_renderElse (pieced stmts rfl) level).opened (by decide)

/-! ## All scripts -/

theorem pieced_inductive : Inductive Expr.Pieced Member.Pieced Stmt.Pieced where
  bool value _ := by
    cases value with
    | true => exact madeOf_mark (show "true" ∈ marks by decide)
    | false => exact madeOf_mark (show "false" ∈ marks by decide)
  text value _ := madeOf_fragment (.literal value)
  name path _ := madeOf_name (.refers path)
  object _ inside := Expr.pieced_object inside
  array items inside level :=
    ((madeOf_renderList inside level).opened (by decide)).ended (by decide)
  call callee args inside level :=
    (((madeOf_name (.refers callee)).ended (by decide)).append
      (madeOf_renderList inside level)).ended (by decide)
  construct callee args inside level :=
    ((((madeOf_name (.refers callee)).opened (by decide)).ended (by decide)).append
      (madeOf_renderList inside level)).ended (by decide)
  arrow params body inside level :=
    ((madeOf_params params).ended (by decide)).append (inside level)
  property key value inside level :=
    (inside level).after ((madeOf_key key).ended (by decide))
  spread value inside level := (inside level).opened (by decide)
  method key params body inside level :=
    (((madeOf_params params).after (madeOf_key key)).ended (by decide)).append
      ((madeOf_stmtLines inside (level + 1)).braced level)
  declare name init inside level :=
    ((((madeOf_name (.binds name)).opened (by decide)).ended (by decide)).append
      (inside level)).ended (by decide)
  exportConst name init inside level :=
    ((((madeOf_name (.binds name)).opened (by decide)).ended (by decide)).append
      (inside level)).ended (by decide)
  exportDefault value inside level :=
    ((inside level).opened (by decide)).ended (by decide)
  assign target value inside level :=
    (((madeOf_name (.refers target)).ended (by decide)).append (inside level)).ended (by decide)
  eval value inside level := (inside level).ended (by decide)
  throw value inside level :=
    ((inside level).opened (by decide)).ended (by decide)
  choose test body alternate condition inside otherwise level :=
    ((((condition level).opened (by decide)).ended (by decide)).append
      ((madeOf_stmtLines inside (level + 1)).braced level)).append
      (madeOf_renderAlternate otherwise level)

/-- A program is written in pieces, its names as they are. -/
theorem Program.madeOf_render (program : Program) :
    MadeOf (Stmt.allNames program) (Program.render program) := by
  rw [Program.render]
  induction program with
  | nil => exact madeOf_empty
  | cons stmt program ih =>
    have first := Stmt.madeOf_line (pieced_inductive.stmt stmt) 0
    cases program with
    | nil => simpa using first
    | cons next program =>
      rw [List.map_cons, String.intercalate_cons_of_ne_nil (by simp)]
      exact (first.ended (by decide)).append ih

end NativeViews.Script
