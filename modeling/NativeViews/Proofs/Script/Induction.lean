import NativeViews.Script.Syntax

/-!
Induction over scripts. Expressions, members and statements hold each other, so a property of
one kind is proved together with one of each of the others.
-/

namespace NativeViews.Script

/-- Three properties, one for each kind of part, that hold of a part when they hold of the parts
inside it. -/
structure Inductive (onExpr : Expr → Prop) (onMember : Member → Prop) (onStmt : Stmt → Prop) :
    Prop where
  bool (value : Bool) : onExpr (.bool value)
  text (value : String) : onExpr (.text value)
  name (path : String) : onExpr (.name path)
  object (members : List Member) (inside : ∀ member ∈ members, onMember member) :
    onExpr (.object members)
  array (items : List Expr) (inside : ∀ item ∈ items, onExpr item) : onExpr (.array items)
  call (callee : String) (args : List Expr) (inside : ∀ arg ∈ args, onExpr arg) :
    onExpr (.call callee args)
  construct (callee : String) (args : List Expr) (inside : ∀ arg ∈ args, onExpr arg) :
    onExpr (.construct callee args)
  arrow (params : List String) (body : Expr) (inside : onExpr body) : onExpr (.arrow params body)
  property (key : String) (value : Expr) (inside : onExpr value) : onMember (.property key value)
  spread (value : Expr) (inside : onExpr value) : onMember (.spread value)
  method (key : String) (params : List String) (body : List Stmt)
    (inside : ∀ stmt ∈ body, onStmt stmt) : onMember (.method key params body)
  declare (name : String) (init : Expr) (inside : onExpr init) : onStmt (.declare name init)
  exportConst (name : String) (init : Expr) (inside : onExpr init) :
    onStmt (.exportConst name init)
  exportDefault (value : Expr) (inside : onExpr value) : onStmt (.exportDefault value)
  assign (target : String) (value : Expr) (inside : onExpr value) : onStmt (.assign target value)
  eval (value : Expr) (inside : onExpr value) : onStmt (.eval value)
  throw (value : Expr) (inside : onExpr value) : onStmt (.throw value)
  choose (test : Expr) (body : List Stmt) (alternate : Option (List Stmt))
    (condition : onExpr test) (inside : ∀ stmt ∈ body, onStmt stmt)
    (otherwise : ∀ stmts ∈ alternate, ∀ stmt ∈ stmts, onStmt stmt) :
    onStmt (.choose test body alternate)

namespace Inductive

variable {onExpr : Expr → Prop} {onMember : Member → Prop} {onStmt : Stmt → Prop}

mutual

theorem expr (step : Inductive onExpr onMember onStmt) : ∀ expr, onExpr expr
  | .bool value => step.bool value
  | .text value => step.text value
  | .name path => step.name path
  | .object members => step.object members (step.members members)
  | .array items => step.array items (step.exprs items)
  | .call callee args => step.call callee args (step.exprs args)
  | .construct callee args => step.construct callee args (step.exprs args)
  | .arrow params body => step.arrow params body (step.expr body)
termination_by structural expr => expr

theorem exprs (step : Inductive onExpr onMember onStmt) :
    ∀ exprs : List Expr, ∀ expr ∈ exprs, onExpr expr
  | [] => fun _ member => nomatch member
  | first :: rest => List.forall_mem_cons.mpr ⟨step.expr first, step.exprs rest⟩
termination_by structural exprs => exprs

theorem member (step : Inductive onExpr onMember onStmt) : ∀ member, onMember member
  | .property key value => step.property key value (step.expr value)
  | .spread value => step.spread value (step.expr value)
  | .method key params body => step.method key params body (step.stmts body)
termination_by structural member => member

theorem members (step : Inductive onExpr onMember onStmt) :
    ∀ members : List Member, ∀ member ∈ members, onMember member
  | [] => fun _ member => nomatch member
  | first :: rest => List.forall_mem_cons.mpr ⟨step.member first, step.members rest⟩
termination_by structural members => members

theorem stmt (step : Inductive onExpr onMember onStmt) : ∀ stmt, onStmt stmt
  | .declare name init => step.declare name init (step.expr init)
  | .exportConst name init => step.exportConst name init (step.expr init)
  | .exportDefault value => step.exportDefault value (step.expr value)
  | .assign target value => step.assign target value (step.expr value)
  | .eval value => step.eval value (step.expr value)
  | .throw value => step.throw value (step.expr value)
  | .choose test body alternate =>
    step.choose test body alternate (step.expr test) (step.stmts body) (step.alternate alternate)
termination_by structural stmt => stmt

theorem stmts (step : Inductive onExpr onMember onStmt) :
    ∀ stmts : List Stmt, ∀ stmt ∈ stmts, onStmt stmt
  | [] => fun _ member => nomatch member
  | first :: rest => List.forall_mem_cons.mpr ⟨step.stmt first, step.stmts rest⟩
termination_by structural stmts => stmts

theorem alternate (step : Inductive onExpr onMember onStmt) :
    ∀ alternate : Option (List Stmt), ∀ stmts ∈ alternate, ∀ stmt ∈ stmts, onStmt stmt
  | none => fun _ member => nomatch member
  | some stmts => fun _ same => Option.some.inj same ▸ step.stmts stmts
termination_by structural alternate => alternate

end

end Inductive

end NativeViews.Script
