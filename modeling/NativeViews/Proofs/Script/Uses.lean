import NativeViews.Proofs.Script.Names

/-!
The names that a script takes from around it: what it refers to, and what it calls functions of.
-/

namespace NativeViews.Script

mutual

/-- The names that an expression uses inside functions with parameters `params`. A name counts
where it stands by itself and is none of the parameters; of a callee the first segment counts,
whatever the parameters are called. -/
def Expr.uses : List String → Expr → List String
  | _, .bool _ => []
  | _, .text _ => []
  | params, .name path => if path ∈ params then [] else [path]
  | params, .object members => Member.allUses params members
  | params, .array items => Expr.allUses params items
  | params, .call callee args => firstSegment callee :: Expr.allUses params args
  | params, .construct _ args => Expr.allUses params args
  | params, .arrow names body => body.uses (names ++ params)
termination_by structural _ expr => expr

/-- The names that expressions use. -/
def Expr.allUses : List String → List Expr → List String
  | _, [] => []
  | params, expr :: rest => expr.uses params ++ Expr.allUses params rest
termination_by structural _ exprs => exprs

/-- The names that a member uses. -/
def Member.uses : List String → Member → List String
  | params, .property _ value => value.uses params
  | params, .spread value => value.uses params
  | params, .method _ names body => Stmt.allUses (names ++ params) body
termination_by structural _ member => member

/-- The names that members use. -/
def Member.allUses : List String → List Member → List String
  | _, [] => []
  | params, member :: rest => member.uses params ++ Member.allUses params rest
termination_by structural _ members => members

/-- The names that a statement uses. -/
def Stmt.uses : List String → Stmt → List String
  | params, .declare _ init => init.uses params
  | params, .exportConst _ init => init.uses params
  | params, .exportDefault value => value.uses params
  | params, .assign _ value => value.uses params
  | params, .eval value => value.uses params
  | params, .throw value => value.uses params
  | params, .choose test body alternate =>
    test.uses params ++ Stmt.allUses params body ++ Stmt.alternateUses params alternate
termination_by structural _ stmt => stmt

/-- The names that statements use. -/
def Stmt.allUses : List String → List Stmt → List String
  | _, [] => []
  | params, stmt :: rest => stmt.uses params ++ Stmt.allUses params rest
termination_by structural _ stmts => stmts

/-- The names that an alternate uses. -/
def Stmt.alternateUses : List String → Option (List Stmt) → List String
  | _, none => []
  | params, some stmts => Stmt.allUses params stmts
termination_by structural _ alternate => alternate

end

@[simp] theorem Expr.allUses_eq (params : List String) (exprs : List Expr) :
    allUses params exprs = exprs.flatMap (uses params) := by
  induction exprs with
  | nil => rfl
  | cons expr rest ih => rw [allUses, ih, List.flatMap_cons]

@[simp] theorem Member.allUses_eq (params : List String) (members : List Member) :
    allUses params members = members.flatMap (uses params) := by
  induction members with
  | nil => rfl
  | cons member rest ih => rw [allUses, ih, List.flatMap_cons]

@[simp] theorem Stmt.allUses_eq (params : List String) (stmts : List Stmt) :
    allUses params stmts = stmts.flatMap (uses params) := by
  induction stmts with
  | nil => rfl
  | cons stmt rest ih => rw [allUses, ih, List.flatMap_cons]

section Parts

variable {params : List String}

@[simp] theorem Expr.uses_bool (value : Bool) : (bool value).uses params = [] := rfl

@[simp] theorem Expr.uses_text (value : String) : (text value).uses params = [] := rfl

@[simp] theorem Expr.uses_name (path : String) :
    (name path).uses params = if path ∈ params then [] else [path] :=
  rfl

@[simp] theorem Expr.uses_object (members : List Member) :
    (object members).uses params = members.flatMap (Member.uses params) :=
  Member.allUses_eq params members

@[simp] theorem Expr.uses_array (items : List Expr) :
    (array items).uses params = items.flatMap (uses params) :=
  allUses_eq params items

@[simp] theorem Expr.uses_call (callee : String) (args : List Expr) :
    (call callee args).uses params = firstSegment callee :: args.flatMap (uses params) :=
  congrArg (_ :: ·) (allUses_eq params args)

@[simp] theorem Expr.uses_construct (callee : String) (args : List Expr) :
    (construct callee args).uses params = args.flatMap (uses params) :=
  allUses_eq params args

@[simp] theorem Expr.uses_arrow (names : List String) (body : Expr) :
    (arrow names body).uses params = body.uses (names ++ params) :=
  rfl

@[simp] theorem Member.uses_property (key : String) (value : Expr) :
    (property key value).uses params = value.uses params :=
  rfl

@[simp] theorem Member.uses_spread (value : Expr) :
    (spread value).uses params = value.uses params :=
  rfl

@[simp] theorem Member.uses_method (key : String) (names : List String) (body : List Stmt) :
    (method key names body).uses params = body.flatMap (Stmt.uses (names ++ params)) :=
  Stmt.allUses_eq (names ++ params) body

@[simp] theorem Stmt.uses_declare (name : String) (init : Expr) :
    (declare name init).uses params = init.uses params :=
  rfl

@[simp] theorem Stmt.uses_exportConst (name : String) (init : Expr) :
    (exportConst name init).uses params = init.uses params :=
  rfl

@[simp] theorem Stmt.uses_exportDefault (value : Expr) :
    (exportDefault value).uses params = value.uses params :=
  rfl

@[simp] theorem Stmt.uses_assign (target : String) (value : Expr) :
    (assign target value).uses params = value.uses params :=
  rfl

@[simp] theorem Stmt.uses_eval (value : Expr) : (eval value).uses params = value.uses params := rfl

@[simp] theorem Stmt.uses_throw (value : Expr) : (throw value).uses params = value.uses params := rfl

@[simp] theorem Stmt.uses_choose (test : Expr) (body : List Stmt)
    (alternate : Option (List Stmt)) :
    (choose test body alternate).uses params = test.uses params ++ body.flatMap (uses params)
      ++ (alternate.getD []).flatMap (uses params) := by
  cases alternate with
  | none => simp only [uses, alternateUses, allUses_eq, Option.getD_none, List.flatMap_nil]
  | some stmts => simp only [uses, alternateUses, allUses_eq, Option.getD_some]

end Parts

/-- Names that are passed on from the parameters of a function are not taken from around it. -/
theorem uses_params {names params : List String} (inside : names ⊆ params) :
    (names.map Expr.name).flatMap (Expr.uses params) = [] := by
  simp only [List.flatMap_eq_nil_iff, List.forall_mem_map, Expr.uses_name]
  intro name member
  rw [if_pos (inside member)]

end NativeViews.Script
