/-!
The part of a script that a generated module needs: literals, calls, object literals with
methods, and the statements that bind, export, choose and throw.
-/

namespace NativeViews.Script

mutual

/-- An expression. Names are written into the script as they are. -/
inductive Expr where
  | bool (value : Bool)
  | text (value : String)
  /-- An identifier, or identifiers joined by dots. -/
  | name (path : String)
  | object (members : List Member)
  | array (items : List Expr)
  | call (callee : String) (args : List Expr)
  | construct (callee : String) (args : List Expr)
  | arrow (params : List String) (body : Expr)

/-- A member of an object literal. -/
inductive Member where
  | property (key : String) (value : Expr)
  | spread (value : Expr)
  | method (key : String) (params : List String) (body : List Stmt)

inductive Stmt where
  /-- A binding that may be assigned again. -/
  | declare (name : String) (init : Expr)
  | exportConst (name : String) (init : Expr)
  | exportDefault (value : Expr)
  | assign (target : String) (value : Expr)
  | eval (value : Expr)
  | throw (value : Expr)
  /-- A choice. Without an alternate nothing follows its block; an alternate that is one
  choice continues the chain. -/
  | choose (test : Expr) (body : List Stmt) (alternate : Option (List Stmt))

end

/-- The statements of a module in order. -/
abbrev Program := List Stmt

def Stmt.isChoice : Stmt → Bool
  | .choose .. => true
  | _ => false

end NativeViews.Script
