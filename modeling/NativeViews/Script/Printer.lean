import NativeViews.Script.Identifier
import NativeViews.Script.Quoted
import NativeViews.Script.Syntax

/-!
The written form of a script. Blocks and object literals take a line for each entry, two spaces
further in than the line that opens them; every member ends in a comma; the statements of a
program stand a blank line apart.
-/

namespace NativeViews.Script

/-- The blanks at the start of a line that is `level` levels in. -/
def indentation (level : Nat) : String :=
  String.ofList (List.replicate (2 * level) ' ')

/-- A key, bare where it can be and else as a literal. -/
def writtenKey (key : String) : String :=
  if isIdentifier key then key else quote key

/-- The parameters of a function between their parentheses. -/
def writtenParams (params : List String) : String :=
  "(" ++ ", ".intercalate params ++ ")"

/-- Lines between braces. The lines bring their own line ends. -/
def braced (level : Nat) (lines : String) : String :=
  "\x7b\n" ++ lines ++ indentation level ++ "\x7d"

mutual

/-- An expression whose first line is `level` levels in. -/
def Expr.render : Nat → Expr → String
  | _, .bool value => if value then "true" else "false"
  | _, .text value => quote value
  | _, .name path => path
  | level, .object members => Member.renderObject level members
  | level, .array items => "[" ++ Expr.renderList level items ++ "]"
  | level, .call callee args => callee ++ "(" ++ Expr.renderList level args ++ ")"
  | level, .construct callee args => "new " ++ callee ++ "(" ++ Expr.renderList level args ++ ")"
  | level, .arrow params body => writtenParams params ++ " => " ++ body.render level
termination_by structural _ expr => expr

/-- Expressions on one line, with commas between. -/
def Expr.renderList : Nat → List Expr → String
  | _, [] => ""
  | level, expr :: rest => expr.render level ++ Expr.renderRest level rest
termination_by structural _ exprs => exprs

def Expr.renderRest : Nat → List Expr → String
  | _, [] => ""
  | level, expr :: rest => ", " ++ expr.render level ++ Expr.renderRest level rest
termination_by structural _ exprs => exprs

def Member.renderObject : Nat → List Member → String
  | _, [] => "\x7b\x7d"
  | level, member :: rest =>
    braced level
      (indentation (level + 1) ++ member.render (level + 1) ++ ",\n"
        ++ Member.renderLines (level + 1) rest)
termination_by structural _ members => members

/-- Members, one to a line. -/
def Member.renderLines : Nat → List Member → String
  | _, [] => ""
  | level, member :: rest =>
    indentation level ++ member.render level ++ ",\n" ++ Member.renderLines level rest
termination_by structural _ members => members

/-- A member without its comma. -/
def Member.render : Nat → Member → String
  | level, .property key value => writtenKey key ++ ": " ++ value.render level
  | level, .spread value => "..." ++ value.render level
  | level, .method key params body =>
    writtenKey key ++ writtenParams params ++ " " ++ braced level (Stmt.renderLines (level + 1) body)
termination_by structural _ member => member

/-- A statement without its indentation and line end. -/
def Stmt.render : Nat → Stmt → String
  | level, .declare name init => "let " ++ name ++ " = " ++ init.render level ++ ";"
  | level, .exportConst name init => "export const " ++ name ++ " = " ++ init.render level ++ ";"
  | level, .exportDefault value => "export default " ++ value.render level ++ ";"
  | level, .assign target value => target ++ " = " ++ value.render level ++ ";"
  | level, .eval value => value.render level ++ ";"
  | level, .throw value => "throw " ++ value.render level ++ ";"
  | level, .choose test body alternate =>
    "if (" ++ test.render level ++ ") " ++ braced level (Stmt.renderLines (level + 1) body)
      ++ Stmt.renderAlternate level alternate
termination_by structural _ stmt => stmt

/-- What follows the block of a choice. -/
def Stmt.renderAlternate : Nat → Option (List Stmt) → String
  | _, none => ""
  | level, some stmts => " else " ++ Stmt.renderElse level stmts
termination_by structural _ alternate => alternate

/-- An alternate: the next choice of a chain, or a block. -/
def Stmt.renderElse : Nat → List Stmt → String
  | level, [] => braced level ""
  | level, [stmt] =>
    if stmt.isChoice then stmt.render level
    else braced level (indentation (level + 1) ++ stmt.render (level + 1) ++ "\n")
  | level, stmt :: next :: rest =>
    braced level
      (indentation (level + 1) ++ stmt.render (level + 1) ++ "\n"
        ++ Stmt.renderLines (level + 1) (next :: rest))
termination_by structural _ stmts => stmts

/-- Statements, each with its indentation and line end. -/
def Stmt.renderLines : Nat → List Stmt → String
  | _, [] => ""
  | level, stmt :: rest =>
    indentation level ++ stmt.render level ++ "\n" ++ Stmt.renderLines level rest
termination_by structural _ stmts => stmts

end

/-- A statement on lines of its own, with its indentation and line end. -/
def Stmt.line (level : Nat) (stmt : Stmt) : String :=
  indentation level ++ stmt.render level ++ "\n"

/-- A program: its statements with a blank line between. -/
def Program.render (program : Program) : String :=
  "\n".intercalate (program.map (Stmt.line 0))

end NativeViews.Script
