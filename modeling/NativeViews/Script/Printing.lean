import NativeViews.Script.Printer

/-!
Printing a script part by part. A printer holds what it has written and the level at which the next
line begins; blocks and object literals move the level and have to bring it back.
-/

namespace NativeViews.Script

/-- What has been written, and the level at which a new line begins. -/
structure Printer where
  written : String := ""
  level : Nat := 0
  deriving DecidableEq, Repr

/-- What is done to a printer. It fails when it leaves the outermost level. -/
abbrev Printing := StateT Printer Option Unit

namespace Printing

def put (text : String) : Printing :=
  modify fun printer => { printer with written := printer.written ++ text }

/-- Writes the blanks at the start of a line. -/
def pad : Printing := do
  put (indentation (← get).level)

def enter : Printing :=
  modify fun printer => { printer with level := printer.level + 1 }

def leave : Printing := do
  match (← get).level with
  | 0 => failure
  | level + 1 => modify fun printer => { printer with level }

/-- Something between two texts. -/
def enclosed (opening : String) (inside : Printing) (closing : String) : Printing := do
  put opening
  inside
  put closing

/-- An entry with the blanks before it and its ending. -/
def line (entry : Printing) (ending : String) : Printing := do
  pad
  entry
  put ending

/-- Lines between braces, one level in. -/
def block (lines : Printing) : Printing := do
  put "\x7b\n"
  enter
  lines
  leave
  pad
  put "\x7d"

end Printing

open Printing (put enclosed line block)

mutual

def Expr.print : Expr → Printing
  | .bool value => put (if value then "true" else "false")
  | .text value => put (quote value)
  | .name path => put path
  | .object members => Member.printObject members
  | .array items => enclosed "[" (Expr.printList items) "]"
  | .call callee args => enclosed (callee ++ "(") (Expr.printList args) ")"
  | .construct callee args => enclosed ("new " ++ callee ++ "(") (Expr.printList args) ")"
  | .arrow params body => do
    put (writtenParams params ++ " => ")
    body.print
termination_by structural expr => expr

/-- Prints expressions with commas between. -/
def Expr.printList : List Expr → Printing
  | [] => pure ()
  | expr :: rest => do
    expr.print
    Expr.printRest rest
termination_by structural exprs => exprs

/-- Prints expressions that follow another. -/
def Expr.printRest : List Expr → Printing
  | [] => pure ()
  | expr :: rest => do
    put ", "
    expr.print
    Expr.printRest rest
termination_by structural exprs => exprs

def Member.printObject : List Member → Printing
  | [] => put "\x7b\x7d"
  | member :: rest => block do
    line member.print ",\n"
    Member.printLines rest
termination_by structural members => members

/-- Prints members, one to a line. -/
def Member.printLines : List Member → Printing
  | [] => pure ()
  | member :: rest => do
    line member.print ",\n"
    Member.printLines rest
termination_by structural members => members

/-- Prints a member without its comma. -/
def Member.print : Member → Printing
  | .property key value => do
    put (writtenKey key ++ ": ")
    value.print
  | .spread value => do
    put "..."
    value.print
  | .method key params body => do
    put (writtenKey key ++ writtenParams params ++ " ")
    block (Stmt.printLines body)
termination_by structural member => member

/-- Prints a statement without its blanks and line end. -/
def Stmt.print : Stmt → Printing
  | .declare name init => enclosed ("let " ++ name ++ " = ") init.print ";"
  | .exportConst name init => enclosed ("export const " ++ name ++ " = ") init.print ";"
  | .exportDefault value => enclosed "export default " value.print ";"
  | .assign target value => enclosed (target ++ " = ") value.print ";"
  | .eval value => do
    value.print
    put ";"
  | .throw value => enclosed "throw " value.print ";"
  | .choose test body alternate => do
    enclosed "if (" test.print ") "
    block (Stmt.printLines body)
    Stmt.printAlternate alternate
termination_by structural stmt => stmt

/-- Prints what follows the block of a choice. -/
def Stmt.printAlternate : Option (List Stmt) → Printing
  | none => pure ()
  | some stmts => do
    put " else "
    Stmt.printElse stmts
termination_by structural alternate => alternate

/-- Prints an alternate: the next choice of a chain, or a block. -/
def Stmt.printElse : List Stmt → Printing
  | [] => block (pure ())
  | stmt :: rest =>
    if rest.isEmpty && stmt.isChoice then stmt.print
    else block do
      line stmt.print "\n"
      Stmt.printLines rest
termination_by structural stmts => stmts

/-- Prints statements, each on lines of its own. -/
def Stmt.printLines : List Stmt → Printing
  | [] => pure ()
  | stmt :: rest => do
    line stmt.print "\n"
    Stmt.printLines rest
termination_by structural stmts => stmts

end

/-- What a printer is given at a time. -/
inductive Part where
  /-- An expression, where the line has come to. -/
  | fragment (expr : Expr)
  /-- A statement, on lines of its own. -/
  | statement (stmt : Stmt)

def Part.print : Part → Printing
  | .fragment expr => expr.print
  | .statement stmt => line stmt.print "\n"

namespace Printer

/-- The printer after a part. -/
def print (printer : Printer) (part : Part) : Option Printer :=
  (part.print.run printer).map Prod.snd

/-- The printer after parts in turn. -/
def printAll (printer : Printer) (parts : List Part) : Option Printer :=
  parts.foldlM print printer

end Printer

end NativeViews.Script
