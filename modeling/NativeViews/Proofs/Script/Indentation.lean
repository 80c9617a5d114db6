import NativeViews.Proofs.Script.Induction
import NativeViews.Proofs.Script.Literal
import NativeViews.Proofs.Script.Scanning

/-!
What the level does to the written form of a script. At a deeper level the lines are the same, with
more blanks at the start of each; only an expression has none before its first line, which is not
its own. Names are written as they are, so this holds where no name ends a line.
-/

namespace NativeViews.Script

/-! ## Lines of a text -/

/-- The lines of a text without their ends. What follows the last end is the last line. -/
def linesOf (text : String) : List String :=
  (text.toList.splitOn '\n').map String.ofList

/-- A text with the blanks of a level at the start of every line but the first. -/
def hung (level : Nat) (text : String) : String :=
  match linesOf text with
  | [] => ""
  | first :: rest => "\n".intercalate (first :: rest.map (indentation level ++ ·))

/-- A text of whole lines with the blanks of a level at the start of each. -/
def inset (level : Nat) (text : String) : String :=
  String.join ((linesOf text).dropLast.map (indentation level ++ · ++ "\n"))

/-- A character, and behind the end of a line the blanks of a level. -/
def hungChar (level : Nat) (c : Char) : List Char :=
  if c = '\n' then '\n' :: (indentation level).toList else [c]

theorem exists_splitOn_lineEnd (level : Nat) (chars : List Char) :
    ∃ first rest, chars.splitOn '\n' = first :: rest ∧
      chars.flatMap (hungChar level)
        = first ++ rest.flatMap fun line => '\n' :: ((indentation level).toList ++ line) := by
  induction chars with
  | nil => exact ⟨[], [], List.splitOn_nil _, rfl⟩
  | cons c chars ih =>
    obtain ⟨first, rest, split, written⟩ := ih
    rw [List.splitOn_cons_eq_if_modifyHead, split, List.flatMap_cons, written]
    by_cases ends : c = '\n'
    · exact ⟨[], first :: rest, by simp [ends], by simp [hungChar, ends]⟩
    · exact ⟨c :: first, rest, by simp [ends], by simp [hungChar, ends]⟩

theorem toList_hung (level : Nat) (text : String) :
    (hung level text).toList = text.toList.flatMap (hungChar level) := by
  obtain ⟨first, rest, split, chars⟩ := exists_splitOn_lineEnd level text.toList
  have lines : linesOf text = String.ofList first :: rest.map String.ofList := by
    rw [linesOf, split, List.map_cons]
  simp only [hung, lines]
  rw [toList_intercalate_cons, chars]
  simp [List.flatMap_map]

theorem flatMap_lines (blanks first : List Char) (rest : List (List Char)) :
    (first :: rest).flatMap (fun line => blanks ++ line ++ ['\n'])
      = blanks ++ (first ++ rest.flatMap fun line => '\n' :: (blanks ++ line)) ++ ['\n'] := by
  induction rest generalizing first with
  | nil => simp
  | cons next rest ih =>
    rw [List.flatMap_cons, ih next]
    simp

/-- One more line end makes whole lines of a text. -/
theorem inset_lineEnd (level : Nat) (text : String) :
    inset level (text ++ "\n") = indentation level ++ hung level text ++ "\n" := by
  obtain ⟨first, rest, split, chars⟩ := exists_splitOn_lineEnd level text.toList
  have lines : linesOf (text ++ "\n") = (first :: rest).map String.ofList ++ [""] := by
    have last : (text ++ "\n").toList = text.toList ++ '\n' :: [] := String.toList_append
    rw [linesOf, last, List.splitOn_append_cons_self, split, List.splitOn_nil, List.map_append]
    rfl
  apply String.toList_inj.mp
  have closed := flatMap_lines (indentation level).toList first rest
  rw [inset, lines, List.dropLast_concat]
  simp only [String.toList_append, toList_hung, chars]
  simpa [String.toList_join, List.flatMap_map] using closed

theorem hung_append (level : Nat) (first second : String) :
    hung level (first ++ second) = hung level first ++ hung level second := by
  apply String.toList_inj.mp
  simp only [String.toList_append, toList_hung, List.flatMap_append]

theorem hung_of_inLine {text : String} (inLine : '\n' ∉ text.toList) (level : Nat) :
    hung level text = text := by
  apply String.toList_inj.mp
  rw [toList_hung]
  have plain : ∀ c ∈ text.toList, hungChar level c = [c] := by
    intro c member
    have inside : c ≠ '\n' := fun ends => inLine (ends ▸ member)
    rw [hungChar, if_neg inside]
  rw [List.flatMap_def, List.map_congr_left plain, ← List.flatMap_def, List.flatMap_singleton']

theorem hung_lineEnd (level : Nat) : hung level "\n" = "\n" ++ indentation level := by
  apply String.toList_inj.mp
  rw [toList_hung, String.toList_append]
  exact List.append_nil _

/-- A text that ends with the only line end in it is followed by the blanks of the next line. -/
theorem hung_closed {text : String} (inLine : '\n' ∉ text.toList) (level : Nat) :
    hung level (text ++ "\n") = text ++ "\n" ++ indentation level := by
  rw [hung_append, hung_of_inLine inLine, hung_lineEnd, String.append_assoc]

/-! ## Levels -/

theorem indentation_add (deeper level : Nat) :
    indentation (deeper + level) = indentation deeper ++ indentation level := by
  rw [indentation, Nat.mul_add, ← List.replicate_append_replicate, String.ofList_append]
  rfl

theorem inLine_indentation (level : Nat) : '\n' ∉ (indentation level).toList := by
  simp [indentation]

/-- Whether a text that is put deeper is the same but for more blanks at the start of every line
but the first. -/
def Hangs (text : Nat → String) : Prop :=
  ∀ deeper level, text (deeper + level) = hung deeper (text level)

/-- Whether lines that are put deeper are the same but for more blanks at the start of each. The
lines end with a line end, so `hung` puts the blanks of the first line behind the last. -/
def Deepens (lines : Nat → String) : Prop :=
  ∀ deeper level,
    lines (deeper + level) ++ indentation deeper = indentation deeper ++ hung deeper (lines level)

section Texts

variable {text other lines : Nat → String}

theorem hangs_of_inLine {text : String} (inLine : '\n' ∉ text.toList) : Hangs fun _ => text := by
  intro deeper level
  exact (hung_of_inLine inLine deeper).symm

theorem Hangs.append (first : Hangs text) (second : Hangs other) :
    Hangs fun level => text level ++ other level := by
  intro deeper level
  show text (deeper + level) ++ other (deeper + level) = hung deeper (text level ++ other level)
  rw [hung_append, first deeper level, second deeper level]

theorem Hangs.between {opening closing : String} (inside : Hangs text)
    (before : '\n' ∉ opening.toList) (after : '\n' ∉ closing.toList) :
    Hangs fun level => opening ++ text level ++ closing :=
  ((hangs_of_inLine before).append inside).append (hangs_of_inLine after)

theorem deepens_empty : Deepens fun _ => "" := by
  intro deeper level
  show "" ++ indentation deeper = indentation deeper ++ hung deeper ""
  rw [hung_of_inLine (by decide), String.empty_append, String.append_empty]

theorem Deepens.append (first : Deepens text) (second : Deepens other) :
    Deepens fun level => text level ++ other level := by
  intro deeper level
  calc
    text (deeper + level) ++ other (deeper + level) ++ indentation deeper
      = text (deeper + level) ++ indentation deeper ++ hung deeper (other level) := by
        rw [String.append_assoc, second deeper level, String.append_assoc]
    _ = indentation deeper ++ hung deeper (text level ++ other level) := by
        rw [first deeper level, hung_append, String.append_assoc]

theorem Hangs.line {ending : String} (entry : Hangs text)
    (closes : ∀ level, hung level ending = ending ++ indentation level) :
    Deepens fun level => indentation level ++ text level ++ ending := by
  intro deeper level
  have own := hung_of_inLine (inLine_indentation level) deeper
  simp only [hung_append, own, closes, indentation_add, entry deeper level, String.append_assoc]

theorem Deepens.braced (inside : Deepens lines) :
    Hangs fun level => Script.braced level (lines (level + 1)) := by
  intro deeper level
  have opens : hung deeper "\x7b\n" = "\x7b\n" ++ indentation deeper :=
    hung_closed (show '\n' ∉ "\x7b".toList by decide) deeper
  have own := hung_of_inLine (inLine_indentation level) deeper
  have closes : hung deeper "\x7d" = "\x7d" := hung_of_inLine (by decide) deeper
  calc
    "\x7b\n" ++ lines (deeper + level + 1) ++ indentation (deeper + level) ++ "\x7d"
      = "\x7b\n" ++ (lines (deeper + (level + 1)) ++ indentation deeper)
          ++ indentation level ++ "\x7d" := by
        simp only [indentation_add, Nat.add_assoc, String.append_assoc]
    _ = "\x7b\n" ++ (indentation deeper ++ hung deeper (lines (level + 1)))
          ++ indentation level ++ "\x7d" := by
        rw [inside deeper (level + 1)]
    _ = hung deeper ("\x7b\n" ++ lines (level + 1) ++ indentation level ++ "\x7d") := by
        simp only [hung_append, opens, own, closes, String.append_assoc]

end Texts

/-! ## What is written without a line end -/

theorem inLine_quote (value : String) : '\n' ∉ (quote value).toList := by
  intro member
  have inside := Quoted.inLine_quote value '\n' member
  exact absurd inside (by decide)

theorem inLine_writtenKey (key : String) : '\n' ∉ (writtenKey key).toList := by
  unfold writtenKey
  split
  · next identifier => exact not_mem_of_isIdentifier identifier (by simp)
  · exact inLine_quote key

/-- Whether a name ends no line. -/
def Occurrence.isInLine (occurrence : Occurrence) : Bool :=
  !occurrence.text.toList.contains '\n'

@[simp] theorem Occurrence.isInLine_iff {occurrence : Occurrence} :
    occurrence.isInLine ↔ '\n' ∉ occurrence.text.toList := by
  simp [isInLine]

theorem inLine_writtenParams {params : List String}
    (inLine : ∀ param ∈ params, (Occurrence.binds param).isInLine) :
    '\n' ∉ (writtenParams params).toList := by
  cases params with
  | nil => decide
  | cons param params =>
    simp only [Occurrence.isInLine_iff, Occurrence.text] at inLine
    obtain ⟨first, others⟩ := List.forall_mem_cons.mp inLine
    simp only [writtenParams, String.toList_append, toList_intercalate_cons]
    simpa [first] using others

/-! ## Parts -/

/-- Whether an expression hangs from the line where it begins, if none of its names ends a line. -/
def Expr.HangsInLine (expr : Expr) : Prop :=
  expr.Named Occurrence.isInLine → Hangs fun level => expr.render level

/-- Whether a member hangs from the line where it begins, if none of its names ends a line. -/
def Member.HangsInLine (member : Member) : Prop :=
  member.Named Occurrence.isInLine → Hangs fun level => member.render level

/-- Whether a statement hangs from the line where it begins, if none of its names ends a line. -/
def Stmt.HangsInLine (stmt : Stmt) : Prop :=
  stmt.Named Occurrence.isInLine → Hangs fun level => stmt.render level

theorem hangs_renderRest {exprs : List Expr}
    (hangs : ∀ expr ∈ exprs, Hangs fun level => expr.render level) :
    Hangs fun level => Expr.renderRest level exprs := by
  induction exprs with
  | nil => exact hangs_of_inLine (by decide)
  | cons expr exprs ih =>
    obtain ⟨first, others⟩ := List.forall_mem_cons.mp hangs
    exact ((hangs_of_inLine (by decide)).append first).append (ih others)

theorem hangs_renderList {exprs : List Expr}
    (hangs : ∀ expr ∈ exprs, Hangs fun level => expr.render level) :
    Hangs fun level => Expr.renderList level exprs := by
  cases exprs with
  | nil => exact hangs_of_inLine (by decide)
  | cons expr exprs =>
    obtain ⟨first, others⟩ := List.forall_mem_cons.mp hangs
    exact first.append (hangs_renderRest others)

theorem deepens_memberLines {members : List Member}
    (hangs : ∀ member ∈ members, Hangs fun level => member.render level) :
    Deepens fun level => Member.renderLines level members := by
  induction members with
  | nil => exact deepens_empty
  | cons member members ih =>
    obtain ⟨first, others⟩ := List.forall_mem_cons.mp hangs
    exact (first.line (hung_closed (show '\n' ∉ ",".toList by decide))).append (ih others)

theorem hangs_renderObject {members : List Member}
    (hangs : ∀ member ∈ members, Hangs fun level => member.render level) :
    Hangs fun level => Member.renderObject level members := by
  cases members with
  | nil => exact hangs_of_inLine (by decide)
  | cons member members => exact (deepens_memberLines hangs).braced

theorem deepens_stmtLines {stmts : List Stmt}
    (hangs : ∀ stmt ∈ stmts, Hangs fun level => stmt.render level) :
    Deepens fun level => Stmt.renderLines level stmts := by
  induction stmts with
  | nil => exact deepens_empty
  | cons stmt stmts ih =>
    obtain ⟨first, others⟩ := List.forall_mem_cons.mp hangs
    exact (first.line hung_lineEnd).append (ih others)

theorem hangs_renderElse {stmts : List Stmt}
    (hangs : ∀ stmt ∈ stmts, Hangs fun level => stmt.render level) :
    Hangs fun level => Stmt.renderElse level stmts := by
  cases stmts with
  | nil => exact deepens_empty.braced
  | cons stmt stmts =>
    cases stmts with
    | nil =>
      obtain ⟨single, _⟩ := List.forall_mem_cons.mp hangs
      by_cases chained : stmt.isChoice
      · simpa [Stmt.renderElse, chained] using single
      · simpa [Stmt.renderElse, chained] using (single.line hung_lineEnd).braced
    | cons next stmts => exact (deepens_stmtLines hangs).braced

theorem hangs_renderAlternate {alternate : Option (List Stmt)}
    (hangs : ∀ stmts ∈ alternate, ∀ stmt ∈ stmts, Hangs fun level => stmt.render level) :
    Hangs fun level => Stmt.renderAlternate level alternate := by
  cases alternate with
  | none => exact hangs_of_inLine (by decide)
  | some stmts => exact (hangs_of_inLine (by decide)).append (hangs_renderElse (hangs stmts rfl))

/-! ## All scripts -/

theorem hangsInLine_inductive :
    Inductive Expr.HangsInLine Member.HangsInLine Stmt.HangsInLine where
  bool value _ := by
    cases value with
    | true => exact hangs_of_inLine (by decide)
    | false => exact hangs_of_inLine (by decide)
  text value _ := hangs_of_inLine (inLine_quote value)
  name path named := hangs_of_inLine (Occurrence.isInLine_iff.mp (Expr.named_name.mp named))
  object members inside named := by
    rw [Expr.named_object] at named
    exact hangs_renderObject fun member mem => inside member mem (named member mem)
  array items inside named := by
    rw [Expr.named_array] at named
    have hangs := hangs_renderList fun item mem => inside item mem (named item mem)
    exact hangs.between (by decide) (by decide)
  call callee args inside named := by
    rw [Expr.named_call, Occurrence.isInLine_iff] at named
    obtain ⟨name, named⟩ := named
    have hangs := hangs_renderList fun arg mem => inside arg mem (named arg mem)
    exact hangs.between (by simpa [Occurrence.text] using name) (by decide)
  construct callee args inside named := by
    rw [Expr.named_construct, Occurrence.isInLine_iff] at named
    obtain ⟨name, named⟩ := named
    have hangs := hangs_renderList fun arg mem => inside arg mem (named arg mem)
    exact hangs.between (by simpa [Occurrence.text] using name) (by decide)
  arrow params body inside named := by
    rw [Expr.named_arrow] at named
    obtain ⟨names, named⟩ := named
    have written := hangs_of_inLine (inLine_writtenParams names)
    exact (written.append (hangs_of_inLine (by decide))).append (inside named)
  property key value inside named := by
    have written := hangs_of_inLine (inLine_writtenKey key)
    exact (written.append (hangs_of_inLine (by decide))).append (inside named)
  spread value inside named := (hangs_of_inLine (by decide)).append (inside named)
  method key params body inside named := by
    rw [Member.named_method] at named
    obtain ⟨names, named⟩ := named
    have opening := (hangs_of_inLine (inLine_writtenKey key)).append
      (hangs_of_inLine (inLine_writtenParams names))
    have lines := deepens_stmtLines fun stmt mem => inside stmt mem (named stmt mem)
    exact (opening.append (hangs_of_inLine (by decide))).append lines.braced
  declare bound init inside named := by
    rw [Stmt.named_declare, Occurrence.isInLine_iff] at named
    obtain ⟨name, named⟩ := named
    exact (inside named).between (by simpa [Occurrence.text] using name) (by decide)
  exportConst bound init inside named := by
    rw [Stmt.named_exportConst, Occurrence.isInLine_iff] at named
    obtain ⟨name, named⟩ := named
    exact (inside named).between (by simpa [Occurrence.text] using name) (by decide)
  exportDefault value inside named := (inside named).between (by decide) (by decide)
  assign target value inside named := by
    rw [Stmt.named_assign, Occurrence.isInLine_iff] at named
    obtain ⟨name, named⟩ := named
    exact (inside named).between (by simpa [Occurrence.text] using name) (by decide)
  eval value inside named := (inside named).append (hangs_of_inLine (by decide))
  throw value inside named := (inside named).between (by decide) (by decide)
  choose test body alternate condition inside otherwise named := by
    rw [Stmt.named_choose] at named
    obtain ⟨tested, named, alternates⟩ := named
    have lines := deepens_stmtLines fun stmt mem => inside stmt mem (named stmt mem)
    have others := hangs_renderAlternate fun stmts mem stmt within =>
      otherwise stmts mem stmt within (alternates stmts mem stmt within)
    exact (((condition tested).between (by decide) (by decide)).append lines.braced).append others

/-- An expression whose names end no line is written at any level as on the outermost one, with the
blanks of the level at the start of every line but the first. -/
theorem Expr.render_eq_hung {expr : Expr} (named : expr.Named Occurrence.isInLine) (level : Nat) :
    expr.render level = hung level (expr.render 0) :=
  hangsInLine_inductive.expr expr named level 0

/-- A statement whose names end no line is written at any level as on the outermost one, with the
blanks of the level at the start of every line. -/
theorem Stmt.line_eq_inset {stmt : Stmt} (named : stmt.Named Occurrence.isInLine) (level : Nat) :
    stmt.line level = inset level (stmt.line 0) := by
  have hangs : stmt.render level = hung level (stmt.render 0) :=
    hangsInLine_inductive.stmt stmt named level 0
  have outermost : stmt.line 0 = stmt.render 0 ++ "\n" := by
    rw [Stmt.line, show indentation 0 = "" from rfl, String.empty_append]
  rw [outermost, inset_lineEnd, ← hangs, Stmt.line]

/-- The blanks of a level stand at the start of every line of a statement, the first and the last
too. -/
example : (Stmt.choose (.name "a") [.eval (.name "b")] none).line 1
    = "  if (a) \x7b\n    b;\n  \x7d\n" :=
  rfl

end NativeViews.Script
