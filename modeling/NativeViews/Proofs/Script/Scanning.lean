import NativeViews.Proofs.Script.Tokens

/-!
Scanning a script that has been written. What is found are the tokens of its tree, at whatever
level a part is written and whatever follows it.
-/

namespace NativeViews.Script

/-- The written form of an expression is scanned as the tokens of the expression, before
anything that does not go on with a word. -/
def Expr.Scans (expr : Expr) : Prop :=
  ∀ level rest, continues rest = false →
    scan ((expr.render level).toList ++ rest) = expr.tokens ++ scan rest

/-- The written form of a member is scanned as the tokens of the member. -/
def Member.Scans (member : Member) : Prop :=
  ∀ level rest, continues rest = false →
    scan ((member.render level).toList ++ rest) = member.tokens ++ scan rest

/-- The written form of a statement is scanned as the tokens of the statement. -/
def Stmt.Scans (stmt : Stmt) : Prop :=
  ∀ level rest, scan ((stmt.render level).toList ++ rest) = stmt.tokens ++ scan rest

/-! ## The written form of each part -/

section Rendered

variable (level : Nat) (name target callee : String) (init value test : Expr) (exprs : List Expr)
  (members : List Member) (params : List String) (body : List Stmt)
  (alternate : Option (List Stmt))

theorem Expr.render_object : (object members).render level = Member.renderObject level members :=
  rfl

theorem Expr.render_array : (array exprs).render level = "[" ++ renderList level exprs ++ "]" :=
  rfl

theorem Expr.render_call :
    (call callee exprs).render level = callee ++ "(" ++ renderList level exprs ++ ")" :=
  rfl

theorem Expr.render_construct :
    (construct callee exprs).render level
      = "new " ++ callee ++ "(" ++ renderList level exprs ++ ")" :=
  rfl

theorem Expr.render_arrow :
    (arrow params value).render level = writtenParams params ++ " => " ++ value.render level :=
  rfl

theorem Member.render_property :
    (property name value).render level = writtenKey name ++ ": " ++ value.render level :=
  rfl

theorem Member.render_spread : (spread value).render level = "..." ++ value.render level :=
  rfl

theorem Member.render_method :
    (method name params body).render level
      = writtenKey name ++ writtenParams params ++ " "
        ++ braced level (Stmt.renderLines (level + 1) body) :=
  rfl

theorem Stmt.render_declare :
    (declare name init).render level = "let " ++ name ++ " = " ++ init.render level ++ ";" :=
  rfl

theorem Stmt.render_exportConst :
    (exportConst name init).render level
      = "export const " ++ name ++ " = " ++ init.render level ++ ";" :=
  rfl

theorem Stmt.render_exportDefault :
    (exportDefault value).render level = "export default " ++ value.render level ++ ";" :=
  rfl

theorem Stmt.render_assign :
    (assign target value).render level = target ++ " = " ++ value.render level ++ ";" :=
  rfl

theorem Stmt.render_eval : (eval value).render level = value.render level ++ ";" :=
  rfl

theorem Stmt.render_throw : (throw value).render level = "throw " ++ value.render level ++ ";" :=
  rfl

theorem Stmt.render_choose :
    (choose test body alternate).render level
      = "if (" ++ test.render level ++ ") " ++ braced level (renderLines (level + 1) body)
        ++ renderAlternate level alternate :=
  rfl

end Rendered

/-! ## Words, keys and parameters -/

theorem scan_keyword (word : String) (identifier : isIdentifier word) (rest : List Char) :
    scan (word.toList ++ ' ' :: rest) = .word word :: scan rest := by
  rw [scan_word (isPath_of_isIdentifier identifier) (continues_break (by decide) rest), scan_space]

theorem scan_key (key : String) {rest : List Char} (ends : continues rest = false) :
    scan ((writtenKey key).toList ++ rest) = keyToken key :: scan rest := by
  unfold writtenKey keyToken
  split
  · next identifier => exact scan_word (isPath_of_isIdentifier identifier) ends
  · exact scan_literal key rest

theorem toList_intercalate_cons (separator first : String) (rest : List String) :
    (separator.intercalate (first :: rest)).toList
      = first.toList ++ rest.flatMap fun other => separator.toList ++ other.toList := by
  induction rest generalizing first with
  | nil => simp
  | cons next rest ih =>
    have later := ih next
    rw [String.toList_intercalate, List.map_cons] at later
    rw [String.toList_intercalate, List.map_cons, List.map_cons, List.intercalate_cons_cons, later,
      List.flatMap_cons]
    simp only [List.append_assoc]

theorem continues_moreNames (names : List String) {rest : List Char}
    (ends : continues rest = false) :
    continues ((names.flatMap fun other => ", ".toList ++ other.toList) ++ rest) = false := by
  cases names with
  | nil => exact ends
  | cons name names => exact continues_break (by decide) _

theorem scan_moreNames {names : List String} (spelled : ∀ name ∈ names, isIdentifier name)
    {rest : List Char} (ends : continues rest = false) :
    scan ((names.flatMap fun other => ", ".toList ++ other.toList) ++ rest)
      = (names.flatMap fun other => [.sign ',', .word other]) ++ scan rest := by
  induction names with
  | nil => rfl
  | cons name names ih =>
    obtain ⟨first, others⟩ := List.forall_mem_cons.mp spelled
    have later := ih others
    have word := scan_word (isPath_of_isIdentifier first) (continues_moreNames names ends)
    rw [List.flatMap_cons, List.flatMap_cons, List.append_assoc, List.append_assoc]
    simp only [String.reduceToList, List.cons_append, List.nil_append] at word later ⊢
    rw [scan_sign (by decide), scan_space, word, later]

theorem scan_names {names : List String} (spelled : ∀ name ∈ names, isIdentifier name)
    {rest : List Char} (ends : continues rest = false) :
    scan ((", ".intercalate names).toList ++ rest) = nameTokens names ++ scan rest := by
  cases names with
  | nil => simp [nameTokens]
  | cons name names =>
    obtain ⟨first, others⟩ := List.forall_mem_cons.mp spelled
    have word := scan_word (isPath_of_isIdentifier first) (continues_moreNames names ends)
    rw [toList_intercalate_cons, List.append_assoc, word, scan_moreNames others ends]
    rfl

/-- The parameters of a function, before anything. -/
theorem scan_params {params : List String} (spelled : ∀ param ∈ params, isIdentifier param)
    (rest : List Char) :
    scan ((writtenParams params).toList ++ rest) = paramTokens params ++ scan rest := by
  have names := scan_names spelled (continues_break (show ')' ∈ breaks by decide) rest)
  simp only [writtenParams, String.toList_append, String.reduceToList, List.cons_append,
    List.nil_append, List.append_assoc, paramTokens] at names ⊢
  rw [scan_sign (by decide), names, scan_sign (by decide)]

/-- Lines between braces, when the lines are scanned as `inside`. -/
theorem scan_braced (level : Nat) {lines : String} {inside : List Token}
    (scans : ∀ rest, scan (lines.toList ++ rest) = inside ++ scan rest) (rest : List Char) :
    scan ((braced level lines).toList ++ rest)
      = .sign '\x7b' :: (inside ++ .sign '\x7d' :: scan rest) := by
  simp only [braced, String.toList_append, String.reduceToList, List.append_assoc, List.cons_append,
    List.nil_append]
  rw [scan_sign (by decide), scan_lineEnd, scans, scan_indentation, scan_sign (by decide)]

/-! ## Expressions -/

theorem Expr.scans_bool (value : Bool) : (bool value).Scans := by
  intro level rest ends
  cases value with
  | true =>
    have identifier : isIdentifier "true" := by simp [isIdentifier]
    exact scan_word (isPath_of_isIdentifier identifier) ends
  | false =>
    have identifier : isIdentifier "false" := by simp [isIdentifier]
    exact scan_word (isPath_of_isIdentifier identifier) ends

theorem Expr.scans_text (value : String) : (text value).Scans := by
  intro level rest _
  exact scan_literal value rest

theorem Expr.scans_name {path : String} (spelled : isPath path) : (name path).Scans := by
  intro level rest ends
  exact scan_word spelled ends

theorem continues_renderRest (level : Nat) (exprs : List Expr) {rest : List Char}
    (ends : continues rest = false) :
    continues ((Expr.renderRest level exprs).toList ++ rest) = false := by
  cases exprs with
  | nil => simpa [Expr.renderRest] using ends
  | cons expr exprs =>
    simp only [Expr.renderRest, String.toList_append, String.reduceToList, List.cons_append]
    exact continues_break (by decide) _

theorem scan_renderRest {exprs : List Expr} (scans : ∀ expr ∈ exprs, expr.Scans) (level : Nat)
    {rest : List Char} (ends : continues rest = false) :
    scan ((Expr.renderRest level exprs).toList ++ rest) = Expr.moreTokens exprs ++ scan rest := by
  induction exprs with
  | nil => simp [Expr.renderRest, Expr.moreTokens]
  | cons expr exprs ih =>
    obtain ⟨first, others⟩ := List.forall_mem_cons.mp scans
    have expr := first level _ (continues_renderRest level exprs ends)
    simp only [Expr.renderRest, Expr.moreTokens, String.toList_append, String.reduceToList,
      List.cons_append, List.nil_append, List.append_assoc]
    rw [scan_sign (by decide), scan_space, expr, ih others]

theorem scan_renderList {exprs : List Expr} (scans : ∀ expr ∈ exprs, expr.Scans) (level : Nat)
    {rest : List Char} (ends : continues rest = false) :
    scan ((Expr.renderList level exprs).toList ++ rest) = Expr.listTokens exprs ++ scan rest := by
  cases exprs with
  | nil => simp [Expr.renderList, Expr.listTokens]
  | cons expr exprs =>
    obtain ⟨first, others⟩ := List.forall_mem_cons.mp scans
    simp only [Expr.renderList, Expr.listTokens, String.toList_append, List.append_assoc]
    rw [first level _ (continues_renderRest level exprs ends), scan_renderRest others level ends]

theorem Expr.scans_array {items : List Expr} (scans : ∀ item ∈ items, item.Scans) :
    (array items).Scans := by
  intro level rest _
  have inside := scan_renderList scans level (continues_break (show ']' ∈ breaks by decide) rest)
  simp only [render_array, tokens_array, String.toList_append, String.reduceToList,
    List.cons_append, List.nil_append, List.append_assoc]
  rw [scan_sign (by decide), inside, scan_sign (by decide)]

theorem Expr.scans_call {callee : String} {args : List Expr} (spelled : isPath callee)
    (scans : ∀ arg ∈ args, arg.Scans) : (call callee args).Scans := by
  intro level rest _
  have inside := scan_renderList scans level (continues_break (show ')' ∈ breaks by decide) rest)
  simp only [render_call, tokens_call, String.toList_append, String.reduceToList, List.cons_append,
    List.nil_append, List.append_assoc]
  rw [scan_word spelled (continues_break (by decide) _), scan_sign (by decide), inside,
    scan_sign (by decide)]

theorem Expr.scans_construct {callee : String} {args : List Expr} (spelled : isPath callee)
    (scans : ∀ arg ∈ args, arg.Scans) : (construct callee args).Scans := by
  intro level rest ends
  have called := scans_call spelled scans level rest ends
  have new := scan_keyword "new" (by simp [isIdentifier])
  simp only [render_call, render_construct, tokens_call, tokens_construct, String.toList_append,
    String.reduceToList, List.cons_append, List.nil_append, List.append_assoc] at called new ⊢
  rw [new, called]

theorem Expr.scans_arrow {params : List String} {body : Expr}
    (spelled : ∀ param ∈ params, isIdentifier param) (scans : body.Scans) :
    (arrow params body).Scans := by
  intro level rest ends
  simp only [render_arrow, tokens_arrow, String.toList_append, String.reduceToList,
    List.cons_append, List.nil_append, List.append_assoc]
  rw [scan_params spelled, scan_space, scan_sign (by decide), scan_sign (by decide), scan_space,
    scans level rest ends]

theorem scan_renderLines {members : List Member} (scans : ∀ member ∈ members, member.Scans)
    (level : Nat) (rest : List Char) :
    scan ((Member.renderLines level members).toList ++ rest)
      = Member.allTokens members ++ scan rest := by
  induction members with
  | nil => simp [Member.renderLines, Member.allTokens]
  | cons member members ih =>
    obtain ⟨first, others⟩ := List.forall_mem_cons.mp scans
    simp only [Member.renderLines, Member.allTokens, String.toList_append, String.reduceToList,
      List.cons_append, List.nil_append, List.append_assoc]
    rw [scan_indentation, first level _ (continues_break (by decide) _), scan_sign (by decide),
      scan_lineEnd, ih others]

theorem Expr.scans_object {members : List Member} (scans : ∀ member ∈ members, member.Scans) :
    (object members).Scans := by
  intro level rest _
  cases members with
  | nil =>
    simp only [render_object, Member.renderObject, tokens_object, Member.allTokens,
      String.reduceToList, List.cons_append, List.nil_append]
    rw [scan_sign (by decide), scan_sign (by decide)]
  | cons member members =>
    have lines := scan_braced level (scan_renderLines scans (level + 1)) rest
    simpa [render_object, Member.renderObject, Member.renderLines, tokens_object] using lines

/-! ## Members -/

theorem Member.scans_property {key : String} {value : Expr} (scans : value.Scans) :
    (property key value).Scans := by
  intro level rest ends
  simp only [render_property, tokens_property, String.toList_append, String.reduceToList,
    List.cons_append, List.nil_append, List.append_assoc]
  rw [scan_key key (continues_break (by decide) _), scan_sign (by decide), scan_space,
    scans level rest ends]

theorem Member.scans_spread {value : Expr} (scans : value.Scans) : (spread value).Scans := by
  intro level rest ends
  simp only [render_spread, tokens_spread, String.toList_append, String.reduceToList,
    List.cons_append, List.nil_append]
  rw [scan_sign (by decide), scan_sign (by decide), scan_sign (by decide), scans level rest ends]

theorem scan_stmtLines {stmts : List Stmt} (scans : ∀ stmt ∈ stmts, stmt.Scans) (level : Nat)
    (rest : List Char) :
    scan ((Stmt.renderLines level stmts).toList ++ rest) = Stmt.allTokens stmts ++ scan rest := by
  induction stmts with
  | nil => simp [Stmt.renderLines, Stmt.allTokens]
  | cons stmt stmts ih =>
    obtain ⟨first, others⟩ := List.forall_mem_cons.mp scans
    simp only [Stmt.renderLines, Stmt.allTokens, String.toList_append, String.reduceToList,
      List.cons_append, List.nil_append, List.append_assoc]
    rw [scan_indentation, first level _, scan_lineEnd, ih others]

theorem Member.scans_method {key : String} {params : List String} {body : List Stmt}
    (spelled : ∀ param ∈ params, isIdentifier param) (scans : ∀ stmt ∈ body, stmt.Scans) :
    (method key params body).Scans := by
  intro level rest _
  have block := scan_braced level (scan_stmtLines scans (level + 1)) rest
  have opens : continues ((writtenParams params).toList
      ++ ' ' :: ((braced level (Stmt.renderLines (level + 1) body)).toList ++ rest)) = false := by
    simp only [writtenParams, String.toList_append, String.reduceToList, List.cons_append,
      List.nil_append]
    exact continues_break (by decide) _
  simp only [render_method, tokens_method, String.toList_append, String.reduceToList,
    List.cons_append, List.nil_append, List.append_assoc]
  rw [scan_key key opens, scan_params spelled, scan_space, block]

/-! ## Statements -/

/-- A statement that ends in an expression is scanned as its expression is. -/
theorem Stmt.scans_of_value {stmt : Stmt} {value : Expr} (start : String) (before : List Token)
    (rendered : ∀ level, stmt.render level = start ++ value.render level ++ ";")
    (spelled : stmt.tokens = before ++ (value.tokens ++ [.sign ';']))
    (begins : ∀ rest, scan (start.toList ++ rest) = before ++ scan rest)
    (scans : value.Scans) : stmt.Scans := by
  intro level rest
  have inside := scans level _ (continues_break (show ';' ∈ breaks by decide) rest)
  simp only [rendered, spelled, String.toList_append, String.reduceToList, List.cons_append,
    List.nil_append, List.append_assoc]
  rw [begins, inside, scan_sign (by decide)]

/-- What is assigned, and the sign after it. -/
theorem scan_target {target : String} (spelled : isPath target) (rest : List Char) :
    scan ((target ++ " = ").toList ++ rest) = .word target :: .sign '=' :: scan rest := by
  simp only [String.toList_append, String.reduceToList, List.cons_append, List.nil_append,
    List.append_assoc]
  rw [scan_word spelled (continues_break (by decide) _), scan_space, scan_sign (by decide),
    scan_space]

theorem Stmt.scans_declare {name : String} {init : Expr} (spelled : isIdentifier name)
    (scans : init.Scans) : (declare name init).Scans := by
  refine scans_of_value ("let " ++ name ++ " = ") [.word "let", .word name, .sign '=']
    (fun level => render_declare level name init) (tokens_declare init name) ?_ scans
  intro rest
  have keyword := scan_keyword "let" (by simp [isIdentifier])
  have target := scan_target (isPath_of_isIdentifier spelled) rest
  simp only [String.toList_append, String.reduceToList, List.cons_append, List.nil_append,
    List.append_assoc] at keyword target ⊢
  rw [keyword, target]

theorem Stmt.scans_exportConst {name : String} {init : Expr} (spelled : isIdentifier name)
    (scans : init.Scans) : (exportConst name init).Scans := by
  refine scans_of_value ("export const " ++ name ++ " = ")
    [.word "export", .word "const", .word name, .sign '=']
    (fun level => render_exportConst level name init) (tokens_exportConst init name) ?_ scans
  intro rest
  have keyword := scan_keyword "export" (by simp [isIdentifier])
  have kind := scan_keyword "const" (by simp [isIdentifier])
  have target := scan_target (isPath_of_isIdentifier spelled) rest
  simp only [String.toList_append, String.reduceToList, List.cons_append, List.nil_append,
    List.append_assoc] at keyword kind target ⊢
  rw [keyword, kind, target]

theorem Stmt.scans_exportDefault {value : Expr} (scans : value.Scans) :
    (exportDefault value).Scans := by
  refine scans_of_value "export default " [.word "export", .word "default"]
    (fun level => render_exportDefault level value) (tokens_exportDefault value) ?_ scans
  intro rest
  have keyword := scan_keyword "export" (by simp [isIdentifier])
  have kind := scan_keyword "default" (by simp [isIdentifier])
  simp only [String.reduceToList, List.cons_append, List.nil_append] at keyword kind ⊢
  rw [keyword, kind]

theorem Stmt.scans_assign {target : String} {value : Expr} (spelled : isPath target)
    (scans : value.Scans) : (assign target value).Scans :=
  scans_of_value (target ++ " = ") [.word target, .sign '=']
    (fun level => render_assign level target value) (tokens_assign value target)
    (scan_target spelled) scans

theorem Stmt.scans_eval {value : Expr} (scans : value.Scans) : (eval value).Scans := by
  refine scans_of_value "" [] (fun level => ?_) (tokens_eval value) (fun _ => rfl) scans
  rw [render_eval, String.empty_append]

theorem Stmt.scans_throw {value : Expr} (scans : value.Scans) : (throw value).Scans := by
  refine scans_of_value "throw " [.word "throw"] (fun level => render_throw level value)
    (tokens_throw value) ?_ scans
  intro rest
  have keyword := scan_keyword "throw" (by simp [isIdentifier])
  simp only [String.reduceToList, List.cons_append, List.nil_append] at keyword ⊢
  rw [keyword]

theorem scan_renderElse {stmts : List Stmt} (scans : ∀ stmt ∈ stmts, stmt.Scans) (level : Nat)
    (rest : List Char) :
    scan ((Stmt.renderElse level stmts).toList ++ rest) = Stmt.elseTokens stmts ++ scan rest := by
  have block := scan_braced level (scan_stmtLines scans (level + 1)) rest
  cases stmts with
  | nil =>
    rw [Stmt.renderLines] at block
    rw [Stmt.renderElse, block]
    rfl
  | cons stmt more =>
    rw [Stmt.renderLines] at block
    cases more with
    | nil =>
      rw [Stmt.renderElse, Stmt.elseTokens]
      split
      · exact scans stmt (by simp) level rest
      · rw [Stmt.renderLines, String.append_empty] at block
        rw [block]
        simp only [Stmt.allTokens, List.append_nil, List.cons_append, List.append_assoc,
          List.nil_append]
    | cons next more =>
      rw [Stmt.renderElse, block]
      simp only [Stmt.elseTokens, Stmt.allTokens, List.cons_append, List.append_assoc,
        List.nil_append]

theorem scan_renderAlternate {alternate : Option (List Stmt)}
    (scans : ∀ stmts ∈ alternate, ∀ stmt ∈ stmts, stmt.Scans) (level : Nat) (rest : List Char) :
    scan ((Stmt.renderAlternate level alternate).toList ++ rest)
      = Stmt.alternateTokens alternate ++ scan rest := by
  cases alternate with
  | none => simp [Stmt.renderAlternate, Stmt.alternateTokens]
  | some stmts =>
    have keyword := scan_keyword "else" (by simp [isIdentifier])
    have otherwise := scan_renderElse (scans stmts rfl) level rest
    simp only [Stmt.renderAlternate, Stmt.alternateTokens, String.toList_append,
      String.reduceToList, List.cons_append, List.nil_append] at keyword ⊢
    rw [scan_space, keyword, otherwise]

theorem Stmt.scans_choose {test : Expr} {body : List Stmt} {alternate : Option (List Stmt)}
    (condition : test.Scans) (scans : ∀ stmt ∈ body, stmt.Scans)
    (otherwise : ∀ stmts ∈ alternate, ∀ stmt ∈ stmts, stmt.Scans) :
    (choose test body alternate).Scans := by
  intro level rest
  have keyword := scan_keyword "if" (by simp [isIdentifier])
  have block := scan_braced level (scan_stmtLines scans (level + 1))
  simp only [render_choose, tokens_choose, String.toList_append, String.reduceToList,
    List.cons_append, List.nil_append, List.append_assoc] at keyword ⊢
  rw [keyword, scan_sign (by decide), condition level _ (continues_break (by decide) _),
    scan_sign (by decide), scan_space, block, scan_renderAlternate otherwise]

/-! ## All scripts -/

theorem scans_inductive :
    Inductive (fun expr => expr.Named Occurrence.isSpelled → expr.Scans)
      (fun member => member.Named Occurrence.isSpelled → member.Scans)
      (fun stmt => stmt.Named Occurrence.isSpelled → stmt.Scans) where
  bool value _ := Expr.scans_bool value
  text value _ := Expr.scans_text value
  name path spelled := Expr.scans_name (Expr.named_name.mp spelled)
  object members ih spelled := Expr.scans_object fun member inside =>
    ih member inside (Expr.named_object.mp spelled member inside)
  array items ih spelled := Expr.scans_array fun item inside =>
    ih item inside (Expr.named_array.mp spelled item inside)
  call callee args ih spelled := by
    obtain ⟨named, others⟩ := Expr.named_call.mp spelled
    exact Expr.scans_call named fun arg inside => ih arg inside (others arg inside)
  construct callee args ih spelled := by
    obtain ⟨named, others⟩ := Expr.named_construct.mp spelled
    exact Expr.scans_construct named fun arg inside => ih arg inside (others arg inside)
  arrow params body ih spelled := by
    obtain ⟨named, others⟩ := Expr.named_arrow.mp spelled
    exact Expr.scans_arrow named (ih others)
  property key value ih spelled := Member.scans_property (ih (Member.named_property.mp spelled))
  spread value ih spelled := Member.scans_spread (ih (Member.named_spread.mp spelled))
  method key params body ih spelled := by
    obtain ⟨named, others⟩ := Member.named_method.mp spelled
    exact Member.scans_method named fun stmt inside => ih stmt inside (others stmt inside)
  declare name init ih spelled := by
    obtain ⟨named, others⟩ := Stmt.named_declare.mp spelled
    exact Stmt.scans_declare named (ih others)
  exportConst name init ih spelled := by
    obtain ⟨named, others⟩ := Stmt.named_exportConst.mp spelled
    exact Stmt.scans_exportConst named (ih others)
  exportDefault value ih spelled :=
    Stmt.scans_exportDefault (ih (Stmt.named_exportDefault.mp spelled))
  assign target value ih spelled := by
    obtain ⟨named, others⟩ := Stmt.named_assign.mp spelled
    exact Stmt.scans_assign named (ih others)
  eval value ih spelled := Stmt.scans_eval (ih (Stmt.named_eval.mp spelled))
  throw value ih spelled := Stmt.scans_throw (ih (Stmt.named_throw.mp spelled))
  choose test body alternate condition ih otherwise spelled := by
    obtain ⟨tested, inside, others⟩ := Stmt.named_choose.mp spelled
    exact Stmt.scans_choose (condition tested)
      (fun stmt member => ih stmt member (inside stmt member))
      fun stmts present stmt member =>
        otherwise stmts present stmt member (others stmts present stmt member)

/-- An expression whose names are spelled as they should be is written as its tokens. -/
theorem Expr.scan_render {expr : Expr} (spelled : expr.Named Occurrence.isSpelled) :
    scan (expr.render 0).toList = expr.tokens := by
  have scans := scans_inductive.expr expr spelled 0 [] rfl
  simpa using scans

theorem scan_line {stmt : Stmt} (scans : stmt.Scans) (level : Nat) (rest : List Char) :
    scan ((stmt.line level).toList ++ rest) = stmt.tokens ++ scan rest := by
  simp only [Stmt.line, String.toList_append, String.reduceToList, List.cons_append,
    List.nil_append, List.append_assoc]
  rw [scan_indentation, scans, scan_lineEnd]

/-- A program whose names are spelled as they should be is written as its tokens. -/
theorem Program.scan_render {program : Program}
    (spelled : ∀ stmt ∈ program, stmt.Named Occurrence.isSpelled) :
    scan (Program.render program).toList = Stmt.allTokens program := by
  have scans : ∀ stmt ∈ program, stmt.Scans := fun stmt member =>
    scans_inductive.stmt stmt (spelled stmt member)
  have lines (later : Program) (scans : ∀ stmt ∈ later, stmt.Scans) :
      scan (later.flatMap fun stmt => '\n' :: (stmt.line 0).toList) = Stmt.allTokens later := by
    induction later with
    | nil => simp [Stmt.allTokens]
    | cons stmt later ih =>
      obtain ⟨first, others⟩ := List.forall_mem_cons.mp scans
      rw [List.flatMap_cons, List.cons_append, scan_lineEnd, scan_line first, ih others,
        Stmt.allTokens]
  cases program with
  | nil => simp [Program.render, Stmt.allTokens]
  | cons stmt program =>
    obtain ⟨first, others⟩ := List.forall_mem_cons.mp scans
    have later := lines program others
    rw [Program.render, List.map_cons, toList_intercalate_cons, List.flatMap_map, scan_line first,
      Stmt.allTokens]
    simpa using later

end NativeViews.Script
