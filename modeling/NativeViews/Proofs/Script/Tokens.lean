import NativeViews.Proofs.Script.Induction
import NativeViews.Proofs.Script.Literal
import NativeViews.Proofs.Script.Names
import NativeViews.Script.Printer

/-!
The tokens of a script. Scanning the written form of a part gives the tokens of the part, at
whatever level it is written and whatever follows, so indentation and line ends carry nothing.
-/

namespace NativeViews.Script

/-- A token: a word, a literal, or a sign. -/
inductive Token where
  | word (path : String)
  | literal (value : String)
  | sign (c : Char)
  deriving DecidableEq, Repr

/-! ## Scanning -/

/-- Whether a character stands between tokens. -/
def isBlank (c : Char) : Bool :=
  c = ' ' || c = '\n'

/-- The tokens of a text. A character that begins neither a literal nor a word is a sign. -/
def scan : List Char → List Token
  | [] => []
  | c :: rest =>
    if isBlank c then scan rest
    else if startsIdentifier c then
      .word (String.ofList (c :: rest.takeWhile continuesWord)) :: scan (rest.dropWhile continuesWord)
    else match _found : Quoted.read (c :: rest) with
      | some (value, after) => .literal value :: scan after
      | none => .sign c :: scan rest
termination_by chars => chars.length
decreasing_by
  · simp
  · have shorter := (List.dropWhile_sublist continuesWord (l := rest)).length_le
    simp only [List.length_cons]
    omega
  · exact Quoted.length_of_read _found
  · simp

/-- Whether a text goes on with a word before it. -/
def continues : List Char → Bool
  | [] => false
  | c :: _ => continuesWord c

/-- The signs of a script. -/
def signs : List Char :=
  ['(', ')', '[', ']', '\x7b', '\x7d', ',', ':', ';', '=', '>', '.']

/-- The characters that a word ends before. -/
def breaks : List Char :=
  [' ', '(', ')', ']', ',', ':', ';']

theorem startsIdentifier_sign (c : Char) (sign : c ∈ signs) : startsIdentifier c = false := by
  have all : signs.all (fun c => startsIdentifier c = false) := by simp [signs]
  exact of_decide_eq_true (List.all_eq_true.mp all c sign)

theorem isBlank_sign (c : Char) (sign : c ∈ signs) : isBlank c = false := by
  have all : signs.all (fun c => isBlank c = false) := by decide
  exact of_decide_eq_true (List.all_eq_true.mp all c sign)

theorem ne_quote_of_sign (c : Char) (sign : c ∈ signs) : c ≠ '\'' := by
  have all : signs.all (fun c => c ≠ '\'') := by decide
  exact of_decide_eq_true (List.all_eq_true.mp all c sign)

theorem continuesWord_break (c : Char) (stops : c ∈ breaks) : continuesWord c = false := by
  have all : breaks.all (fun c => continuesWord c = false) := by simp [breaks, continuesWord]
  exact of_decide_eq_true (List.all_eq_true.mp all c stops)

theorem continues_break {c : Char} (stops : c ∈ breaks) (rest : List Char) :
    continues (c :: rest) = false :=
  continuesWord_break c stops

theorem isBlank_of_startsIdentifier {c : Char} (starts : startsIdentifier c) : isBlank c = false := by
  simp only [isBlank, Bool.or_eq_false_iff, decide_eq_false_iff_not]
  constructor
  · rintro rfl
    exact absurd starts (by simp)
  · rintro rfl
    exact absurd starts (by simp)

@[simp] theorem scan_nil : scan [] = [] := by
  rw [scan]

@[simp] theorem scan_space (rest : List Char) : scan (' ' :: rest) = scan rest := by
  rw [scan, if_pos (by decide)]

@[simp] theorem scan_lineEnd (rest : List Char) : scan ('\n' :: rest) = scan rest := by
  rw [scan, if_pos (by decide)]

theorem scan_sign {c : Char} (sign : c ∈ signs) (rest : List Char) :
    scan (c :: rest) = .sign c :: scan rest := by
  have noLiteral : Quoted.read (c :: rest) = none := by
    unfold Quoted.read
    split
    · next same => exact absurd (List.cons.inj same).1 (ne_quote_of_sign c sign)
    · rfl
  rw [scan, if_neg (by simp [isBlank_sign c sign]), if_neg (by simp [startsIdentifier_sign c sign])]
  split
  · next found => rw [noLiteral] at found; simp at found
  · rfl

theorem scan_literal (value : String) (rest : List Char) :
    scan ((quote value).toList ++ rest) = .literal value :: scan rest := by
  have read := Quoted.read_quote value rest
  simp only [quote, String.toList_ofList, List.cons_append] at read ⊢
  rw [scan, if_neg (by decide), if_neg (by simp)]
  split
  · next found =>
    rw [read] at found
    obtain ⟨rfl, rfl⟩ := Prod.mk.inj (Option.some.inj found)
    rfl
  · next found => rw [read] at found; simp at found

/-- A path is one word wherever it does not run into what follows. -/
theorem scan_word {path : String} (spelled : isPath path) {rest : List Char}
    (ends : continues rest = false) :
    scan (path.toList ++ rest) = .word path :: scan rest := by
  obtain ⟨first, others, same, starts, inside⟩ := word_of_isPath spelled
  have taken : (others ++ rest).takeWhile continuesWord = others := by
    rw [List.takeWhile_append_of_pos inside]
    cases rest with
    | nil => simp
    | cons c rest => simp [show continuesWord c = false from ends]
  have left : (others ++ rest).dropWhile continuesWord = rest := by
    rw [List.dropWhile_append_of_pos inside]
    cases rest with
    | nil => simp
    | cons c rest => simp [show continuesWord c = false from ends]
  rw [same, List.cons_append, scan, if_neg (by simp [isBlank_of_startsIdentifier starts]),
    if_pos starts, taken, left, ← same, String.ofList_toList]

theorem scan_indentation (level : Nat) (rest : List Char) :
    scan ((indentation level).toList ++ rest) = scan rest := by
  simp only [indentation, String.toList_ofList]
  induction 2 * level with
  | zero => simp
  | succ blanks ih => simp [List.replicate_succ, ih]

/-! ## The tokens of a tree -/

/-- The token of a key. -/
def keyToken (key : String) : Token :=
  if isIdentifier key then .word key else .literal key

/-- The tokens of names with commas between. -/
def nameTokens : List String → List Token
  | [] => []
  | name :: rest => .word name :: rest.flatMap fun other => [.sign ',', .word other]

/-- The tokens of the parameters of a function. -/
def paramTokens (params : List String) : List Token :=
  .sign '(' :: (nameTokens params ++ [.sign ')'])

mutual

/-- The tokens of an expression. -/
def Expr.tokens : Expr → List Token
  | .bool value => [.word (if value then "true" else "false")]
  | .text value => [.literal value]
  | .name path => [.word path]
  | .object members => .sign '\x7b' :: (Member.allTokens members ++ [.sign '\x7d'])
  | .array items => .sign '[' :: (Expr.listTokens items ++ [.sign ']'])
  | .call callee args => .word callee :: .sign '(' :: (Expr.listTokens args ++ [.sign ')'])
  | .construct callee args =>
    .word "new" :: .word callee :: .sign '(' :: (Expr.listTokens args ++ [.sign ')'])
  | .arrow params body => paramTokens params ++ .sign '=' :: .sign '>' :: body.tokens
termination_by structural expr => expr

/-- The tokens of expressions with commas between. -/
def Expr.listTokens : List Expr → List Token
  | [] => []
  | expr :: rest => expr.tokens ++ Expr.moreTokens rest
termination_by structural exprs => exprs

/-- The tokens of expressions that follow another. -/
def Expr.moreTokens : List Expr → List Token
  | [] => []
  | expr :: rest => .sign ',' :: (expr.tokens ++ Expr.moreTokens rest)
termination_by structural exprs => exprs

/-- The tokens of a member. -/
def Member.tokens : Member → List Token
  | .property key value => keyToken key :: .sign ':' :: value.tokens
  | .spread value => .sign '.' :: .sign '.' :: .sign '.' :: value.tokens
  | .method key params body =>
    keyToken key :: (paramTokens params ++ .sign '\x7b' :: (Stmt.allTokens body ++ [.sign '\x7d']))
termination_by structural member => member

/-- The tokens of members, each with its comma. -/
def Member.allTokens : List Member → List Token
  | [] => []
  | member :: rest => member.tokens ++ .sign ',' :: Member.allTokens rest
termination_by structural members => members

/-- The tokens of a statement. -/
def Stmt.tokens : Stmt → List Token
  | .declare name init => .word "let" :: .word name :: .sign '=' :: (init.tokens ++ [.sign ';'])
  | .exportConst name init =>
    .word "export" :: .word "const" :: .word name :: .sign '=' :: (init.tokens ++ [.sign ';'])
  | .exportDefault value => .word "export" :: .word "default" :: (value.tokens ++ [.sign ';'])
  | .assign target value => .word target :: .sign '=' :: (value.tokens ++ [.sign ';'])
  | .eval value => value.tokens ++ [.sign ';']
  | .throw value => .word "throw" :: (value.tokens ++ [.sign ';'])
  | .choose test body alternate =>
    .word "if" :: .sign '(' :: (test.tokens ++ .sign ')' :: .sign '\x7b' :: (Stmt.allTokens body
      ++ .sign '\x7d' :: Stmt.alternateTokens alternate))
termination_by structural stmt => stmt

/-- The tokens of what follows the block of a choice. -/
def Stmt.alternateTokens : Option (List Stmt) → List Token
  | none => []
  | some stmts => .word "else" :: Stmt.elseTokens stmts
termination_by structural alternate => alternate

/-- The tokens of an alternate: the next choice of a chain, or a block. -/
def Stmt.elseTokens : List Stmt → List Token
  | [] => [.sign '\x7b', .sign '\x7d']
  | [stmt] => if stmt.isChoice then stmt.tokens else .sign '\x7b' :: (stmt.tokens ++ [.sign '\x7d'])
  | stmt :: next :: rest =>
    .sign '\x7b' :: (stmt.tokens ++ Stmt.allTokens (next :: rest) ++ [.sign '\x7d'])
termination_by structural stmts => stmts

/-- The tokens of statements. -/
def Stmt.allTokens : List Stmt → List Token
  | [] => []
  | stmt :: rest => stmt.tokens ++ Stmt.allTokens rest
termination_by structural stmts => stmts

end

section Parts

variable (value test body : Expr) (exprs : List Expr) (members : List Member) (stmts : List Stmt)
  (name callee : String) (params : List String) (alternate : Option (List Stmt))

theorem Expr.tokens_text : (text name).tokens = [.literal name] :=
  rfl

theorem Expr.tokens_name : (Expr.name name).tokens = [.word name] :=
  rfl

theorem Expr.tokens_object :
    (object members).tokens = .sign '\x7b' :: (Member.allTokens members ++ [.sign '\x7d']) :=
  rfl

theorem Expr.tokens_array : (array exprs).tokens = .sign '[' :: (listTokens exprs ++ [.sign ']']) :=
  rfl

theorem Expr.tokens_call :
    (call callee exprs).tokens
      = .word callee :: .sign '(' :: (listTokens exprs ++ [.sign ')']) :=
  rfl

theorem Expr.tokens_construct :
    (construct callee exprs).tokens
      = .word "new" :: .word callee :: .sign '(' :: (listTokens exprs ++ [.sign ')']) :=
  rfl

theorem Expr.tokens_arrow :
    (arrow params body).tokens = paramTokens params ++ .sign '=' :: .sign '>' :: body.tokens :=
  rfl

theorem Member.tokens_property :
    (property name value).tokens = keyToken name :: .sign ':' :: value.tokens :=
  rfl

theorem Member.tokens_spread :
    (spread value).tokens = .sign '.' :: .sign '.' :: .sign '.' :: value.tokens :=
  rfl

theorem Member.tokens_method :
    (method name params stmts).tokens
      = keyToken name :: (paramTokens params ++ .sign '\x7b' ::
        (Stmt.allTokens stmts ++ [.sign '\x7d'])) :=
  rfl

theorem Stmt.tokens_declare :
    (declare name value).tokens
      = .word "let" :: .word name :: .sign '=' :: (value.tokens ++ [.sign ';']) :=
  rfl

theorem Stmt.tokens_exportConst :
    (exportConst name value).tokens
      = .word "export" :: .word "const" :: .word name :: .sign '=' ::
        (value.tokens ++ [.sign ';']) :=
  rfl

theorem Stmt.tokens_exportDefault :
    (exportDefault value).tokens
      = .word "export" :: .word "default" :: (value.tokens ++ [.sign ';']) :=
  rfl

theorem Stmt.tokens_assign :
    (assign name value).tokens = .word name :: .sign '=' :: (value.tokens ++ [.sign ';']) :=
  rfl

theorem Stmt.tokens_eval : (eval value).tokens = value.tokens ++ [.sign ';'] :=
  rfl

theorem Stmt.tokens_throw :
    (Stmt.throw value).tokens = .word "throw" :: (value.tokens ++ [.sign ';']) :=
  rfl

theorem Stmt.tokens_choose :
    (choose test stmts alternate).tokens
      = .word "if" :: .sign '(' :: (test.tokens ++ .sign ')' :: .sign '\x7b' ::
        (allTokens stmts ++ .sign '\x7d' :: alternateTokens alternate)) :=
  rfl

end Parts

end NativeViews.Script
