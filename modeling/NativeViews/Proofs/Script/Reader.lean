import Mathlib.Data.List.Forall2
import NativeViews.Proofs.Script.Tokens

/-!
A reader of scripts, beside the printer: it takes the tokens of a tree and gives the tree back.
A reference to a word that is a literal can only be read as the literal. The reader goes as many
steps deep as its fuel allows; four steps for each token are enough.
-/

namespace NativeViews.Script

/-! ## The reader -/

/-- What follows a sign, if the tokens begin with it. -/
def expect (c : Char) : List Token → Option (List Token)
  | .sign d :: rest => if d = c then some rest else none
  | _ => none

/-- The names that follow another, up to the closing parenthesis. -/
def readMoreNames : List Token → Option (List String × List Token)
  | .sign ')' :: rest => some ([], rest)
  | .sign ',' :: .word name :: rest =>
    (readMoreNames rest).map fun (names, rest) => (name :: names, rest)
  | _ => none

/-- The parameters of a function, after the opening parenthesis. -/
def readParams : List Token → Option (List String × List Token)
  | .word name :: rest => (readMoreNames rest).map fun (names, rest) => (name :: names, rest)
  | tokens => readMoreNames tokens

/-- The expression that a word is by itself. -/
def readWord (word : String) : Expr :=
  if word = "true" then .bool true
  else if word = "false" then .bool false
  else .name word

mutual

/-- An expression, with what follows it. -/
def Expr.read : Nat → List Token → Option (Expr × List Token)
  | _ + 1, .literal value :: rest => some (.text value, rest)
  | fuel + 1, .sign '\x7b' :: rest => do
    let (members, rest) ← Member.readAll fuel rest
    some (.object members, rest)
  | fuel + 1, .sign '[' :: rest => do
    let (items, rest) ← Expr.readList ']' fuel rest
    some (.array items, rest)
  | fuel + 1, .sign '(' :: rest => do
    let (params, rest) ← readParams rest
    let rest ← expect '=' rest
    let rest ← expect '>' rest
    let (body, rest) ← Expr.read fuel rest
    some (.arrow params body, rest)
  | fuel + 1, .word callee :: .sign '(' :: rest => do
    let (args, rest) ← Expr.readList ')' fuel rest
    some (.call callee args, rest)
  | fuel + 1, .word _ :: .word callee :: rest => do
    let rest ← expect '(' rest
    let (args, rest) ← Expr.readList ')' fuel rest
    some (.construct callee args, rest)
  | _ + 1, .word word :: rest => some (readWord word, rest)
  | _, _ => none
termination_by structural fuel => fuel

/-- Expressions up to a closing sign, with what follows it. -/
def Expr.readList (close : Char) : Nat → List Token → Option (List Expr × List Token)
  | 0, _ => none
  | fuel + 1, tokens =>
    match expect close tokens with
    | some rest => some ([], rest)
    | none => do
      let (expr, rest) ← Expr.read fuel tokens
      let (exprs, rest) ← Expr.readMore close fuel rest
      some (expr :: exprs, rest)
termination_by structural fuel => fuel

/-- Expressions that follow another, up to a closing sign, with what follows it. -/
def Expr.readMore (close : Char) : Nat → List Token → Option (List Expr × List Token)
  | 0, _ => none
  | fuel + 1, tokens =>
    match expect close tokens with
    | some rest => some ([], rest)
    | none => do
      let rest ← expect ',' tokens
      let (expr, rest) ← Expr.read fuel rest
      let (exprs, rest) ← Expr.readMore close fuel rest
      some (expr :: exprs, rest)
termination_by structural fuel => fuel

/-- A member, with what follows it. -/
def Member.read : Nat → List Token → Option (Member × List Token)
  | fuel + 1, .sign _ :: .sign _ :: .sign _ :: rest => do
    let (value, rest) ← Expr.read fuel rest
    some (.spread value, rest)
  | fuel + 1, .word key :: rest => Member.readAfter key fuel rest
  | fuel + 1, .literal key :: rest => Member.readAfter key fuel rest
  | _, _ => none
termination_by structural fuel => fuel

/-- What a key names, with what follows the member. -/
def Member.readAfter (key : String) : Nat → List Token → Option (Member × List Token)
  | fuel + 1, .sign ':' :: rest => do
    let (value, rest) ← Expr.read fuel rest
    some (.property key value, rest)
  | fuel + 1, .sign '(' :: rest => do
    let (params, rest) ← readParams rest
    let (body, rest) ← Stmt.readBlock fuel rest
    some (.method key params body, rest)
  | _, _ => none
termination_by structural fuel => fuel

/-- Members up to the closing brace, with what follows it. -/
def Member.readAll : Nat → List Token → Option (List Member × List Token)
  | 0, _ => none
  | fuel + 1, tokens =>
    match expect '\x7d' tokens with
    | some rest => some ([], rest)
    | none => do
      let (member, rest) ← Member.read fuel tokens
      let rest ← expect ',' rest
      let (members, rest) ← Member.readAll fuel rest
      some (member :: members, rest)
termination_by structural fuel => fuel

/-- A statement, with what follows it. -/
def Stmt.read : Nat → List Token → Option (Stmt × List Token)
  | 0, _ => none
  | fuel + 1, .word "let" :: .word name :: rest => do
    let rest ← expect '=' rest
    let (init, rest) ← Expr.read fuel rest
    let rest ← expect ';' rest
    some (.declare name init, rest)
  | fuel + 1, .word "export" :: .word "const" :: .word name :: rest => do
    let rest ← expect '=' rest
    let (init, rest) ← Expr.read fuel rest
    let rest ← expect ';' rest
    some (.exportConst name init, rest)
  | fuel + 1, .word "export" :: .word "default" :: rest => do
    let (value, rest) ← Expr.read fuel rest
    let rest ← expect ';' rest
    some (.exportDefault value, rest)
  | fuel + 1, .word "throw" :: rest => do
    let (value, rest) ← Expr.read fuel rest
    let rest ← expect ';' rest
    some (.throw value, rest)
  | fuel + 1, .word "if" :: rest => do
    let rest ← expect '(' rest
    let (test, rest) ← Expr.read fuel rest
    let rest ← expect ')' rest
    let (body, rest) ← Stmt.readBlock fuel rest
    let (alternate, rest) ← Stmt.readAlternate fuel rest
    some (.choose test body alternate, rest)
  | fuel + 1, .word target :: .sign '=' :: rest => do
    let (value, rest) ← Expr.read fuel rest
    let rest ← expect ';' rest
    some (.assign target value, rest)
  | fuel + 1, tokens => do
    let (value, rest) ← Expr.read fuel tokens
    let rest ← expect ';' rest
    some (.eval value, rest)
termination_by structural fuel => fuel

/-- What follows the block of a choice, with what follows that. -/
def Stmt.readAlternate : Nat → List Token → Option (Option (List Stmt) × List Token)
  | 0, _ => none
  | fuel + 1, .word "else" :: .word first :: rest => do
    let (stmt, rest) ← Stmt.read fuel (.word first :: rest)
    some (some [stmt], rest)
  | fuel + 1, .word "else" :: rest => do
    let (stmts, rest) ← Stmt.readBlock fuel rest
    some (some stmts, rest)
  | _ + 1, tokens => some (none, tokens)
termination_by structural fuel => fuel

/-- The statements between braces, with what follows the closing one. -/
def Stmt.readBlock : Nat → List Token → Option (List Stmt × List Token)
  | 0, _ => none
  | fuel + 1, tokens => do
    let rest ← expect '\x7b' tokens
    let (stmts, rest) ← Stmt.readAll fuel rest
    let rest ← expect '\x7d' rest
    some (stmts, rest)
termination_by structural fuel => fuel

/-- Statements up to a closing brace or the end, with what is left. -/
def Stmt.readAll : Nat → List Token → Option (List Stmt × List Token)
  | 0, _ => none
  | _ + 1, [] => some ([], [])
  | _ + 1, .sign '\x7d' :: rest => some ([], .sign '\x7d' :: rest)
  | fuel + 1, tokens => do
    let (stmt, rest) ← Stmt.read fuel tokens
    let (stmts, rest) ← Stmt.readAll fuel rest
    some (stmt :: stmts, rest)
termination_by structural fuel => fuel

end

/-- The expression that tokens spell. -/
def Expr.ofTokens (tokens : List Token) : Option Expr :=
  (Expr.read (4 * tokens.length) tokens).map Prod.fst

/-- The program that tokens spell. -/
def Program.ofTokens (tokens : List Token) : Option Program :=
  (Stmt.readAll (4 * tokens.length + 1) tokens).map Prod.fst

@[simp] theorem Expr.read_literal (fuel : Nat) (value : String) (rest : List Token) :
    Expr.read (fuel + 1) (.literal value :: rest) = some (.text value, rest) := by
  rw [read]

@[simp] theorem Stmt.read_zero (tokens : List Token) : Stmt.read 0 tokens = none := by
  rw [read]

/-! ## Reading the tokens of a tree -/

/-- Whether an expression is over before a text of tokens. -/
def endsExpr : List Token → Bool
  | [] => true
  | .sign c :: _ => c = ',' || c = ')' || c = ']' || c = ';'
  | _ => false

/-- An expression is read as `read` from its tokens, before anything that ends it. -/
def Expr.ReadAs (expr read : Expr) : Prop :=
  ∀ fuel rest, 4 * expr.tokens.length ≤ fuel → endsExpr rest →
    Expr.read fuel (expr.tokens ++ rest) = some (read, rest)

/-- A member is read as `read` from its tokens, before its comma. -/
def Member.ReadAs (member read : Member) : Prop :=
  ∀ fuel rest, 4 * member.tokens.length ≤ fuel →
    Member.read fuel (member.tokens ++ .sign ',' :: rest) = some (read, .sign ',' :: rest)

theorem expect_sign (c : Char) (rest : List Token) : expect c (.sign c :: rest) = some rest := by
  rw [expect, if_pos rfl]

theorem expect_of_ne {c d : Char} (other : d ≠ c) (rest : List Token) :
    expect c (.sign d :: rest) = none := by
  rw [expect, if_neg other]

theorem readMoreNames_tokens (names : List String) (rest : List Token) :
    readMoreNames ((names.flatMap fun other => [.sign ',', .word other]) ++ .sign ')' :: rest)
      = some (names, rest) := by
  induction names with
  | nil => rfl
  | cons name names ih => simp [readMoreNames, ih]

theorem readParams_tokens (params : List String) (rest : List Token) :
    readParams (nameTokens params ++ .sign ')' :: rest) = some (params, rest) := by
  cases params with
  | nil => rfl
  | cons name names => simp [nameTokens, readParams, readMoreNames_tokens]

/-- Fuel for a step leaves fuel for the steps below it. -/
theorem exists_less {fuel : Nat} (enough : 0 < fuel) : ∃ less, fuel = less + 1 :=
  ⟨fuel - 1, by omega⟩

namespace Expr

theorem readAs_text (value : String) : (text value).ReadAs (text value) := by
  intro fuel rest enough _
  simp only [tokens_text, List.length_singleton, List.cons_append, List.nil_append] at enough ⊢
  obtain ⟨less, rfl⟩ := exists_less (show 0 < fuel by omega)
  rw [read]

theorem readAs_name (path : String) : (name path).ReadAs (readWord path) := by
  intro fuel rest enough ends
  simp only [tokens_name, List.length_singleton, List.cons_append, List.nil_append] at enough ⊢
  obtain ⟨less, rfl⟩ := exists_less (show 0 < fuel by omega)
  rw [read]
  · rintro after rfl
    simp [endsExpr] at ends
  · rintro callee after rfl
    simp [endsExpr] at ends

theorem readAs_bool (value : Bool) : (bool value).ReadAs (bool value) := by
  cases value with
  | true => exact readAs_name "true"
  | false => exact readAs_name "false"

/-- No expression begins with a sign that closes a list of expressions. -/
theorem expect_tokens (expr : Expr) {close : Char} (closes : close = ')' ∨ close = ']')
    (rest : List Token) : expect close (expr.tokens ++ rest) = none := by
  rcases closes with rfl | rfl <;> cases expr <;>
    simp [tokens, paramTokens, expect]

theorem endsExpr_moreTokens (exprs : List Expr) {close : Char} (closes : close = ')' ∨ close = ']')
    (rest : List Token) : endsExpr (moreTokens exprs ++ .sign close :: rest) := by
  cases exprs with
  | nil => rcases closes with rfl | rfl <;> rfl
  | cons expr exprs => rfl

theorem readMore_tokens {exprs reads : List Expr} (same : List.Forall₂ ReadAs exprs reads)
    {close : Char} (closes : close = ')' ∨ close = ']') {fuel : Nat} (rest : List Token)
    (enough : 4 * (moreTokens exprs).length < fuel) :
    readMore close fuel (moreTokens exprs ++ .sign close :: rest) = some (reads, rest) := by
  induction same generalizing fuel with
  | nil =>
    obtain ⟨less, rfl⟩ := exists_less (show 0 < fuel by omega)
    rw [moreTokens, List.nil_append, readMore, expect_sign]
  | @cons expr readExpr exprs reads first others ih =>
    have other : ',' ≠ close := by rcases closes with rfl | rfl <;> decide
    have ends := endsExpr_moreTokens exprs closes rest
    simp only [moreTokens, List.length_cons, List.length_append, List.cons_append,
      List.append_assoc] at enough ⊢
    obtain ⟨less, rfl⟩ := exists_less (show 0 < fuel by omega)
    have read := first less _ (by omega) ends
    have later : readMore close less (moreTokens exprs ++ .sign close :: rest)
        = some (reads, rest) := ih (by omega)
    rw [readMore, expect_of_ne other]
    simp only [expect_sign, read, later, Option.bind_eq_bind, Option.bind_some]

theorem readList_tokens {exprs reads : List Expr} (same : List.Forall₂ ReadAs exprs reads)
    {close : Char} (closes : close = ')' ∨ close = ']') {fuel : Nat} (rest : List Token)
    (enough : 4 * (listTokens exprs).length + 1 < fuel) :
    readList close fuel (listTokens exprs ++ .sign close :: rest) = some (reads, rest) := by
  obtain ⟨less, rfl⟩ := exists_less (show 0 < fuel by omega)
  cases same with
  | nil => rw [listTokens, List.nil_append, readList, expect_sign]
  | @cons expr readExpr exprs reads first others =>
    simp only [listTokens, List.length_append, List.append_assoc] at enough ⊢
    have read := first less _ (by omega) (endsExpr_moreTokens exprs closes rest)
    have later : readMore close less (moreTokens exprs ++ .sign close :: rest)
        = some (reads, rest) := readMore_tokens others closes rest (by omega)
    rw [readList, expect_tokens expr closes]
    simp only [read, later, Option.bind_eq_bind, Option.bind_some]

theorem readAs_array {items reads : List Expr} (same : List.Forall₂ ReadAs items reads) :
    (array items).ReadAs (array reads) := by
  intro fuel rest enough _
  simp only [tokens_array, List.length_cons, List.length_append, List.cons_append,
    List.append_assoc, List.nil_append] at enough ⊢
  obtain ⟨less, rfl⟩ := exists_less (show 0 < fuel by omega)
  rw [read, readList_tokens same (.inr rfl) rest (by omega)]
  rfl

theorem readAs_call (callee : String) {args reads : List Expr}
    (same : List.Forall₂ ReadAs args reads) : (call callee args).ReadAs (call callee reads) := by
  intro fuel rest enough _
  simp only [tokens_call, List.length_cons, List.length_append, List.cons_append, List.append_assoc,
    List.nil_append] at enough ⊢
  obtain ⟨less, rfl⟩ := exists_less (show 0 < fuel by omega)
  rw [read, readList_tokens same (.inl rfl) rest (by omega)]
  rfl

theorem readAs_construct (callee : String) {args reads : List Expr}
    (same : List.Forall₂ ReadAs args reads) :
    (construct callee args).ReadAs (construct callee reads) := by
  intro fuel rest enough _
  simp only [tokens_construct, List.length_cons, List.length_append, List.cons_append,
    List.append_assoc, List.nil_append] at enough ⊢
  obtain ⟨less, rfl⟩ := exists_less (show 0 < fuel by omega)
  have list : readList ')' less (listTokens args ++ .sign ')' :: rest) = some (reads, rest) :=
    readList_tokens same (.inl rfl) rest (by omega)
  rw [read]
  simp only [expect_sign, list, Option.bind_eq_bind, Option.bind_some]

theorem readAs_arrow (params : List String) {body readBody : Expr} (same : body.ReadAs readBody) :
    (arrow params body).ReadAs (arrow params readBody) := by
  intro fuel rest enough ends
  simp only [tokens_arrow, paramTokens, List.length_cons, List.length_append, List.cons_append,
    List.append_assoc, List.nil_append] at enough ⊢
  obtain ⟨less, rfl⟩ := exists_less (show 0 < fuel by omega)
  have inside := same less rest (by omega) ends
  rw [read]
  simp only [readParams_tokens, expect_sign, inside, Option.bind_eq_bind, Option.bind_some]

theorem expect_keyToken (c : Char) (key : String) (rest : List Token) :
    expect c (keyToken key :: rest) = none := by
  by_cases bare : isIdentifier key
  · rw [keyToken, if_pos bare]
    rfl
  · rw [keyToken, if_neg bare]
    rfl

/-- No member begins with the brace that closes the object. -/
theorem expect_member (member : Member) (rest : List Token) :
    expect '\x7d' (member.tokens ++ rest) = none := by
  cases member with
  | property key value => exact expect_keyToken _ key _
  | spread value => exact expect_of_ne (by decide) _
  | method key params body => exact expect_keyToken _ key _

theorem readAll_members {members reads : List Member}
    (same : List.Forall₂ Member.ReadAs members reads) {fuel : Nat} (rest : List Token)
    (enough : 4 * (Member.allTokens members).length < fuel) :
    Member.readAll fuel (Member.allTokens members ++ .sign '\x7d' :: rest)
      = some (reads, rest) := by
  induction same generalizing fuel with
  | nil =>
    obtain ⟨less, rfl⟩ := exists_less (show 0 < fuel by omega)
    rw [Member.allTokens, List.nil_append, Member.readAll, expect_sign]
  | @cons member readMember members reads first others ih =>
    simp only [Member.allTokens, List.length_cons, List.length_append, List.cons_append,
      List.append_assoc] at enough ⊢
    obtain ⟨less, rfl⟩ := exists_less (show 0 < fuel by omega)
    have read := first less (Member.allTokens members ++ .sign '\x7d' :: rest) (by omega)
    have later : Member.readAll less (Member.allTokens members ++ .sign '\x7d' :: rest)
        = some (reads, rest) := ih (by omega)
    rw [Member.readAll, expect_member]
    simp only [read, expect_sign, later, Option.bind_eq_bind, Option.bind_some]

theorem readAs_object {members reads : List Member}
    (same : List.Forall₂ Member.ReadAs members reads) :
    (object members).ReadAs (object reads) := by
  intro fuel rest enough _
  simp only [tokens_object, List.length_cons, List.length_append, List.cons_append,
    List.append_assoc, List.nil_append] at enough ⊢
  obtain ⟨less, rfl⟩ := exists_less (show 0 < fuel by omega)
  rw [read, readAll_members same rest (by omega)]
  rfl

theorem ReadAs.ofTokens_eq {expr read : Expr} (same : expr.ReadAs read) :
    ofTokens expr.tokens = some read := by
  have inside := same (4 * expr.tokens.length) [] (Nat.le_refl _) rfl
  rw [List.append_nil] at inside
  rw [ofTokens, inside]
  rfl

end Expr

/-! ## Statements -/

/-- Whether tokens begin with a statement: neither the end of a block nor an alternate. -/
def opensStmt : List Token → Bool
  | .word word :: _ => word ≠ "else"
  | .sign c :: _ => c ≠ '\x7d'
  | .literal _ :: _ => true
  | [] => false

/-- The words that begin a statement or an alternate. -/
def statementWords : List String :=
  ["let", "export", "throw", "if", "else"]

/-- Whether tokens begin with an expression that can stand as a statement: with none of those
words, and with nothing that is assigned. -/
def opensEval : List Token → Bool
  | .word word :: .sign c :: _ => word ∉ statementWords && c ≠ '='
  | .word word :: _ => word ∉ statementWords
  | .sign c :: _ => c ≠ '\x7d'
  | .literal _ :: _ => true
  | [] => false

/-- Whether tokens go on with an alternate. -/
def opensAlternate : List Token → Bool
  | .word word :: _ => word = "else"
  | _ => false

/-- A statement is read as `read` from its tokens, before anything but an alternate. -/
structure Stmt.ReadAs (stmt read : Stmt) : Prop where
  opens : ∀ rest, opensStmt (stmt.tokens ++ rest)
  reads : ∀ fuel rest, 4 * stmt.tokens.length ≤ fuel → opensAlternate rest = false →
    Stmt.read fuel (stmt.tokens ++ rest) = some (read, rest)

/-- Whether tokens close a block, or are over. -/
def closesBlock : List Token → Bool
  | [] => true
  | .sign c :: _ => c = '\x7d'
  | _ => false

theorem not_mem_of_opensEval {word : String} {rest : List Token}
    (opens : opensEval (.word word :: rest)) : word ∉ statementWords := by
  unfold opensEval at opens
  split at opens <;> simp_all

theorem opensStmt_of_opensEval {tokens : List Token} (opens : opensEval tokens) :
    opensStmt tokens := by
  cases tokens with
  | nil => exact opens
  | cons first rest =>
    cases first with
    | word word =>
      have free := not_mem_of_opensEval opens
      simp only [opensStmt, decide_eq_true_eq]
      rintro rfl
      exact free (by decide)
    | literal value => rfl
    | sign c => exact opens

theorem opensAlternate_of_opensStmt {tokens : List Token} (opens : opensStmt tokens) :
    opensAlternate tokens = false := by
  unfold opensStmt at opens
  split at opens <;> simp_all [opensAlternate]

theorem opensAlternate_of_closesBlock {tokens : List Token} (closes : closesBlock tokens) :
    opensAlternate tokens = false := by
  unfold closesBlock at closes
  split at closes <;> simp_all [opensAlternate]

namespace Stmt

theorem opensAlternate_allTokens {stmts reads : List Stmt} (same : List.Forall₂ ReadAs stmts reads)
    {rest : List Token} (closes : closesBlock rest) :
    opensAlternate (allTokens stmts ++ rest) = false := by
  cases same with
  | nil => exact opensAlternate_of_closesBlock closes
  | cons first others =>
    rw [allTokens, List.append_assoc]
    exact opensAlternate_of_opensStmt (first.opens _)

theorem length_tokens_pos {stmt read : Stmt} (same : stmt.ReadAs read) :
    0 < stmt.tokens.length := by
  have opens := same.opens []
  rw [List.append_nil] at opens
  refine List.length_pos_iff.mpr fun none => ?_
  rw [none] at opens
  exact Bool.noConfusion opens

theorem readAll_tokens {stmts reads : List Stmt} (same : List.Forall₂ ReadAs stmts reads)
    {rest : List Token} (closes : closesBlock rest) {fuel : Nat}
    (enough : 4 * (allTokens stmts).length < fuel) :
    readAll fuel (allTokens stmts ++ rest) = some (reads, rest) := by
  induction same generalizing fuel with
  | nil =>
    obtain ⟨less, rfl⟩ := exists_less (show 0 < fuel by omega)
    rw [allTokens, List.nil_append]
    unfold closesBlock at closes
    split at closes
    · rw [readAll]
    · next c after =>
      obtain rfl := of_decide_eq_true closes
      rw [readAll]
    · exact Bool.noConfusion closes
  | @cons stmt readStmt stmts reads first others ih =>
    have opens := first.opens (allTokens stmts ++ rest)
    have solid := length_tokens_pos first
    simp only [allTokens, List.length_append, List.append_assoc] at enough ⊢
    obtain ⟨less, rfl⟩ := exists_less (show 0 < fuel by omega)
    have read := first.reads less _ (by omega) (opensAlternate_allTokens others closes)
    have later : readAll less (allTokens stmts ++ rest) = some (reads, rest) := ih (by omega)
    rw [readAll]
    · simp only [read, later, Option.bind_eq_bind, Option.bind_some]
    · intro starts
      rw [starts] at opens
      exact Bool.noConfusion opens
    · intro after starts
      rw [starts] at opens
      simp [opensStmt] at opens

theorem ofTokens_allTokens {stmts reads : Program} (same : List.Forall₂ ReadAs stmts reads) :
    Program.ofTokens (allTokens stmts) = some reads := by
  have inside := readAll_tokens same (show closesBlock [] from rfl) (Nat.lt_succ_self _)
  rw [List.append_nil] at inside
  rw [Program.ofTokens, inside]
  rfl

theorem readBlock_tokens {stmts reads : List Stmt} (same : List.Forall₂ ReadAs stmts reads)
    {fuel : Nat} (rest : List Token) (enough : 4 * (allTokens stmts).length + 1 < fuel) :
    readBlock fuel (.sign '\x7b' :: (allTokens stmts ++ .sign '\x7d' :: rest))
      = some (reads, rest) := by
  obtain ⟨less, rfl⟩ := exists_less (show 0 < fuel by omega)
  have closes : closesBlock (.sign '\x7d' :: rest) := rfl
  have inside : readAll less (allTokens stmts ++ .sign '\x7d' :: rest)
      = some (reads, .sign '\x7d' :: rest) := readAll_tokens same closes (by omega)
  rw [readBlock]
  simp only [expect_sign, inside, Option.bind_eq_bind, Option.bind_some]

/-- What is left to read of a statement that ends in an expression, once what stands before the
expression is read. -/
def readLast (make : Expr → Stmt) (fuel : Nat) (tokens : List Token) :
    Option (Stmt × List Token) := do
  let (value, rest) ← Expr.read fuel tokens
  let rest ← expect ';' rest
  some (make value, rest)

/-- A statement that ends in an expression is read as its expression is. -/
theorem readAs_of_value (make : Expr → Stmt) (start : List Token) {value readValue : Expr}
    (spelled : (make value).tokens = start ++ (value.tokens ++ [.sign ';']))
    (opens : ∀ rest, opensStmt (start ++ (value.tokens ++ .sign ';' :: rest)))
    (begins : ∀ fuel rest, read (fuel + 1) (start ++ (value.tokens ++ .sign ';' :: rest))
      = readLast make fuel (value.tokens ++ .sign ';' :: rest))
    (same : value.ReadAs readValue) : (make value).ReadAs (make readValue) where
  opens rest := by
    rw [spelled, List.append_assoc, List.append_assoc]
    exact opens rest
  reads fuel rest enough _ := by
    simp only [spelled, List.length_append, List.length_singleton, List.append_assoc,
      List.cons_append, List.nil_append] at enough ⊢
    obtain ⟨less, rfl⟩ := exists_less (show 0 < fuel by omega)
    have inside := same less (.sign ';' :: rest) (by omega) rfl
    rw [begins, readLast]
    simp only [expect_sign, inside, Option.bind_eq_bind, Option.bind_some]

theorem readAs_declare (name : String) {init readInit : Expr} (same : init.ReadAs readInit) :
    (declare name init).ReadAs (declare name readInit) := by
  refine readAs_of_value (declare name) [.word "let", .word name, .sign '=']
    (tokens_declare init name) (fun _ => rfl) ?_ same
  intro fuel rest
  simp only [List.cons_append, List.nil_append]
  rw [read, expect_sign]
  rfl

theorem readAs_exportConst (name : String) {init readInit : Expr} (same : init.ReadAs readInit) :
    (exportConst name init).ReadAs (exportConst name readInit) := by
  refine readAs_of_value (exportConst name)
    [.word "export", .word "const", .word name, .sign '='] (tokens_exportConst init name)
    (fun _ => rfl) ?_ same
  intro fuel rest
  simp only [List.cons_append, List.nil_append]
  rw [read, expect_sign]
  rfl

theorem readAs_exportDefault {value readValue : Expr} (same : value.ReadAs readValue) :
    (exportDefault value).ReadAs (exportDefault readValue) := by
  refine readAs_of_value exportDefault [.word "export", .word "default"]
    (tokens_exportDefault value) (fun _ => rfl) ?_ same
  intro fuel rest
  simp only [List.cons_append, List.nil_append]
  rw [read, readLast]

theorem readAs_throw {value readValue : Expr} (same : value.ReadAs readValue) :
    (Stmt.throw value).ReadAs (Stmt.throw readValue) := by
  refine readAs_of_value Stmt.throw [.word "throw"] (tokens_throw value) (fun _ => rfl) ?_ same
  intro fuel rest
  simp only [List.cons_append, List.nil_append]
  rw [read, readLast]

theorem readAs_assign {target : String} (free : target ∉ statementWords) {value readValue : Expr}
    (same : value.ReadAs readValue) :
    (assign target value).ReadAs (assign target readValue) := by
  refine readAs_of_value (assign target) [.word target, .sign '='] (tokens_assign value target) ?_
    ?_ same
  · intro rest
    simp only [List.cons_append, opensStmt, decide_eq_true_eq]
    rintro rfl
    exact free (by decide)
  · intro fuel rest
    simp only [List.cons_append, List.nil_append]
    rw [read, readLast]
    · rintro rfl
      exact free (by decide)
    · rintro rfl
      exact free (by decide)

theorem readAs_eval {value readValue : Expr}
    (opens : ∀ rest, opensEval (value.tokens ++ .sign ';' :: rest))
    (same : value.ReadAs readValue) : (eval value).ReadAs (eval readValue) := by
  refine readAs_of_value eval [] (tokens_eval value)
    (fun rest => opensStmt_of_opensEval (opens rest)) ?_ same
  intro fuel rest
  have free := fun {word : String} {after : List Token}
      (starts : value.tokens ++ .sign ';' :: rest = .word word :: after) =>
    not_mem_of_opensEval (starts ▸ opens rest)
  rw [List.nil_append, read, readLast]
  · intro name after starts
    exact free starts (by decide)
  · intro name after starts
    exact free starts (by decide)
  · intro after starts
    exact free starts (by decide)
  · intro after starts
    exact free starts (by decide)
  · intro after starts
    exact free starts (by decide)
  · intro target after starts
    have opens := opens rest
    rw [starts] at opens
    simp [opensEval] at opens

theorem readAlternate_of_closed {rest : List Token} (closed : opensAlternate rest = false)
    {fuel : Nat} (enough : 0 < fuel) : readAlternate fuel rest = some (none, rest) := by
  obtain ⟨less, rfl⟩ := exists_less enough
  rw [readAlternate]
  · rintro first after rfl
    exact Bool.noConfusion closed
  · rintro after rfl
    exact Bool.noConfusion closed

theorem readAlternate_elseTokens {stmts reads : List Stmt}
    (same : List.Forall₂ ReadAs stmts reads) {rest : List Token}
    (closed : opensAlternate rest = false) {fuel : Nat}
    (enough : 4 * (elseTokens stmts).length + 3 < fuel) :
    readAlternate fuel (.word "else" :: (elseTokens stmts ++ rest)) = some (some reads, rest) := by
  obtain ⟨less, rfl⟩ := exists_less (show 0 < fuel by omega)
  have braced (first : Token) (tokens : List Token)
      (read : readBlock less (first :: tokens) = some (reads, rest))
      (opens : ∀ word, first ≠ .word word) :
      readAlternate (less + 1) (.word "else" :: first :: tokens) = some (some reads, rest) := by
    rw [readAlternate]
    · rw [read]
      rfl
    · rintro word after same
      exact opens word (List.cons.inj same).1
  have block (small : 4 * (allTokens stmts).length + 1 < less) :=
    readBlock_tokens same rest small
  cases same with
  | nil => exact braced _ _ (block (by simp [elseTokens, allTokens] at enough ⊢; omega)) (by simp)
  | @cons stmt readStmt stmts reads first others =>
    cases others with
    | nil =>
      rw [elseTokens] at enough ⊢
      split at enough
      · next choice =>
        cases stmt with
        | choose test body alternate =>
          have read := first.reads less rest (by omega) closed
          rw [if_pos choice]
          simp only [tokens_choose, List.cons_append] at read ⊢
          rw [readAlternate, read]
          rfl
        | _ => exact Bool.noConfusion choice
      · next choice =>
        rw [if_neg choice]
        simp only [List.length_cons, List.length_append] at enough
        have inside := block (by rw [allTokens, allTokens, List.append_nil]; omega)
        rw [allTokens, allTokens, List.append_nil] at inside
        simpa using braced _ _ inside (by simp)
    | cons second others =>
      simp only [elseTokens, List.length_cons, List.length_append] at enough ⊢
      have inside := block (by simp only [allTokens, List.length_append] at enough ⊢; omega)
      rw [allTokens] at inside
      simpa using braced _ _ inside (by simp)

theorem readAs_choose {test readTest : Expr} {body readBody : List Stmt}
    {alternate readAlternate : Option (List Stmt)} (condition : test.ReadAs readTest)
    (same : List.Forall₂ ReadAs body readBody)
    (otherwise : Option.Rel (List.Forall₂ ReadAs) alternate readAlternate) :
    (choose test body alternate).ReadAs (choose readTest readBody readAlternate) where
  opens rest := rfl
  reads fuel rest enough closed := by
    simp only [tokens_choose, List.length_cons, List.length_append, List.cons_append,
      List.append_assoc] at enough ⊢
    obtain ⟨less, rfl⟩ := exists_less (show 0 < fuel by omega)
    have alternateRead : Stmt.readAlternate less (alternateTokens alternate ++ rest)
        = some (readAlternate, rest) := by
      cases otherwise with
      | none => exact readAlternate_of_closed closed (by omega)
      | some stmts =>
        simp only [alternateTokens, List.length_cons] at enough
        exact readAlternate_elseTokens stmts closed (by omega)
    have tested := condition less (.sign ')' :: .sign '\x7b' :: (allTokens body ++ .sign '\x7d' ::
      (alternateTokens alternate ++ rest))) (by omega) rfl
    have chosen := readBlock_tokens same (alternateTokens alternate ++ rest)
      (show 4 * (allTokens body).length + 1 < less by omega)
    rw [read]
    simp only [expect_sign, tested, chosen, alternateRead, Option.bind_eq_bind, Option.bind_some]

end Stmt

/-! ## Members -/

namespace Member

theorem read_of_key (key : String) (fuel : Nat) (rest : List Token) :
    read (fuel + 1) (keyToken key :: rest) = readAfter key fuel rest := by
  by_cases bare : isIdentifier key
  · rw [keyToken, if_pos bare, read]
  · rw [keyToken, if_neg bare, read]

theorem readAs_property (key : String) {value readValue : Expr} (same : value.ReadAs readValue) :
    (property key value).ReadAs (property key readValue) := by
  intro fuel rest enough
  simp only [tokens_property, List.length_cons, List.cons_append] at enough ⊢
  obtain ⟨less, rfl⟩ : ∃ less, fuel = less + 2 := ⟨fuel - 2, by omega⟩
  rw [read_of_key, readAfter, same less (.sign ',' :: rest) (by omega) rfl]
  rfl

theorem readAs_spread {value readValue : Expr} (same : value.ReadAs readValue) :
    (spread value).ReadAs (spread readValue) := by
  intro fuel rest enough
  simp only [tokens_spread, List.length_cons, List.cons_append] at enough ⊢
  obtain ⟨less, rfl⟩ := exists_less (show 0 < fuel by omega)
  rw [read, same less (.sign ',' :: rest) (by omega) rfl]
  rfl

theorem readAs_method (key : String) (params : List String) {body readBody : List Stmt}
    (same : List.Forall₂ Stmt.ReadAs body readBody) :
    (method key params body).ReadAs (method key params readBody) := by
  intro fuel rest enough
  simp only [tokens_method, paramTokens, List.length_cons, List.length_append, List.cons_append,
    List.append_assoc, List.nil_append] at enough ⊢
  obtain ⟨less, rfl⟩ : ∃ less, fuel = less + 2 := ⟨fuel - 2, by omega⟩
  have inside := Stmt.readBlock_tokens same (.sign ',' :: rest)
    (show 4 * (Stmt.allTokens body).length + 1 < less by omega)
  rw [read_of_key, readAfter]
  simp only [readParams_tokens, inside, Option.bind_eq_bind, Option.bind_some]

end Member

/-! ## Reading well-formed scripts -/

theorem readWord_of_free {path : String} (free : path ∉ reservedWords) :
    readWord path = .name path := by
  have noTrue : path ≠ "true" := by rintro rfl; exact free (by decide)
  have noFalse : path ≠ "false" := by rintro rfl; exact free (by decide)
  rw [readWord, if_neg noTrue, if_neg noFalse]

theorem statementWords_subset : statementWords ⊆ reservedWords := by
  decide

/-- A well-formed expression can stand as a statement. -/
theorem Expr.opensEval_tokens {expr : Expr} (formed : expr.Named Occurrence.isFree)
    (rest : List Token) : opensEval (expr.tokens ++ .sign ';' :: rest) := by
  cases expr with
  | bool value => cases value <;> rfl
  | name path =>
    have free := not_mem_reservedWords (named_name.mp formed)
    have plain : path ∉ statementWords := fun inside => free (statementWords_subset inside)
    simp [tokens_name, opensEval, plain]
  | call callee args =>
    have free := not_mem_reservedWords (named_call.mp formed).1
    have plain : callee ∉ statementWords := fun inside => free (statementWords_subset inside)
    simp [tokens_call, opensEval, plain]
  | construct callee args => simp [tokens_construct, opensEval, statementWords]
  | _ => rfl

theorem readAs_inductive :
    Inductive (fun expr => expr.Named Occurrence.isFree → expr.ReadAs expr)
      (fun member => member.Named Occurrence.isFree → member.ReadAs member)
      (fun stmt => stmt.Named Occurrence.isFree → stmt.ReadAs stmt) where
  bool value _ := Expr.readAs_bool value
  text value _ := Expr.readAs_text value
  name path formed := by
    have free : path ∉ reservedWords := not_mem_reservedWords (Expr.named_name.mp formed)
    have read := Expr.readAs_name path
    rwa [readWord_of_free free] at read
  object members ih formed := Expr.readAs_object <| List.forall₂_same.mpr fun member inside =>
    ih member inside (Expr.named_object.mp formed member inside)
  array items ih formed := Expr.readAs_array <| List.forall₂_same.mpr fun item inside =>
    ih item inside (Expr.named_array.mp formed item inside)
  call callee args ih formed := Expr.readAs_call callee <| List.forall₂_same.mpr fun arg inside =>
    ih arg inside ((Expr.named_call.mp formed).2 arg inside)
  construct callee args ih formed :=
    Expr.readAs_construct callee <| List.forall₂_same.mpr fun arg inside =>
      ih arg inside ((Expr.named_construct.mp formed).2 arg inside)
  arrow params body ih formed := Expr.readAs_arrow params (ih (Expr.named_arrow.mp formed).2)
  property key value ih formed := Member.readAs_property key (ih (Member.named_property.mp formed))
  spread value ih formed := Member.readAs_spread (ih (Member.named_spread.mp formed))
  method key params body ih formed :=
    Member.readAs_method key params <| List.forall₂_same.mpr fun stmt inside =>
      ih stmt inside ((Member.named_method.mp formed).2 stmt inside)
  declare name init ih formed := Stmt.readAs_declare name (ih (Stmt.named_declare.mp formed).2)
  exportConst name init ih formed :=
    Stmt.readAs_exportConst name (ih (Stmt.named_exportConst.mp formed).2)
  exportDefault value ih formed :=
    Stmt.readAs_exportDefault (ih (Stmt.named_exportDefault.mp formed))
  assign target value ih formed := by
    obtain ⟨named, others⟩ := Stmt.named_assign.mp formed
    have free := not_mem_reservedWords named
    exact Stmt.readAs_assign (fun inside => free (statementWords_subset inside)) (ih others)
  eval value ih formed := by
    have named := Stmt.named_eval.mp formed
    exact Stmt.readAs_eval (Expr.opensEval_tokens named) (ih named)
  throw value ih formed := Stmt.readAs_throw (ih (Stmt.named_throw.mp formed))
  choose test body alternate condition ih otherwise formed := by
    obtain ⟨tested, inside, others⟩ := Stmt.named_choose.mp formed
    refine Stmt.readAs_choose (condition tested) (List.forall₂_same.mpr fun stmt member =>
      ih stmt member (inside stmt member)) ?_
    cases alternate with
    | none => exact .none
    | some stmts =>
      exact .some (List.forall₂_same.mpr fun stmt member =>
        otherwise stmts rfl stmt member (others stmts rfl stmt member))

end NativeViews.Script
