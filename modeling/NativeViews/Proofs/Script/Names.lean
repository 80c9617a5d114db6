import NativeViews.Proofs.Script.Letters
import NativeViews.Script.Syntax

/-!
The names that stand in a script as they are: all else is punctuation, a fixed word, a literal,
or the key of a member.
-/

namespace NativeViews.Script

/-! ## Paths -/

/-- The names that a path joins by dots. -/
def segments (path : String) : List String :=
  (path.toList.splitOn '.').map String.ofList

/-- The name that a path begins with. -/
def firstSegment (path : String) : String :=
  (segments path).headD ""

/-- Whether a path is an identifier, or identifiers joined by dots. -/
def isPath (path : String) : Bool :=
  (segments path).all isIdentifier

/-- The words that begin a literal, a call of a constructor, a statement or an alternate. -/
def reservedWords : List String :=
  ["true", "false", "new", "let", "export", "throw", "if", "else"]

/-- Whether a word of a script goes on with `c`. -/
def continuesWord (c : Char) : Bool :=
  c = '.' || continuesIdentifier c

theorem continuesIdentifier_of_starts {c : Char} (starts : startsIdentifier c) :
    continuesIdentifier c := by
  simp only [startsIdentifier, continuesIdentifier, Text.isAlphanumeric, Bool.or_eq_true] at *
  rcases starts with sign | letter
  · exact .inl sign
  · exact .inr (.inl letter)

/-- An identifier is a character that may begin one, and others that may go on with it. -/
theorem isIdentifier_ofList_iff {chars : List Char} :
    isIdentifier (String.ofList chars) ↔ ∃ first rest, chars = first :: rest ∧
      startsIdentifier first ∧ ∀ c ∈ rest, continuesIdentifier c := by
  cases chars with
  | nil => simp [isIdentifier]
  | cons first rest =>
    simp only [isIdentifier, String.toList_ofList, Bool.and_eq_true, List.all_eq_true]
    constructor
    · intro formed
      exact ⟨first, rest, rfl, formed⟩
    · rintro ⟨_, _, same, formed⟩
      obtain ⟨rfl, rfl⟩ := List.cons.inj same
      exact formed

theorem segments_of_no_dot {name : String} (noDot : '.' ∉ name.toList) : segments name = [name] := by
  simp [segments, List.splitOn_eq_singleton noDot]

theorem not_mem_of_isIdentifier {name : String} (identifier : isIdentifier name) {c : Char}
    (stops : continuesIdentifier c = false) : c ∉ name.toList := by
  intro inside
  rw [← String.ofList_toList (s := name)] at identifier
  obtain ⟨first, rest, same, starts, others⟩ := isIdentifier_ofList_iff.mp identifier
  rw [same] at inside
  have continues : continuesIdentifier c = true := by
    rcases List.mem_cons.mp inside with here | later
    · exact continuesIdentifier_of_starts (here ▸ starts)
    · exact others _ later
  rw [stops] at continues
  exact Bool.noConfusion continues

theorem no_dot_of_isIdentifier {name : String} (identifier : isIdentifier name) :
    '.' ∉ name.toList :=
  not_mem_of_isIdentifier identifier (by simp)

/-- An identifier is a path of one name. -/
theorem segments_of_isIdentifier {name : String} (identifier : isIdentifier name) :
    segments name = [name] :=
  segments_of_no_dot (no_dot_of_isIdentifier identifier)

theorem isPath_of_isIdentifier {name : String} (identifier : isIdentifier name) : isPath name := by
  simp [isPath, segments_of_isIdentifier identifier, identifier]

theorem firstSegment_of_isIdentifier {name : String} (identifier : isIdentifier name) :
    firstSegment name = name := by
  rw [firstSegment, segments_of_isIdentifier identifier, List.headD_cons]

/-- An identifier, a dot and more make the identifier one name before the others. -/
theorem segments_append {name : String} (identifier : isIdentifier name) (path : String) :
    segments (name ++ ("." ++ path)) = name :: segments path := by
  have noDot := no_dot_of_isIdentifier identifier
  simp only [segments, String.toList_append, String.reduceToList, List.singleton_append]
  rw [List.splitOn_append_cons_self_of_not_mem noDot, List.map_cons, String.ofList_toList]

theorem firstSegment_append {name : String} (identifier : isIdentifier name) (path : String) :
    firstSegment (name ++ ("." ++ path)) = name := by
  rw [firstSegment, segments_append identifier, List.headD_cons]

theorem isPath_append {name path : String} (identifier : isIdentifier name)
    (others : isPath path) : isPath (name ++ ("." ++ path)) := by
  rw [isPath, segments_append identifier, List.all_cons, identifier, Bool.true_and]
  exact others

theorem word_of_intercalate {parts : List (List Char)} (some : parts ≠ [])
    (identifiers : ∀ part ∈ parts, isIdentifier (String.ofList part)) :
    ∃ first rest, ['.'].intercalate parts = first :: rest ∧ startsIdentifier first ∧
      ∀ c ∈ rest, continuesWord c := by
  induction parts with
  | nil => exact absurd rfl some
  | cons part parts ih =>
    obtain ⟨identifier, others⟩ := List.forall_mem_cons.mp identifiers
    obtain ⟨first, rest, rfl, starts, continues⟩ := isIdentifier_ofList_iff.mp identifier
    have inside : ∀ c ∈ rest, continuesWord c := fun c member => by
      simp [continuesWord, continues c member]
    cases parts with
    | nil => exact ⟨first, rest, by simp, starts, inside⟩
    | cons next parts =>
      obtain ⟨second, more, joined, begins, later⟩ := ih (by simp) others
      refine ⟨first, rest ++ '.' :: second :: more, by simp [joined], starts, ?_⟩
      simp only [List.forall_mem_append, List.forall_mem_cons]
      refine ⟨inside, by simp [continuesWord], ?_, later⟩
      simp [continuesWord, continuesIdentifier_of_starts begins]

/-- A path is one word: it begins as an identifier does and goes on without a break. -/
theorem word_of_isPath {path : String} (isPath : isPath path) :
    ∃ first rest, path.toList = first :: rest ∧ startsIdentifier first ∧
      ∀ c ∈ rest, continuesWord c := by
  simp only [Script.isPath, segments, List.all_map, List.all_eq_true] at isPath
  have word := word_of_intercalate (List.splitOn_ne_nil '.' path.toList) isPath
  rwa [List.intercalate_splitOn] at word

/-! ## Names -/

/-- A name where it stands in a script. -/
inductive Occurrence where
  /-- The name of a binding or of a parameter. -/
  | binds (name : String)
  /-- What is referred to, called, constructed or assigned. -/
  | refers (path : String)

/-- The text of a name. -/
def Occurrence.text : Occurrence → String
  | .binds name => name
  | .refers path => path

/-- Whether a name is an identifier, or a path where it refers to something. -/
def Occurrence.isSpelled : Occurrence → Bool
  | .binds name => isIdentifier name
  | .refers path => isPath path

/-- Whether a name is spelled as it should be and does not begin with a reserved word. -/
def Occurrence.isFree (occurrence : Occurrence) : Bool :=
  occurrence.isSpelled && !reservedWords.contains (firstSegment occurrence.text)

theorem isIdentifier_reserved : ∀ word ∈ reservedWords, isIdentifier word := by
  simp [reservedWords, isIdentifier]

/-- A name that does not begin with a reserved word is none. -/
theorem not_mem_reservedWords {occurrence : Occurrence} (free : occurrence.isFree) :
    occurrence.text ∉ reservedWords := by
  intro reserved
  have whole : firstSegment occurrence.text = occurrence.text := by
    exact firstSegment_of_isIdentifier (isIdentifier_reserved _ reserved)
  simp only [Occurrence.isFree, whole, Bool.and_eq_true, Bool.not_eq_true',
    List.contains_eq_mem, decide_eq_false_iff_not] at free
  exact free.2 reserved

theorem isFree_of_isIdentifier {name : String} (identifier : isIdentifier name)
    (free : name ∉ reservedWords) :
    (Occurrence.binds name).isFree ∧ (Occurrence.refers name).isFree := by
  simp [Occurrence.isFree, Occurrence.isSpelled, Occurrence.text, identifier, free,
    isPath_of_isIdentifier identifier, firstSegment_of_isIdentifier identifier]

theorem isFree_append {name path : String} (identifier : isIdentifier name)
    (free : name ∉ reservedWords) (others : isPath path) :
    (Occurrence.refers (name ++ ("." ++ path))).isFree := by
  simp [Occurrence.isFree, Occurrence.isSpelled, Occurrence.text, free,
    isPath_append identifier others, firstSegment_append identifier]

theorem isSpelled_of_isFree {occurrence : Occurrence} (free : occurrence.isFree) :
    occurrence.isSpelled := by
  simp only [Occurrence.isFree, Bool.and_eq_true] at free
  exact free.1

mutual

/-- The names in an expression. -/
def Expr.names : Expr → List Occurrence
  | .bool _ => []
  | .text _ => []
  | .name path => [.refers path]
  | .object members => Member.allNames members
  | .array items => Expr.allNames items
  | .call callee args => .refers callee :: Expr.allNames args
  | .construct callee args => .refers callee :: Expr.allNames args
  | .arrow params body => params.map .binds ++ body.names
termination_by structural expr => expr

/-- The names in expressions. -/
def Expr.allNames : List Expr → List Occurrence
  | [] => []
  | expr :: rest => expr.names ++ Expr.allNames rest
termination_by structural exprs => exprs

/-- The names in a member. -/
def Member.names : Member → List Occurrence
  | .property _ value => value.names
  | .spread value => value.names
  | .method _ params body => params.map .binds ++ Stmt.allNames body
termination_by structural member => member

/-- The names in members. -/
def Member.allNames : List Member → List Occurrence
  | [] => []
  | member :: rest => member.names ++ Member.allNames rest
termination_by structural members => members

/-- The names in a statement. -/
def Stmt.names : Stmt → List Occurrence
  | .declare name init => .binds name :: init.names
  | .exportConst name init => .binds name :: init.names
  | .exportDefault value => value.names
  | .assign target value => .refers target :: value.names
  | .eval value => value.names
  | .throw value => value.names
  | .choose test body alternate =>
    test.names ++ Stmt.allNames body ++ Stmt.alternateNames alternate
termination_by structural stmt => stmt

/-- The names in statements. -/
def Stmt.allNames : List Stmt → List Occurrence
  | [] => []
  | stmt :: rest => stmt.names ++ Stmt.allNames rest
termination_by structural stmts => stmts

/-- The names in an alternate. -/
def Stmt.alternateNames : Option (List Stmt) → List Occurrence
  | none => []
  | some stmts => Stmt.allNames stmts
termination_by structural alternate => alternate

end

@[simp] theorem Expr.allNames_eq (exprs : List Expr) : allNames exprs = exprs.flatMap names := by
  induction exprs with
  | nil => rfl
  | cons expr rest ih => rw [allNames, ih, List.flatMap_cons]

@[simp] theorem Member.allNames_eq (members : List Member) : allNames members = members.flatMap names := by
  induction members with
  | nil => rfl
  | cons member rest ih => rw [allNames, ih, List.flatMap_cons]

@[simp] theorem Stmt.allNames_eq (stmts : List Stmt) : allNames stmts = stmts.flatMap names := by
  induction stmts with
  | nil => rfl
  | cons stmt rest ih => rw [allNames, ih, List.flatMap_cons]

/-! ## Conditions on all names -/

/-- Whether every name in an expression satisfies a condition. -/
def Expr.Named (fits : Occurrence → Bool) (expr : Expr) : Prop :=
  ∀ occurrence ∈ expr.names, fits occurrence

/-- Whether every name in a member satisfies a condition. -/
def Member.Named (fits : Occurrence → Bool) (member : Member) : Prop :=
  ∀ occurrence ∈ member.names, fits occurrence

/-- Whether every name in a statement satisfies a condition. -/
def Stmt.Named (fits : Occurrence → Bool) (stmt : Stmt) : Prop :=
  ∀ occurrence ∈ stmt.names, fits occurrence

section Parts

variable {fits : Occurrence → Bool}

@[simp] theorem Expr.named_bool (value : Bool) : (bool value).Named fits :=
  fun _ member => absurd member List.not_mem_nil

@[simp] theorem Expr.named_text (value : String) : (text value).Named fits :=
  fun _ member => absurd member List.not_mem_nil

@[simp] theorem Expr.named_name {path : String} : (name path).Named fits ↔ fits (.refers path) :=
  List.forall_mem_singleton

@[simp] theorem Expr.named_object {members : List Member} :
    (object members).Named fits ↔ ∀ member ∈ members, member.Named fits := by
  change (∀ occurrence ∈ Member.allNames members, fits occurrence) ↔ _
  rw [Member.allNames_eq, List.forall_mem_flatMap]
  rfl

@[simp] theorem Expr.named_array {items : List Expr} :
    (array items).Named fits ↔ ∀ item ∈ items, item.Named fits := by
  change (∀ occurrence ∈ allNames items, fits occurrence) ↔ _
  rw [allNames_eq, List.forall_mem_flatMap]
  rfl

@[simp] theorem Expr.named_call {callee : String} {args : List Expr} :
    (call callee args).Named fits ↔ fits (.refers callee) ∧ ∀ arg ∈ args, arg.Named fits := by
  change (∀ occurrence ∈ .refers callee :: allNames args, fits occurrence) ↔ _
  rw [List.forall_mem_cons, allNames_eq, List.forall_mem_flatMap]
  rfl

@[simp] theorem Expr.named_construct {callee : String} {args : List Expr} :
    (construct callee args).Named fits ↔ fits (.refers callee) ∧ ∀ arg ∈ args, arg.Named fits := by
  change (call callee args).Named fits ↔ _
  exact named_call

@[simp] theorem Expr.named_arrow {params : List String} {body : Expr} :
    (arrow params body).Named fits ↔
      (∀ param ∈ params, fits (.binds param)) ∧ body.Named fits := by
  change (∀ occurrence ∈ params.map .binds ++ body.names, fits occurrence) ↔ _
  rw [List.forall_mem_append, List.forall_mem_map]
  rfl

@[simp] theorem Member.named_property {key : String} {value : Expr} :
    (property key value).Named fits ↔ value.Named fits :=
  Iff.rfl

@[simp] theorem Member.named_spread {value : Expr} :
    (spread value).Named fits ↔ value.Named fits :=
  Iff.rfl

@[simp] theorem Member.named_method {key : String} {params : List String} {body : List Stmt} :
    (method key params body).Named fits ↔
      (∀ param ∈ params, fits (.binds param)) ∧ ∀ stmt ∈ body, stmt.Named fits := by
  change (∀ occurrence ∈ params.map .binds ++ Stmt.allNames body, fits occurrence) ↔ _
  rw [List.forall_mem_append, List.forall_mem_map, Stmt.allNames_eq, List.forall_mem_flatMap]
  rfl

@[simp] theorem Stmt.named_declare {name : String} {init : Expr} :
    (declare name init).Named fits ↔ fits (.binds name) ∧ init.Named fits :=
  List.forall_mem_cons

@[simp] theorem Stmt.named_exportConst {name : String} {init : Expr} :
    (exportConst name init).Named fits ↔ fits (.binds name) ∧ init.Named fits :=
  List.forall_mem_cons

@[simp] theorem Stmt.named_exportDefault {value : Expr} :
    (exportDefault value).Named fits ↔ value.Named fits :=
  Iff.rfl

@[simp] theorem Stmt.named_assign {target : String} {value : Expr} :
    (assign target value).Named fits ↔ fits (.refers target) ∧ value.Named fits :=
  List.forall_mem_cons

@[simp] theorem Stmt.named_eval {value : Expr} : (eval value).Named fits ↔ value.Named fits :=
  Iff.rfl

@[simp] theorem Stmt.named_throw {value : Expr} :
    (Stmt.throw value).Named fits ↔ value.Named fits :=
  Iff.rfl

@[simp] theorem Stmt.named_choose {test : Expr} {body : List Stmt}
    {alternate : Option (List Stmt)} :
    (choose test body alternate).Named fits ↔ test.Named fits ∧ (∀ stmt ∈ body, stmt.Named fits) ∧
      ∀ stmts ∈ alternate, ∀ stmt ∈ stmts, stmt.Named fits := by
  change (∀ occurrence ∈ test.names ++ allNames body ++ alternateNames alternate,
    fits occurrence) ↔ _
  rw [List.forall_mem_append, List.forall_mem_append, allNames_eq, List.forall_mem_flatMap,
    and_assoc]
  refine and_congr Iff.rfl (and_congr Iff.rfl ?_)
  cases alternate with
  | none => simp [alternateNames]
  | some stmts =>
    simp only [alternateNames, allNames_eq, List.forall_mem_flatMap, Option.mem_def,
      Option.some.injEq, forall_eq']
    rfl

end Parts

end NativeViews.Script
