import Mathlib.Data.List.Forall2
import NativeViews.Proofs.OrderedMap
import NativeViews.Proofs.Script.Names

/-!
What scripts do when they run, as far as generated modules go: they make objects and functions,
bind and export them, and call what the host gave them. Every call of the host is recorded. A run
that leaves this part of the language stops as `beyond` it.
-/

namespace NativeViews.Script

/-- The names that a module may not bind or refer to by themselves. -/
def keywords : List String :=
  ["arguments", "await", "break", "case", "catch", "class", "const", "continue", "debugger",
    "default", "delete", "do", "else", "enum", "eval", "export", "extends", "false", "finally",
    "for", "function", "if", "implements", "import", "in", "instanceof", "interface", "let", "new",
    "null", "package", "private", "protected", "public", "return", "static", "super", "switch",
    "this", "throw", "true", "try", "typeof", "var", "void", "while", "with", "yield"]

/-- Whether a name may be bound. -/
def isBindable (name : String) : Bool :=
  isIdentifier name && !keywords.contains name

/-- What is run when a function is called. -/
inductive Code where
  /-- An expression, whose value the function gives. -/
  | result (value : Expr)
  | body (stmts : List Stmt)

/-- A value. -/
inductive Value where
  | undefined
  | bool (value : Bool)
  | text (value : String)
  | array (items : List Value)
  /-- An object of the script, by its own entries. -/
  | object (entries : List (String × Value))
  /-- A function of the script, with the parameters that are bound around it. -/
  | function (params : List String) (code : Code) (scope : List (String × Value))
  /-- What a constructor made of its arguments. -/
  | made (constructor : Value) (args : List Value)
  /-- A value of the host, by the names that lead to it. -/
  | foreign (path : List String)

/-- The parameters that are bound around an expression, the innermost first. -/
abbrev Scope := List (String × Value)

/-- A call of a function of the host. -/
structure Call where
  callee : Value
  args : List Value

/-- What the host makes of what a script does. -/
structure Host where
  /-- What comes of a call: a value, or what is thrown. -/
  answer : Call → Except Value Value
  /-- The own entries of a value that is no object of the script. -/
  entries : Value → List (String × Value)
  /-- Whether a value of the host counts as true. -/
  holds : List String → Bool

/-- Why a run stops before its end. -/
inductive Stop where
  | thrown (value : Value)
  | unbound (name : String)
  /-- An assignment to what is bound for good. -/
  | constant (name : String)
  /-- A call of what is no function. -/
  | uncallable (value : Value)
  /-- A property of what has none. -/
  | undefined
  /-- Too many calls inside each other. -/
  | tooDeep
  /-- What has no meaning here. -/
  | beyond

/-- A binding of a module. -/
structure Binding where
  value : Value
  isConstant : Bool

/-- A module that runs. -/
structure Running where
  bindings : List (String × Binding)
  exports : List (String × Value) := []
  defaultExport : Option Value := none
  /-- The calls of functions of the host, the first one first. -/
  calls : List Call := []

/-- A part of a run. What it did stays done where it stops. -/
abbrev Run := ExceptT Stop (StateM Running)

/-- Stops a run. -/
def halt {α : Type} (reason : Stop) : Run α :=
  throw reason

/-! ## Names and values -/

/-- The value of a name. A parameter hides what the module binds. -/
def lookUp (scope : Scope) (name : String) : Run Value :=
  match scope.lookup name with
  | some value => pure value
  | none => do
    match (← get).bindings.lookup name with
    | some binding => pure binding.value
    | none => halt (.unbound name)

/-- A property of a value. -/
def Value.property (value : Value) (key : String) : Run Value :=
  match value with
  | .undefined => halt .undefined
  | .foreign path => pure (.foreign (path ++ [key]))
  | .object entries =>
    match entries.lookup key with
    | some value => pure value
    | none => halt .beyond
  | _ => halt .beyond

/-- The value of a path. -/
def follow (scope : Scope) (path : String) : Run Value :=
  match segments path with
  | [] => halt .beyond
  | name :: rest =>
    if isBindable name && rest.all isIdentifier then do
      rest.foldlM Value.property (← lookUp scope name)
    else halt .beyond

/-- A function, if its parameters may be bound. -/
def makeFunction (scope : Scope) (params : List String) (code : Code) : Run Value :=
  if params.all isBindable then pure (.function params code scope) else halt .beyond

/-- The parameters of a call with their values. A later one hides an earlier one of its name, and
one without a value is undefined. -/
def bindParams : List String → List Value → Scope
  | [], _ => []
  | param :: params, [] => bindParams params [] ++ [(param, .undefined)]
  | param :: params, arg :: args => bindParams params args ++ [(param, arg)]

/-- Records a call of the host, and takes its answer. -/
def callHost (host : Host) (call : Call) : Run Value := do
  modify fun running => { running with calls := running.calls ++ [call] }
  match host.answer call with
  | .ok value => pure value
  | .error thrown => halt (.thrown thrown)

namespace Host

/-- The own entries of a value. -/
def own (host : Host) : Value → List (String × Value)
  | .object entries => entries
  | value => host.entries value

/-- Whether a value counts as true. -/
def isTruthy (host : Host) : Value → Bool
  | .undefined => false
  | .bool value => value
  | .text value => value ≠ ""
  | .foreign path => host.holds path
  | _ => true

end Host

/-! ## Expressions -/

section Expressions

variable (host : Host) (call : Value → List Value → Run Value) (scope : Scope)

mutual

/-- The value of an expression. `call` calls functions. -/
def Expr.evaluate : Expr → Run Value
  | .bool value => pure (.bool value)
  | .text value => pure (.text value)
  | .name path => follow scope path
  | .object members => do
    let entries ← Member.evaluateAll members []
    pure (.object entries)
  | .array items => do
    let values ← Expr.evaluateAll items
    pure (.array values)
  | .call callee args => do
    let callee ← follow scope callee
    let args ← Expr.evaluateAll args
    call callee args
  | .construct callee args => do
    let callee ← follow scope callee
    let args ← Expr.evaluateAll args
    match callee with
    | .foreign _ => pure (.made callee args)
    | _ => halt (.uncallable callee)
  | .arrow params body => makeFunction scope params (.result body)
termination_by structural expr => expr

/-- The values of expressions, from left to right. -/
def Expr.evaluateAll : List Expr → Run (List Value)
  | [] => pure []
  | expr :: rest => do
    let value ← expr.evaluate
    let values ← Expr.evaluateAll rest
    pure (value :: values)
termination_by structural exprs => exprs

/-- The entries of an object after a member. A later entry takes the place of an earlier one with
its key. What is written as the value of `__proto__` is no entry. -/
def Member.evaluate : Member → List (String × Value) → Run (List (String × Value))
  | .property key value, entries => do
    let value ← value.evaluate
    pure (if key = "__proto__" then entries else OrderedMap.putEntry key value entries)
  | .spread value, entries => do
    let value ← value.evaluate
    pure ((host.own value).foldl (fun entries (key, value) =>
      OrderedMap.putEntry key value entries) entries)
  | .method key params body, entries => do
    let function ← makeFunction scope params (.body body)
    pure (OrderedMap.putEntry key function entries)
termination_by structural member => member

/-- The entries of an object after members. -/
def Member.evaluateAll : List Member → List (String × Value) → Run (List (String × Value))
  | [], entries => pure entries
  | member :: rest, entries => do
    let entries ← member.evaluate entries
    Member.evaluateAll rest entries
termination_by structural members => members

end

end Expressions

/-! ## Statements -/

/-- Binds a name that is not bound yet. -/
def bindName (name : String) (binding : Binding) : Run Unit := do
  if isBindable name && ((← get).bindings.lookup name).isNone then
    modify fun running => { running with bindings := (name, binding) :: running.bindings }
  else halt .beyond

/-- Gives a binding of the module another value. -/
def assignName (scope : Scope) (name : String) (value : Value) : Run Unit := do
  if !isBindable name || (scope.lookup name).isSome then halt .beyond
  else
    match (← get).bindings.lookup name with
    | none => halt (.unbound name)
    | some binding =>
      if binding.isConstant then halt (.constant name)
      else modify fun running =>
        { running with bindings := OrderedMap.putEntry name ⟨value, false⟩ running.bindings }

section Statements

variable (host : Host) (call : Value → List Value → Run Value)

mutual

/-- Runs a statement inside a function or a block. -/
def Stmt.perform (scope : Scope) : Stmt → Run Unit
  | .declare .. | .exportConst .. | .exportDefault .. => halt .beyond
  | .assign target value => do
    let value ← value.evaluate host call scope
    assignName scope target value
  | .eval value => do
    let _ ← value.evaluate host call scope
    pure ()
  | .throw value => do
    let value ← value.evaluate host call scope
    halt (.thrown value)
  | .choose test body alternate => do
    let value ← test.evaluate host call scope
    if host.isTruthy value then Stmt.performAll scope body
    else Stmt.performAlternate scope alternate
termination_by structural stmt => stmt

/-- Runs statements inside a function or a block. -/
def Stmt.performAll (scope : Scope) : List Stmt → Run Unit
  | [] => pure ()
  | stmt :: rest => do
    stmt.perform scope
    Stmt.performAll scope rest
termination_by structural stmts => stmts

/-- Runs an alternate. -/
def Stmt.performAlternate (scope : Scope) : Option (List Stmt) → Run Unit
  | none => pure ()
  | some stmts => Stmt.performAll scope stmts
termination_by structural alternate => alternate

end

end Statements

/-- Calls a value. At most `depth` calls of functions of the script may be inside each other. -/
def Value.call (host : Host) : Nat → Value → List Value → Run Value
  | _, .foreign path, args => callHost host ⟨.foreign path, args⟩
  | 0, .function .., _ => halt .tooDeep
  | depth + 1, .function params code scope, args =>
    let scope := bindParams params args ++ scope
    match code with
    | .result value => value.evaluate host (Value.call host depth) scope
    | .body stmts => do
      Stmt.performAll host (Value.call host depth) scope stmts
      pure .undefined
  | _, value, _ => halt (.uncallable value)

/-- Runs a statement of a module. -/
def Stmt.run (host : Host) (depth : Nat) : Stmt → Run Unit
  | .declare name init => do
    let value ← init.evaluate host (Value.call host depth) []
    bindName name ⟨value, false⟩
  | .exportConst name init => do
    let value ← init.evaluate host (Value.call host depth) []
    bindName name ⟨value, true⟩
    modify fun running => { running with exports := running.exports ++ [(name, value)] }
  | .exportDefault value => do
    let value ← value.evaluate host (Value.call host depth) []
    modify fun running => { running with defaultExport := some value }
  | stmt => stmt.perform host (Value.call host depth) []

/-- Runs a module. -/
def Program.run (host : Host) (depth : Nat) (program : Program) : Run Unit :=
  program.forM (Stmt.run host depth)

/-! ## What comes of runs -/

/-- What a part of a run gives, and the module after it. -/
def Run.onward {α : Type} (part : Run α) (running : Running) : Except Stop α × Running :=
  part.run.run running

namespace Run

variable {α β : Type} {part : Run α} {running later : Running}

@[simp] theorem onward_pure (value : α) :
    (pure value : Run α).onward running = (.ok value, running) :=
  rfl

@[simp] theorem onward_halt (reason : Stop) :
    (halt reason : Run α).onward running = (.error reason, running) :=
  rfl

@[simp] theorem onward_modify (change : Running → Running) :
    (modify change : Run Unit).onward running = (.ok (), change running) :=
  rfl

@[simp] theorem onward_get_bind (next : Running → Run α) :
    ((get : Run Running) >>= next).onward running = (next running).onward running :=
  rfl

theorem onward_bind_of_ok {value : α} (given : part.onward running = (.ok value, later))
    (next : α → Run β) : (part >>= next).onward running = (next value).onward later := by
  rw [onward] at given
  rw [onward, ExceptT.run_bind, StateT.run_bind, given]
  rfl

theorem onward_bind_of_error {reason : Stop}
    (stopped : part.onward running = (.error reason, later)) (next : α → Run β) :
    (part >>= next).onward running = (.error reason, later) := by
  rw [onward] at stopped
  rw [onward, ExceptT.run_bind, StateT.run_bind, stopped]
  rfl

/-- What is made of the value of a run does not change what it did. -/
theorem onward_bind_pure (part : Run α) (next : α → β) (running : Running) :
    ((part >>= fun value => pure (next value)).onward running).2
      = (part.onward running).2 := by
  obtain ⟨outcome, later, same⟩ : ∃ outcome later, part.onward running = (outcome, later) :=
    ⟨_, _, rfl⟩
  cases outcome with
  | ok value => rw [onward_bind_of_ok same, onward_pure, same]
  | error reason => rw [onward_bind_of_error same, same]

end Run

/-- What is undefined cannot be called. -/
theorem Value.call_undefined (host : Host) (depth : Nat) (args : List Value) :
    Value.call host depth .undefined args = halt (.uncallable .undefined) := by
  cases depth <;> rfl

/-- A call of the host is recorded, whatever the host makes of it. -/
theorem onward_callHost (host : Host) (call : Call) (running : Running) :
    ((callHost host call).onward running).2
      = { running with calls := running.calls ++ [call] } := by
  rw [callHost, Run.onward_bind_of_ok (Run.onward_modify _)]
  cases host.answer call <;> rfl

/-! ### Names -/

section Names

variable {scope : Scope} {name : String} {running : Running}

theorem onward_lookUp_param {value : Value} (found : scope.lookup name = some value)
    (running : Running) :
    (lookUp scope name).onward running = (.ok value, running) := by
  rw [lookUp, found, Run.onward_pure]

theorem onward_lookUp_binding {binding : Binding} (clear : scope.lookup name = none)
    (bound : running.bindings.lookup name = some binding) :
    (lookUp scope name).onward running = (.ok binding.value, running) := by
  rw [lookUp, clear, Run.onward_get_bind, bound, Run.onward_pure]

/-- A name by itself is looked up. -/
theorem follow_name (bindable : isBindable name) (scope : Scope) :
    follow scope name = lookUp scope name := by
  have identifier : isIdentifier name := by
    rw [isBindable, Bool.and_eq_true] at bindable
    exact bindable.1
  rw [follow, segments_of_isIdentifier identifier]
  simp [bindable]

/-- Expressions that give values give them together. -/
theorem onward_evaluateAll {host : Host} {call : Value → List Value → Run Value}
    {exprs : List Expr} {values : List Value}
    (given : List.Forall₂ (fun expr value =>
      (Expr.evaluate host call scope expr).onward running = (.ok value, running)) exprs values) :
    (Expr.evaluateAll host call scope exprs).onward running = (.ok values, running) := by
  induction given with
  | nil => rfl
  | cons here _ ih =>
    rw [Expr.evaluateAll, Run.onward_bind_of_ok here, Run.onward_bind_of_ok ih, Run.onward_pure]

theorem onward_name (bindable : isBindable name) {value : Value}
    (found : scope.lookup name = some value) (host : Host)
    (call : Value → List Value → Run Value) :
    (Expr.evaluate host call scope (.name name)).onward running = (.ok value, running) := by
  rw [Expr.evaluate, follow_name bindable, onward_lookUp_param found]

/-- The names of values give the values. -/
theorem onward_names {names : List String} {values : List Value}
    (bindable : ∀ name ∈ names, isBindable name)
    (found : List.Forall₂ (fun name value => scope.lookup name = some value) names values)
    (host : Host) (call : Value → List Value → Run Value) (running : Running) :
    (Expr.evaluateAll host call scope (names.map .name)).onward running
      = (.ok values, running) := by
  refine onward_evaluateAll (List.forall₂_map_left_iff.mpr ?_)
  exact ((List.forall₂_and_left ..).mpr ⟨bindable, found⟩).imp fun name value fits =>
    onward_name fits.1 fits.2 host call

end Names

/-! ### Objects -/

section Objects

variable {host : Host} {call : Value → List Value → Run Value} {scope : Scope}
  {running later : Running}

/-- A property is put among the entries. -/
theorem onward_property {key : String} {init : Expr} {value : Value} (proper : key ≠ "__proto__")
    (given : (init.evaluate host call scope).onward running = (.ok value, later))
    (entries : List (String × Value)) :
    (Member.evaluate host call scope (.property key init) entries).onward running
      = (.ok (OrderedMap.putEntry key value entries), later) := by
  rw [Member.evaluate, Run.onward_bind_of_ok given, if_neg proper, Run.onward_pure]

theorem onward_object {members : List Member} {entries : List (String × Value)}
    (given : (Member.evaluateAll host call scope members []).onward running
      = (.ok entries, later)) :
    (Expr.evaluate host call scope (.object members)).onward running
      = (.ok (.object entries), later) := by
  rw [Expr.evaluate, Run.onward_bind_of_ok given, Run.onward_pure]

end Objects

/-- A new name is bound. -/
theorem onward_bindName {name : String} {running : Running} (bindable : isBindable name)
    (fresh : running.bindings.lookup name = none) (binding : Binding) :
    (bindName name binding).onward running
      = (.ok (), { running with bindings := (name, binding) :: running.bindings }) := by
  rw [bindName, Run.onward_get_bind, bindable, fresh]
  rfl

/-- What is exported is bound for good. -/
theorem onward_exportConst {name : String} {init : Expr} {host : Host} {depth : Nat}
    {value : Value} {running later : Running}
    (given : (init.evaluate host (Value.call host depth) []).onward running = (.ok value, later))
    (bindable : isBindable name) (fresh : later.bindings.lookup name = none) :
    ((Stmt.exportConst name init).run host depth).onward running = (.ok (), { later with
      bindings := (name, ⟨value, true⟩) :: later.bindings
      exports := later.exports ++ [(name, value)] }) := by
  rw [Stmt.run, Run.onward_bind_of_ok given,
    Run.onward_bind_of_ok (onward_bindName bindable fresh _), Run.onward_modify]

/-! ### Parameters -/

/-- What is no parameter is found around a function. -/
theorem lookup_bindParams_of_not_mem {params : List String} {name : String}
    (other : name ∉ params) (args : List Value) (scope : Scope) :
    (bindParams params args ++ scope).lookup name = scope.lookup name := by
  induction params generalizing args scope with
  | nil => rfl
  | cons param params ih =>
    obtain ⟨here, later⟩ := not_or.mp (mt List.mem_cons.mpr other)
    cases args with
    | nil => rw [bindParams, List.append_assoc, ih later, List.singleton_append,
        OrderedMap.lookup_entry_cons, if_neg here]
    | cons arg args => rw [bindParams, List.append_assoc, ih later, List.singleton_append,
        OrderedMap.lookup_entry_cons, if_neg here]

/-- Distinct parameters have the values that they are called with. -/
theorem lookup_bindParams {params : List String} {args : List Value} (distinct : params.Nodup)
    (all : args.length = params.length) (scope : Scope) :
    List.Forall₂ (fun param arg => (bindParams params args ++ scope).lookup param = some arg)
      params args := by
  induction params generalizing args scope with
  | nil =>
    obtain rfl := List.length_eq_zero_iff.mp all
    exact .nil
  | cons param params ih =>
    obtain ⟨fresh, distinct⟩ := List.nodup_cons.mp distinct
    cases args with
    | nil => exact absurd all (by simp)
    | cons arg args =>
      rw [bindParams, List.append_assoc]
      refine .cons ?_ (ih distinct (by simpa using all) _)
      rw [lookup_bindParams_of_not_mem fresh, List.singleton_append,
        OrderedMap.lookup_entry_cons, if_pos rfl]

end NativeViews.Script
