import NativeViews.Proofs.Script.Evaluation

/-!
How a run goes from one part to the next: what leaves a module as it is, what an assignment and a
choice make of it, and what a last export may add to it.
-/

namespace NativeViews.Script

/-! ## Parts in a row -/

section Rows

variable {host : Host} {depth : Nat} {running later : Running}

theorem Program.run_cons (stmt : Stmt) (rest : Program) :
    Program.run host depth (stmt :: rest)
      = stmt.run host depth >>= fun _ => Program.run host depth rest :=
  List.forM_cons

theorem Program.run_singleton (stmt : Stmt) :
    Program.run host depth [stmt] = stmt.run host depth := by
  rw [run_cons]
  exact bind_pure (stmt.run host depth)

theorem Program.onward_cons_of_ok {stmt : Stmt}
    (done : (stmt.run host depth).onward running = (.ok (), later)) (rest : Program) :
    (Program.run host depth (stmt :: rest)).onward running
      = (Program.run host depth rest).onward later := by
  rw [run_cons, Run.onward_bind_of_ok done]

theorem Program.onward_cons_of_error {stmt : Stmt} {reason : Stop}
    (stopped : (stmt.run host depth).onward running = (.error reason, later)) (rest : Program) :
    (Program.run host depth (stmt :: rest)).onward running = (.error reason, later) := by
  rw [run_cons, Run.onward_bind_of_error stopped]

variable {call : Value → List Value → Run Value} {scope : Scope}

/-- Members come to the entries that the members before them have left. -/
theorem Member.onward_append_of_ok {first : List Member} {entries others : List (String × Value)}
    (given : (Member.evaluateAll host call scope first entries).onward running
      = (.ok others, later)) (second : List Member) :
    (Member.evaluateAll host call scope (first ++ second) entries).onward running
      = (Member.evaluateAll host call scope second others).onward later := by
  have joined : Member.evaluateAll host call scope (first ++ second) entries
      = Member.evaluateAll host call scope first entries >>=
          Member.evaluateAll host call scope second := by
    clear given
    induction first generalizing entries with
    | nil => rw [List.nil_append, evaluateAll, pure_bind]
    | cons member first ih =>
      rw [List.cons_append, evaluateAll, evaluateAll, bind_assoc]
      exact congrArg _ (funext fun others => ih)
  rw [joined, Run.onward_bind_of_ok given]

end Rows

/-! ## Names and calls -/

section Names

variable {scope : Scope} {name method : String} {path : List String} {running : Running}

/-- What is called on a value of the host is a value of the host, too. -/
theorem onward_follow_method (bindable : isBindable name) (identifier : isIdentifier method)
    (found : (lookUp scope name).onward running = (.ok (.foreign path), running)) :
    (follow scope (name ++ ("." ++ method))).onward running
      = (.ok (.foreign (path ++ [method])), running) := by
  have known : isIdentifier name := by
    rw [isBindable, Bool.and_eq_true] at bindable
    exact bindable.1
  have segmented : segments (name ++ ("." ++ method)) = [name, method] := by
    rw [segments_append known, segments_of_isIdentifier identifier]
  have spelled : (isBindable name && [method].all isIdentifier) = true := by
    rw [bindable, List.all_cons, identifier]
    rfl
  rw [follow, segmented]
  simp only [spelled, if_true]
  rw [Run.onward_bind_of_ok found]
  rfl

theorem onward_callHost_of_ok {host : Host} {call : Call} {value : Value}
    (answered : host.answer call = .ok value) (running : Running) :
    (callHost host call).onward running
      = (.ok value, { running with calls := running.calls ++ [call] }) := by
  rw [callHost, Run.onward_bind_of_ok (Run.onward_modify _), answered, Run.onward_pure]

theorem onward_callHost_of_error {host : Host} {call : Call} {thrown : Value}
    (refused : host.answer call = .error thrown) (running : Running) :
    (callHost host call).onward running
      = (.error (.thrown thrown), { running with calls := running.calls ++ [call] }) := by
  rw [callHost, Run.onward_bind_of_ok (Run.onward_modify _), refused, Run.onward_halt]

theorem Value.call_foreign (host : Host) (depth : Nat) (path : List String) (args : List Value) :
    Value.call host depth (.foreign path) args = callHost host ⟨.foreign path, args⟩ := by
  cases depth <;> rfl

/-- An expression that calls a function of the host with what its arguments stand for. -/
theorem onward_call {host : Host} {depth : Nat} {callee : String} {args : List Expr}
    {values : List Value}
    (called : (follow scope callee).onward running = (.ok (.foreign path), running))
    (given : (Expr.evaluateAll host (Value.call host depth) scope args).onward running
      = (.ok values, running)) :
    (Expr.evaluate host (Value.call host depth) scope (.call callee args)).onward running
      = (callHost host ⟨.foreign path, values⟩).onward running := by
  rw [Expr.evaluate, Run.onward_bind_of_ok called, Run.onward_bind_of_ok given,
    Value.call_foreign]

/-- An expression that makes a value of the host out of what its arguments stand for. -/
theorem onward_construct {host : Host} {call : Value → List Value → Run Value} {callee : String}
    {args : List Expr} {values : List Value}
    (called : (follow scope callee).onward running = (.ok (.foreign path), running))
    (given : (Expr.evaluateAll host call scope args).onward running = (.ok values, running)) :
    (Expr.evaluate host call scope (.construct callee args)).onward running
      = (.ok (.made (.foreign path) values), running) := by
  rw [Expr.evaluate, Run.onward_bind_of_ok called, Run.onward_bind_of_ok given, Run.onward_pure]

end Names

/-! ## Expressions that do nothing -/

section Still

variable (host : Host) (call : Value → List Value → Run Value) (scope : Scope)
  (running : Running)

/-- Whether an expression has a value and leaves the module as it is. -/
def Expr.Still (expr : Expr) : Prop :=
  ∃ value, (expr.evaluate host call scope).onward running = (.ok value, running)

/-- Whether a member comes to entries, whatever these are, and leaves the module as it is. -/
def Member.Still (member : Member) : Prop :=
  ∀ entries, ∃ others,
    (member.evaluate host call scope entries).onward running = (.ok others, running)

variable {host call scope running}

theorem Expr.still_bool (value : Bool) : (Expr.bool value).Still host call scope running :=
  ⟨.bool value, rfl⟩

theorem Expr.still_name {name : String} (bindable : isBindable name) {value : Value}
    (found : (lookUp scope name).onward running = (.ok value, running)) :
    (Expr.name name).Still host call scope running := by
  refine ⟨value, ?_⟩
  rw [evaluate, follow_name bindable, found]

theorem Member.still_property {key : String} {init : Expr}
    (still : init.Still host call scope running) :
    (Member.property key init).Still host call scope running := by
  intro entries
  obtain ⟨value, given⟩ := still
  refine ⟨if key = "__proto__" then entries else OrderedMap.putEntry key value entries, ?_⟩
  rw [evaluate, Run.onward_bind_of_ok given, Run.onward_pure]

theorem Member.exists_evaluateAll_of_still {members : List Member}
    (still : ∀ member ∈ members, member.Still host call scope running)
    (entries : List (String × Value)) :
    ∃ others, (Member.evaluateAll host call scope members entries).onward running
      = (.ok others, running) := by
  induction members generalizing entries with
  | nil => exact ⟨entries, rfl⟩
  | cons member members ih =>
    obtain ⟨first, rest⟩ := List.forall_mem_cons.mp still
    obtain ⟨others, here⟩ := first entries
    obtain ⟨last, later⟩ := ih rest others
    refine ⟨last, ?_⟩
    rw [evaluateAll, Run.onward_bind_of_ok here, later]

theorem Expr.still_object {members : List Member}
    (still : ∀ member ∈ members, member.Still host call scope running) :
    (Expr.object members).Still host call scope running := by
  obtain ⟨entries, given⟩ := Member.exists_evaluateAll_of_still still []
  exact ⟨.object entries, onward_object given⟩

end Still

/-! ## Statements -/

section Statements

variable {host : Host} {call : Value → List Value → Run Value} {scope : Scope}
  {running later : Running}

theorem onward_declare {name : String} {init : Expr} {depth : Nat} {value : Value}
    (given : (init.evaluate host (Value.call host depth) []).onward running = (.ok value, later))
    (bindable : isBindable name) (fresh : later.bindings.lookup name = none) :
    ((Stmt.declare name init).run host depth).onward running
      = (.ok (), { later with bindings := (name, ⟨value, false⟩) :: later.bindings }) := by
  rw [Stmt.run, Run.onward_bind_of_ok given, onward_bindName bindable fresh]

theorem onward_exportDefault_of_ok {init : Expr} {depth : Nat} {value : Value}
    (given : (init.evaluate host (Value.call host depth) []).onward running
      = (.ok value, later)) :
    ((Stmt.exportDefault init).run host depth).onward running
      = (.ok (), { later with defaultExport := some value }) := by
  rw [Stmt.run, Run.onward_bind_of_ok given, Run.onward_modify]

theorem onward_exportDefault_of_error {init : Expr} {depth : Nat} {reason : Stop}
    (stopped : (init.evaluate host (Value.call host depth) []).onward running
      = (.error reason, later)) :
    ((Stmt.exportDefault init).run host depth).onward running = (.error reason, later) := by
  rw [Stmt.run, Run.onward_bind_of_error stopped]

/-- A choice goes on with its block or with its alternate. -/
theorem onward_choose {test : Expr} {body : List Stmt} {alternate : Option (List Stmt)}
    {value : Value} (given : (test.evaluate host call scope).onward running = (.ok value, later)) :
    ((Stmt.choose test body alternate).perform host call scope).onward running
      = if host.isTruthy value then (Stmt.performAll host call scope body).onward later
        else (Stmt.performAlternate host call scope alternate).onward later := by
  rw [Stmt.perform, Run.onward_bind_of_ok given]
  split <;> rfl

/-- An assignment gives a binding another value. -/
theorem onward_assign {name : String} {init : Expr} {value old : Value}
    (given : (init.evaluate host call scope).onward running = (.ok value, later))
    (bindable : isBindable name) (clear : scope.lookup name = none)
    (bound : later.bindings.lookup name = some ⟨old, false⟩) :
    ((Stmt.assign name init).perform host call scope).onward running = (.ok (), { later with
      bindings := OrderedMap.putEntry name ⟨value, false⟩ later.bindings }) := by
  rw [Stmt.perform, Run.onward_bind_of_ok given, assignName, bindable, clear]
  simp only [Bool.not_true, Option.isSome_none, Bool.or_self, Bool.false_eq_true, if_false]
  rw [Run.onward_get_bind, bound]
  rfl

/-- What is thrown ends a run. -/
theorem onward_throw {init : Expr} {value : Value}
    (given : (init.evaluate host call scope).onward running = (.ok value, later)) :
    ((Stmt.throw init).perform host call scope).onward running
      = (.error (.thrown value), later) := by
  rw [Stmt.perform, Run.onward_bind_of_ok given, Run.onward_halt]

theorem onward_performAll_singleton (stmt : Stmt) :
    (Stmt.performAll host call scope [stmt]).onward running
      = (stmt.perform host call scope).onward running := by
  rw [Stmt.performAll, Stmt.performAll]
  exact congrArg (Run.onward · running) (bind_pure (stmt.perform host call scope))

end Statements

/-! ## Exports of methods -/

/-- Whether a module has gone on to nothing but more bindings and exports. -/
structure Running.Extends (before after : Running) : Prop where
  calls : after.calls = before.calls
  defaultExport : after.defaultExport = before.defaultExport
  exports : ∃ others, after.exports = before.exports ++ others
  bindings : ∀ name binding, before.bindings.lookup name = some binding →
    after.bindings.lookup name = some binding

theorem Running.Extends.refl (running : Running) : running.Extends running where
  calls := rfl
  defaultExport := rfl
  exports := ⟨[], (List.append_nil _).symm⟩
  bindings := fun _ _ bound => bound

theorem Running.extends_export {name : String} {running : Running}
    (fresh : running.bindings.lookup name = none) (value : Value) :
    running.Extends { running with
      bindings := (name, ⟨value, true⟩) :: running.bindings
      exports := running.exports ++ [(name, value)] } where
  calls := rfl
  defaultExport := rfl
  exports := ⟨[(name, value)], rfl⟩
  bindings := by
    intro other binding bound
    have different : other ≠ name := by
      rintro rfl
      rw [fresh] at bound
      exact nomatch bound
    rw [OrderedMap.lookup_entry_cons, if_neg different, bound]

/-- An export of what leaves the module as it is adds to the module, if it does anything. -/
theorem extends_exportConst {host : Host} {depth : Nat} {init : Expr} {running : Running}
    (still : ((init.evaluate host (Value.call host depth) []).onward running).2 = running)
    (name : String) :
    running.Extends (((Stmt.exportConst name init).run host depth).onward running).2 := by
  cases given : (init.evaluate host (Value.call host depth) []).onward running with
  | mk outcome later =>
    rw [given] at still
    obtain rfl : later = running := still
    cases outcome with
    | error reason =>
      rw [Stmt.run, Run.onward_bind_of_error given]
      exact .refl _
    | ok value =>
      by_cases allowed : isBindable name ∧ later.bindings.lookup name = none
      · obtain ⟨bindable, fresh⟩ := allowed
        rw [onward_exportConst given bindable fresh]
        exact Running.extends_export fresh value
      · have refused : (bindName name ⟨value, true⟩).onward later = (.error .beyond, later) := by
          rw [bindName, Run.onward_get_bind, if_neg (by simpa using allowed), Run.onward_halt]
        rw [Stmt.run, Run.onward_bind_of_ok given, Run.onward_bind_of_error refused]
        exact .refl _

/-- Methods are made or not, and nothing else comes of them. -/
theorem onward_methods (host : Host) (call : Value → List Value → Run Value) (scope : Scope)
    {members : List Member}
    (methods : ∀ member ∈ members, ∃ key params body, member = .method key params body)
    (entries : List (String × Value)) (running : Running) :
    ((Member.evaluateAll host call scope members entries).onward running).2 = running := by
  induction members generalizing entries with
  | nil => rfl
  | cons member members ih =>
    obtain ⟨first, rest⟩ := List.forall_mem_cons.mp methods
    obtain ⟨key, params, body, rfl⟩ := first
    rw [Member.evaluateAll, Member.evaluate, makeFunction]
    split
    · rw [pure_bind, pure_bind]
      exact ih rest _
    · rfl

end NativeViews.Script
