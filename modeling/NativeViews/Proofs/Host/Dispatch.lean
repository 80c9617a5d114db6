import NativeViews.Proofs.Host.Content
import NativeViews.Proofs.Script.Evaluation

/-!
What dispatchers do when they are called. They pass their arguments on, unless a parameter of the
command hides the view or the function that sends commands.
-/

namespace NativeViews

open Script (Expr Member Stmt Value Scope Host Run Running Binding isBindable)

namespace Command

/-- What a dispatcher does. -/
def dispatch (command : Command) : Stmt :=
  .eval (.call Import.dispatchCommand.binding [
    .name targetParam, .text command.name, .array (command.params.map Expr.name)])

/-- The dispatcher of a command once it is made. -/
def dispatchFunction (command : Command) : Value :=
  .function (targetParam :: command.params) (.body [command.dispatch]) []

theorem dispatcher_eq (command : Command) :
    command.dispatcher = .method command.name (targetParam :: command.params) [command.dispatch] :=
  rfl

/-- Whether the parameters of a command are distinct names that may be bound. -/
def Bindable (command : Command) : Prop :=
  command.params.Nodup ∧ ∀ param ∈ command.params, isBindable param

/-- Whether a function does for a command what its dispatcher is for. Called with a view and an
argument for each parameter, it calls the function of the host at `path` with the view, the name of
the command and the list of the arguments, and does nothing else. -/
def SentBy (command : Command) (host : Host) (path : List String) (function : Value) : Prop :=
  ∀ (depth : Nat) (running : Running) (view : Value) (args : List Value),
    running.bindings.lookup Import.dispatchCommand.binding = some ⟨.foreign path, true⟩ →
    args.length = command.params.length →
    ((function.call host (depth + 1) (view :: args)).onward running).2
      = { running with
          calls := running.calls ++ [⟨.foreign path, [view, .text command.name, .array args]⟩] }

end Command

theorem isBindable_targetParam : isBindable targetParam := by
  simp [targetParam, isBindable, Script.isIdentifier, Script.keywords]

theorem isBindable_dispatchersName : isBindable dispatchersName := by
  simp [dispatchersName, isBindable, Script.isIdentifier, Script.keywords]

theorem isBindable_dispatchCommand : isBindable Import.dispatchCommand.binding := by
  simp [Import.binding, isBindable, Script.isIdentifier, Script.keywords]

/-- A host whose functions give nothing. -/
def Script.Host.silent : Host where
  answer _ := .ok .undefined
  entries _ := []
  holds _ := false

/-- A module that has bound what it imports. -/
def Script.Running.importing (needed : List Import) : Running :=
  { bindings := needed.map fun needed => (needed.binding, ⟨.foreign [needed.binding], true⟩) }

/-! ## Making dispatchers -/

section Making

variable (host : Host) (call : Value → List Value → Run Value)

theorem onward_dispatcher {command : Command} (bindable : command.Bindable)
    (entries : List (String × Value)) (running : Running) :
    (Member.evaluate host call [] command.dispatcher entries).onward running
      = (.ok (OrderedMap.putEntry command.name command.dispatchFunction entries), running) := by
  have all : (targetParam :: command.params).all isBindable := by
    rw [List.all_cons, isBindable_targetParam, Bool.true_and, List.all_eq_true]
    exact bindable.2
  have made : Script.makeFunction [] (targetParam :: command.params) (.body [command.dispatch])
      = pure command.dispatchFunction := by
    rw [Script.makeFunction, if_pos all]
    rfl
  rw [Command.dispatcher_eq, Member.evaluate, made,
    Run.onward_bind_of_ok (Run.onward_pure _), Run.onward_pure]

/-- Dispatchers become the entries of an object, by the names of their commands. -/
theorem onward_dispatchers {commands : List Command} (entries : List (String × Value))
    (distinct : (entries.map Prod.fst ++ commands.map Command.name).Nodup)
    (bindable : ∀ command ∈ commands, command.Bindable) (running : Running) :
    (Member.evaluateAll host call [] (commands.map Command.dispatcher) entries).onward running
      = (.ok (entries ++ commands.map fun command => (command.name, command.dispatchFunction)),
        running) := by
  induction commands generalizing entries with
  | nil => simp [Member.evaluateAll]
  | cons command commands ih =>
    obtain ⟨first, others⟩ := List.forall_mem_cons.mp bindable
    have fresh : command.name ∉ entries.map Prod.fst := fun member =>
      (List.nodup_append.mp distinct).2.2 _ member command.name (by simp) rfl
    have later := ih (entries ++ [(command.name, command.dispatchFunction)])
      (by simpa using distinct) others
    rw [List.map_cons, Member.evaluateAll,
      Run.onward_bind_of_ok (onward_dispatcher host call first entries running),
      OrderedMap.putEntry_of_fresh fresh, later, List.append_assoc, List.singleton_append,
      List.map_cons]

end Making

/-! ## Calling dispatchers -/

section Calling

variable {command : Command} {host : Host} {running : Running} {scope : Scope}
  {callee target view : Value} {args : List Value}

/-- What a dispatcher does is to call what its callee stands for, with what its parameters stand
for. -/
theorem onward_dispatch (bindable : ∀ param ∈ command.params, isBindable param)
    (called : (Script.lookUp scope Import.dispatchCommand.binding).onward running
      = (.ok callee, running))
    (passed : scope.lookup targetParam = some target)
    (listed : List.Forall₂ (fun param arg => scope.lookup param = some arg) command.params args)
    (call : Value → List Value → Run Value) :
    ((command.dispatch.perform host call scope).onward running).2
      = ((call callee [target, .text command.name, .array args]).onward running).2 := by
  have list : (Expr.evaluate host call scope (.array (command.params.map .name))).onward running
      = (.ok (.array args), running) := by
    have values := Script.onward_names bindable listed host call running
    rw [Expr.evaluate, Run.onward_bind_of_ok values, Run.onward_pure]
  have given : (Expr.evaluateAll host call scope [
      .name targetParam, .text command.name, .array (command.params.map .name)]).onward running
      = (.ok [target, .text command.name, .array args], running) :=
    Script.onward_evaluateAll (.cons (Script.onward_name isBindable_targetParam passed host call)
      (.cons (Run.onward_pure _) (.cons list .nil)))
  rw [Command.dispatch, Stmt.perform, Run.onward_bind_pure, Expr.evaluate,
    Script.follow_name isBindable_dispatchCommand, Run.onward_bind_of_ok called,
    Run.onward_bind_of_ok given]

/-- The parameters of a dispatcher are bound around what it does, those of the command inside. -/
theorem onward_dispatchFunction (command : Command) (host : Host) (depth : Nat) (view : Value)
    (args : List Value) (running : Running) :
    ((command.dispatchFunction.call host (depth + 1) (view :: args)).onward running).2
      = ((command.dispatch.perform host (Value.call host depth)
          (Script.bindParams command.params args ++ [(targetParam, view)])).onward running).2 := by
  have scope : Script.bindParams (targetParam :: command.params) (view :: args) ++ []
      = Script.bindParams command.params args ++ [(targetParam, view)] :=
    List.append_nil _
  rw [Command.dispatchFunction, Value.call]
  simp only [scope]
  rw [Run.onward_bind_pure, Script.Stmt.performAll]
  exact Run.onward_bind_pure _ _ _

theorem lookUp_dispatchCommand (clear : Import.dispatchCommand.binding ∉ command.params)
    {path : List String}
    (imported : running.bindings.lookup Import.dispatchCommand.binding
      = some ⟨.foreign path, true⟩) (args : List Value) (view : Value) :
    (Script.lookUp (Script.bindParams command.params args ++ [(targetParam, view)])
      Import.dispatchCommand.binding).onward running = (.ok (.foreign path), running) := by
  have other : Import.dispatchCommand.binding ≠ targetParam := by
    simp [Import.binding, targetParam]
  refine Script.onward_lookUp_binding ?_ imported
  rw [Script.lookup_bindParams_of_not_mem clear, OrderedMap.lookup_entry_cons, if_neg other,
    List.lookup_nil]

theorem sentBy_of_clear (bindable : command.Bindable) (view : targetParam ∉ command.params)
    (sends : Import.dispatchCommand.binding ∉ command.params) (host : Host) (path : List String) :
    command.SentBy host path command.dispatchFunction := by
  intro depth running target args imported all
  have called := lookUp_dispatchCommand sends imported args target
  have passed : (Script.bindParams command.params args ++ [(targetParam, target)]).lookup
      targetParam = some target := by
    rw [Script.lookup_bindParams_of_not_mem view, OrderedMap.lookup_entry_cons, if_pos rfl]
  rw [onward_dispatchFunction, onward_dispatch bindable.2 called passed
    (Script.lookup_bindParams bindable.1 all _), Value.call, Script.onward_callHost]

/-- Called with undefined arguments, a dispatcher takes none of its parameters for the view or for
a function. -/
theorem clear_of_sentBy (bindable : command.Bindable) {path : List String}
    (sent : command.SentBy host path command.dispatchFunction) :
    targetParam ∉ command.params ∧ Import.dispatchCommand.binding ∉ command.params := by
  let args : List Value := command.params.map fun _ => .undefined
  let scope : Scope := Script.bindParams command.params args ++ [(targetParam, .bool true)]
  let running : Running :=
    { bindings := [(Import.dispatchCommand.binding, ⟨.foreign path, true⟩)] }
  have listed : List.Forall₂ (fun param arg => scope.lookup param = some arg)
      command.params args :=
    Script.lookup_bindParams bindable.1 (by simp [args]) _
  have hidden : ∀ param ∈ command.params, scope.lookup param = some .undefined :=
    List.forall₂_same.mp (List.forall₂_map_right_iff.mp listed)
  have recorded : ((command.dispatch.perform host (Value.call host 0) scope).onward running).2
      = { running with calls := running.calls
          ++ [⟨.foreign path, [.bool true, .text command.name, .array args]⟩] } := by
    rw [← sent 0 running (.bool true) args List.lookup_cons_self (by simp [args]),
      onward_dispatchFunction]
  have target : ∃ target, scope.lookup targetParam = some target ∧
      (targetParam ∈ command.params → target = .undefined) := by
    by_cases member : targetParam ∈ command.params
    · exact ⟨.undefined, hidden _ member, fun _ => rfl⟩
    · refine ⟨.bool true, ?_, fun inside => absurd inside member⟩
      rw [Script.lookup_bindParams_of_not_mem member, OrderedMap.lookup_entry_cons, if_pos rfl]
  obtain ⟨target, passed, same⟩ := target
  have sends : Import.dispatchCommand.binding ∉ command.params := by
    intro member
    have called := Script.onward_lookUp_param (hidden _ member) running
    rw [onward_dispatch bindable.2 called passed listed, Value.call_undefined,
      Run.onward_halt] at recorded
    simpa [running] using congrArg Running.calls recorded
  refine ⟨fun member => ?_, sends⟩
  have imported : running.bindings.lookup Import.dispatchCommand.binding
      = some ⟨.foreign path, true⟩ :=
    List.lookup_cons_self
  have called := lookUp_dispatchCommand sends imported args (.bool true)
  rw [onward_dispatch bindable.2 called passed listed, Value.call, Script.onward_callHost,
    same member] at recorded
  simpa using congrArg Running.calls recorded

/-- Dispatchers send commands as long as no parameter hides the view or the function that sends.
The dispatchers of commands with distinct names are exported as one object, which has them under
these names. Each of them does what it is for exactly if its command has no parameter with the name
of the view, and none with that of the function. -/
theorem sentBy_exportDispatchers {commands : List Command} {command : Command}
    (distinct : (commands.map Command.name).Nodup)
    (bindable : ∀ command ∈ commands, command.Bindable) (member : command ∈ commands)
    (host : Host) (depth : Nat) {running : Running}
    (fresh : running.bindings.lookup dispatchersName = none) :
    ∃ stmt entries dispatcher,
      (exportDispatchers commands).outcome = .ok (some stmt) ∧
      Import.dispatchCommand ∈ (exportDispatchers commands).needs ∧
      (stmt.run host depth).onward running = (.ok (), { running with
        bindings := (dispatchersName, ⟨.object entries, true⟩) :: running.bindings
        exports := running.exports ++ [(dispatchersName, .object entries)] }) ∧
      entries.map Prod.fst = commands.map Command.name ∧
      entries.lookup command.name = some dispatcher ∧
      ∀ path, command.SentBy host path dispatcher ↔
        targetParam ∉ command.params ∧ Import.dispatchCommand.binding ∉ command.params := by
  let entries := commands.map fun command => (command.name, command.dispatchFunction)
  have some : ¬ commands.isEmpty := by
    rw [List.isEmpty_iff]
    exact List.ne_nil_of_mem member
  have names : entries.map Prod.fst = commands.map Command.name := by
    simp [entries, Function.comp_def]
  have listed := onward_dispatchers host (Value.call host depth) [] distinct bindable running
  have object : (Expr.evaluate host (Value.call host depth) []
      (.object (commands.map Command.dispatcher))).onward running
      = (.ok (.object entries), running) := by
    rw [Expr.evaluate, Run.onward_bind_of_ok listed, Run.onward_pure, List.nil_append]
  refine ⟨.exportConst dispatchersName (.object (commands.map Command.dispatcher)), entries,
    command.dispatchFunction, ?built, ?needed, ?exported, names, ?found, fun path => ⟨?_, ?_⟩⟩
  case built => rw [outcome_exportDispatchers, if_neg some]
  case needed => rw [needs_exportDispatchers, if_neg (by simpa using some)]; simp
  case exported => exact Script.onward_exportConst object isBindable_dispatchersName fresh
  case found =>
    exact OrderedMap.lookup_of_mem (names ▸ distinct) (List.mem_map.mpr ⟨command, member, rfl⟩)
  · exact clear_of_sentBy (bindable command member)
  · rintro ⟨view, sends⟩
    exact sentBy_of_clear (bindable command member) view sends host path

end Calling

theorem sentBy_exportDispatchers_focus :
    ∃ (commands : List Command) (stmt : Stmt) (entries : List (String × Value)),
      commands = [⟨"focus", []⟩, ⟨"scroll", ["x", "y", "animated"]⟩, ⟨"pick", ["index", "x"]⟩] ∧
      (exportDispatchers commands).outcome = .ok (some stmt) ∧
      ((stmt.run .silent 0).onward (.importing [.dispatchCommand])).2.exports
        = [(dispatchersName, .object entries)] ∧
      entries.map Prod.fst = ["focus", "scroll", "pick"] ∧
      ∃ dispatcher, entries.lookup "scroll" = some dispatcher ∧
        Command.SentBy ⟨"scroll", ["x", "y", "animated"]⟩ .silent [Import.dispatchCommand.binding]
          dispatcher := by
  let scroll : Command := ⟨"scroll", ["x", "y", "animated"]⟩
  let commands : List Command := [⟨"focus", []⟩, scroll, ⟨"pick", ["index", "x"]⟩]
  have bindable : ∀ command ∈ commands, command.Bindable := by
    simp [commands, scroll, Command.Bindable, isBindable, Script.isIdentifier, Script.keywords]
  have member : scroll ∈ commands := by simp [commands]
  obtain ⟨stmt, entries, dispatcher, built, _, exported, names, found, sent⟩ :=
    sentBy_exportDispatchers (by simp [commands, scroll]) bindable member .silent 0
      (show (Running.importing [.dispatchCommand]).bindings.lookup dispatchersName = none from rfl)
  refine ⟨commands, stmt, entries, rfl, built, ?_, names, dispatcher, found, (sent _).mpr ?_⟩
  · rw [exported]
    rfl
  · simp [scroll, targetParam, Import.binding]

/-- A parameter with the name of the view hides it: what is sent goes to the argument. -/
theorem not_sentBy_ref :
    ∃ (command : Command) (stmt : Stmt) (dispatcher : Value),
      command.Bindable ∧
      (exportDispatchers [command]).outcome = .ok (some stmt) ∧
      ((stmt.run .silent 0).onward (.importing [.dispatchCommand])).2.exports
        = [(dispatchersName, .object [(command.name, dispatcher)])] ∧
      ((dispatcher.call .silent 1 [.text "view", .text "there"]).onward
          (.importing [.dispatchCommand])).2.calls
        = [⟨.foreign [Import.dispatchCommand.binding],
          [.text "there", .text command.name, .array [.text "there"]]⟩] ∧
      ¬ command.SentBy .silent [Import.dispatchCommand.binding] dispatcher := by
  let command : Command := ⟨"go", ["ref"]⟩
  have calls : ((command.dispatchFunction.call .silent 1 [.text "view", .text "there"]).onward
      (.importing [.dispatchCommand])).2.calls = [⟨.foreign [Import.dispatchCommand.binding],
        [.text "there", .text command.name, .array [.text "there"]]⟩] := rfl
  refine ⟨command, _, command.dispatchFunction, ?_, rfl, by with_unfolding_all rfl, calls,
    fun sent => ?_⟩
  · simp [command, Command.Bindable, isBindable, Script.isIdentifier, Script.keywords]
  · have recorded := congrArg Running.calls
      (sent 0 (.importing [.dispatchCommand]) (.text "view") [.text "there"] rfl rfl)
    rw [calls] at recorded
    simp [Script.Running.importing] at recorded

end NativeViews
